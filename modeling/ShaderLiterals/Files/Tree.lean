/-!
# Trees of files

A tree lists what stands where.  Only what stands in a directory can be reached, so an entry below
a file, a link or nothing does not count, and of two entries for one place the first does.
-/

namespace ShaderLiterals.Files

/-- The names on the way from the root. -/
abbrev Location := List String

/-- What a device file stands for. -/
inductive Device where
  /-- Takes everything and gives nothing. -/
  | null
  /-- Takes everything and gives null bytes without end. -/
  | zero
  /-- Takes nothing. -/
  | full
  | terminal
  /-- The stream that whoever opens the file has under a number. -/
  | stream (number : Nat)
deriving DecidableEq, Repr

inductive Node where
  /-- A regular file; its content is kept under a number, which several names may share. -/
  | file (id : Nat)
  | directory
  | link (target : String)
  | device (device : Device)
  /-- A pipe with a name; what was written to it and not read is kept under a number. -/
  | pipe (id : Nat)
deriving DecidableEq, Repr

structure Tree where
  entries : List (Location × Node)
deriving DecidableEq, Repr

namespace Tree

def empty : Tree := ⟨[]⟩

/-- What stands at the end of some names, seen from the node at `here`. -/
def descend (tree : Tree) (here : Location) : Node → Location → Option Node
  | node, [] => some node
  | .directory, name :: rest =>
      match tree.entries.lookup (here ++ [name]) with
      | none => none
      | some node => descend tree (here ++ [name]) node rest
  | _, _ :: _ => none

/-- What stands at a location.  The root is a directory. -/
def get? (tree : Tree) (location : Location) : Option Node :=
  tree.descend [] .directory location

@[simp] theorem get?_root (tree : Tree) : tree.get? [] = some .directory := rfl

theorem descend_concat (tree : Tree) (here : Location) (node : Node) (location : Location)
    (name : String) :
    tree.descend here node (location ++ [name]) =
      match tree.descend here node location with
      | some .directory => tree.entries.lookup (here ++ location ++ [name])
      | _ => none := by
  induction location generalizing here node with
  | nil =>
      cases node with
      | directory =>
          simp only [List.nil_append, descend, List.append_nil]
          cases tree.entries.lookup (here ++ [name]) <;> rfl
      | file | link | device | pipe => rfl
  | cons first rest ih =>
      cases node with
      | directory =>
          simp only [List.cons_append, descend]
          cases tree.entries.lookup (here ++ [first]) with
          | none => rfl
          | some node => simpa using ih (here ++ [first]) node
      | file | link | device | pipe => rfl

/-- A name below a location leads somewhere only if a directory stands there. -/
theorem get?_concat (tree : Tree) (location : Location) (name : String) :
    tree.get? (location ++ [name]) =
      match tree.get? location with
      | some .directory => tree.entries.lookup (location ++ [name])
      | _ => none := by
  simpa [get?] using tree.descend_concat [] .directory location name

theorem get?_eq_directory_of_concat {tree : Tree} {location : Location} {name : String}
    {node : Node} (h : tree.get? (location ++ [name]) = some node) :
    tree.get? location = some .directory := by
  rw [get?_concat] at h
  split at h
  · assumption
  · cases h

/-- Whatever stands anywhere but at the root is listed. -/
theorem mem_map_fst_of_get?_concat {tree : Tree} {location : Location} {name : String}
    {node : Node} (h : tree.get? (location ++ [name]) = some node) :
    location ++ [name] ∈ tree.entries.map Prod.fst := by
  have hd := get?_eq_directory_of_concat h
  rw [get?_concat, hd] at h
  obtain ⟨l₁, l₂, heq, -⟩ := List.lookup_eq_some_iff.1 h
  simp [heq]

/-- Puts a node at a location, in place of what stood there. -/
def insert (tree : Tree) (location : Location) (node : Node) : Tree :=
  ⟨(location, node) :: tree.entries.filter (·.1 != location)⟩

/-- Takes away what stands at a location. -/
def erase (tree : Tree) (location : Location) : Tree :=
  ⟨tree.entries.filter (·.1 != location)⟩

/-- Takes away what stands at a location and below it. -/
def eraseAll (tree : Tree) (location : Location) : Tree :=
  ⟨tree.entries.filter fun e => !location.isPrefixOf e.1⟩

/-- Moves what stands at a location, and below it, to another one. -/
def move (tree : Tree) (source target : Location) : Tree :=
  ⟨(tree.eraseAll target).entries.map fun e =>
    match source.isPrefixOf? e.1 with
    | some rest => (target ++ rest, e.2)
    | none => e⟩

end Tree

end ShaderLiterals.Files
