import ShaderLiterals.Files.Fault
import ShaderLiterals.Files.Path
import ShaderLiterals.Files.Tree
import ShaderLiterals.Text.Quoted

/-!
# Walking a directory

A walk goes depth first: a directory comes before what stands in it, and the names in one directory
come in their order, character by character, which is also the order of their bytes.  Links are
visited and not followed.  Nothing stands deeper than the longest location that is listed, so a walk
to that depth misses nothing.  Each directory is read under a path of its own, and the first one that
cannot be read ends the walk.
-/

namespace ShaderLiterals.Files

namespace Tree

/-- The names of what stands in a directory. -/
def namesIn (tree : Tree) (directory : Location) : List String :=
  (tree.entries.filterMap fun entry =>
    if entry.1.dropLast = directory && (tree.get? entry.1).isSome then entry.1.getLast?
    else none).eraseDups

/-- How many names the longest location has. -/
def height (tree : Tree) : Nat :=
  tree.entries.foldr (fun entry height => max entry.1.length height) 0

/-- What a walk visits for one name in a directory: what has the name, and, if that is a directory,
what lies below it. -/
def visits (name : String) (below : List (Location × Node)) :
    Option Node → List (Location × Node)
  | none => []
  | some .directory =>
      ([name], .directory) :: below.map fun visit => (name :: visit.1, visit.2)
  | some node => [([name], node)]

/-- What a walk visits below a location, at most `depth` names down, each with the way to it. -/
def walk (tree : Tree) : (depth : Nat) → (here : Location) → List (Location × Node)
  | 0, _ => []
  | depth + 1, here =>
      ((tree.namesIn here).mergeSort fun a b => decide (a ≤ b)).flatMap fun name =>
        visits name (tree.walk depth (here ++ [name])) (tree.get? (here ++ [name]))

/-- What a walk visits below a location. -/
def walkBelow (tree : Tree) (top : Location) : List (Location × Node) :=
  tree.walk tree.height top

/-- The ways down to the files below a location, in the order of a walk. -/
def filesBelow (tree : Tree) (top : Location) : List Location :=
  (tree.walkBelow top).filterMap fun visit =>
    match visit.2 with
    | .file _ => some visit.1
    | _ => none

end Tree

/-- Why a walk came to nothing. -/
structure WalkFault where
  /-- The path that the walk started from. -/
  path : String
  /-- The path of the directory that could not be read. -/
  place : String
  cause : Fault
deriving DecidableEq, Repr

namespace WalkFault

def message (fault : WalkFault) : String :=
  "could not walk " ++ Quoted.quote fault.path

/-- What lies behind the fault, the nearest cause first. -/
def causes (fault : WalkFault) : List String :=
  [s!"IO error for operation on {fault.place}: {fault.cause.message}", fault.cause.message]

end WalkFault

/-- Whether the last of the names has one of the extensions. -/
def hasExtension (extensions : List String) (names : Location) : Bool :=
  match names.getLast?.bind Path.extension? with
  | some extension => extensions.contains extension
  | none => false

end ShaderLiterals.Files
