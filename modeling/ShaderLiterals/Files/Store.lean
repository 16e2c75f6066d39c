/-!
# What files hold

The content of a file is kept apart from the names under which a tree knows it: it stays the same
file when its name changes, and whoever reads it may go on when its last name is gone.
-/

namespace ShaderLiterals.Files

structure Content where
  bytes : List UInt8
  /-- Who may do what with the file, as three octal digits. -/
  mode : Nat
  /-- When the bytes last changed, in nanoseconds. -/
  time : Nat
deriving DecidableEq, Repr

/-- The contents, each under its place in the list. -/
structure Store where
  contents : List Content
deriving DecidableEq, Repr

namespace Store

def empty : Store := ⟨[]⟩

def get? (store : Store) (id : Nat) : Option Content :=
  store.contents[id]?

/-- The bytes of a file; a file that there never was has none. -/
def bytes (store : Store) (id : Nat) : List UInt8 :=
  match store.get? id with
  | some content => content.bytes
  | none => []

/-- The store with one more file, which has the number `nextId`. -/
def add (store : Store) (content : Content) : Store :=
  ⟨store.contents ++ [content]⟩

/-- The number of the next file that is added. -/
def nextId (store : Store) : Nat := store.contents.length

/-- The store with other content under a number. -/
def set (store : Store) (id : Nat) (content : Content) : Store :=
  ⟨store.contents.set id content⟩

@[simp] theorem get?_add_nextId (store : Store) (content : Content) :
    (store.add content).get? store.nextId = some content := by
  simp [get?, add, nextId]

theorem get?_add_of_lt {store : Store} {id : Nat} (content : Content) (h : id < store.nextId) :
    (store.add content).get? id = store.get? id := by
  simp [get?, add, List.getElem?_append_left h]

@[simp] theorem set_add_nextId (store : Store) (content other : Content) :
    (store.add content).set store.nextId other = store.add other := by
  simp [set, add, nextId]

end Store

end ShaderLiterals.Files
