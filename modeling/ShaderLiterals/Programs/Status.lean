import ShaderLiterals.Programs.Call

/-! # What is known of a file apart from what it holds -/

namespace ShaderLiterals.Programs

open Files (Fault Location Node)

structure Status where
  node : Node
  /-- Where the file stands, if it stands anywhere. -/
  location : Option Location
  /-- The rights that it gives. -/
  mode : Nat
  size : Nat
  /-- When it was changed, in nanoseconds. -/
  time : Nat
  /-- How many names it has. -/
  links : Nat

namespace Status

/-- The size that every directory has. -/
def directorySize : Nat := 4096

/-- What is known of the file at a location. -/
def ofNode (machine : Machine) (location : Option Location) (node : Node) : Status :=
  let content := fun (id : Nat) => (machine.store.get? id).getD ⟨[], 0o600, machine.clock⟩
  match node with
  | .file id =>
      let c := content id
      { node, location, mode := c.mode, size := c.bytes.length, time := c.time
        links := (machine.tree.entries.filter (·.2 = .file id)).length }
  | .pipe id =>
      let c := content id
      { node, location, mode := c.mode, size := 0, time := c.time, links := 1 }
  | .directory =>
      let place := location.getD []
      let below := (machine.tree.namesIn place).filter fun name =>
        machine.tree.get? (place ++ [name]) = some .directory
      { node, location, mode := (machine.directoryModes.lookup place).getD Machine.directoryMode
        size := directorySize, time := machine.clock, links := 2 + below.length }
  | .link target =>
      { node, location, mode := 0o777, size := target.utf8ByteSize, time := machine.clock
        links := 1 }
  | .device _ => { node, location, mode := 0o666, size := 0, time := machine.clock, links := 1 }

/-- Whether it is a directory. -/
def isDirectory (status : Status) : Bool := status.node = .directory

/-- The target of a link. -/
def target? (status : Status) : Option Raw :=
  match status.node with
  | .link target => some (Raw.ofText target)
  | _ => none

/-- The whole seconds of the time of the last change, and the rest. -/
def seconds (status : Status) : Int := (status.time / 1000000000 : Nat)

def nanoseconds (status : Status) : Nat := status.time % 1000000000

/-- Whether two are known of one and the same file. -/
def isSame (a b : Status) : Bool :=
  match a.node, b.node with
  | .file a, .file b => a = b
  | _, _ => a.location = b.location && a.node = b.node

/-- Whether the file may be run, or its directory be searched. -/
def isExecutable (status : Status) : Bool :=
  status.node = .directory || status.mode &&& 0o111 != 0

end Status

/-- What is known of what stands at a path; a link there is not followed. -/
def World.statusOfLast (path : Raw) : Job (Except Fault Status) := do
  let machine := (← get).machine
  match machine.findLast (Raw.toText path) with
  | .error fault => return .error fault
  | .ok (location, .device (.stream _)) => return .ok (.ofNode machine location (.link ""))
  | .ok (location, node) => return .ok (.ofNode machine location node)

namespace Call

/-- What is known of what stands at a path, links followed. -/
def status (call : Call) (path : Raw) : Job (Except Fault Status) := do
  match ← call.find path with
  | .error fault => return .error fault
  | .ok node =>
      let machine := (← get).machine
      return .ok (.ofNode machine (machine.locate (Raw.toText path)).toOption node)

end Call

end ShaderLiterals.Programs
