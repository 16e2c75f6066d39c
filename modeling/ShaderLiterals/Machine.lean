import ShaderLiterals.Files.Lookup
import ShaderLiterals.Files.Store
import ShaderLiterals.Files.Walk

/-!
# Machines

What a run can see and change: a tree of files and what they hold, the place in it where relative
paths start, the directory for temporary files, and the variables that programs get to see.
-/

namespace ShaderLiterals

structure Machine where
  tree : Files.Tree
  store : Files.Store
  /-- The modes of directories that do not have the usual one. -/
  directoryModes : List (Files.Location × Nat)
  /-- Where relative paths start. -/
  here : Files.Location
  /-- The path of the directory for temporary files, from the root. -/
  temp : String
  /-- The variables that programs get to see. -/
  environment : List (String × String)
  /-- The time, in nanoseconds. -/
  clock : Nat
deriving DecidableEq, Repr

namespace Machine

/-- The mode of a new file. -/
def fileMode : Nat := 0o644

/-- The mode of a new directory. -/
def directoryMode : Nat := 0o755

/-- A machine with an empty directory to work in and an empty one for temporary files. -/
def empty : Machine :=
  { tree := ⟨[(["home"], .directory), (["home", "root"], .directory), (["tmp"], .directory),
      (["tmp", "shaders"], .directory)]⟩
    store := .empty
    directoryModes := []
    here := ["home", "root"]
    temp := "/tmp/shaders"
    environment := []
    clock := 1760000000000000000 }

open Files (Fault Location Node Path Content)

/-- The path of a location. -/
def pathOf (location : Location) : String :=
  "/" ++ String.intercalate "/" location

/-- The path of the place where relative paths start. -/
def herePath (machine : Machine) : String := pathOf machine.here

/-- Whether the text of a path can stand for something at all. -/
def checkPath (path : String) : Except Fault Unit :=
  if path.toList.contains '\x00' then .error .nullInPath
  else if path.isEmpty then .error .notFound
  else if Path.isTooLong path then .error .nameTooLong
  else .ok ()

/-- The location that a path leads to. -/
def locate (machine : Machine) (path : String) : Except Fault Location :=
  match checkPath path with
  | .error fault => .error fault
  | .ok () =>
      let path := Path.ofText path
      machine.tree.follow Files.maxLinks (path.origin machine.here) path.names

/-- What a path leads to. -/
def find (machine : Machine) (path : String) : Except Fault Node :=
  match machine.locate path with
  | .error fault => .error fault
  | .ok location =>
      match machine.tree.get? location with
      | none => .error .notFound
      | some node => .ok node

def isDirectory (machine : Machine) (path : String) : Bool :=
  match machine.find path with
  | .ok .directory => true
  | _ => false

/-- What a node holds that is no directory. -/
def bytesOf (machine : Machine) : Node → List UInt8
  | .file id | .pipe id => machine.store.bytes id
  | _ => []

/-- The content of a file. -/
def read (machine : Machine) (path : String) : Except Fault (List UInt8) :=
  match machine.find path with
  | .ok .directory => .error .isDirectory
  | .ok node => .ok (machine.bytesOf node)
  | .error fault => .error fault

/-! ## Changes -/

/-- The machine with another value of a variable, or without it. -/
def withVariable (machine : Machine) (name : String) (value : Option String) : Machine :=
  let others := machine.environment.filter (·.1 != name)
  { machine with
    environment :=
      match value with
      | some value => (name, value) :: others
      | none => others }

/-- The machine a moment later. -/
def tick (machine : Machine) : Machine :=
  { machine with clock := machine.clock + 1000000 }

/-- The machine with another node at a location. -/
def put (machine : Machine) (location : Location) (node : Node) : Machine :=
  { machine with tree := machine.tree.insert location node }

def erase (machine : Machine) (location : Location) : Machine :=
  { machine with tree := machine.tree.erase location }

/-- The machine without what stands at a location and below it. -/
def eraseAll (machine : Machine) (location : Location) : Machine :=
  { machine with
    tree := machine.tree.eraseAll location
    directoryModes := machine.directoryModes.filter fun e => !location.isPrefixOf e.1 }

/-- The machine with what stands at a location, and below it, at another one. -/
def move (machine : Machine) (source target : Location) : Machine :=
  let moved := fun (location : Location) =>
    match source.isPrefixOf? location with
    | some rest => target ++ rest
    | none => location
  { machine with
    tree := machine.tree.move source target
    directoryModes := machine.directoryModes.map fun e => (moved e.1, e.2)
    here := moved machine.here }

/-- The machine with another mode of a directory. -/
def setDirectoryMode (machine : Machine) (location : Location) (mode : Nat) : Machine :=
  { machine with
    directoryModes := (location, mode) :: machine.directoryModes.filter (·.1 != location) }

/-- Puts a new file at a location. -/
def putFile (machine : Machine) (location : Location) (bytes : List UInt8) (mode : Nat) : Machine :=
  { machine with
    tree := machine.tree.insert location (.file machine.store.nextId)
    store := machine.store.add ⟨bytes, mode, machine.clock⟩ }

/-- Changes what is kept under a number. -/
def updateContent (machine : Machine) (id : Nat) (change : Content → Content) : Machine :=
  match machine.store.get? id with
  | none => machine
  | some content => { machine with store := machine.store.set id (change content) }

/-- Changes the bytes that are kept under a number. -/
def setBytes (machine : Machine) (id : Nat) (bytes : List UInt8) : Machine :=
  machine.updateContent id fun content => { content with bytes := bytes, time := machine.clock }

/-- Where content written to a path goes. -/
def target (machine : Machine) (path : String) : Except Fault Location :=
  match checkPath path with
  | .error fault => .error fault
  | .ok () =>
      let path := Path.ofText path
      machine.tree.target Files.maxLinks (path.origin machine.here) path.names

/-- Changes the bytes of the file at a path, or makes a file there out of no bytes. -/
def writeWith (machine : Machine) (path : String) (change : List UInt8 → List UInt8) :
    Except Fault Machine :=
  match machine.target path with
  | .error fault => .error fault
  | .ok location =>
      match machine.tree.get? location with
      | none => .ok (machine.putFile location (change []) fileMode)
      | some (.file id) | some (.pipe id) =>
          .ok (machine.setBytes id (change (machine.store.bytes id)))
      | some (.device .full) => .error .noSpace
      | some .directory => .error .isDirectory
      | some (.device _) | some (.link _) => .ok machine

/-- Writes a file, in place of what it held. -/
def write (machine : Machine) (path : String) (bytes : List UInt8) : Except Fault Machine :=
  machine.writeWith path fun _ => bytes

/-- The location of the last name of a path; a link there is not followed. -/
def locateLast (machine : Machine) (path : String) : Except Fault Location :=
  match checkPath path with
  | .error fault => .error fault
  | .ok () =>
      let names := (Path.ofText path).names
      match names.getLast? with
      | none => .ok []
      | some "." | some ".." => machine.locate path
      | some last =>
          match machine.tree.follow Files.maxLinks ((Path.ofText path).origin machine.here)
              names.dropLast with
          | .error fault => .error fault
          | .ok parent =>
              if Path.maxNameBytes < last.utf8ByteSize then .error .nameTooLong
              else .ok (parent ++ [last])

/-- What stands at the last name of a path; a link there is not followed. -/
def findLast (machine : Machine) (path : String) : Except Fault (Location × Node) :=
  match machine.locateLast path with
  | .error fault => .error fault
  | .ok location =>
      match machine.tree.get? location, machine.tree.get? location.dropLast with
      | some node, _ => .ok (location, node)
      | none, some .directory => .error .notFound
      | none, none => .error .notFound
      | none, some _ => .error .notDirectory

/-- The location for something new under the last name of a path. -/
def vacant (machine : Machine) (path : String) : Except Fault Location :=
  let path := String.ofList (path.toList.reverse.dropWhile (· == '/')).reverse
  match machine.findLast path with
  | .ok _ => .error .alreadyThere
  | .error .notFound =>
      match machine.locateLast path with
      | .ok location =>
          match machine.tree.get? location.dropLast with
          | some .directory => .ok location
          | _ => .error .notFound
      | .error fault => .error fault
  | .error fault => .error fault

/-- Makes one directory where nothing stands. -/
def makeDirectory (machine : Machine) (path : String) : Except Fault Machine :=
  (machine.vacant path).map fun location => machine.put location .directory

/-- Makes the directories that some names of a path ask for and that are missing. -/
def makeAll (machine : Machine) (path : Path) (names : List String) : Except Fault Machine :=
  (machine.tree.makeDirectories (path.origin machine.here) names).map fun result =>
    { machine with tree := result.2 }

/-- Makes a directory, and those that it lies in. -/
def makeDirectories (machine : Machine) (path : String) : Except Fault Machine :=
  machine.makeAll (Path.ofText path) (Path.ofText path).names

/-- Makes the directories that the last name of a path lies in. -/
def makeParents (machine : Machine) (path : String) : Except Fault Machine :=
  machine.makeAll (Path.ofText path) (Path.ofText path).names.dropLast

/-- Puts a link where a path says, with the directories that it lies in; nothing may stand there. -/
def placeLink (machine : Machine) (path target : String) : Except Fault Machine :=
  match checkPath target, machine.makeParents path with
  | .error fault, _ | _, .error fault => .error fault
  | .ok (), .ok machine =>
      (machine.vacant path).map fun location => machine.put location (.link target)

/-- Writes a file where a path says, with the directories that it lies in.  A link there leads to
the file. -/
def placeFile (machine : Machine) (path : String) (bytes : List UInt8) : Except Fault Machine :=
  match machine.makeParents path with
  | .error fault => .error fault
  | .ok machine => machine.write path bytes

/-! ## Expanding paths -/

/-- Comes by a visit of a walk that started from a path.  A directory is read under its own path. -/
def enter (path : String) (visit : Location × Node) : Except Files.WalkFault Unit :=
  match visit.2, checkPath (Path.joinAll path visit.1) with
  | .directory, .error cause => .error ⟨path, Path.joinAll path visit.1, cause⟩
  | _, _ => .ok ()

/-- The files to read for a path: those below a directory that have one of the extensions, or
whatever else the path is, as it stands. -/
def expand (machine : Machine) (extensions : List String) (path : String) :
    Except Files.WalkFault (List String) :=
  match machine.locate path with
  | .error _ => .ok [path]
  | .ok top =>
      if machine.tree.get? top = some .directory then do
        (machine.tree.walkBelow top).forM (enter path)
        return ((machine.tree.filesBelow top).filter (Files.hasExtension extensions)).map
          (Path.joinAll path)
      else .ok [path]

/-- The files to read for some paths, in order. -/
def expandAll (machine : Machine) (extensions : List String) :
    List String → Except Files.WalkFault (List String)
  | [] => .ok []
  | path :: paths => do
      let files ← machine.expand extensions path
      let others ← machine.expandAll extensions paths
      return files ++ others

end Machine

end ShaderLiterals
