import ShaderLiterals.CharName
import ShaderLiterals.Check.NumberedFiles
import ShaderLiterals.Cli
import ShaderLiterals.Programs.Installed

/-!
# The program on a real machine

The files that the arguments name are read into a machine, the program runs on it, and what it
changed is written back.
-/

namespace ShaderLiterals

namespace Snapshot

/-- The names on the way from the root to a path. -/
def location (here : Files.Location) (path : String) : Files.Location :=
  let path := Files.Path.ofText path
  path.names.foldl (fun location name =>
    if name = "." then location
    else if name = ".." then location.dropLast
    else location ++ [name]) (path.origin here)

/-- Adds the directories that a location lies in. -/
def addParents (machine : Machine) (location : Files.Location) : Machine :=
  ((List.range location.length).drop 1).foldl (fun (machine : Machine) n =>
    if (machine.tree.get? (location.take n)).isSome then machine
    else machine.put (location.take n) .directory) machine

/-- Adds an entry of a directory, with all that lies below it.  What cannot be read is left out. -/
partial def add (machine : Machine) (location : Files.Location) (entry : IO.FS.DirEntry) :
    IO Machine := do
  try
    match (← entry.path.symlinkMetadata).type with
    | .dir =>
        (← entry.path.readDir).foldlM
          (fun machine inner => add machine (location ++ [inner.fileName]) inner)
          (machine.put location .directory)
    | .file =>
        let bytes := (← IO.FS.readBinFile entry.path).toList
        return machine.putFile location bytes Machine.fileMode
    | .symlink => return machine.put location (.link (← IO.FS.realPath entry.path).toString)
    | .other => return machine
  catch _ => return machine

/-- The paths that a run looks at. -/
def wanted (arguments : List String) (environment : Option String) : List String :=
  match CommandLine.read arguments environment with
  | .ok settings => settings.paths ++ settings.validator :: settings.validatorArgs
  | .error _ => []

/-- A machine with the real files at some paths. -/
def take (paths : List String) : IO Machine := do
  let directory ← IO.currentDir
  let temp := (← IO.getEnv "TMPDIR").getD "/tmp"
  let here := location [] directory.toString
  let start := { Programs.system with here := here, temp := temp }
  let start := addParents (addParents start (here ++ ["."])) (location here temp ++ ["."])
  paths.foldlM (fun machine path => do
    let place := location here path
    add (addParents machine place) place ⟨directory, path⟩) start

/-- The bytes of the regular file at a location. -/
def bytesAt (machine : Machine) (location : Files.Location) : Option (List UInt8) :=
  match machine.tree.get? location with
  | some (.file id) => some (machine.store.bytes id)
  | _ => none

/-- Writes the files that a run changed, and removes those that it removed. -/
def apply (before after : Machine) : IO Unit := do
  for (location, node) in after.tree.entries do
    match node with
    | .file id =>
        let bytes := after.store.bytes id
        if bytesAt before location != some bytes then
          IO.FS.writeBinFile (Machine.pathOf location) (ByteArray.mk bytes.toArray)
    | .directory =>
        if before.tree.get? location != some node then
          IO.FS.createDirAll (Machine.pathOf location)
    | _ => pure ()
  for (location, node) in before.tree.entries do
    match node with
    | .file _ =>
        if (after.tree.get? location).isNone then IO.FS.removeFile (Machine.pathOf location)
    | _ => pure ()

end Snapshot

/-- What the program runs among: a table of names, the installed programs, and numbered files. -/
def surroundings : Surroundings :=
  ⟨CharName.lookup, Programs.installed, NumberedFiles.files⟩

end ShaderLiterals

def main (arguments : List String) : IO UInt32 := do
  let environment ← IO.getEnv ShaderLiterals.CommandLine.variableName
  let paths := ShaderLiterals.Snapshot.wanted arguments environment
  let before ← ShaderLiterals.Snapshot.take paths
  match ShaderLiterals.Cli.run ShaderLiterals.surroundings arguments environment before with
  | none => return 1
  | some (exit, after) =>
      ShaderLiterals.Snapshot.apply before after
      (← IO.getStdout).putStr exit.output
      (← IO.getStderr).putStr exit.errors
      return UInt32.ofNat exit.status
