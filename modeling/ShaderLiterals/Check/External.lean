import ShaderLiterals.Check.Validator
import ShaderLiterals.Text.Utf8

/-!
# Validation by another program

The shader is put into a fresh temporary file whose extension tells its stage, the program is run
with the file's path as its last argument, and what has the file's name by then is taken away
whatever happened.  How the fresh file comes by its name, and whether all of the shader can be
written to it, is not settled here: `TemporaryFiles` stands for whatever does that.
-/

namespace ShaderLiterals

/-- How fresh files come by their names, and how writing to them goes. -/
structure TemporaryFiles where
  /-- The letters of the next name, or why there is none. -/
  letters : Machine → Stage → Except Files.Fault String
  /-- How many of the bytes for the file of some name are written before that fails, and why it
  fails, unless they are all written. -/
  interruption : Machine → String → List UInt8 → Option (Nat × Files.Fault)

/-- A temporary file that is open. -/
structure TemporaryFile where
  name : String
  /-- The number under which its content is kept. -/
  id : Nat
deriving DecidableEq, Repr

namespace TemporaryFile

/-- The name with some letters for a stage. -/
def nameOf (stage : Stage) (letters : String) : String :=
  s!"shader-check-{letters}.{stage.extension}"

/-- The mode of a temporary file. -/
def mode : Nat := 0o600

/-- Makes an empty file of a name in the directory for temporary files. -/
def createAs (name : String) (machine : Machine) : Except Files.Fault (TemporaryFile × Machine) :=
  match Machine.checkPath (Files.Path.join machine.temp name), machine.locate machine.temp with
  | .error fault, _ | .ok (), .error fault => .error fault
  | .ok (), .ok directory =>
      match machine.tree.get? directory with
      | some .directory =>
          if Files.Path.maxNameBytes < name.utf8ByteSize then .error .nameTooLong
          else .ok (⟨name, machine.store.nextId⟩, machine.putFile (directory ++ [name]) [] mode)
      | some _ => .error .notDirectory
      | none => .error .notFound

/-- Makes an empty file for a shader of a stage. -/
def create (files : TemporaryFiles) (stage : Stage) (machine : Machine) :
    Except ValidatorFault (TemporaryFile × Machine) :=
  match files.letters machine stage with
  | .error cause => .error (.noTemporaryFile machine.temp cause)
  | .ok letters =>
      let name := nameOf stage letters
      (createAs name machine).mapError (.noTemporaryFile (Files.Path.join machine.temp name))

/-- Writes bytes to the empty file, and tells why not all of them were written, if so. -/
def write (files : TemporaryFiles) (file : TemporaryFile) (bytes : List UInt8)
    (machine : Machine) : Option Files.Fault × Machine :=
  match files.interruption machine file.name bytes with
  | none => (none, machine.setBytes file.id bytes)
  | some (count, cause) => (some cause, machine.setBytes file.id (bytes.take count))

/-- Takes away what goes by the name of the file, unless it is a directory. -/
def remove (file : TemporaryFile) (machine : Machine) : Machine :=
  match machine.locate machine.temp with
  | .error _ => machine
  | .ok directory =>
      match machine.tree.get? (directory ++ [file.name]) with
      | none | some .directory => machine
      | some _ => machine.erase (directory ++ [file.name])

end TemporaryFile

/-- A program that validates, and the arguments that it gets before the path of the shader. -/
structure External where
  program : String
  args : List String
deriving DecidableEq, Repr

namespace External

/-- What the end of the program says of the shader. -/
def verdict (outcome : Outcome) : Verdict :=
  if outcome.ending.isSuccess then .passed
  else .failed (String.ofList (Utf8.decodeLossy outcome.output))

def validator (files : TemporaryFiles) (programs : Programs) (external : External) : Validator :=
  fun shader machine =>
    match TemporaryFile.create files shader.stage machine with
    | .error fault => (.error fault, machine)
    | .ok (file, fresh) =>
        let path := Files.Path.join machine.temp file.name
        match file.write files (Utf8.encode shader.source.toList) fresh with
        | (some cause, written) =>
            (.error (.cannotWrite shader.name path cause), file.remove written)
        | (none, written) =>
            match programs external.program (external.args ++ [path]) written with
            | .error cause => (.error (.cannotRun external.program cause), file.remove written)
            | .ok (outcome, after) => (.ok (verdict outcome), file.remove after)

end External

end ShaderLiterals
