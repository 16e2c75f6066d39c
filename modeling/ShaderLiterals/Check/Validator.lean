import ShaderLiterals.Programs
import ShaderLiterals.Shader
import ShaderLiterals.Text.Quoted

/-! # Validators: what decides whether a shader compiles -/

namespace ShaderLiterals

/-- What a validator says of a shader. -/
inductive Verdict where
  | passed
  | failed (diagnostic : String)
deriving DecidableEq, Repr

/-- Why a validator says nothing of a shader. -/
inductive ValidatorFault where
  /-- A reason in the validator's own words. -/
  | other (text : String)
  /-- There is no temporary file under a path, or none at all below it. -/
  | noTemporaryFile (path : String) (cause : Files.Fault)
  /-- Not all of the shader of this name could be written to the file at a path. -/
  | cannotWrite (name path : String) (cause : Files.Fault)
  | cannotRun (program : String) (cause : SpawnFault)
deriving DecidableEq, Repr

/-- The fault and what lies behind it, the nearest cause first. -/
def ValidatorFault.chain : ValidatorFault → List String
  | other text => [text]
  | noTemporaryFile path cause =>
      ["could not create temporary shader file", s!"{cause.message} at path {Quoted.quote path}"]
  | cannotWrite name path cause =>
      [s!"could not write {name} to {Quoted.quote path}",
        s!"{cause.message} at path {Quoted.quote path}"]
  | cannotRun program cause => [s!"could not run '{program}'", cause.message]

/-- A validator may change the machine that it runs on. -/
abbrev Validator := Shader → Machine → Except ValidatorFault Verdict × Machine

/-- The validator that decides by the shader alone. -/
def Validator.ofFunction (f : Shader → Except ValidatorFault Verdict) : Validator :=
  fun shader machine => (f shader, machine)

@[simp] theorem Validator.ofFunction_apply (f : Shader → Except ValidatorFault Verdict)
    (shader : Shader) (machine : Machine) :
    Validator.ofFunction f shader machine = (f shader, machine) := rfl

/-- The machine after a validator was handed shaders in order. -/
def Validator.after (validator : Validator) (machine : Machine) (shaders : List Shader) : Machine :=
  shaders.foldl (fun machine shader => (validator shader machine).2) machine

@[simp] theorem Validator.after_nil (validator : Validator) (machine : Machine) :
    validator.after machine [] = machine := rfl

@[simp] theorem Validator.after_cons (validator : Validator) (machine : Machine) (shader : Shader)
    (rest : List Shader) :
    validator.after machine (shader :: rest) = validator.after (validator shader machine).2 rest :=
  rfl

theorem Validator.after_append (validator : Validator) (machine : Machine)
    (shaders more : List Shader) :
    validator.after machine (shaders ++ more) =
      validator.after (validator.after machine shaders) more :=
  List.foldl_append

@[simp] theorem Validator.after_ofFunction (f : Shader → Except ValidatorFault Verdict)
    (machine : Machine) (shaders : List Shader) :
    (Validator.ofFunction f).after machine shaders = machine := by
  induction shaders with
  | nil => rfl
  | cons shader rest ih => exact ih

end ShaderLiterals
