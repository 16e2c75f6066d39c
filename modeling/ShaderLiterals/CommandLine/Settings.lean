import ShaderLiterals.CommandLine.Usage

/-! # What the arguments ask for -/

namespace ShaderLiterals.CommandLine

/-- What a run is asked to do. -/
structure Settings where
  /-- Files to read, and directories to search for them. -/
  paths : List String
  /-- The extensions of the files that count in a directory. -/
  extensions : List String
  validator : String
  validatorArgs : List String
  /-- Whether shaders are listed and not validated. -/
  list : Bool
deriving DecidableEq, Repr

def defaultPath : String := "Sources/awc/Neon.swift"

def defaultExtension : String := "swift"

def defaultValidator : String := "glslangValidator"

/-- The environment variable that names a validator. -/
def variableName : String := "SHADER_VALIDATOR"

/-- What was given on the command line. -/
structure Given where
  paths : List String
  extensions : List String
  validator : Option String
  validatorArgs : List String
  list : Bool
deriving DecidableEq, Repr

namespace Given

def nothing : Given := ⟨[], [], none, [], false⟩

def addPaths (given : Given) (paths : List String) : Except UsageFault Given :=
  if paths.any (·.isEmpty) then .error (.valueRequired .paths)
  else .ok { given with paths := given.paths ++ paths }

/-- Adds the value of an option.  A validator may be given once, and not an empty one. -/
def addValue (given : Given) (value : String) : ValueOption → Except UsageFault Given
  | .validator =>
      if given.validator.isSome then .error (.repeated (.option .validator))
      else if value.isEmpty then .error (.valueRequired (.option .validator))
      else .ok { given with validator := some value }
  | .validatorArg => .ok { given with validatorArgs := given.validatorArgs ++ [value] }
  | .extension => .ok { given with extensions := given.extensions ++ [value] }

def addList (given : Given) : Except UsageFault Given :=
  if given.list then .error (.repeated (.flag .list)) else .ok { given with list := true }

/-- The validator that was given, or else the one in the environment, which must not be empty,
or else the default. -/
def chooseValidator (given : Given) (environment : Option String) : Except UsageFault String :=
  match given.validator, environment with
  | some validator, _ => .ok validator
  | none, some validator =>
      if validator.isEmpty then .error (.valueRequired (.option .validator)) else .ok validator
  | none, none => .ok defaultValidator

/-- Fills in what was not given. -/
def settings (given : Given) (environment : Option String) : Except UsageFault Settings :=
  (given.chooseValidator environment).map fun validator =>
    { paths := if given.paths.isEmpty then [defaultPath] else given.paths
      extensions := if given.extensions.isEmpty then [defaultExtension] else given.extensions
      validator := validator
      validatorArgs := given.validatorArgs
      list := given.list }

end Given

end ShaderLiterals.CommandLine
