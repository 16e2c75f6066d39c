import ShaderLiterals.Text.Plain

/-! # The arguments that the command line knows, and its faults -/

namespace ShaderLiterals.CommandLine

/-- The options that take a value. -/
inductive ValueOption where
  | validator
  | validatorArg
  | extension
deriving DecidableEq, Repr

namespace ValueOption

def name : ValueOption → String
  | validator => "validator"
  | validatorArg => "validator-arg"
  | extension => "extension"

def ofName? (name : String) : Option ValueOption :=
  [validator, validatorArg, extension].find? (·.name == name)

@[simp] theorem ofName?_name (option : ValueOption) : ofName? option.name = some option := by
  cases option <;> decide

end ValueOption

/-- The flags, which take no value. -/
inductive Flag where
  | list
  | help
deriving DecidableEq, Repr

namespace Flag

def name : Flag → String
  | list => "list"
  | help => "help"

def ofName? (name : String) : Option Flag :=
  [list, help].find? (·.name == name)

@[simp] theorem ofName?_name (flag : Flag) : ofName? flag.name = some flag := by
  cases flag <;> decide

end Flag

/-- What an argument can be meant for. -/
inductive Parameter where
  | paths
  | option (option : ValueOption)
  | flag (flag : Flag)
deriving DecidableEq, Repr

def Parameter.describe : Parameter → String
  | paths => "[PATHS]..."
  | option o => s!"--{o.name} <{o.name}>"
  | flag f => s!"--{f.name}"

/-- Why arguments are refused. -/
inductive UsageFault where
  | unknownArgument (argument : String)
  | valueRequired (parameter : Parameter)
  | repeated (parameter : Parameter)
  | unexpectedValue (value : String) (flag : Flag)
deriving DecidableEq, Repr

/-- What the fault is called.  Arguments show without control sequences. -/
def UsageFault.describe (blank : Plain.Blank) : UsageFault → String
  | unknownArgument argument => s!"error: unexpected argument '{Plain.strip blank argument}' found"
  | valueRequired parameter =>
      s!"error: a value is required for '{parameter.describe}' but none was supplied"
  | repeated parameter =>
      s!"error: the argument '{parameter.describe}' cannot be used multiple times"
  | unexpectedValue value flag =>
      let shown := Plain.strip blank value
      s!"error: unexpected value '{shown}' for '--{flag.name}' found; no more were expected"

/-- The text of the fault. -/
def UsageFault.message (fault : UsageFault) : String :=
  fault.describe .ends

/-- What the program prints about refused arguments.  Where it prints, white space only suspends
control sequences. -/
def UsageFault.render (fault : UsageFault) : String :=
  fault.describe .suspends ++ "\n\nFor more information, try '--help'.\n"

end ShaderLiterals.CommandLine
