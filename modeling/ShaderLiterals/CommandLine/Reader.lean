import ShaderLiterals.CommandLine.Settings

/-!
# Reading arguments

Arguments are read from left to right.  Values and paths wait until the next known option, or a
path after a value, or the end, and are checked only then; an argument that is refused for itself
is refused before that check.
-/

namespace ShaderLiterals.CommandLine

/-- What waits to be checked. -/
inductive Waiting where
  | nothing
  /-- An option, with its value once that was read. -/
  | option (option : ValueOption) (value : Option String)
  | paths (paths : List String)
deriving DecidableEq, Repr

/-- Why reading stops before the last argument, or without settings. -/
inductive Stop where
  | help
  | fault (fault : UsageFault)
deriving DecidableEq, Repr

structure Reader where
  given : Given
  waiting : Waiting
  /-- Whether all arguments to come are paths. -/
  onlyPaths : Bool
deriving DecidableEq, Repr

namespace Reader

def start : Reader := ⟨.nothing, .nothing, false⟩

/-- Checks what waits. -/
def settle (reader : Reader) : Except UsageFault Given :=
  match reader.waiting with
  | .nothing => .ok reader.given
  | .option option none => .error (.valueRequired (.option option))
  | .option option (some value) => reader.given.addValue value option
  | .paths paths => reader.given.addPaths paths

/-- Checks what waits, and goes on with what was given. -/
def settled (reader : Reader) (next : Given → Except UsageFault Reader) : Except Stop Reader :=
  match reader.settle with
  | .error fault => .error (.fault fault)
  | .ok given => (next given).mapError .fault

def addPath (reader : Reader) (path : String) : Except Stop Reader :=
  match reader.waiting with
  | .paths paths => .ok { reader with waiting := .paths (paths ++ [path]) }
  | _ => reader.settled fun given => .ok { reader with given := given, waiting := .paths [path] }

def addOption (reader : Reader) (option : ValueOption) : Option String → Except Stop Reader
  | none => reader.settled fun given =>
      .ok { reader with given := given, waiting := .option option none }
  | some value => reader.settled fun given =>
      (given.addValue value option).map fun given =>
        { reader with given := given, waiting := .nothing }

def addFlag (reader : Reader) (flag : Flag) : Option String → Except Stop Reader
  | some value => .error (.fault (.unexpectedValue value flag))
  | none =>
      match flag with
      | .list => reader.settled fun given =>
          given.addList.map fun given => { reader with given := given, waiting := .nothing }
      | .help =>
          match reader.settle with
          | .error fault => .error (.fault fault)
          | .ok _ => .error .help

/-- The name before the first equals sign, and the value after it. -/
def splitValue (text : List Char) : String × Option String :=
  let name := text.takeWhile (· != '=')
  (String.ofList name,
    if name.length < text.length then some (String.ofList (text.drop (name.length + 1))) else none)

/-- Reads what follows two hyphens. -/
def addLong (reader : Reader) (text : List Char) : Except Stop Reader :=
  let (name, value) := splitValue text
  match ValueOption.ofName? name, Flag.ofName? name with
  | some option, _ => reader.addOption option value
  | none, some flag => reader.addFlag flag value
  | none, none => .error (.fault (.unknownArgument ("--" ++ name)))

/-- Reads an argument with one hyphen, of which the first letter decides. -/
def addShort (reader : Reader) (letter : Char) : Except Stop Reader :=
  if letter = 'h' then reader.addFlag .help none
  else .error (.fault (.unknownArgument (String.ofList ['-', letter])))

/-- Reads a value for the option that waits for one, or else a path. -/
def addPlain (reader : Reader) (argument : String) : Except Stop Reader :=
  match reader.waiting with
  | .option option none => .ok { reader with waiting := .option option (some argument) }
  | _ => reader.addPath argument

def next (reader : Reader) (argument : String) : Except Stop Reader :=
  if reader.onlyPaths then reader.addPath argument
  else if reader.waiting = .option .validatorArg none then reader.addPlain argument
  else
    match argument.toList with
    | ['-', '-'] => .ok { reader with onlyPaths := true }
    | '-' :: '-' :: text => reader.addLong text
    | '-' :: letter :: _ => reader.addShort letter
    | _ => reader.addPlain argument

/-- Reads the last arguments. -/
def finish (reader : Reader) (environment : Option String) : List String → Except Stop Settings
  | [] =>
      match reader.settle with
      | .error fault => .error (.fault fault)
      | .ok given => (given.settings environment).mapError .fault
  | argument :: rest =>
      match reader.next argument with
      | .error stop => .error stop
      | .ok reader => reader.finish environment rest

end Reader

/-- The settings that arguments ask for, given the validator that the environment names. -/
def read (arguments : List String) (environment : Option String) : Except Stop Settings :=
  Reader.start.finish environment arguments

end ShaderLiterals.CommandLine
