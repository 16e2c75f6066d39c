import ShaderLiterals.Programs.Call
import ShaderLiterals.Programs.Tool.Quote

/-!
# Options of tools

An option has a letter, names or both, and may take a value.  Options are known by their first
names, or by their letters if they have no names.  A tool describes its options in one line, such as
`n/lines= q/quiet,silent z/`: an equals sign stands for a value, two of them for one that may be
left out.
-/

namespace ShaderLiterals.Programs

inductive Arity where
  | none
  | required
  | optional
deriving DecidableEq

structure KnownOption where
  letter : Option Char
  names : List Raw
  arity : Arity

namespace KnownOption

/-- What the option is known by. -/
def key (option : KnownOption) : Raw :=
  option.names.headD option.letter.toList

/-- The option that a word of a description stands for. -/
def ofWord (word : Raw) : KnownOption :=
  let (letter, rest) :=
    match word with
    | '/' :: rest => (none, rest)
    | c :: '/' :: rest => (some c, rest)
    | rest => (none, rest)
  let names := rest.takeWhile (· != '=')
  let arity :=
    match rest.length - names.length with
    | 0 => Arity.none
    | 1 => .required
    | _ => .optional
  ⟨letter, (names.splitOn ',').filter (!·.isEmpty), arity⟩

/-- The options of a description. -/
def table (description : String) : List KnownOption :=
  (description.toList.splitOn ' ').map ofWord

/-- The options that a long name, which may be cut short, stands for, each with its whole name. -/
def named (known : List KnownOption) (name : Raw) : List (Raw × KnownOption) :=
  let all := known.flatMap fun option => option.names.map (·, option)
  match all.filter fun entry => entry.1 = name with
  | [] => all.filter fun entry => name.isPrefixOf entry.1
  | found => found.take 1

end KnownOption

/-- The options that were given, in order, and the operands. -/
structure Options where
  given : List (Raw × Raw)
  operands : List Raw

namespace Options

def has (options : Options) (key : String) : Bool :=
  options.given.any fun given => given.1 = key.toList

/-- The last value of an option. -/
def value? (options : Options) (key : String) : Option Raw :=
  options.given.reverse.lookup key.toList

/-- All values of an option. -/
def values (options : Options) (key : String) : List Raw :=
  (options.given.filter fun given => given.1 = key.toList).map Prod.snd

def add (options : Options) (option : KnownOption) (value : Raw) : Options :=
  { options with given := (option.key, value) :: options.given }

/-- Reads the letters after a hyphen.  Of the arguments after it one may be a value. -/
def readLetters (known : List KnownOption) : Raw → List Raw →
    Except Raw (List (Raw × Raw) × List Raw)
  | [], rest => .ok ([], rest)
  | letter :: letters, rest =>
      match known.find? fun option => option.letter = some letter with
      | none => .error (Raw.ofText "invalid option -- '" ++ [letter, '\''])
      | some option =>
          match option.arity, letters, rest with
          | .none, _, _ =>
              (readLetters known letters rest).map fun more =>
                ((option.key, []) :: more.1, more.2)
          | .optional, _, _ => .ok ([(option.key, letters)], rest)
          | .required, [], value :: rest => .ok ([(option.key, value)], rest)
          | .required, [], [] =>
              .error (Raw.ofText "option requires an argument -- '" ++ [letter, '\''])
          | .required, _, _ => .ok ([(option.key, letters)], rest)

/-- Reads a long option.  Of the arguments after it one may be its value. -/
def readLong (known : List KnownOption) (text : Raw) (rest : List Raw) :
    Except Raw ((Raw × Raw) × List Raw) :=
  let name := text.takeWhile (· != '=')
  let value := text.drop (name.length + 1)
  let hasValue := name.length < text.length
  match KnownOption.named known name with
  | [(fullName, option)] =>
      if hasValue then
        if option.arity = .none then
          .error (Raw.ofText "option '--" ++ fullName ++
            Raw.ofText "' doesn't allow an argument")
        else .ok ((option.key, value), rest)
      else if option.arity = .required then
        match rest with
        | value :: rest => .ok ((option.key, value), rest)
        | [] =>
            .error (Raw.ofText "option '--" ++ fullName ++ Raw.ofText "' requires an argument")
      else .ok ((option.key, []), rest)
  | [] => .error (Raw.ofText "unrecognized option '--" ++ text ++ ['\''])
  | found =>
      .error (Raw.ofText "option '--" ++ text ++ Raw.ofText "' is ambiguous; possibilities:" ++
        found.flatMap fun entry => Raw.ofText " '--" ++ entry.1 ++ ['\''])

/-- Sorts arguments into options and operands; each of at most `fuel` steps takes one.  If not
`mixed`, what follows the first operand are operands. -/
def readAll (known : List KnownOption) (mixed : Bool) : (fuel : Nat) → List Raw →
    Except Raw Options
  | 0, operands => .ok ⟨[], operands⟩
  | _, [] => .ok ⟨[], []⟩
  | _ + 1, ['-', '-'] :: operands => .ok ⟨[], operands⟩
  | fuel + 1, ('-' :: '-' :: text) :: rest =>
      match readLong known text rest with
      | .error complaint => .error complaint
      | .ok (given, rest) =>
          (readAll known mixed fuel rest).map fun more => { more with given := given :: more.given }
  | fuel + 1, ('-' :: c :: letters) :: rest =>
      match readLetters known (c :: letters) rest with
      | .error complaint => .error complaint
      | .ok (given, rest) =>
          (readAll known mixed fuel rest).map fun more => { more with given := given ++ more.given }
  | fuel + 1, operand :: rest =>
      if mixed then
        (readAll known mixed fuel rest).map fun more =>
          { more with operands := operand :: more.operands }
      else .ok ⟨[], operand :: rest⟩

/-- Sorts arguments by a description of options. -/
def read (description : String) (mixed : Bool) (args : List Raw) : Except Raw Options :=
  readAll (KnownOption.table description) mixed (args.length + 1) args

end Options

open Files (Fault)

namespace Call

/-- Complains about the arguments, and ends with a status. -/
def refuseUsage (call : Call) (status : Nat) (text : Raw) : Job Nat := do
  call.complain text
  call.warn (Raw.ofText "Try '" ++ call.name ++ Raw.ofText " --help' for more information.\n")
  return status

/-- Goes on with the options of the call, or ends with a status if there is something wrong. -/
def withOptions (call : Call) (description : String) (status : Nat) (action : Options → Job Nat) :
    Job Nat :=
  match Options.read description true call.args with
  | .ok options => action options
  | .error complaint => call.refuseUsage status complaint

/-- The same for a tool whose options come before its operands. -/
def withFirstOptions (call : Call) (description : String) (status : Nat)
    (action : Options → Job Nat) : Job Nat :=
  match Options.read description false call.args with
  | .ok options => action options
  | .error complaint => call.refuseUsage status complaint

/-- Complains about a path. -/
def complainPath (call : Call) (path : Raw) (fault : Fault) : Job Unit :=
  call.complain (Quote.ifNeeded path ++ ':' :: ' ' :: Raw.ofText fault.text)

/-- Complains about a path with which something could not be done. -/
def complainCannot (call : Call) (what : String) (path : Raw) (fault : Fault) : Job Unit :=
  call.complain (Raw.ofText ("cannot " ++ what ++ " ") ++ Quote.always path ++ ':' :: ' ' ::
    Raw.ofText fault.text)

/-- Goes through operands one after the other, the input if there are none, and counts those that
cannot be read. -/
def forOperands (call : Call) (operands : List Raw) (action : Raw → Raw → Job Unit) : Job Nat := do
  let mut status := 0
  for operand in if operands.isEmpty then [['-']] else operands do
    match ← call.readOperand operand with
    | .ok text => action operand text
    | .error fault =>
        call.complainPath operand fault
        status := 1
  return status

end Call

end ShaderLiterals.Programs
