import ShaderLiterals.Programs.Status

/-!
# Conditions

A condition is a list of arguments: operators on texts, numbers and files, joined by `-a` and `-o`,
with `!` and parentheses.  Whether an argument is an operator depends on those that follow it.
-/

namespace ShaderLiterals.Programs.Condition

open Files (Node)

inductive Token where
  | finish
  | operand
  | unary
  | binary
  | not
  | and
  | or
  | open
  | close
deriving DecidableEq

def unaryOperators : List String :=
  ["-r", "-w", "-x", "-e", "-f", "-d", "-c", "-b", "-p", "-u", "-g", "-k", "-s", "-t", "-z", "-n",
    "-h", "-O", "-G", "-L", "-S"]

def binaryOperators : List String :=
  ["=", "!=", "<", ">", "-eq", "-ne", "-ge", "-gt", "-le", "-lt", "-nt", "-ot", "-ef"]

def isBinary (arg : Raw) : Bool := binaryOperators.any (·.toList = arg)

/-- What the first argument is. -/
def token : List Raw → Token
  | [] => .finish
  | arg :: rest =>
      match String.ofList arg with
      | "!" => .not
      | "-a" => .and
      | "-o" => .or
      | "(" => if rest.isEmpty then .operand else .open
      | ")" => .close
      | text =>
          if binaryOperators.contains text then .binary
          else if unaryOperators.contains text then
            match rest with
            | [] => .operand
            | next :: _ :: _ => if isBinary next then .operand else .unary
            | [_] => .unary
          else .operand

/-! ## Operators -/

/-- The number that an operand spells. -/
def number (text : Raw) : Except Raw Int :=
  let isBlank := fun (c : Char) => c == ' ' || ('\t' ≤ c && c ≤ '\r')
  let inner := ((text.dropWhile isBlank).reverse.dropWhile isBlank).reverse
  let bad := Raw.ofText "Illegal number: " ++ text
  match Raw.int? inner with
  | none => .error bad
  | some n =>
      if n < -9223372036854775808 || 9223372036854775807 < n then .error bad else .ok n

/-- Whether something is known of a file, links followed. -/
def fileTest (call : Call) (path : Raw) (test : Status → Bool) : Job Bool := do
  match ← call.status path with
  | .ok status => return test status
  | .error _ => return false

def isLink (path : Raw) : Job Bool := do
  match ← World.statusOfLast path with
  | .ok status => return match status.node with
      | .link _ => true
      | _ => false
  | .error _ => return false

/-- The value of an operator on one operand. -/
def unary (call : Call) (operator operand : Raw) : Job (Except Raw Bool) := do
  let file := fun (test : Status → Bool) => do return .ok (← fileTest call operand test)
  match String.ofList operator with
  | "-z" => return .ok operand.isEmpty
  | "-n" => return .ok (!operand.isEmpty)
  | "-t" => return (number operand).map fun _ => false
  | "-x" => file Status.isExecutable
  | "-f" => file fun s => match s.node with
      | .file _ => true
      | _ => false
  | "-d" => file fun s => s.node = .directory
  | "-c" => file fun s => match s.node with
      | .device _ => true
      | _ => false
  | "-p" => file fun s => match s.node with
      | .pipe _ => true
      | _ => false
  | "-b" | "-S" => return .ok false
  | "-u" => file fun s => s.mode &&& 0o4000 != 0
  | "-g" => file fun s => s.mode &&& 0o2000 != 0
  | "-k" => file fun s => s.mode &&& 0o1000 != 0
  | "-s" => file fun s => s.size != 0
  | "-h" | "-L" => return .ok (← isLink operand)
  | _ => file fun _ => true

/-- The value of an operator on two operands. -/
def binary (call : Call) (a operator b : Raw) : Job (Except Raw Bool) := do
  let numbers := fun (compare : Int → Int → Bool) => do
    return compare (← number a) (← number b)
  let files := fun (compare : Status → Status → Bool) => do
    match ← call.status a, ← call.status b with
    | .ok a, .ok b => return .ok (compare a b)
    | _, _ => return .ok false
  match String.ofList operator with
  | "=" => return .ok (a = b)
  | "!=" => return .ok (a != b)
  | "<" => return .ok (!Raw.precedes b a)
  | ">" => return .ok (!Raw.precedes a b)
  | "-eq" => return numbers (· == ·)
  | "-ne" => return numbers (· != ·)
  | "-ge" => return numbers (· ≥ ·)
  | "-gt" => return numbers (· > ·)
  | "-le" => return numbers (· ≤ ·)
  | "-lt" => return numbers (· < ·)
  | "-nt" => files fun a b => b.time < a.time
  | "-ot" => files fun a b => a.time < b.time
  | _ => files Status.isSame

/-! ## Reading conditions

Each reader starts at the first argument that is left and ends before the last one that it used. -/

/-- What a reader of a condition does. -/
abbrev Asking := ExceptT Raw Job (Bool × List Raw)

def expectOperand {α : Type} (operator : Raw) : ExceptT Raw Job α :=
  throw (operator ++ Raw.ofText ": argument expected")

mutual

/-- Reads conditions joined by `-o`. -/
def readOr (call : Call) : (fuel : Nat) → List Raw → Asking
  | 0, args => return (false, args)
  | fuel + 1, args => do
      let (first, rest) ← readAnd call fuel args
      if token (rest.drop 1) = .or then
        let (second, rest) ← readOr call fuel (rest.drop 2)
        return (first || second, rest)
      return (first, rest)

/-- Reads conditions joined by `-a`. -/
def readAnd (call : Call) : (fuel : Nat) → List Raw → Asking
  | 0, args => return (false, args)
  | fuel + 1, args => do
      let (first, rest) ← readNot call fuel args
      if token (rest.drop 1) = .and then
        let (second, rest) ← readAnd call fuel (rest.drop 2)
        return (first && second, rest)
      return (first, rest)

def readNot (call : Call) : (fuel : Nat) → List Raw → Asking
  | 0, args => return (false, args)
  | fuel + 1, args => do
      if token args != .not then return ← readPrimary call fuel args
      if args.length = 1 then return (true, args)
      let (value, rest) ← readNot call fuel (args.drop 1)
      return (!value, rest)

def readPrimary (call : Call) : (fuel : Nat) → List Raw → Asking
  | 0, args => return (false, args)
  | fuel + 1, args => do
      match token args, args with
      | .open, _ :: rest => do
          if token rest = .close then return (false, rest)
          let (value, rest) ← readOr call fuel rest
          if token (rest.drop 1) != .close then throw (Raw.ofText "closing paren expected")
          return (value, rest.drop 1)
      | .unary, operator :: rest =>
          match rest with
          | [] => expectOperand operator
          | operand :: _ => return (← unary call operator operand, rest)
      | _, arg :: rest =>
          match token rest, rest with
          | .binary, [operator] => expectOperand operator
          | .binary, operator :: operand :: more =>
              return (← binary call arg operator operand, operand :: more)
          | _, _ => return (!arg.isEmpty, args)
      | _, [] => return (false, [])

end

/-- The value of a condition, as few arguments make it clear. -/
def holds (call : Call) (negated : Bool) (args : List Raw) : ExceptT Raw Job Bool := do
  let whole := fun (args : List Raw) => do
    let (value, rest) ← readOr call (4 * args.length + 8) args
    if let arg :: _ :: _ := rest then
      throw (if arg.isEmpty then Raw.ofText "unexpected operator"
        else arg ++ Raw.ofText ": unexpected operator")
    return value != negated
  match args with
  | [] => return negated
  | [a, operator, b] =>
      if isBinary operator then return (← binary call a operator b) != negated
      if a = ['('] && b = [')'] then return ← whole [operator]
      if a = ['!'] then return !(← holds call negated [operator, b])
      whole args
  | [a, b, c, d] =>
      if a = ['('] && d = [')'] then return ← whole [b, c]
      if a = ['!'] then return !(← holds call negated [b, c, d])
      whole args
  | args => whole args
termination_by args.length

/-- The value of the condition that a call asks for by its arguments, or a complaint. -/
def ofCall (call : Call) (brackets : Bool) : Job (Except Raw Bool) :=
  if !brackets then (holds call false call.args).run
  else if call.args.getLast? = some [']'] then (holds call false call.args.dropLast).run
  else return .error (Raw.ofText "missing ]")

end ShaderLiterals.Programs.Condition
