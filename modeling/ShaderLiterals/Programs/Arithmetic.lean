import ShaderLiterals.Programs.Raw

/-!
# Arithmetic on whole numbers

Numbers have 64 bits and wrap around.  Expressions have the operators of `Operator.levels`,
conditionals, and assignments to names; names stand for the numbers that variables hold.
-/

namespace ShaderLiterals.Programs

namespace Arithmetic

/-- The operators on two numbers. -/
inductive Operator where
  | multiply | divide | remainder | add | subtract | shiftLeft | shiftRight
  | less | atMost | greater | atLeast | equal | different
  | bitAnd | bitXor | bitOr
deriving DecidableEq

def ofBool (b : Bool) : Int64 := if b then 1 else 0

namespace Operator

/-- The spellings of the operators, level by level; the last level binds most. -/
def levels : List (List (String × Operator)) :=
  [[("|", bitOr)], [("^", bitXor)], [("&", bitAnd)], [("==", equal), ("!=", different)],
    [("<=", atMost), (">=", atLeast), ("<", less), (">", greater)],
    [("<<", shiftLeft), (">>", shiftRight)], [("+", add), ("-", subtract)],
    [("*", multiply), ("/", divide), ("%", remainder)]]

/-- The operators that an assignment may apply first. -/
def assigning : List (String × Operator) :=
  [("*=", multiply), ("/=", divide), ("%=", remainder), ("+=", add), ("-=", subtract),
    ("<<=", shiftLeft), (">>=", shiftRight), ("&=", bitAnd), ("^=", bitXor), ("|=", bitOr)]

/-- The value of an operator; there is none for a division by zero. -/
def compute? (a b : Int64) : Operator → Option Int64
  | multiply => some (a * b)
  | divide => if b = 0 then none else some (a / b)
  | remainder => if b = 0 then none else some (a % b)
  | add => some (a + b)
  | subtract => some (a - b)
  | shiftLeft => some (a <<< b)
  | shiftRight => some (a >>> b)
  | less => some (ofBool (a < b))
  | atMost => some (ofBool (a ≤ b))
  | greater => some (ofBool (b < a))
  | atLeast => some (ofBool (b ≤ a))
  | equal => some (ofBool (a == b))
  | different => some (ofBool (a != b))
  | bitAnd => some (a &&& b)
  | bitXor => some (a ^^^ b)
  | bitOr => some (a ||| b)

end Operator

inductive Expression where
  | number (n : Int64)
  | name (name : Raw)
  | negate (e : Expression)
  | complement (e : Expression)
  | not (e : Expression)
  | binary (operator : Operator) (a b : Expression)
  | and (a b : Expression)
  | or (a b : Expression)
  | conditional (condition yes no : Expression)
  /-- The name gets the value, to which an operator may be applied first. -/
  | assign (name : Raw) (operator : Option Operator) (e : Expression)

/-! ## Reading -/

/-- The largest number. -/
def largest : Nat := 9223372036854775807

/-- The number that a text begins with, in base ten, eight or sixteen, and the rest. -/
def number? (text : Raw) : Option (Nat × Raw) :=
  let read := fun (base : Nat) (text : Raw) =>
    let digits := text.takeWhile (Digits.isDigit base)
    (((Digits.number? base digits).getD 0), text.drop digits.length)
  match text with
  | '0' :: 'x' :: d :: rest | '0' :: 'X' :: d :: rest =>
      if Digits.isDigit 16 d then some (read 16 (d :: rest)) else some (0, text.drop 1)
  | '0' :: _ => some (read 8 text)
  | d :: _ => if d.isDigit then some (read 10 text) else none
  | [] => none

/-- A text without the blanks at its start. -/
def trim (text : Raw) : Raw :=
  text.dropWhile fun c => c == ' ' || c == '\t' || c == '\n'

/-- The longer operators, with which shorter ones may not be confused. -/
def longOperators : List String :=
  ["<<=", ">>=", "||", "&&", "==", "!=", "<=", ">=", "<<", ">>", "*=", "/=", "%=", "+=", "-=",
    "&=", "^=", "|="]

/-- The operator that a text begins with, and the rest. -/
def operator? (text : Raw) : Option (String × Raw) :=
  match longOperators.findSome? fun op => (op.toList.isPrefixOf? text).map (op, ·) with
  | some found => some found
  | none =>
      match text with
      | [] => none
      | c :: rest => if c.isAlphanum || c == '_' then none else some (String.singleton c, rest)

mutual

/-- Reads an assignment or a conditional. -/
def readAssignment : (fuel : Nat) → Raw → Except String (Expression × Raw)
  | 0, _ => .error "expecting primary"
  | fuel + 1, text =>
      let text := trim text
      let name := text.takeWhile fun c => c.isAlphanum || c == '_'
      let isName := name.head?.any fun c => !c.isDigit
      let after := trim (text.drop name.length)
      match if isName then operator? after else none with
      | some ("=", rest) => (readAssignment fuel rest).map fun (e, rest) =>
          (.assign name none e, rest)
      | some (op, rest) =>
          match Operator.assigning.lookup op with
          | some operator => (readAssignment fuel rest).map fun (e, rest) =>
              (.assign name (some operator) e, rest)
          | none => readConditional fuel text
      | none => readConditional fuel text

def readConditional : (fuel : Nat) → Raw → Except String (Expression × Raw)
  | 0, _ => .error "expecting primary"
  | fuel + 1, text =>
      match readOr fuel text with
      | .error e => .error e
      | .ok (condition, rest) =>
          match operator? (trim rest) with
          | some ("?", rest) =>
              match readAssignment fuel rest with
              | .error e => .error e
              | .ok (yes, rest) =>
                  match operator? (trim rest) with
                  | some (":", rest) =>
                      (readConditional fuel rest).map fun (no, rest) =>
                        (.conditional condition yes no, rest)
                  | _ => .error "expecting ':'"
          | _ => .ok (condition, rest)

def readOr : (fuel : Nat) → Raw → Except String (Expression × Raw)
  | 0, _ => .error "expecting primary"
  | fuel + 1, text =>
      match readAnd fuel text with
      | .error e => .error e
      | .ok (first, rest) =>
          match operator? (trim rest) with
          | some ("||", rest) => (readOr fuel rest).map fun (second, rest) =>
              (.or first second, rest)
          | _ => .ok (first, rest)

def readAnd : (fuel : Nat) → Raw → Except String (Expression × Raw)
  | 0, _ => .error "expecting primary"
  | fuel + 1, text =>
      match readLevel fuel Operator.levels text with
      | .error e => .error e
      | .ok (first, rest) =>
          match operator? (trim rest) with
          | some ("&&", rest) => (readAnd fuel rest).map fun (second, rest) =>
              (.and first second, rest)
          | _ => .ok (first, rest)

/-- Reads operands joined by the operators of some levels. -/
def readLevel : (fuel : Nat) → List (List (String × Operator)) → Raw →
    Except String (Expression × Raw)
  | 0, _, _ => .error "expecting primary"
  | fuel + 1, [], text => readUnary fuel text
  | fuel + 1, level :: higher, text =>
      match readLevel fuel higher text with
      | .error e => .error e
      | .ok (first, rest) => readMore fuel level higher first rest

/-- Reads what follows a first operand; operators of one level bind to the left. -/
def readMore : (fuel : Nat) → List (String × Operator) → List (List (String × Operator)) →
    Expression → Raw → Except String (Expression × Raw)
  | 0, _, _, _, _ => .error "expecting primary"
  | fuel + 1, level, higher, first, text =>
      match (operator? (trim text)).bind fun (op, rest) => (level.lookup op).map (·, rest) with
      | none => .ok (first, text)
      | some (operator, rest) =>
          match readLevel fuel higher rest with
          | .error e => .error e
          | .ok (second, rest) => readMore fuel level higher (.binary operator first second) rest

def readUnary : (fuel : Nat) → Raw → Except String (Expression × Raw)
  | 0, _ => .error "expecting primary"
  | fuel + 1, text =>
      let text := trim text
      match operator? text with
      | some ("-", rest) => (readUnary fuel rest).map fun (e, rest) => (.negate e, rest)
      | some ("+", rest) => readUnary fuel rest
      | some ("~", rest) => (readUnary fuel rest).map fun (e, rest) => (.complement e, rest)
      | some ("!", rest) => (readUnary fuel rest).map fun (e, rest) => (.not e, rest)
      | some ("(", rest) =>
          match readAssignment fuel rest with
          | .error e => .error e
          | .ok (e, rest) =>
              match operator? (trim rest) with
              | some (")", rest) => .ok (e, rest)
              | _ => .error "expecting ')'"
      | some _ => .error "expecting primary"
      | none =>
          match number? text with
          | some (n, rest) => .ok (.number (Int64.ofNat (min n largest)), rest)
          | none =>
              let name := text.takeWhile fun c => c.isAlphanum || c == '_'
              if name.isEmpty then .error "expecting primary"
              else .ok (.name name, text.drop name.length)

end

/-- Reads a whole expression. -/
def read (text : Raw) : Except String Expression :=
  match readAssignment (32 * (text.length + 2)) text with
  | .error e => .error e
  | .ok (e, rest) => if (trim rest).isEmpty then .ok e else .error "expecting EOF"

/-! ## Evaluation -/

/-- Why an expression has no value. -/
inductive Fault where
  | divisionByZero
  /-- The value of a variable is no number. -/
  | illegalNumber (value : Raw)

/-- The number that the value of a variable spells. -/
def ofValue (value : Raw) : Except Fault Int64 :=
  let text := trim value
  if text.isEmpty then .ok 0
  else
    let (negative, digits) :=
      match text with
      | '-' :: rest => (true, rest)
      | '+' :: rest => (false, rest)
      | _ => (false, text)
    match number? digits with
    | some (n, rest) =>
        if (trim rest).isEmpty then
          let n := Int64.ofNat (min n largest)
          .ok (if negative then -n else n)
        else .error (.illegalNumber value)
    | none => .error (.illegalNumber value)

def toRaw (n : Int64) : Raw := (toString n.toInt).toList

/-- The value of an expression, with the variables as they were set last. -/
def evaluate (value? : Raw → Option Raw) :
    Expression → StateT (List (Raw × Raw)) (Except Fault) Int64
  | .number n => pure n
  | .name name => do
      let known := (← get).lookup name
      ofValue ((known.or (value? name)).getD [])
  | .negate e => do return -(← evaluate value? e)
  | .complement e => do return ~~~(← evaluate value? e)
  | .not e => do return ofBool ((← evaluate value? e) == 0)
  | .binary operator a b => do
      let a ← evaluate value? a
      let b ← evaluate value? b
      match operator.compute? a b with
      | some n => pure n
      | none => throw .divisionByZero
  | .and a b => do
      if (← evaluate value? a) == 0 then return 0
      return ofBool ((← evaluate value? b) != 0)
  | .or a b => do
      if (← evaluate value? a) != 0 then return 1
      return ofBool ((← evaluate value? b) != 0)
  | .conditional condition yes no => do
      if (← evaluate value? condition) != 0 then evaluate value? yes else evaluate value? no
  | .assign name operator e => do
      let n ← evaluate value? e
      let n ←
        match operator with
        | none => pure n
        | some operator => do
            let known := (← get).lookup name
            let old ← ofValue ((known.or (value? name)).getD [])
            match operator.compute? old n with
            | some n => pure n
            | none => throw .divisionByZero
      modify ((name, toRaw n) :: ·)
      return n

end Arithmetic

end ShaderLiterals.Programs
