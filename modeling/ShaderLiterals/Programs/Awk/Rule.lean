import ShaderLiterals.Programs.Regex.Read

/-!
# Rules about records

A script is a list of rules, each with a condition on records and an action, and of functions.
-/

namespace ShaderLiterals.Programs.Awk

inductive Operator where
  | add
  | subtract
  | multiply
  | divide
  | remainder
  | power
deriving DecidableEq

inductive Comparison where
  | less
  | lessOrEqual
  | equal
  | unequal
  | greater
  | greaterOrEqual

/-- Where a record is read from. -/
inductive Supply where
  | operands
  | file
  | command

inductive Expr where
  | number (x : Float)
  | text (s : Raw)
  /-- A regular expression, which the record is compared with. -/
  | regex (s : Raw)
  | name (name : Raw)
  | item (array : Raw) (keys : List Expr)
  | field (number : Expr)
  | group (e : Expr)
  | assign (op : Option Operator) (target value : Expr)
  /-- One more or less; the value is the new one or the old one. -/
  | step (givesNew up : Bool) (target : Expr)
  | choose (condition yes no : Expr)
  | both (a b : Expr)
  | either (a b : Expr)
  | not (e : Expr)
  | negate (e : Expr)
  | plus (e : Expr)
  | calculate (op : Operator) (a b : Expr)
  | join (a b : Expr)
  | compare (comparison : Comparison) (a b : Expr)
  | hits (wanted : Bool) (text pattern : Expr)
  | member (keys : List Expr) (array : Raw)
  | call (name : Raw) (args : List Expr)
  | builtin (name : String) (args : List Expr)
  | read (supply : Supply) (source : Option Expr) (target : Option Expr)

/-- Where text is written to. -/
inductive Outlet where
  | file
  | fileEnd
  | command

inductive Action where
  | nothing
  | eval (e : Expr)
  | print (formatted : Bool) (args : List Expr) (outlet : Option (Outlet × Expr))
  | branch (condition : Expr) (yes no : Action)
  | repeatWhile (condition : Expr) (body : Action)
  | repeatAfter (body : Action) (condition : Expr)
  | loop (first : Action) (condition : Option Expr) (last body : Action)
  | loopKeys (name array : Raw) (body : Action)
  | sequence (first second : Action)
  | leave
  | again
  | next
  | nextFile
  | exit (status : Option Expr)
  | back (value : Option Expr)
  | delete (array : Raw) (keys : Option (List Expr))

inductive Condition where
  | begin
  | finish
  | always
  | when (e : Expr)
  | span (first last : Expr)

structure Rule where
  condition : Condition
  action : Action

structure Function where
  name : Raw
  parameters : List Raw
  body : Action

structure Script where
  rules : List Rule
  functions : List Function

/-- What is wrong with a script, and in which line. -/
structure ScriptFault where
  line : Nat
  /-- Whether it is no line of a script as far as it was read. -/
  isForeign : Bool
  text : Raw

/-- What is wrong, and where. -/
def ScriptFault.message (fault : ScriptFault) : Raw :=
  (if fault.isForeign then [] else Raw.ofText "line ") ++ Raw.ofNat fault.line ++
    Raw.ofText ": " ++ fault.text

/-- A text without the set in brackets that it begins with; at most `fuel` characters are passed. -/
def passSet : (fuel : Nat) → (isFirst : Bool) → Raw → Raw
  | 0, _, rest => rest
  | _, _, [] => []
  | fuel + 1, _, '\\' :: _ :: rest => passSet fuel false rest
  | fuel + 1, _, '[' :: ':' :: rest => passSet fuel false (rest.dropWhile (· != ']') |>.drop 1)
  | fuel + 1, true, '^' :: rest => passSet fuel true rest
  | fuel + 1, isFirst, c :: rest => if c = ']' && !isFirst then rest else passSet fuel false rest

/-- Whether an operator in a regular expression lacks its operand; `depth` parentheses are open, and
an operand is expected if `expects`. -/
def lacksOperand : (fuel : Nat) → (depth : Nat) → (expects : Bool) → Raw → Bool
  | 0, depth, expects, _ | _, depth, expects, [] => expects && depth = 0
  | fuel + 1, depth, _, '\\' :: _ :: rest => lacksOperand fuel depth false rest
  | fuel + 1, depth, expects, c :: rest =>
      if c = '[' then lacksOperand fuel depth false (passSet rest.length true rest)
      else if c = '(' then lacksOperand fuel (depth + 1) true rest
      else if c = ')' && 0 < depth then expects || lacksOperand fuel (depth - 1) false rest
      else if c = '|' then expects || lacksOperand fuel depth true rest
      else if c = '*' || c = '+' || c = '?' then expects || lacksOperand fuel depth false rest
      else lacksOperand fuel depth false rest

/-- What is wrong with a regular expression. -/
def regexFault? (s : Raw) : Option Raw :=
  let complaint := fun (reason : String) =>
    some (Raw.ofText ("regular expression compile failed (" ++ reason ++ ")\n") ++ s)
  if !s.isEmpty && lacksOperand s.length 0 true s then complaint "missing operand"
  else
    match Regex.read .scripted s with
    | .ok _ => none
    | .error fault =>
        complaint <|
          if fault = "Unmatched ( or \\(" then "missing ')'"
          else if fault = Regex.unmatchedBracket then "bad class -- [], [^] or ["
          else "missing operand"

end ShaderLiterals.Programs.Awk
