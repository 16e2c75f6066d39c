import ShaderLiterals.Programs.Awk.Token

/-!
# Reading record scripts

Expressions are read by their levels: the operators of a level join what the next level reads.
-/

namespace ShaderLiterals.Programs.Awk

/-- Where a reader stands. -/
structure Reading where
  rest : List Lexeme
  /-- How many loops are open, and how many braces. -/
  loops : Nat
  braces : Nat
  inFunction : Bool
  /-- Whether the action belongs to records. -/
  onRecords : Bool

abbrev Reader := StateT Reading (Except ScriptFault)

namespace Reader

def peek : Reader Token := do
  match (← get).rest with
  | [] => return .finish
  | lexeme :: _ => return lexeme.token

def advance : Reader Unit :=
  modify fun r => { r with rest := r.rest.drop 1 }

/-- What an unexpected token is called in a complaint. -/
def described (lexeme : Lexeme) : Raw :=
  match lexeme.token with
  | .newline => Raw.ofText "syntax error at or near end of line"
  | .finish => Raw.ofText "missing \x7d near end of file"
  | .sign ")" => Raw.ofText "extra ')'"
  | .sign "\x7d" => Raw.ofText "syntax error at or near \x7d"
  | _ => Raw.ofText "syntax error at or near " ++ lexeme.shown

/-- Gives up because of the next token. -/
def unexpected {α : Type} (isOpen : Bool) : Reader α := do
  let lexeme := (← get).rest.headD ⟨.finish, 1, []⟩
  let isInside := decide (0 < (← get).braces)
  let (line, text) :=
    match lexeme.token, isOpen, isInside with
    | .sign ")", true, _ => (lexeme.line, Raw.ofText "syntax error at or near )")
    | .finish, _, false => (lexeme.line - 1, Raw.ofText "syntax error at or near end of line")
    | _, _, _ => (lexeme.line, described lexeme)
  throw ⟨line, false, text⟩

/-- Gives up with a text. -/
def fail {α : Type} (text : String) : Reader α := do
  let line := ((← get).rest.head?.map Lexeme.line).getD 1
  throw ⟨line, false, Raw.ofText text⟩

/-- Whether a sign comes next. -/
def sees (s : String) : Reader Bool := do
  match ← peek with
  | .sign t => return s = t
  | _ => return false

def seesWord (s : String) : Reader Bool := do
  match ← peek with
  | .keyword t => return s = t
  | _ => return false

/-- Passes a sign if it comes next. -/
def passes (s : String) : Reader Bool := do
  let found ← sees s
  if found then advance
  return found

def passesWord (s : String) : Reader Bool := do
  let found ← seesWord s
  if found then advance
  return found

/-- Passes a sign that has to come. -/
def expect (s : String) : Reader Unit := do
  unless ← passes s do unexpected true

/-- Passes newlines. -/
def passNewlines : Reader Unit :=
  modify fun r => { r with
    rest := r.rest.dropWhile fun lexeme =>
      match lexeme.token with
      | .newline => true
      | _ => false }

/-- Passes newlines and semicolons. -/
def passEnds : Reader Unit :=
  modify fun r => { r with
    rest := r.rest.dropWhile fun lexeme =>
      match lexeme.token with
      | .newline | .sign ";" => true
      | _ => false }

/-! ## Operators -/

/-- The operator of an assignment. -/
def assignment? : Token → Option (Option Operator)
  | .sign "=" => some none
  | .sign "+=" => some (some .add)
  | .sign "-=" => some (some .subtract)
  | .sign "*=" => some (some .multiply)
  | .sign "/=" => some (some .divide)
  | .sign "%=" => some (some .remainder)
  | .sign "^=" => some (some .power)
  | _ => none

def comparison? (noGreater : Bool) : Token → Option Comparison
  | .sign "<" => some .less
  | .sign "<=" => some .lessOrEqual
  | .sign "==" => some .equal
  | .sign "!=" => some .unequal
  | .sign ">" => if noGreater then none else some .greater
  | .sign ">=" => some .greaterOrEqual
  | _ => none

/-- Whether an operand can begin with the token that is joined to the one before it. -/
def isJoined : Token → Bool
  | .number _ | .text _ | .name _ | .call _ | .builtin _ => true
  | .sign s => s = "$" || s = "("
  | _ => false

/-- The fewest and the most arguments of the functions that every script has. -/
def argumentCount : String → Nat × Nat
  | "length" => (0, 1)
  | "substr" => (2, 3)
  | "index" | "atan2" => (2, 2)
  | "split" | "sub" | "gsub" => (2, 3)
  | "match" => (2, 2)
  | "sprintf" => (1, 1000)
  | "rand" | "systime" => (0, 0)
  | "srand" | "fflush" => (0, 1)
  | "strftime" => (0, 3)
  | _ => (1, 1)

def isTarget : Expr → Bool
  | .name _ | .item .. | .field _ => true
  | _ => false

/-- What two operands of an operator of a level make, if the token is one. -/
def joinAt? (level : Nat) (noGreater : Bool) (token : Token) : Option (Expr → Expr → Expr) :=
  match level, token with
  | 1, .sign "||" => some .either
  | 2, .sign "&&" => some .both
  | 4, .sign "~" => some (.hits true)
  | 4, .sign "!~" => some (.hits false)
  | 5, token => (comparison? noGreater token).map fun c => .compare c
  | 7, .sign "+" => some (.calculate .add)
  | 7, .sign "-" => some (.calculate .subtract)
  | 8, .sign "*" => some (.calculate .multiply)
  | 8, .sign "/" => some (.calculate .divide)
  | 8, .sign "%" => some (.calculate .remainder)
  | _, _ => none

/-- The level of operators that bind more than all others. -/
def topLevel : Nat := 9

mutual

/-- Reads an expression; a greater sign is no operator if `noGreater`, and `in` is none if
`noIn`. -/
def readExpr (noGreater noIn : Bool) : (fuel : Nat) → Reader Expr
  | 0 => fail "expression too deep"
  | fuel + 1 => do
      let left ← readLevel noGreater noIn fuel 1
      match assignment? (← peek) with
      | some op =>
          if !isTarget left then unexpected false
          advance
          passNewlines
          return .assign op left (← readExpr noGreater noIn fuel)
      | none =>
          if !(← passes "?") then return left
          passNewlines
          let yes ← readExpr noGreater noIn fuel
          passNewlines
          expect ":"
          passNewlines
          return .choose left yes (← readExpr noGreater noIn fuel)

/-- Reads an expression of a level. -/
def readLevel (noGreater noIn : Bool) : (fuel : Nat) → (level : Nat) → Reader Expr
  | 0, _ => fail "expression too deep"
  | fuel + 1, level => do
      if topLevel ≤ level then readUnary noGreater noIn fuel
      else readMore noGreater noIn fuel level (← readLevel noGreater noIn fuel (level + 1))

/-- Reads what is joined to an expression by the operators of a level. -/
def readMore (noGreater noIn : Bool) : (fuel : Nat) → (level : Nat) → Expr → Reader Expr
  | 0, _, _ => fail "expression too deep"
  | fuel + 1, level, left => do
      let token ← peek
      match level, joinAt? level noGreater token with
      | _, some make => do
          advance
          if level ≤ 2 then passNewlines
          let right ← readLevel noGreater noIn fuel (level + 1)
          readMore noGreater noIn fuel level (make left right)
      | 3, none => do
          if noIn || !(← passesWord "in") then return left
          match ← peek with
          | .name array => do
              advance
              readMore noGreater noIn fuel level (.member [left] array)
          | _ => unexpected false
      | 6, none => do
          if !isJoined token then return left
          let right ← readLevel noGreater noIn fuel 7
          readMore noGreater noIn fuel level (.join left right)
      | _, none => return left

/-- Reads an operand with signs before it. -/
def readUnary (noGreater noIn : Bool) : (fuel : Nat) → Reader Expr
  | 0 => fail "expression too deep"
  | fuel + 1 => do
      if ← passes "!" then return .not (← readUnary noGreater noIn fuel)
      if ← passes "-" then return .negate (← readUnary noGreater noIn fuel)
      if ← passes "+" then return .plus (← readUnary noGreater noIn fuel)
      let base ← readPostfix noGreater noIn fuel
      if ← passes "^" then
        return .calculate .power base (← readUnary noGreater noIn fuel)
      return base

/-- Reads an operand with what may stand directly after it. -/
def readPostfix (noGreater noIn : Bool) : (fuel : Nat) → Reader Expr
  | 0 => fail "expression too deep"
  | fuel + 1 => do
      let e ← readPrimary noGreater noIn fuel
      if isTarget e then
        if ← passes "++" then return ← readPiped noGreater noIn fuel (.step false true e)
        if ← passes "--" then return ← readPiped noGreater noIn fuel (.step false false e)
      readPiped noGreater noIn fuel e

/-- Reads what is read from a command. -/
def readPiped (noGreater noIn : Bool) : (fuel : Nat) → Expr → Reader Expr
  | 0, _ => fail "expression too deep"
  | fuel + 1, e => do
      match (← get).rest with
      | ⟨.sign "|", _, _⟩ :: ⟨.keyword "getline", _, _⟩ :: _ => do
          advance
          advance
          let target ← readTarget? noGreater noIn fuel
          readPiped noGreater noIn fuel (.read .command (some e) target)
      | _ => return e

/-- Reads what can be assigned to, if that comes next. -/
def readTarget? (noGreater noIn : Bool) : (fuel : Nat) → Reader (Option Expr)
  | 0 => fail "expression too deep"
  | fuel + 1 => do
      match ← peek with
      | .name _ | .sign "$" => return some (← readPrimary noGreater noIn fuel)
      | _ => return none

/-- Reads expressions between commas. -/
def readList (noGreater : Bool) : (fuel : Nat) → Reader (List Expr)
  | 0 => fail "expression too deep"
  | fuel + 1 => do
      let first ← readExpr noGreater false fuel
      if ← passes "," then
        passNewlines
        return first :: (← readList noGreater fuel)
      return [first]

/-- Reads arguments between parentheses. -/
def readArgs : (fuel : Nat) → Reader (List Expr)
  | 0 => fail "expression too deep"
  | fuel + 1 => do
      expect "("
      if ← passes ")" then return []
      passNewlines
      let args ← readList false fuel
      passNewlines
      expect ")"
      return args

/-- Reads an operand without operators. -/
def readPrimary (noGreater noIn : Bool) : (fuel : Nat) → Reader Expr
  | 0 => fail "expression too deep"
  | fuel + 1 => do
      match ← peek with
      | .number x => do advance; return .number x
      | .text s => do advance; return .text s
      | .regex s => do advance; return .regex s
      | .call name => do advance; return .call name (← readArgs fuel)
      | .name name => do
          advance
          if ← passes "[" then
            let keys ← readList false fuel
            expect "]"
            return .item name keys
          return .name name
      | .builtin name => do
          advance
          let args ← if name = "length" && !(← sees "(") then pure [] else readArgs fuel
          let (least, most) := argumentCount name
          if args.length < least || most < args.length then
            fail s!"wrong number of arguments in call to {name}"
          return .builtin name args
      | .keyword "getline" => do
          advance
          let target ← readTarget? noGreater noIn fuel
          if ← passes "<" then
            return .read .file (some (← readPrimary noGreater noIn fuel)) target
          return .read .operands none target
      | .sign "$" => do
          advance
          if ← passes "-" then return .field (.negate (← readPrimary noGreater noIn fuel))
          if ← passes "++" then return .field (.step true true (← readPrimary noGreater noIn fuel))
          if ← passes "--" then return .field (.step true false (← readPrimary noGreater noIn fuel))
          return .field (← readPrimary noGreater noIn fuel)
      | .sign "++" => do
          advance
          return .step true true (← readPrimary noGreater noIn fuel)
      | .sign "--" => do
          advance
          return .step true false (← readPrimary noGreater noIn fuel)
      | .sign "(" => do
          match ← readArgs fuel with
          | [] => unexpected false
          | [e] => return .group e
          | keys => do
              unless ← passesWord "in" do unexpected false
              match ← peek with
              | .name array => do advance; return .member keys array
              | _ => unexpected false
      | _ => unexpected false

end

/-- How deep expressions may be nested. -/
def depth : Nat := 100000

/-- Reads an expression. -/
def expr : Reader Expr := readExpr false false depth

/-- Reads an expression between parentheses. -/
def condition : Reader Expr := do
  expect "("
  let e ← expr
  expect ")"
  return e

/-! ## Actions -/

/-- Whether the arguments of a print end here. -/
def seesPrintEnd : Reader Bool := do
  match ← peek with
  | .newline | .finish => return true
  | .sign s => return [";", "\x7d", ">", ">>", "|"].contains s
  | _ => return false

/-- Reads the arguments of a print, which may all stand between parentheses. -/
def printArgs : Reader (List Expr) := do
  if ← seesPrintEnd then return []
  let before ← get
  let bracketed : Option (List Expr) :=
    match (do
        let args ← readArgs depth
        if ← seesPrintEnd then return some args else return none : Reader _).run before with
    | .ok (some args, _) => some args
    | _ => none
  match bracketed with
  | some args =>
      discard <| readArgs depth
      return args
  | none => readList true depth

/-- Reads where a print goes. -/
def outlet? : Reader (Option (Outlet × Expr)) := do
  let outlet : Option Outlet :=
    match ← peek with
    | .sign ">" => some .file
    | .sign ">>" => some .fileEnd
    | .sign "|" => some .command
    | _ => none
  match outlet with
  | none => return none
  | some outlet => do
      advance
      return some (outlet, ← readLevel true false depth 6)

/-- Reads an action that is no block, loop or choice. -/
def simple : Reader Action := do
  match ← peek with
  | .keyword "print" => do
      advance
      let args ← printArgs
      return .print false args (← outlet?)
  | .keyword "printf" => do
      advance
      let args ← printArgs
      if args.isEmpty then fail "no arguments in call to printf"
      return .print true args (← outlet?)
  | .keyword "break" => do
      if (← get).loops = 0 then fail "break statement outside of loop"
      advance
      return .leave
  | .keyword "continue" => do
      if (← get).loops = 0 then fail "continue statement outside of loop"
      advance
      return .again
  | .keyword "next" => do
      unless (← get).onRecords do fail "improper use of next"
      advance
      return .next
  | .keyword "nextfile" => do
      unless (← get).onRecords do fail "improper use of nextfile"
      advance
      return .nextFile
  | .keyword "exit" => do advance; return .exit (← value?)
  | .keyword "return" => do
      unless (← get).inFunction do fail "return outside function body"
      advance
      return .back (← value?)
  | .keyword "delete" => do
      advance
      match ← peek with
      | .name array => do
          advance
          if ← passes "[" then
            let keys ← readList false depth
            expect "]"
            return .delete array (some keys)
          return .delete array none
      | _ => unexpected false
  | _ => return .eval (← expr)
where
  /-- Reads an expression if one comes. -/
  value? : Reader (Option Expr) := do
    if ← seesPrintEnd then return none
    return some (← expr)

/-- Passes the end of a simple action. -/
def passEnd : Reader Unit := do
  match ← peek with
  | .newline | .sign ";" => advance
  | .sign "\x7d" | .finish => return
  | _ => unexpected false

/-- Does something inside of a loop. -/
def inLoop (body : Reader Action) : Reader Action := do
  modify fun r => { r with loops := r.loops + 1 }
  let action ← body
  modify fun r => { r with loops := r.loops - 1 }
  return action

/-- Reads the head of a loop over the keys of an array. -/
def keysHead? : Reader (Option (Raw × Raw)) := do
  match (← get).rest with
  | ⟨.sign "(", _, _⟩ :: ⟨.name name, _, _⟩ :: ⟨.keyword "in", _, _⟩ :: ⟨.name array, _, _⟩ ::
      ⟨.sign ")", _, _⟩ :: rest => do
      modify ({ · with rest := rest })
      return some (name, array)
  | _ => return none

/-- Reads the head of a loop. -/
def loopHead : Reader (Action × Option Expr × Action) := do
  expect "("
  let first ← if ← sees ";" then pure .nothing else simple
  expect ";"
  passNewlines
  let condition ← if ← sees ";" then pure none else some <$> expr
  expect ";"
  passNewlines
  let last ← if ← sees ")" then pure .nothing else simple
  expect ")"
  return (first, condition, last)

mutual

/-- Reads an action. -/
def readAction : (fuel : Nat) → Reader Action
  | 0 => fail "action too deep"
  | fuel + 1 => do
      match ← peek with
      | .sign "\x7b" => readBlock fuel
      | .sign ";" => do advance; return .nothing
      | .keyword "if" => do
          advance
          let e ← condition
          passNewlines
          let yes ← readAction fuel
          let before ← get
          passEnds
          if ← passesWord "else" then
            passNewlines
            return .branch e yes (← readAction fuel)
          set before
          return .branch e yes .nothing
      | .keyword "while" => do
          advance
          let e ← condition
          if ← passes ";" then return .repeatWhile e .nothing
          passNewlines
          return .repeatWhile e (← inLoop (readAction fuel))
      | .keyword "do" => do
          advance
          passNewlines
          let body ← inLoop (readAction fuel)
          passEnds
          unless ← passesWord "while" do unexpected false
          let e ← condition
          passEnd
          return .repeatAfter body e
      | .keyword "for" => do
          advance
          match ← keysHead? with
          | some (name, array) => do
              passNewlines
              return .loopKeys name array (← inLoop (readAction fuel))
          | none => do
              let (first, condition, last) ← loopHead
              if ← passes ";" then return .loop first condition last .nothing
              passNewlines
              return .loop first condition last (← inLoop (readAction fuel))
      | _ => do
          let action ← simple
          passEnd
          return action

/-- Reads actions between braces. -/
def readBlock : (fuel : Nat) → Reader Action
  | 0 => fail "action too deep"
  | fuel + 1 => do
      expect "\x7b"
      modify fun r => { r with braces := r.braces + 1 }
      let action ← readActions fuel
      modify fun r => { r with braces := r.braces - 1 }
      return action

/-- Reads actions up to a closing brace. -/
def readActions : (fuel : Nat) → Reader Action
  | 0 => fail "action too deep"
  | fuel + 1 => do
      passEnds
      if ← passes "\x7d" then return .nothing
      let first ← readAction fuel
      return .sequence first (← readActions fuel)

end

/-- Reads actions between braces. -/
def block : Reader Action := readBlock depth

/-! ## Rules -/

/-- Reads the names of parameters. -/
def parameters : (fuel : Nat) → Reader (List Raw)
  | 0 => unexpected true
  | fuel + 1 => do
      match ← peek with
      | .name name => do
          advance
          if ← passes "," then
            passNewlines
            return name :: (← parameters fuel)
          expect ")"
          return [name]
      | .sign ")" => do advance; return []
      | _ => unexpected true

/-- Reads a function after its first word. -/
def function (known : List Function) : Reader Function := do
  let name ←
    match ← peek with
    | .name name | .call name => pure name
    | _ => unexpected false
  if known.any (·.name = name) then
    fail s!"redefinition of {Raw.toText name}"
  advance
  expect "("
  let parameters ← parameters (← get).rest.length
  passNewlines
  modify ({ · with inFunction := true, onRecords := true })
  let body ← block
  modify ({ · with inFunction := false })
  return ⟨name, parameters, body⟩

/-- Reads an action that may be left out; the record is printed then. -/
def ruleAction (condition : Condition) : Reader Rule := do
  if ← sees "\x7b" then return ⟨condition, ← block⟩
  passEnd
  return ⟨condition, .print false [] none⟩

/-- Reads a rule. -/
def rule : Reader Rule := do
  modify ({ · with onRecords := true })
  match ← peek with
  | .keyword "BEGIN" => do
      advance
      modify ({ · with onRecords := false })
      return ⟨.begin, ← block⟩
  | .keyword "END" => do
      advance
      modify ({ · with onRecords := false })
      return ⟨.finish, ← block⟩
  | .sign "\x7b" => return ⟨.always, ← block⟩
  | .sign "\x7d" => do
      let line := ((← get).rest.head?.map Lexeme.line).getD 1
      fail s!"extra '\x7d'\nawk: line {line}: syntax error at or near end of line"
  | _ => do
      let first ← expr
      if ← passes "," then
        passNewlines
        ruleAction (.span first (← expr))
      else ruleAction (.when first)

/-- Reads rules and functions to the end; at most `fuel` of them. -/
def readScript : (fuel : Nat) → Script → Reader Script
  | 0, script => return script
  | fuel + 1, script => do
      passNewlines
      match ← peek with
      | .finish => return script
      | .keyword "function" => do
          advance
          let f ← function script.functions
          discard <| passes ";"
          readScript fuel { script with functions := script.functions ++ [f] }
      | _ => do
          let r ← rule
          discard <| passes ";"
          readScript fuel { script with rules := script.rules ++ [r] }

end Reader

/-- What is wrong with the names of functions and the regular expressions among tokens. -/
def tokenFault? (script : Script) (last : Nat) (lexemes : List Lexeme) : Option ScriptFault :=
  lexemes.findSome? fun lexeme =>
    match lexeme.token with
    | .call name =>
        if script.functions.any (·.name = name) then none
        else some ⟨last, false, Raw.ofText "function " ++ name ++ Raw.ofText " never defined"⟩
    | .regex s => (regexFault? s).map (⟨lexeme.line, false, ·⟩)
    | _ => none

/-- The script that a text spells. -/
def Script.read (text : Raw) : Except ScriptFault Script := do
  let lexemes ← Token.ofRaw text
  let reader := Reader.readScript (lexemes.length + 1) ⟨[], []⟩
  let (script, _) ← reader.run ⟨lexemes, 0, 0, false, true⟩
  match tokenFault? script ((lexemes.getLast?.map Lexeme.line).getD 1) lexemes with
  | some fault => throw fault
  | none => return script

end ShaderLiterals.Programs.Awk
