import ShaderLiterals.Programs.Awk.Rule
import ShaderLiterals.Programs.Decimal

/-!
# Tokens of record scripts

A slash starts a regular expression unless it can divide what stands before it.
-/

namespace ShaderLiterals.Programs.Awk

inductive Token where
  | number (x : Float)
  | text (s : Raw)
  | regex (s : Raw)
  | name (s : Raw)
  /-- A name with a parenthesis directly after it. -/
  | call (s : Raw)
  | keyword (s : String)
  /-- The name of a function that every script has. -/
  | builtin (s : String)
  | sign (s : String)
  | newline
  | finish

/-- A token, the line it stands in, and how it is written. -/
structure Lexeme where
  token : Token
  line : Nat
  shown : Raw

namespace Token

def keywords : List String :=
  ["BEGIN", "END", "function", "if", "else", "while", "for", "do", "break", "continue", "next",
    "nextfile", "exit", "return", "delete", "in", "getline", "print", "printf"]

def builtins : List String :=
  ["length", "substr", "index", "split", "sub", "gsub", "match", "sprintf", "sin", "cos", "atan2",
    "exp", "log", "sqrt", "int", "rand", "srand", "tolower", "toupper", "system", "close", "fflush",
    "strftime", "mktime", "systime"]

/-- The signs; one that begins with another one comes first. -/
def signs : List String :=
  ["&&", "||", "==", "!=", ">=", "<=", "++", "--", "+=", "-=", "*=", "/=", "%=", "^=", ">>", "!~",
    "\x7b", "\x7d", "(", ")", "[", "]", ";", ",", "+", "-", "*", "/", "%", "^", "!", ">", "<", "=",
    "|", "?", ":", "~", "$"]

/-- Whether a slash after the token divides. -/
def isDivided : Token → Bool
  | number _ | text _ | regex _ | name _ | builtin _ => true
  | sign s => [")", "]", "$", "++", "--"].contains s
  | _ => false

/-- The token that letters spell; `isCalled` tells whether a parenthesis follows. -/
def ofLetters (letters : Raw) (isCalled : Bool) : Token :=
  let word := String.ofList letters
  if keywords.contains word then keyword word
  else if word = "func" then keyword "function"
  else if builtins.contains word then builtin word
  else if isCalled then call letters
  else name letters

/-- Reads a text up to its closing quote; what was read stands in front, the last character
first. -/
def readText (before : Raw) : (fuel : Nat) → Raw → Option (Raw × Raw)
  | 0, _ | _, [] | _, '\n' :: _ => none
  | _, '"' :: rest => some (before.reverse, rest)
  | fuel + 1, '\\' :: '\n' :: rest => readText before fuel rest
  | fuel + 1, '\\' :: 'x' :: d :: rest =>
      let digits := ((d :: rest).take 2).takeWhile (Digits.isDigit 16)
      match Digits.number? 16 digits with
      | some n =>
          if digits.isEmpty then readText ('x' :: '\\' :: before) fuel (d :: rest)
          else readText (Raw.byte n :: before) fuel ((d :: rest).drop digits.length)
      | none => readText ('x' :: '\\' :: before) fuel (d :: rest)
  | fuel + 1, '\\' :: c :: rest =>
      let digits := ((c :: rest).take 3).takeWhile (Digits.isDigit 8)
      if !digits.isEmpty then
        readText (Raw.byte ((Digits.number? 8 digits).getD 0) :: before) fuel
          ((c :: rest).drop digits.length)
      else if c = '"' || c = '\\' then readText (c :: before) fuel rest
      else if c = 'b' then readText ('\x08' :: before) fuel rest
      else
        match Raw.control? c with
        | some control => readText (control :: before) fuel rest
        | none => readText (c :: '\\' :: before) fuel rest
  | fuel + 1, c :: rest => readText (c :: before) fuel rest

/-- Reads a regular expression up to the slash that closes it. -/
def readRegex (before : Raw) (inBrackets : Bool) : Raw → Option (Raw × Raw)
  | [] | '\n' :: _ => none
  | '\\' :: '/' :: rest => readRegex ('/' :: before) inBrackets rest
  | '\\' :: c :: rest => readRegex (c :: '\\' :: before) inBrackets rest
  | '/' :: rest =>
      if inBrackets then readRegex ('/' :: before) inBrackets rest else some (before.reverse, rest)
  | '[' :: ']' :: rest =>
      if inBrackets then readRegex (']' :: '[' :: before) false rest
      else readRegex (']' :: '[' :: before) true rest
  | '[' :: '^' :: ']' :: rest =>
      readRegex (']' :: '^' :: '[' :: before) true rest
  | c :: rest =>
      readRegex (c :: before) (if c = '[' then true else if c = ']' then false else inBrackets) rest

def isLetter (c : Char) : Bool := c.isAlpha || c = '_'

/-- The number that a text begins with, in decimal digits, and the rest. -/
def readNumber (text : Raw) : Float × Raw :=
  if "0x".toList.isPrefixOf text then (0, text.drop 1)
  else (Decimal.read? text).getD (0, text.drop 1)

/-- The first token of a text that begins with no blank, comment or newline, and the rest. -/
def first (before : Token) (script : Raw) : Except Raw (Token × Raw) :=
  match script with
  | [] => .ok (finish, [])
  | c :: rest =>
      let line := script.takeWhile (· != '\n')
      if c = '"' then
        match readText [] (rest.length + 1) rest with
        | some (s, rest) => .ok (Token.text s, rest)
        | none => .error (Raw.ofText "runaway string constant " ++ line ++ Raw.ofText " ...")
      else if c = '/' && !before.isDivided then
        match readRegex [] false rest with
        | some (s, rest) => .ok (regex s, rest)
        | none => .error (Raw.ofText "runaway regular expression " ++ line ++ Raw.ofText " ...")
      else if c.isDigit || c = '.' && rest.head?.any Char.isDigit then
        let (x, rest) := readNumber script
        .ok (number x, rest)
      else if isLetter c then
        let letters := script.takeWhile fun c => isLetter c || c.isDigit
        let rest := script.drop letters.length
        .ok (ofLetters letters (rest.head? = some '('), rest)
      else
        match signs.find? fun s => s.toList.isPrefixOf script with
        | some s => .ok (sign s, script.drop s.length)
        | none => .error (Raw.ofText "unexpected character '" ++ [c, '\''])

/-- A script without what stands before its next token, and how many lines were passed. -/
def passBlanks : (fuel : Nat) → Raw → Nat × Raw
  | 0, rest => (0, rest)
  | fuel + 1, '\\' :: '\n' :: rest =>
      let (n, rest) := passBlanks fuel rest
      (n + 1, rest)
  | fuel + 1, '\\' :: '\r' :: '\n' :: rest =>
      let (n, rest) := passBlanks fuel rest
      (n + 1, rest)
  | fuel + 1, c :: rest =>
      if c = ' ' || c = '\t' || c = '\r' then passBlanks fuel rest
      else if c = '#' then passBlanks fuel (rest.dropWhile (· != '\n'))
      else (0, c :: rest)
  | _, [] => (0, [])

/-- The tokens of a script; at most `fuel` of them. -/
def readAll : (fuel : Nat) → (line : Nat) → (before : Token) → Raw →
    Except ScriptFault (List Lexeme)
  | 0, line, _, _ => .ok [⟨finish, line, []⟩]
  | fuel + 1, line, before, script =>
      let (passed, script) := passBlanks script.length script
      let line := line + passed
      match script with
      | [] => .ok [⟨finish, line + 1, []⟩]
      | '\n' :: rest =>
          (readAll fuel (line + 1) newline rest).map (⟨newline, line, []⟩ :: ·)
      | script =>
          match first before script with
          | .error fault => .error ⟨line, "unexpected".toList.isPrefixOf fault, fault⟩
          | .ok (token, rest) =>
              let shown := script.take (script.length - rest.length)
              (readAll fuel line token rest).map (⟨token, line, shown⟩ :: ·)

/-- The tokens of a whole script. -/
def ofRaw (text : Raw) : Except ScriptFault (List Lexeme) :=
  readAll (text.length + 2) 1 newline text

end Token

end ShaderLiterals.Programs.Awk
