import ShaderLiterals.Programs.Shell.Command

/-!
# Reading scripts

A script is read one complete command at a time, since running a command may change how the next
one is to be read.  `Script.next` gives the command that a script begins with and what is left.
-/

namespace ShaderLiterals.Programs.Shell

/-- Why a script cannot be read. -/
structure ScriptFault where
  line : Nat
  text : Raw

inductive Token where
  | newline
  | finish
  | operator (text : Raw)
  | keyword (text : Raw)
  | word (word : Word)
  | redirection (redirection : Redirection)

/-- What is left of a script. -/
structure Script where
  rest : Raw
  /-- The number of the line that is read. -/
  line : Nat
  /-- The lines after this one that were read already, as text for redirections. -/
  skipped : Nat
  /-- A token that was read too early. -/
  pushed : Option Token
  /-- The names that stand for other text. -/
  aliases : List (Raw × Raw)
  /-- Names that were replaced, each with the length of what follows their text. -/
  replaced : List (Raw × Nat)
  /-- The length of what follows a text after which another name may be replaced. -/
  checkAt : Option Nat

namespace Script

def ofRaw (aliases : List (Raw × Raw)) (text : Raw) : Script :=
  { rest := text, line := 1, skipped := 0, pushed := none, aliases := aliases, replaced := []
    checkAt := none }

abbrev Reader := StateT Script (Except ScriptFault)

/-! ## Names of tokens -/

def keywords : List String :=
  ["!", "case", "do", "done", "elif", "else", "esac", "fi", "for", "if", "in", "then", "until",
    "while", "\x7b", "\x7d"]

def isKeyword (text : Raw) : Bool := keywords.any (·.toList = text)

/-- The keywords and operators that end a list of commands. -/
def closers : List String :=
  ["do", "done", "elif", "else", "esac", "fi", "then", "\x7d", ")", ";;"]

end Script

namespace Token

/-- What a token is called in a complaint. -/
def describe : Token → Raw
  | newline => Raw.ofText "newline"
  | finish => Raw.ofText "end of file"
  | operator text | keyword text => '"' :: text ++ ['"']
  | word _ => Raw.ofText "word"
  | redirection _ => Raw.ofText "redirection"

def isFinish : Token → Bool
  | finish => true
  | _ => false

/-- Whether a list of commands ends before the token. -/
def isCloser : Token → Bool
  | finish => true
  | operator text | keyword text => Script.closers.any (·.toList = text)
  | _ => false

def isOperator (text : String) : Token → Bool
  | operator t => t = text.toList
  | _ => false

def isKeyword (text : String) : Token → Bool
  | keyword t => t = text.toList
  | _ => false

end Token

namespace Script

def fail {α : Type} (text : Raw) : Reader α := do
  throw ⟨(← get).line, text⟩

def failText {α : Type} (text : String) : Reader α := fail (Raw.ofText text)

def unexpected {α : Type} (token : Token) : Reader α :=
  fail (token.describe ++ Raw.ofText " unexpected")

/-- The fault of a token where some other one should stand. -/
def expecting {α : Type} (wanted : String) (token : Token) : Reader α :=
  fail (token.describe ++ Raw.ofText (" unexpected (expecting \"" ++ wanted ++ "\")"))

/-! ## Characters -/

/-- Reads past some characters, which hold no newline. -/
def skip (count : Nat) : Reader Unit :=
  modify fun s => { s with rest := s.rest.drop count }

/-- Reads past some characters. -/
def pass (count : Nat) : Reader Unit :=
  modify fun s =>
    { s with rest := s.rest.drop count, line := s.line + (s.rest.take count).count '\n' }

/-- Reads past the end of a line. -/
def passNewline : Reader Unit :=
  modify fun s =>
    { s with rest := s.rest.drop 1, line := s.line + 1 + s.skipped, skipped := 0 }

/-- Reads past blanks and comments; each of at most `fuel` steps passes some characters. -/
def passBlanks : (fuel : Nat) → Reader Unit
  | 0 => pure ()
  | fuel + 1 => do
      match (← get).rest with
      | ' ' :: _ | '\t' :: _ => do skip 1; passBlanks fuel
      | '\\' :: '\n' :: _ => do pass 2; passBlanks fuel
      | '#' :: rest => skip (rest.takeWhile (· != '\n')).length.succ
      | _ => pure ()

/-- The lines up to one that consists of a mark, and how many lines there are with it. -/
def untilMark (mark : Raw) (dropsTabs : Bool) : List Raw → List Raw × Nat
  | [] => ([], 0)
  | line :: rest =>
      let line := if dropsTabs then line.dropWhile (· == '\t') else line
      if line = mark then ([], 1)
      else
        let more := untilMark mark dropsTabs rest
        (line :: more.1, more.2 + 1)

/-- Takes the text for a redirection out of the lines after this one. -/
def takeDocument (mark : Raw) (dropsTabs : Bool) : Reader Raw := do
  let s ← get
  let front := s.rest.takeWhile (· != '\n')
  let after := s.rest.drop (front.length + 1)
  let all := Raw.lines after
  let (body, count) := untilMark mark dropsTabs all
  let left := ['\n'].intercalate (all.drop count)
  let left := if all.length ≤ count then [] else
    if after.getLast? = some '\n' then left ++ ['\n'] else left
  set { s with rest := front ++ '\n' :: left, skipped := s.skipped + count }
  return Raw.unlines body

/-! ## Contexts of text -/

/-- Where text stands. -/
inductive Context where
  /-- In a word without quotes. -/
  | bare
  /-- Between double quotes. -/
  | quotes
  /-- In braces. -/
  | braces
  /-- In braces between double quotes, perhaps between further quotes inside of the braces. -/
  | quotedBraces (inner : Bool)
  /-- In text for a redirection. -/
  | document
  /-- In an arithmetic expression with so many parentheses open. -/
  | expression (depth : Nat)
deriving DecidableEq

namespace Context

def isQuoted : Context → Bool
  | bare | braces => false
  | _ => true

/-- Whether a character stands for itself. -/
def isOrdinary (context : Context) (c : Char) : Bool :=
  c != '$' && c != '\x60' && c != '\\' &&
    match context with
    | bare => !Word.isMeta c && c != '"' && c != '\''
    | quotes => c != '"'
    | braces => c != '\x7d' && c != '"' && c != '\''
    | quotedBraces _ => c != '\x7d' && c != '"'
    | document => true
    | expression _ => c != '(' && c != ')' && c != '"'

/-- Whether a backslash takes the meaning of a character away. -/
def isEscapable (context : Context) (c : Char) : Bool :=
  match context with
  | bare | braces => true
  | quotes | expression _ => ['$', '\x60', '\\', '"'].contains c
  | quotedBraces _ => ['$', '\x60', '\\', '"', '\x7d'].contains c
  | document => ['$', '\x60', '\\'].contains c

end Context

/-- The text up to a backquote, less the backslashes that quote something in it. -/
def untilBackquote (quoted : Bool) : Raw → Option (Raw × Nat)
  | [] => none
  | '\x60' :: _ => some ([], 1)
  | '\\' :: c :: rest =>
      (untilBackquote quoted rest).map fun (text, count) =>
        if ['$', '\x60', '\\'].contains c || (quoted && c = '"') then (c :: text, count + 2)
        else ('\\' :: c :: text, count + 2)
  | c :: rest => (untilBackquote quoted rest).map fun (text, count) => (c :: text, count + 1)

/-- The change that the characters after a name ask for, and how many they are. -/
def change? : Raw → Change × Nat
  | '\x7d' :: _ => (.nothing, 0)
  | ':' :: '-' :: _ => (.default true, 2)
  | ':' :: '=' :: _ => (.assign true, 2)
  | ':' :: '?' :: _ => (.demand true, 2)
  | ':' :: '+' :: _ => (.alternative true, 2)
  | '-' :: _ => (.default false, 1)
  | '=' :: _ => (.assign false, 1)
  | '?' :: _ => (.demand false, 1)
  | '+' :: _ => (.alternative false, 1)
  | '#' :: '#' :: _ => (.trimStart true, 2)
  | '#' :: _ => (.trimStart false, 1)
  | '%' :: '%' :: _ => (.trimEnd true, 2)
  | '%' :: _ => (.trimEnd false, 1)
  | _ => (.broken, 0)

/-- The name of the parameter that a text begins with. -/
def parameter? (text : Raw) : Option Raw :=
  match text with
  | [] => none
  | c :: _ =>
      if Word.startsName c then some (text.takeWhile Word.isNameChar)
      else if c.isDigit then some (text.takeWhile Char.isDigit)
      else if Word.isSpecial c then some [c]
      else none

/-- The stream and the kind of a redirection, with the number of its characters. -/
def redirection? (text : Raw) : Option (Nat × Raw × Nat) :=
  let (number, digits, rest) :=
    match text with
    | c :: '<' :: rest => if c.isDigit then (some c, 1, '<' :: rest) else (none, 0, text)
    | c :: '>' :: rest => if c.isDigit then (some c, 1, '>' :: rest) else (none, 0, text)
    | _ => (none, 0, text)
  let stream := fun (usual : Nat) => (number.map fun c => c.toNat - '0'.toNat).getD usual
  let found := fun (usual : Nat) (kind : String) =>
    some (stream usual, kind.toList, digits + kind.length)
  match rest with
  | '<' :: '<' :: '-' :: _ => found 0 "<<-"
  | '<' :: '<' :: _ => found 0 "<<"
  | '<' :: '&' :: _ => found 0 "<&"
  | '<' :: '>' :: _ => found 0 "<>"
  | '<' :: _ => found 0 "<"
  | '>' :: '>' :: _ => found 1 ">>"
  | '>' :: '&' :: _ => found 1 ">&"
  | '>' :: '|' :: _ => found 1 ">|"
  | '>' :: _ => found 1 ">"
  | _ => none

/-- The operator that a text begins with. -/
def operator? (text : Raw) : Option Raw :=
  (["&&", "||", ";;", "&", "|", ";", "(", ")"].find? fun op => op.toList.isPrefixOf text).map
    String.toList

/-- The name of a function may not be that of a special builtin command. -/
def specialNames : List String :=
  [":", ".", "break", "continue", "eval", "exec", "exit", "export", "readonly", "return", "set",
    "shift", "times", "trap", "unset"]

/-- Keeps a token for the next time. -/
def push (token : Token) : Reader Unit :=
  modify ({ · with pushed := some token })

/-- The text for a name that may be replaced here. -/
def aliasFor (s : Script) (name : Raw) : Option Raw :=
  if s.replaced.any fun r => r.1 = name && r.2 < s.rest.length then none
  else s.aliases.lookup name

/-- Puts the text for a name in front of what is left. -/
def replace (name text : Raw) : Reader Unit :=
  modify fun s =>
    let length := s.rest.length
    { s with
      rest := text ++ s.rest
      replaced := (name, length) :: s.replaced
      checkAt := if text.getLast?.any Raw.isBlank then some length else s.checkAt }

/-! ## Words and commands -/

mutual

/-- Reads the parts of a text up to its end, given those that were read, the last one first. -/
def readParts : (fuel : Nat) → Context → Word → Reader Word
  | 0, _, _ => failText "too deep"
  | fuel + 1, context, parts => do
      match (← get).rest, context with
      | [], .bare | [], .document => return parts.reverse
      | [], .braces | [], .quotedBraces _ => failText "Missing '\x7d'"
      | [], .expression _ => failText "Missing '))'"
      | [], .quotes => failText "Unterminated quoted string"
      | '$' :: _, _ => do
          skip 1
          let part ← readDollar fuel context.isQuoted
          readParts fuel context (part :: parts)
      | '\x60' :: rest, _ => do
          match untilBackquote context.isQuoted rest with
          | none => failText "EOF in backquote substitution"
          | some (text, count) =>
              pass (count + 1)
              let command ← readApart fuel text
              readParts fuel context (.output context.isQuoted command :: parts)
      | '\\' :: '\n' :: _, _ => do
          pass 2
          readParts fuel context parts
      | '\\' :: c :: _, _ => do
          pass 2
          let text := if context.isEscapable c then [c] else ['\\', c]
          readParts fuel context (.text true text :: parts)
      | ['\\'], _ => do
          skip 1
          readParts fuel context (.text true ['\\'] :: parts)
      | '"' :: _, .quotes => do
          skip 1
          return if parts.isEmpty then [.text true []] else parts.reverse
      | '\x7d' :: _, .braces | '\x7d' :: _, .quotedBraces false => do
          skip 1
          return parts.reverse
      | '\x7d' :: _, .quotedBraces true => do
          skip 1
          readParts fuel context (.text true ['\x7d'] :: parts)
      | '"' :: _, .quotedBraces inner => do
          skip 1
          readParts fuel (.quotedBraces !inner) (.text true [] :: parts)
      | '"' :: _, .expression _ => do
          skip 1
          readParts fuel context parts
      | ')' :: ')' :: _, .expression 0 => do
          skip 2
          return parts.reverse
      | ')' :: _, .expression 0 => do
          skip 1
          readParts fuel context (.text true [')'] :: parts)
      | ')' :: _, .expression (depth + 1) => do
          skip 1
          readParts fuel (.expression depth) (.text true [')'] :: parts)
      | '(' :: _, .expression depth => do
          skip 1
          readParts fuel (.expression (depth + 1)) (.text true ['('] :: parts)
      | '"' :: _, _ => do
          skip 1
          let inner ← readParts fuel .quotes []
          readParts fuel context (inner.reverse ++ parts)
      | '\'' :: rest, .bare | '\'' :: rest, .braces => do
          let text := rest.takeWhile (· != '\'')
          if text.length < rest.length then
            pass (text.length + 2)
            readParts fuel context (.text true text :: parts)
          else
            pass rest.length
            failText "Unterminated quoted string"
      | rest, _ => do
          let run := rest.takeWhile context.isOrdinary
          if run.isEmpty then return parts.reverse
          pass run.length
          readParts fuel context (.text context.isQuoted run :: parts)

/-- Reads what follows a dollar sign. -/
def readDollar : (fuel : Nat) → (quoted : Bool) → Reader Part
  | 0, _ => failText "too deep"
  | fuel + 1, quoted => do
      match (← get).rest with
      | '(' :: '(' :: _ => do
          skip 2
          return .arithmetic quoted (← readParts fuel (.expression 0) [])
      | '(' :: _ => do
          skip 1
          let command ← readList fuel true
          let token ← readToken fuel false true true
          if token.isOperator ")" then return .output quoted command
          expecting ")" token
      | '\x7b' :: _ => do
          skip 1
          readBraces fuel quoted
      | text => do
          match parameter? text with
          | none => return .text quoted ['$']
          | some name =>
              let name := if name.all Char.isDigit then name.take 1 else name
              skip name.length
              return .value quoted name .nothing []

/-- Reads what follows an opening brace after a dollar sign. -/
def readBraces : (fuel : Nat) → (quoted : Bool) → Reader Part
  | 0, _ => failText "too deep"
  | fuel + 1, quoted => do
      let inner : Context := if quoted then .quotedBraces false else .braces
      match (← get).rest with
      | '#' :: c :: rest => do
          let name := (parameter? (c :: rest)).getD []
          if c != '\x7d' && (rest.drop (name.length - 1)).head? = some '\x7d' && !name.isEmpty then
            skip (name.length + 2)
            return .value quoted name .length []
          let (change, count) := change? (c :: rest)
          skip (1 + count)
          let context : Context :=
            match change with
            | .trimStart _ | .trimEnd _ => .braces
            | _ => inner
          return .value quoted ['#'] change (← readParts fuel context [])
      | text => do
          match parameter? text with
          | none => return .value quoted [] .broken (← readParts fuel inner [])
          | some name =>
              let (change, count) := change? (text.drop name.length)
              skip (name.length + count)
              let context : Context :=
                match change with
                | .trimStart _ | .trimEnd _ => .braces
                | _ => inner
              return .value quoted name change (← readParts fuel context [])

/-- Reads a text of its own as commands. -/
def readApart : (fuel : Nat) → Raw → Reader Command
  | 0, _ => failText "too deep"
  | fuel + 1, text => do
      let outer ← get
      set { ofRaw outer.aliases text with line := outer.line }
      let command ← readList fuel true
      let token ← readToken fuel false true true
      set outer
      match token with
      | .finish => return command
      | token => unexpected token

/-- Reads a redirection, given its stream and its kind. -/
def readRedirection : (fuel : Nat) → Nat → Raw → Reader Redirection
  | 0, _, _ => failText "too deep"
  | fuel + 1, stream, kind => do
      match ← readRaw fuel with
      | .word word =>
          match String.ofList kind with
          | "<" => return .file stream .read word
          | "<>" => return .file stream .both word
          | ">" => return .file stream .write word
          | ">|" => return .file stream .overwrite word
          | ">>" => return .file stream .append word
          | "<&" | ">&" =>
              match Word.literal? word with
              | none => return .duplicate stream word
              | some (text, _) =>
                  unless text = ['-'] || (text.length = 1 && text.all Char.isDigit) do
                    failText "Bad fd number"
                  return .duplicate stream word
          | _ =>
              match Word.literal? word with
              | none => failText "Illegal eof marker for << redirection"
              | some (mark, quoted) =>
                  let body ← takeDocument mark (kind = ['<', '<', '-'])
                  if quoted then return .here stream [.text true body]
                  let outer ← get
                  set { ofRaw outer.aliases body with line := outer.line + 1 }
                  let parts ← readParts fuel .document []
                  set outer
                  return .here stream parts
      | token => unexpected token

/-- Reads a token whatever its meaning may be here. -/
def readRaw : (fuel : Nat) → Reader Token
  | 0 => failText "too deep"
  | fuel + 1 => do
      passBlanks ((← get).rest.length + 1)
      let s ← get
      match redirection? s.rest with
      | some (stream, kind, count) =>
          skip count
          return .redirection (← readRedirection fuel stream kind)
      | none =>
          match s.rest, operator? s.rest with
          | [], _ => return .finish
          | '\n' :: _, _ => do passNewline; return .newline
          | _, some op => do skip op.length; return .operator op
          | _, none => return .word (← readParts fuel .bare [])

/-- Reads a token: past newlines, as a keyword, or with names replaced, as far as this is wanted. -/
def readToken : (fuel : Nat) → (newlines keywords names : Bool) → Reader Token
  | 0, _, _, _ => failText "too deep"
  | fuel + 1, newlines, keywords, names => do
      let s ← get
      let (token, names) ←
        match s.pushed with
        | some token => do
            set { s with pushed := none }
            pure (token, names)
        | none => do
            passBlanks (s.rest.length + 1)
            let s ← get
            let here := s.checkAt.any (s.rest.length ≤ ·)
            if here then set { s with checkAt := none }
            pure (← readRaw fuel, names || here)
      match token with
      | .newline => if newlines then readToken fuel newlines keywords names else return token
      | .word word =>
          match Word.plain? word with
          | none => return token
          | some text =>
              if keywords && isKeyword text then return .keyword text
              let s ← get
              match if names then s.aliasFor text else none with
              | none => return token
              | some value => do
                  replace text value
                  readToken fuel newlines keywords names
      | _ => return token

/-- Reads commands up to a token that ends a list. -/
def readList : (fuel : Nat) → (mayBeEmpty : Bool) → Reader Command
  | 0, _ => failText "too deep"
  | fuel + 1, mayBeEmpty => do
      let token ← readToken fuel true true true
      push token
      if token.isFinish || mayBeEmpty && token.isCloser then return .nothing
      let first ← readAndOr fuel
      let line := (← get).line
      let token ← readToken fuel false false false
      if token.isOperator "&" then
        return .sequence (.background line first) (← readList fuel true)
      if token.isOperator ";" then return .sequence first (← readList fuel true)
      match token with
      | .newline => return .sequence first (← readList fuel true)
      | token => do push token; return first

/-- Reads pipelines joined by operators. -/
def readAndOr : (fuel : Nat) → Reader Command
  | 0 => failText "too deep"
  | fuel + 1 => do readJoined fuel (← readPipeline fuel)

/-- Reads what is joined to a first command. -/
def readJoined : (fuel : Nat) → Command → Reader Command
  | 0, _ => failText "too deep"
  | fuel + 1, first => do
      let token ← readToken fuel false false false
      if token.isOperator "&&" || token.isOperator "||" then
        push (← readToken fuel true true true)
        let second ← readPipeline fuel
        readJoined fuel (.join (if token.isOperator "&&" then .and else .or) first second)
      else
        push token
        return first

/-- Reads commands joined by pipes. -/
def readPipeline : (fuel : Nat) → Reader Command
  | 0 => failText "too deep"
  | fuel + 1 => do
      let token ← readToken fuel false true true
      if token.isKeyword "!" then
        push (← readToken fuel false true true)
        return .not (← readPiped fuel [])
      else
        push token
        readPiped fuel []

/-- Reads the rest of a pipeline. -/
def readPiped : (fuel : Nat) → List Command → Reader Command
  | 0, _ => failText "too deep"
  | fuel + 1, before => do
      let command ← readCommand fuel
      let token ← readToken fuel false false false
      if token.isOperator "|" then
        push (← readToken fuel true true true)
        readPiped fuel (command :: before)
      else
        push token
        return if before.isEmpty then command else .pipeline (command :: before).reverse

/-- Reads a keyword that has to stand here. -/
def readKeyword : (fuel : Nat) → String → Reader Unit
  | 0, _ => failText "too deep"
  | fuel + 1, text => do
      let token ← readToken fuel true true true
      unless token.isKeyword text do expecting text token

/-- Reads a command with the redirections that follow it. -/
def readCommand : (fuel : Nat) → Reader Command
  | 0 => failText "too deep"
  | fuel + 1 => do
      let token ← readToken fuel false true true
      let line := (← get).line
      match token with
      | .word _ | .redirection _ => do
          push token
          readSimple fuel line true [] [] []
      | token =>
          let body ←
            if token.isKeyword "if" then readBranch fuel
            else if token.isKeyword "while" then readRepeat fuel true
            else if token.isKeyword "until" then readRepeat fuel false
            else if token.isKeyword "for" then readLoop fuel line
            else if token.isKeyword "case" then readChoice fuel line
            else if token.isKeyword "\x7b" then do
              let body ← readList fuel false
              readKeyword fuel "\x7d"
              pure body
            else if token.isOperator "(" then do
              let body ← readList fuel false
              let token ← readToken fuel true true true
              unless token.isOperator ")" do expecting ")" token
              pure (.subshell line body)
            else unexpected token
          match ← readRedirections fuel with
          | [] => return body
          | redirections => return .redirected line body redirections

/-- Reads the redirections after a command. -/
def readRedirections : (fuel : Nat) → Reader (List Redirection)
  | 0 => failText "too deep"
  | fuel + 1 => do
      match ← readToken fuel false true true with
      | .redirection redirection => return redirection :: (← readRedirections fuel)
      | token => do push token; return []

/-- Reads what follows the keyword of a branch. -/
def readBranch : (fuel : Nat) → Reader Command
  | 0 => failText "too deep"
  | fuel + 1 => do
      let condition ← readList fuel false
      readKeyword fuel "then"
      let yes ← readList fuel false
      let token ← readToken fuel true true true
      if token.isKeyword "elif" then return .branch condition yes (← readBranch fuel)
      if token.isKeyword "else" then
        let no ← readList fuel false
        readKeyword fuel "fi"
        return .branch condition yes no
      unless token.isKeyword "fi" do expecting "fi" token
      return .branch condition yes .nothing

/-- Reads what follows the keyword of a loop with a condition. -/
def readRepeat : (fuel : Nat) → (wanted : Bool) → Reader Command
  | 0, _ => failText "too deep"
  | fuel + 1, wanted => do
      let condition ← readList fuel false
      readKeyword fuel "do"
      let body ← readList fuel false
      readKeyword fuel "done"
      return .repeatWhile wanted condition body

/-- Reads what follows the keyword of a loop over words. -/
def readLoop : (fuel : Nat) → (line : Nat) → Reader Command
  | 0, _ => failText "too deep"
  | fuel + 1, line => do
      match ← readRaw fuel with
      | .word word =>
          let name := (Word.plain? word).getD []
          unless Word.isName name do failText "Bad for loop variable"
          let token ← readToken fuel true true true
          if token.isKeyword "in" then
            let words ← readWords fuel
            readKeyword fuel "do"
            let body ← readList fuel false
            readKeyword fuel "done"
            return .loop line name (some words) body
          else
            unless token.isOperator ";" do push token
            readKeyword fuel "do"
            let body ← readList fuel false
            readKeyword fuel "done"
            return .loop line name none body
      | _ => failText "Bad for loop variable"

/-- Reads words up to the end of their line. -/
def readWords : (fuel : Nat) → Reader (List Word)
  | 0 => failText "too deep"
  | fuel + 1 => do
      match ← readRaw fuel with
      | .word word => return word :: (← readWords fuel)
      | .newline => return []
      | token => if token.isOperator ";" then return [] else unexpected token

/-- Reads what follows the keyword of a choice. -/
def readChoice : (fuel : Nat) → (line : Nat) → Reader Command
  | 0, _ => failText "too deep"
  | fuel + 1, line => do
      match ← readRaw fuel with
      | .word word =>
          let token ← readToken fuel true true true
          unless token.isKeyword "in" do expecting "in" token
          return .choose line word (← readCases fuel)
      | token => unexpected token

/-- Reads the cases of a choice. -/
def readCases : (fuel : Nat) → Reader (List (List Word × Command))
  | 0 => failText "too deep"
  | fuel + 1 => do
      let token ← readToken fuel true true false
      if token.isKeyword "esac" then return []
      unless token.isOperator "(" do push token
      let patterns ← readPatterns fuel
      let body ← readList fuel true
      let token ← readToken fuel true true false
      if token.isKeyword "esac" then return [(patterns, body)]
      unless token.isOperator ";;" do expecting ";;" token
      return (patterns, body) :: (← readCases fuel)

/-- Reads the patterns of a case and the parenthesis after them. -/
def readPatterns : (fuel : Nat) → Reader (List Word)
  | 0 => failText "too deep"
  | fuel + 1 => do
      let word ←
        match ← readToken fuel false false false with
        | .word word => pure word
        | .keyword text => pure [.text false text]
        | token => unexpected token
      let token ← readToken fuel false false false
      if token.isOperator "|" then return word :: (← readPatterns fuel)
      unless token.isOperator ")" do expecting ")" token
      return [word]

/-- Reads the rest of a simple command. -/
def readSimple : (fuel : Nat) → (line : Nat) → (names : Bool) → List (Raw × Word) → List Word →
    List Redirection → Reader Command
  | 0, _, _, _, _, _ => failText "too deep"
  | fuel + 1, line, names, assignments, words, redirections => do
      let token ← readToken fuel false false names
      match token with
      | .word word =>
          match if names then Word.assignment? word else none with
          | some a => readSimple fuel line names (a :: assignments) words redirections
          | none => readSimple fuel line false assignments (word :: words) redirections
      | .redirection r => readSimple fuel line names assignments words (r :: redirections)
      | token =>
          match token.isOperator "(", assignments, words, redirections with
          | true, [], [word], [] => do
              let token ← readToken fuel false false false
              unless token.isOperator ")" do expecting ")" token
              let name := (Word.plain? word).getD []
              if !Word.isName name || specialNames.any (·.toList = name) then
                failText "Bad function name"
              push (← readToken fuel true true true)
              return .define name (← readCommand fuel)
          | _, _, _, _ => do
              push token
              return .simple line assignments.reverse words.reverse redirections.reverse

end

/-- Reads the rest of a line of commands. -/
def readLine (reading : Nat) : (fuel : Nat) → Reader (Option Command)
  | 0 => failText "too deep"
  | fuel + 1 => do
      match ← readToken reading false true true with
      | .newline => return some .nothing
      | .finish => do push .finish; return none
      | token => do
          push token
          let first ← readAndOr reading
          let line := (← get).line
          let token ← readToken reading false false false
          if token.isOperator "&" then
            let next := (← readLine reading fuel).getD .nothing
            return some (.sequence (.background line first) next)
          if token.isOperator ";" then
            return some (.sequence first ((← readLine reading fuel).getD .nothing))
          match token with
          | .newline => return some first
          | .finish => do push .finish; return some first
          | token => unexpected token

/-- A text in which parameters and commands are put, but no quotes are taken away. -/
def document (text : Raw) : Word :=
  match (readParts (20 * (text.length + 100)) .document []).run (ofRaw [] text) with
  | .ok (parts, _) => parts
  | .error _ => [.text true text]

/-- The command that a script begins with, or none if nothing is left, and the rest. -/
def next (script : Script) : Except ScriptFault (Option Command × Script) :=
  let fuel := 20 * (script.rest.length + 100)
  (readLine fuel (script.rest.length + 2)).run script

end Script

end ShaderLiterals.Programs.Shell
