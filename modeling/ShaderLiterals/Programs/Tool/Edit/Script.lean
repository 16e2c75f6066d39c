import ShaderLiterals.Programs.Regex.Read
import ShaderLiterals.Programs.Tool.Text

/-!
# Scripts of the stream editor

A script is read into a row of instructions.  Blocks and labels are places in that row.  A complaint
about a script tells how far reading has come.
-/

namespace ShaderLiterals.Programs.Edit

/-- What is searched for, and how many groups there are in it. -/
structure Search where
  pattern : Pattern
  groups : Nat

inductive Address where
  | line (number : Nat)
  /-- A line and every so many after it. -/
  | every (first step : Nat)
  | last
  /-- A line with a match; nothing stands for what was searched for last. -/
  | matching (search : Option Search)

/-- Where a range of lines ends. -/
inductive RangeEnd where
  | address (address : Address)
  | following (count : Nat)
  | multiple (base : Nat)

/-- The lines that an instruction is for. -/
structure Selection where
  first : Option Address
  last : Option RangeEnd
  negated : Bool

/-- How the letters of a replacement are changed. -/
inductive Casing where
  | upper
  | lower
  | upperNext
  | lowerNext
  | plain

inductive Piece where
  | text (text : Raw)
  | group (number : Nat)
  | casing (casing : Casing)

structure Substitution where
  search : Option Search
  pieces : List Piece
  /-- The number of the first match that is replaced. -/
  number : Nat
  /-- Whether those after it are replaced too. -/
  all : Bool
  prints : Bool
  path : Option Raw

/-- When a branch is taken. -/
inductive Jump where
  | always
  | ifReplaced
  | unlessReplaced

inductive Action where
  /-- Begins a block, which is passed over if the line is not selected. -/
  | opens
  | jump (condition : Jump) (label : Raw)
  | append (text : Raw)
  | insert (text : Raw)
  | change (text : Raw)
  | delete
  | deleteRow
  | showName
  | recall
  | recallMore
  | keep
  | keepMore
  | exchange
  | spell (width : Option Nat)
  | next
  | nextMore
  | print
  | printRow
  | quit (prints : Bool) (status : Nat)
  | readFile (path : Raw)
  | readRow (path : Raw)
  | write (path : Raw)
  | writeRow (path : Raw)
  | substitute (substitution : Substitution)
  | transliterate (pairs : List (Char × Char))
  | clear
  | showNumber

structure Instruction where
  selection : Selection
  action : Action

/-- A script that was read, with the places after blocks and those of labels. -/
structure Script where
  instructions : Array Instruction
  stops : List (Nat × Nat)
  labels : List (Raw × Nat)

/-! ## Reading -/

/-- Where a reader stands. -/
structure Reading where
  rest : Raw
  instructions : Array Instruction
  opened : List Nat
  stops : List (Nat × Nat)
  labels : List (Raw × Nat)
  extended : Bool

/-- Reads a script, or fails with a complaint and the length of what was not read. -/
abbrev Reader := StateT Reading (Except (Raw × Nat))

namespace Reader

def fail {α : Type} (text : String) : Reader α := do
  throw (Raw.ofText text, (← get).rest.length)

/-- The next character, which is read then. -/
def next? : Reader (Option Char) := do
  match (← get).rest with
  | [] => return none
  | c :: rest =>
      modify ({ · with rest := rest })
      return some c

def peek? : Reader (Option Char) := do
  return (← get).rest.head?

/-- Reads characters as long as they are of a class. -/
def takeWhile (accepts : Char → Bool) : Reader Raw := do
  let front := (← get).rest.takeWhile accepts
  modify fun reading => { reading with rest := reading.rest.drop front.length }
  return front

def skipBlanks : Reader Unit := do
  discard <| takeWhile Raw.isBlank

/-- Reads a number if there is one. -/
def number? : Reader (Option Nat) := do
  return Raw.nat? (← takeWhile Char.isDigit)

/-- Reads up to the end of a command. -/
def endCommand : Reader Unit := do
  skipBlanks
  match ← peek? with
  | none | some '\x7d' | some '#' => pure ()
  | some c => do
      discard next?
      unless c = ';' || c = '\n' || c = '\r' do fail "extra characters after command"

end Reader

open Reader

/-! ### Text between delimiters -/

/-- How long the set is that follows an opening bracket, with the bracket that closes it. -/
def setLength (text : Raw) : Option Nat :=
  let start :=
    match text with
    | '^' :: ']' :: _ => 2
    | '^' :: _ => 1
    | ']' :: _ => 1
    | _ => 0
  (go (text.length + 1) (text.drop start)).map (· + start)
where
  go : (fuel : Nat) → Raw → Option Nat
    | 0, _ | _, [] => none
    | _, ']' :: _ => some 1
    | fuel + 1, '[' :: c :: rest =>
        if c = ':' || c = '.' || c = '=' then
          match inner c rest with
          | some n => (go fuel (rest.drop n)).map (· + n + 2)
          | none => none
        else (go fuel (c :: rest)).map (· + 1)
    | fuel + 1, _ :: rest => (go fuel rest).map (· + 1)
  inner (mark : Char) : Raw → Option Nat
    | [] => none
    | c :: rest =>
        if c = mark && rest.head? = some ']' then some 2 else (inner mark rest).map (· + 1)

/-- Splits a text at a delimiter: what stands before it, where a backslash takes its meaning away,
and what follows.  In an expression the delimiter has no meaning inside of brackets. -/
def untilDelimiter (delimiter : Char) (inExpression : Bool) : (fuel : Nat) → Raw →
    Option (Raw × Raw)
  | 0, _ | _, [] => none
  | fuel + 1, '\\' :: c :: rest =>
      let front :=
        if c = 'n' && inExpression && delimiter != 'n' then ['\n']
        else if c = '\n' then (if inExpression then [c] else ['\\', c])
        else if c = delimiter && (inExpression || c != '&') then [c]
        else ['\\', c]
      (untilDelimiter delimiter inExpression fuel rest).map fun more => (front ++ more.1, more.2)
  | fuel + 1, c :: rest =>
      if c = delimiter then some ([], rest)
      else if c = '\n' then none
      else if c = '[' && inExpression then
        match setLength rest with
        | none => none
        | some n =>
            (untilDelimiter delimiter inExpression fuel (rest.drop n)).map fun more =>
              (c :: rest.take n ++ more.1, more.2)
      else (untilDelimiter delimiter inExpression fuel rest).map fun more => (c :: more.1, more.2)

/-- Reads up to a delimiter, or refuses a text without it. -/
def delimited (delimiter : Char) (inExpression : Bool) (complaint : String) : Reader Raw := do
  let rest := (← get).rest
  match untilDelimiter delimiter inExpression (rest.length + 1) rest with
  | some (front, rest) =>
      modify ({ · with rest := rest })
      return front
  | none =>
      let isClosed := rest.contains '\n'
      modify ({ · with rest := if isClosed then rest.dropWhile (· != '\n') else [] })
      fail complaint

/-- The character that letters and digits after a backslash spell, and what follows. -/
def spelled? : Raw → Option (Char × Raw)
  | 'c' :: c :: rest => some (Raw.byte (c.toUpper.toNat ^^^ 64), rest)
  | 'd' :: rest => digits 10 3 rest
  | 'o' :: rest => digits 8 3 rest
  | 'x' :: rest => digits 16 2 rest
  | _ => none
where
  digits (base most : Nat) (text : Raw) : Option (Char × Raw) :=
    let front := (text.take most).takeWhile (Digits.isDigit base)
    (if front.isEmpty then none else Digits.number? base front).map fun n =>
      (Raw.byte n, text.drop front.length)

/-- An expression with the characters in it that are spelled by numbers. -/
def withSpelled : (fuel : Nat) → Raw → Raw
  | 0, text => text
  | _, [] => []
  | fuel + 1, '\\' :: rest =>
      match spelled? rest, rest with
      | some (c, rest), _ => c :: withSpelled fuel rest
      | none, c :: rest => '\\' :: c :: withSpelled fuel rest
      | none, [] => ['\\']
  | fuel + 1, c :: rest => c :: withSpelled fuel rest

/-- Reads an expression that was found between delimiters. -/
def search? (text : Raw) (folded rows : Bool) : Reader (Option Search) := do
  if text.isEmpty then return none
  let dialect := Regex.Dialect.editor (← get).extended folded
  match Regex.read dialect (withSpelled (text.length + 1) text) with
  | .error complaint => fail complaint
  | .ok (pattern, groups) =>
      return some ⟨if rows then pattern.map id Place.ofRows else pattern, groups⟩

/-! ### Addresses -/

/-- Reads the letters that change how an expression matches: whether capital and small letters are
the same, and whether a text has rows. -/
def searchFlags : (fuel : Nat) → Bool → Bool → Reader (Bool × Bool)
  | 0, folded, rows => return (folded, rows)
  | fuel + 1, folded, rows => do
      skipBlanks
      match ← peek? with
      | some 'I' => discard next?; searchFlags fuel true rows
      | some 'M' => discard next?; searchFlags fuel folded true
      | _ => return (folded, rows)

/-- Reads the rest of an expression as an address. -/
def matchingAddress (delimiter : Char) : Reader Address := do
  let text ← delimited delimiter true "unterminated address regex"
  let (folded, rows) ← searchFlags ((← get).rest.length + 1) false false
  return .matching (← search? text folded rows)

/-- Reads an address if there is one. -/
def address? : Reader (Option RangeEnd) := do
  match ← peek? with
  | some '/' => do
      discard next?
      return some (.address (← matchingAddress '/'))
  | some '\\' => do
      discard next?
      match ← next? with
      | none | some '\n' => fail "unterminated address regex"
      | some delimiter => return some (.address (← matchingAddress delimiter))
  | some '$' => do
      discard next?
      return some (.address .last)
  | some '+' => do
      discard next?
      return some (.following ((← number?).getD 0))
  | some '~' => do
      discard next?
      return some (.multiple ((← number?).getD 0))
  | some c =>
      if !c.isDigit then return none
      let first := (← number?).getD 0
      skipBlanks
      if (← peek?) != some '~' then return some (.address (.line first))
      discard next?
      let step := (← number?).getD 0
      return some (.address (if step = 0 then .line first else .every first step))
  | none => return none

/-- Reads the addresses of a command, up to its letter, which is read too. -/
def selection : Reader (Selection × Option Char) := do
  let start ← address?
  let first ←
    match start with
    | none => pure none
    | some (.address address) => pure (some address)
    | some _ => fail "invalid usage of +N or ~N as first address"
  if first.isSome then skipBlanks
  let mut letter ← next?
  let mut last : Option RangeEnd := none
  if first.isSome && letter = some ',' then
    skipBlanks
    last ← address?
    if last.isNone then
      discard next?
      fail "unexpected \x60,'"
    skipBlanks
    letter ← next?
  if let some (.line 0) := first then
    match last with
    | some (.address (.matching _)) => pure ()
    | _ => fail "invalid usage of line address 0"
  let negated := letter = some '!'
  if negated then
    skipBlanks
    letter ← next?
    if letter = some '!' then fail "multiple \x60!'s"
  return (⟨first, last, negated⟩, letter)

/-! ### Commands -/

/-- The rest of a text that is added: up to a newline without a backslash before it. -/
def addedText : (fuel : Nat) → Raw → Raw × Raw
  | 0, rest => ([], rest)
  | _, [] => ([], [])
  | _, ['\\'] => ([], [])
  | _, '\n' :: rest => ([], rest)
  | fuel + 1, '\\' :: c :: rest =>
      match spelled? (c :: rest) with
      | some (c, rest) =>
          let (more, rest) := addedText fuel rest
          (c :: more, rest)
      | none =>
          let (more, rest) := addedText fuel rest
          ((if c = 'n' then c else (Raw.control? c).getD c) :: more, rest)
  | fuel + 1, c :: rest =>
      let (more, rest) := addedText fuel rest
      (c :: more, rest)

/-- Reads the text of a command that adds one. -/
def textArgument : Reader Raw := do
  skipBlanks
  match ← peek? with
  | none => fail "expected \\ after \x60a', \x60c' or \x60i'"
  | some '\n' => do
      discard next?
      return []
  | some '\\' => do
      discard next?
      let rest := (← get).rest
      let after := rest.dropWhile Raw.isBlank
      if after.isEmpty then
        modify ({ · with rest := [] })
        return []
      modify ({ · with rest := if after.head? = some '\n' then after.drop 1 else rest })
  | _ => pure ()
  let rest := (← get).rest
  let (text, rest) := addedText (rest.length + 1) rest
  modify ({ · with rest := rest })
  return text ++ ['\n']

/-- Reads a label. -/
def label : Reader Raw := do
  skipBlanks
  takeWhile fun c => !Raw.isSpace c && c != ';' && c != '\x7d'

/-- Reads the path of a file, which goes to the end of the line. -/
def pathArgument : Reader Raw := do
  skipBlanks
  let path ← takeWhile (· != '\n')
  discard next?
  if path.isEmpty then fail "missing filename in r/R/w/W commands"
  return path

/-- The pieces of a replacement. -/
def replacement : (fuel : Nat) → Raw → List Piece
  | 0, _ | _, [] => []
  | fuel + 1, '&' :: rest => .group 0 :: replacement fuel rest
  | fuel + 1, '\\' :: rest =>
      match spelled? rest, rest with
      | some (c, rest), _ => .text [c] :: replacement fuel rest
      | none, c :: rest =>
          let piece :=
            match c with
            | 'U' => Piece.casing .upper
            | 'L' => .casing .lower
            | 'u' => .casing .upperNext
            | 'l' => .casing .lowerNext
            | 'E' => .casing .plain
            | c =>
                if c.isDigit then .group (c.toNat - '0'.toNat)
                else .text [(Raw.control? c).getD c]
          piece :: replacement fuel rest
      | none, [] => [.text ['\\']]
  | fuel + 1, c :: rest => .text [c] :: replacement fuel rest

/-- The flags of a substitution, as far as they were read. -/
structure Flags where
  all : Bool
  prints : Bool
  number : Option Nat
  folded : Bool
  rows : Bool
  path : Option Raw

def readFlags : (fuel : Nat) → Flags → Reader Flags
  | 0, flags => return flags
  | fuel + 1, flags => do
      match ← peek? with
      | none | some '\x7d' | some '#' => return flags
      | some c =>
          if c.isDigit then
            let n := (← number?).getD 0
            if flags.number.isSome then
              fail "multiple number options to \x60s' command"
            if n = 0 then fail "number option to \x60s' command may not be zero"
            return ← readFlags fuel { flags with number := some n }
          discard next?
          match c with
          | '\n' | ';' => return flags
          | 'i' | 'I' => readFlags fuel { flags with folded := true }
          | 'm' | 'M' => readFlags fuel { flags with rows := true }
          | 'g' => do
              if flags.all then fail "multiple \x60g' options to \x60s' command"
              readFlags fuel { flags with all := true }
          | 'p' => do
              if flags.prints then fail "multiple \x60p' options to \x60s' command"
              readFlags fuel { flags with prints := true }
          | 'w' => do
              let path ← pathArgument
              return { flags with path := some path }
          | c =>
              if Raw.isSpace c then readFlags fuel flags else fail "unknown option to \x60s'"

/-- Reads a substitution. -/
def substitution : Reader Substitution := do
  let complaint := "unterminated \x60s' command"
  let delimiter ←
    match ← next? with
    | none | some '\n' | some '\\' => fail complaint
    | some c => pure c
  let text ← delimited delimiter true complaint
  let replaced ← delimited delimiter false complaint
  let pieces := replacement (replaced.length + 1) replaced
  let flags ← readFlags ((← get).rest.length + 1) ⟨false, false, none, false, false, none⟩
  let search ← search? text flags.folded flags.rows
  let highest := pieces.foldl
    (fun most piece =>
      match piece with
      | .group n => max most n
      | _ => most)
    0
  if let some search := search then
    if search.groups < highest then
      fail s!"invalid reference \\{highest} on \x60s' command's RHS"
  return ⟨search, pieces, flags.number.getD 1, flags.all, flags.prints, flags.path⟩

/-- The characters that a text in a transliteration spells. -/
def listed : (fuel : Nat) → Raw → Raw
  | 0, _ | _, [] => []
  | fuel + 1, '\\' :: c :: rest =>
      match spelled? (c :: rest) with
      | some (c, rest) => c :: listed fuel rest
      | none => (Raw.control? c).getD c :: listed fuel rest
  | fuel + 1, c :: rest => c :: listed fuel rest

/-- Reads a transliteration. -/
def transliteration : Reader (List (Char × Char)) := do
  let complaint := "unterminated \x60y' command"
  let delimiter ←
    match ← next? with
    | none | some '\n' | some '\\' => fail complaint
    | some c => pure c
  let source ← delimited delimiter false complaint
  let target ← delimited delimiter false complaint
  let source := listed source.length source
  let target := listed target.length target
  if source.length != target.length then
    fail "strings for \x60y' command are different lengths"
  endCommand
  return source.zip target

/-- Adds an instruction. -/
def emit (selection : Selection) (action : Action) : Reader Unit :=
  modify fun reading =>
    { reading with instructions := reading.instructions.push ⟨selection, action⟩ }

/-- The actions of commands that are nothing but a letter. -/
def plainAction? : Char → Option Action
  | '=' => some .showNumber
  | 'd' => some .delete
  | 'D' => some .deleteRow
  | 'F' => some .showName
  | 'g' => some .recall
  | 'G' => some .recallMore
  | 'h' => some .keep
  | 'H' => some .keepMore
  | 'n' => some .next
  | 'N' => some .nextMore
  | 'p' => some .print
  | 'P' => some .printRow
  | 'x' => some .exchange
  | 'z' => some .clear
  | _ => none

/-- Reads the rest of a command with a letter. -/
def command (selection : Selection) (letter : Char) : Reader Unit := do
  let place := (← get).instructions.size
  match letter with
  | '#' => do
      if selection.first.isSome then fail "comments don't accept any addresses"
      discard <| takeWhile (· != '\n')
  | ':' => do
      if selection.first.isSome then fail ": doesn't want any addresses"
      let name ← label
      if name.isEmpty then fail "\":\" lacks a label"
      modify fun reading => { reading with labels := reading.labels ++ [(name, place)] }
  | '\x7b' => do
      emit selection .opens
      modify fun reading => { reading with opened := place :: reading.opened }
  | '\x7d' => do
      if selection.first.isSome || (← get).opened.isEmpty then fail "unexpected \x60\x7d'"
      modify fun reading =>
        { reading with
          opened := reading.opened.drop 1
          stops := (reading.opened.headD 0, place) :: reading.stops }
      endCommand
  | 'a' => do emit selection (.append (← textArgument))
  | 'i' => do emit selection (.insert (← textArgument))
  | 'c' => do emit selection (.change (← textArgument))
  | 'l' => do
      skipBlanks
      emit selection (.spell (← number?))
      endCommand
  | 'q' | 'Q' => do
      if selection.last.isSome then fail "command only uses one address"
      skipBlanks
      emit selection (.quit (letter = 'q') ((← number?).getD 0))
      endCommand
  | 'r' => do emit selection (.readFile (← pathArgument))
  | 'R' => do emit selection (.readRow (← pathArgument))
  | 'w' => do emit selection (.write (← pathArgument))
  | 'W' => do emit selection (.writeRow (← pathArgument))
  | 's' => do emit selection (.substitute (← substitution))
  | 'y' => do emit selection (.transliterate (← transliteration))
  | 'b' => do
      emit selection (.jump .always (← label))
      endCommand
  | 't' => do
      emit selection (.jump .ifReplaced (← label))
      endCommand
  | 'T' => do
      emit selection (.jump .unlessReplaced (← label))
      endCommand
  | 'v' => do
      if (← label).head?.any Char.isDigit then fail "expected newer version of sed"
      endCommand
  | letter =>
      match plainAction? letter with
      | some action => do
          emit selection action
          endCommand
      | none => fail s!"unknown command: \x60{letter}'"

/-- Reads commands up to the end; at most `fuel` of them. -/
def commands : (fuel : Nat) → Reader Unit
  | 0 => return
  | fuel + 1 => do
      discard <| takeWhile fun c => Raw.isSpace c || c = ';'
      if (← peek?).isNone then return
      match ← selection with
      | (_, none) => fail "missing command"
      | (selection, some letter) => do
          command selection letter
          commands fuel

/-! ## Whole scripts -/

/-- A piece of a script, and the path of the file that it is from. -/
structure Part where
  path : Option Raw
  text : Raw

/-- The words that say where in a script reading has come to. -/
def positionText (parts : List Part) (read : Nat) : Raw :=
  go 1 parts read
where
  go (number : Nat) : List Part → Nat → Raw
    | [], _ => []
    | part :: rest, read =>
        if read ≤ part.text.length + 1 || rest.isEmpty then
          match part.path with
          | some path =>
              Raw.ofText "file " ++ path ++ Raw.ofText " line " ++
                Raw.ofNat ((part.text.take read).count '\n' + 1)
          | none =>
              Raw.ofText s!"-e expression #{number}, char {min read part.text.length}"
        else go (if part.path.isNone then number + 1 else number) rest (read - part.text.length - 1)

/-- Reads a script that is given in parts, or complains and tells with which status to end. -/
def Script.read (extended : Bool) (parts : List Part) : Except (Nat × Raw) Script :=
  let text := ['\n'].intercalate (parts.map Part.text)
  let start : Reading := ⟨text, #[], [], [], [], extended⟩
  match (commands (text.length + 1)).run start with
  | .error (complaint, left) =>
      .error (1, positionText parts (text.length - left) ++ ':' :: ' ' :: complaint)
  | .ok ((), reading) =>
      if !reading.opened.isEmpty then
        .error (1, positionText parts 0 ++ Raw.ofText ": unmatched \x60\x7b'")
      else
        let missing := reading.instructions.toList.findSome? fun instruction =>
          match instruction.action with
          | .jump _ label =>
              if label.isEmpty || (reading.labels.lookup label).isSome then none else some label
          | _ => none
        match missing with
        | some label =>
            .error (4, Raw.ofText "can't find label for jump to \x60" ++ label ++ ['\''])
        | none => .ok ⟨reading.instructions, reading.stops, reading.labels⟩

/-- Whether a script begins with the comment that turns printing off. -/
def isQuiet (parts : List Part) : Bool :=
  match parts.head? with
  | some part => part.text = ['#', 'n'] || ['#', 'n', '\n'].isPrefixOf part.text
  | none => false

end ShaderLiterals.Programs.Edit
