import ShaderLiterals.Programs.Regex

/-!
# Reading regular expressions

Expressions are written in a basic form, where backslashes make operators, or in an extended form,
where they take the meaning of operators away.
-/

namespace ShaderLiterals.Programs.Regex

/-- A way to write expressions. -/
structure Dialect where
  extended : Bool
  /-- Whether capital and small letters count as the same. -/
  folded : Bool
  /-- Whether a backslash makes control characters of letters. -/
  controls : Bool
  /-- Whether a backslash has a meaning inside of brackets. -/
  bracketEscapes : Bool
  /-- Whether digits after a backslash refer to groups, and letters stand for classes of characters
  and edges of words.  If not, a parenthesis that closes nothing stands for itself. -/
  references : Bool
  /-- Whether there are more classes with a backslash, and groups that do not count. -/
  rich : Bool
  /-- Whether repetitions that have nothing to repeat are refused. -/
  strict : Bool

namespace Dialect

def basic : Dialect := ⟨false, false, false, false, true, false, false⟩

/-- The form in which lines are searched for. -/
def searching (extended folded : Bool) : Dialect :=
  ⟨extended, folded, false, false, true, false, false⟩

/-- The extended form with further abbreviations. -/
def abbreviated (folded : Bool) : Dialect := ⟨true, folded, true, true, true, true, false⟩

/-- The basic or the extended form that an editor reads. -/
def editor (extended folded : Bool) : Dialect := ⟨extended, folded, true, false, true, false, true⟩

/-- The form in scripts of a language with text in quotes. -/
def scripted : Dialect := ⟨true, false, true, true, false, false, false⟩

end Dialect

/-! ## Pieces -/

def setPattern (folded negated : Bool) (ranges : List (Char × Char)) : Pattern :=
  one ⟨negated, ranges, folded⟩

/-- The ranges of characters of words, and of blanks. -/
def wordRanges : List (Char × Char) := [('A', 'Z'), ('a', 'z'), ('0', '9'), ('_', '_')]

def spaceRanges : List (Char × Char) := [('\t', '\r'), (' ', ' ')]

/-- The classes of characters that have names. -/
def classes : List (String × List (Char × Char)) :=
  [("upper", [('A', 'Z')]), ("lower", [('a', 'z')]), ("digit", [('0', '9')]),
    ("alpha", [('A', 'Z'), ('a', 'z')]), ("alnum", [('0', '9'), ('A', 'Z'), ('a', 'z')]),
    ("space", spaceRanges), ("blank", [('\t', '\t'), (' ', ' ')]),
    ("punct", [('!', '/'), (':', '@'), ('[', '\x60'), ('\x7b', '~')]),
    ("cntrl", [('\x00', '\x1f'), ('\x7f', '\x7f')]), ("print", [(' ', '~')]),
    ("graph", [('!', '~')]), ("xdigit", [('0', '9'), ('A', 'F'), ('a', 'f')])]

def unmatchedBracket : String := "Unmatched [, [^, [:, [., or [="

/-- One member of a set in brackets: its ranges, whether it is a single character, and the rest. -/
def member (dialect : Dialect) : Raw → Except String (List (Char × Char) × Option Char × Raw)
  | '[' :: ':' :: rest =>
      let name := rest.takeWhile (· != ':')
      match rest.drop name.length with
      | ':' :: ']' :: after =>
          match classes.lookup (String.ofList name) with
          | some ranges => .ok (ranges, none, after)
          | none => .error "Invalid character class name"
      | _ => .error unmatchedBracket
  | '[' :: '=' :: c :: '=' :: ']' :: rest | '[' :: '.' :: c :: '.' :: ']' :: rest =>
      .ok ([(c, c)], some c, rest)
  | '\\' :: c :: rest =>
      if dialect.bracketEscapes then
        let c := (Raw.control? c).getD c
        .ok ([(c, c)], some c, rest)
      else
        match if dialect.controls then Raw.control? c else none with
        | some c => .ok ([(c, c)], some c, rest)
        | none => .ok ([('\\', '\\')], some '\\', c :: rest)
  | c :: rest => .ok ([(c, c)], some c, rest)
  | [] => .error unmatchedBracket

/-- Reads the members of a set up to the bracket that closes it; at most `fuel` of them. -/
def readMembers (dialect : Dialect) : (fuel : Nat) → (isFirst : Bool) → List (Char × Char) → Raw →
    Except String (List (Char × Char) × Raw)
  | 0, _, _, _ => .error unmatchedBracket
  | _, _, _, [] => .error unmatchedBracket
  | fuel + 1, isFirst, ranges, text =>
      match text, isFirst with
      | ']' :: rest, false => .ok (ranges, rest)
      | _, _ =>
          match member dialect text with
          | .error e => .error e
          | .ok (more, low, rest) =>
              match low, rest with
              | some low, '-' :: c :: after =>
                  if c = ']' then readMembers dialect fuel false (ranges ++ more) rest
                  else
                    match member dialect (c :: after) with
                    | .error e => .error e
                    | .ok (_, none, _) => .error "Invalid range end"
                    | .ok (_, some high, after) =>
                        if high < low then .error "Invalid range end"
                        else readMembers dialect fuel false (ranges ++ [(low, high)]) after
              | _, _ => readMembers dialect fuel false (ranges ++ more) rest

/-- Whether what follows an opening bracket is the name of a class that lacks brackets of its own,
where that is refused. -/
def Dialect.refusesBareClass (dialect : Dialect) (text : Raw) : Bool :=
  !dialect.strict && !dialect.controls && text.head? = some ':' &&
    (text.takeWhile (· != ']')).getLast? = some ':' && 1 < (text.takeWhile (· != ']')).length &&
    text.contains ']'

/-- Reads what follows an opening bracket. -/
def readBrackets (dialect : Dialect) (text : Raw) : Except String (Pattern × Raw) :=
  let (negated, text) :=
    match text with
    | '^' :: rest => (true, rest)
    | _ => (false, text)
  if text.isEmpty then .error "Invalid regular expression"
  else
    (readMembers dialect (text.length + 1) true [] text).map fun (ranges, rest) =>
      (setPattern dialect.folded negated ranges, rest)

/-- The bounds that follow an opening brace, and the rest after the closing one. -/
def bounds? (extended : Bool) (text : Raw) : Option (Nat × Option Nat × Raw) :=
  let digits := text.takeWhile Char.isDigit
  let least := Raw.nat? digits
  let rest := text.drop digits.length
  let (most, rest) :=
    match rest with
    | ',' :: rest =>
        let digits := rest.takeWhile Char.isDigit
        (some (Raw.nat? digits), rest.drop digits.length)
    | _ => (none, rest)
  let close := if extended then ['\x7d'] else ['\\', '\x7d']
  match close.isPrefixOf? rest, least, most with
  | some rest, some n, none => some (n, some n, rest)
  | some rest, some n, some most => some (n, most, rest)
  | some rest, none, some most => some (0, most, rest)
  | _, _, _ => none

/-- How a repetition changes the expression before it, and what follows. -/
inductive Repetition where
  | none
  | some (least : Nat) (most : Option Nat) (rest : Raw)
  | wrong (text : String)

/-- The repetition that a text begins with. -/
def repetition? (dialect : Dialect) (text : Raw) : Repetition :=
  match dialect.extended, text with
  | _, '*' :: rest => .some 0 Option.none rest
  | true, '+' :: rest | false, '\\' :: '+' :: rest => .some 1 Option.none rest
  | true, '?' :: rest | false, '\\' :: '?' :: rest => .some 0 (Option.some 1) rest
  | true, '\x7b' :: rest =>
      match bounds? true rest with
      | Option.some (least, most, rest) => bounded least most rest
      | Option.none => if dialect.strict then unbounded rest else .none
  | false, '\\' :: '\x7b' :: rest =>
      match bounds? false rest with
      | Option.some (least, most, rest) => bounded least most rest
      | Option.none => unbounded rest
  | _, _ => .none
where
  /-- The repetition with some bounds. -/
  bounded (least : Nat) (most : Option Nat) (rest : Raw) : Repetition :=
    if most.any (· < least) then .wrong "Invalid content of \\\x7b\\\x7d" else .some least most rest
  /-- The complaint about bounds that cannot be read. -/
  unbounded (rest : Raw) : Repetition :=
    .wrong (if rest.contains '\x7d' then "Invalid content of \\\x7b\\\x7d" else "Unmatched \\\x7b")

/-- Whether an alternative ends here. -/
def endsBranch (dialect : Dialect) (depth : Nat) (text : Raw) : Bool :=
  match dialect.extended, text with
  | _, [] => true
  | true, '|' :: _ | false, '\\' :: '|' :: _ => true
  | true, ')' :: _ => 0 < depth
  | false, '\\' :: ')' :: _ => true
  | _, _ => false

/-- Whether a dollar sign before this text stands for the end of a line. -/
def endsLine (dialect : Dialect) (text : Raw) : Bool :=
  dialect.extended ||
    match text with
    | [] | '\\' :: ')' :: _ | '\\' :: '|' :: _ => true
    | _ => false

/-- The expression for a backslash and a character that is no operator. -/
def escaped (dialect : Dialect) (c : Char) : Pattern :=
  let letter := one (.single dialect.folded c)
  let word := setPattern false false wordRanges
  let control := if dialect.controls then Raw.control? c else none
  if !dialect.references then one (.single dialect.folded (control.getD c))
  else
  match c with
  | 'w' => word
  | 'W' => setPattern false true wordRanges
  | 's' => setPattern false false spaceRanges
  | 'S' => setPattern false true spaceRanges
  | 'b' => here .wordEdge
  | 'B' => here .noWordEdge
  | '<' => here .wordStart
  | '>' => here .wordEnd
  | '\x60' => here .lineStart
  | '\'' => here .lineEnd
  | 'd' => if dialect.rich then setPattern false false [('0', '9')] else letter
  | 'D' => if dialect.rich then setPattern false true [('0', '9')] else letter
  | c =>
      if c.isDigit && c != '0' then same (c.toNat - '0'.toNat)
      else one (.single dialect.folded (control.getD c))

/-- The character whose number in octal or hexadecimal digits a text begins with, and the rest. -/
def numbered? (text : Raw) : Option (Char × Raw) :=
  match text with
  | 'x' :: rest =>
      let digits := (rest.take 2).takeWhile (Digits.isDigit 16)
      if digits.isEmpty then none
      else some (Raw.byte ((Digits.number? 16 digits).getD 0), rest.drop digits.length)
  | text =>
      let digits := (text.take 3).takeWhile (Digits.isDigit 8)
      if digits.isEmpty then none
      else some (Raw.byte ((Digits.number? 8 digits).getD 0), text.drop digits.length)

/-- Where a reader stands: the text that is left, and how many groups were opened. -/
abbrev Reading := Raw × Nat

mutual

/-- Reads alternatives. -/
def readEither (dialect : Dialect) (depth : Nat) : (fuel : Nat) → Reading →
    Except String (Pattern × Reading)
  | 0, _ => .error "Regular expression too big"
  | fuel + 1, reading =>
      match readBranch dialect depth fuel true nothing reading with
      | .error e => .error e
      | .ok (first, text, groups) =>
          let rest :=
            match dialect.extended, text with
            | true, '|' :: rest | false, '\\' :: '|' :: rest => some rest
            | _, _ => none
          match rest with
          | none => .ok (first, text, groups)
          | some rest =>
              (readEither dialect depth fuel (rest, groups)).map fun (second, reading) =>
                (either first second, reading)

/-- Reads pieces one after the other, given what was read before them. -/
def readBranch (dialect : Dialect) (depth : Nat) : (fuel : Nat) → (isFirst : Bool) → Pattern →
    Reading → Except String (Pattern × Reading)
  | 0, _, _, _ => .error "Regular expression too big"
  | fuel + 1, isFirst, before, (text, groups) =>
      if endsBranch dialect depth text then .ok (before, text, groups)
      else
        match readAtom dialect depth fuel isFirst (text, groups) with
        | .error e => .error e
        | .ok (atom, isAnchor, text, groups) =>
            match if isAnchor && !dialect.extended then .ok (atom, text)
                else readRepeats dialect fuel atom text with
            | .error e => .error e
            | .ok (piece, text) =>
                readBranch dialect depth fuel (isFirst && isAnchor) (both before piece)
                  (text, groups)

/-- Reads the repetitions after an expression. -/
def readRepeats (dialect : Dialect) : (fuel : Nat) → Pattern → Raw →
    Except String (Pattern × Raw)
  | 0, _, _ => .error "Regular expression too big"
  | fuel + 1, atom, text =>
      match repetition? dialect text with
      | .none => .ok (atom, text)
      | .wrong complaint => .error complaint
      | .some least most rest =>
          if dialect.strict && !dialect.extended && rest.head? = some '*' then
            .error "Invalid preceding regular expression"
          else readRepeats dialect fuel (times atom least most) rest

/-- Reads one piece without repetitions, and tells whether it stands for the start of a line. -/
def readAtom (dialect : Dialect) (depth : Nat) : (fuel : Nat) → (isFirst : Bool) → Reading →
    Except String (Pattern × Bool × Reading)
  | 0, _, _ => .error "Regular expression too big"
  | fuel + 1, isFirst, (text, groups) =>
      let openGroup := fun (rest : Raw) =>
        match readEither dialect (depth + 1) fuel (rest, groups + 1) with
        | .error e => .error e
        | .ok (body, text, count) =>
            let close := if dialect.extended then [')'] else ['\\', ')']
            match close.isPrefixOf? text with
            | some rest => .ok (group (groups + 1) body, false, rest, count)
            | none => .error "Unmatched ( or \\("
      match dialect.extended, text with
      | true, '(' :: '?' :: ':' :: rest =>
          if !dialect.rich then openGroup ('?' :: ':' :: rest)
          else
            match readEither dialect (depth + 1) fuel (rest, groups) with
            | .error e => .error e
            | .ok (body, ')' :: rest, count) => .ok (body, false, rest, count)
            | .ok _ => .error "missing closing parenthesis"
      | true, '(' :: rest => openGroup rest
      | false, '\\' :: '(' :: rest => openGroup rest
      | true, ')' :: rest =>
          if dialect.references then .error "Unmatched ) or \\)"
          else .ok (one (.single false ')'), false, rest, groups)
      | _, '[' :: rest =>
          if dialect.refusesBareClass rest then
            .error "character class syntax is [[:space:]], not [:space:]"
          else (readBrackets dialect rest).map fun (set, rest) => (set, false, rest, groups)
      | _, '.' :: rest => .ok (setPattern false true [], false, rest, groups)
      | _, '^' :: rest =>
          if dialect.extended || isFirst then .ok (here .lineStart, true, rest, groups)
          else .ok (one (.single false '^'), false, rest, groups)
      | _, '$' :: rest =>
          if endsLine dialect rest then .ok (here .lineEnd, false, rest, groups)
          else .ok (one (.single false '$'), false, rest, groups)
      | true, '*' :: rest | true, '+' :: rest | true, '?' :: rest =>
          if dialect.strict then .error "Invalid preceding regular expression"
          else if isFirst then .ok (nothing, true, rest, groups)
          else .ok (one (.single false '*'), false, rest, groups)
      | false, '\\' :: '\x7b' :: _ => .error "Invalid preceding regular expression"
      | _, ['\\'] => .error "Trailing backslash"
      | _, '\\' :: c :: rest =>
          match if dialect.references then none else numbered? (c :: rest) with
          | some (c, rest) => .ok (one (.single dialect.folded c), false, rest, groups)
          | none => .ok (escaped dialect c, false, rest, groups)
      | _, c :: rest => .ok (one (.single dialect.folded c), false, rest, groups)
      | _, [] => .error "Premature end of regular expression"

end

/-- The numbers of the groups that an expression refers to. -/
def references : Pattern → List Nat
  | nothing | one _ | here _ => []
  | both a b | either a b => references a ++ references b
  | times body _ _ | group _ body => references body
  | same n => [n]

/-- Reads a whole expression, and counts its groups. -/
def read (dialect : Dialect) (text : Raw) : Except String (Pattern × Nat) :=
  match readEither dialect 0 (8 * (text.length + 4)) (text, 0) with
  | .error e => .error e
  | .ok (pattern, [], groups) =>
      if (references pattern).any (groups < ·) then .error "Invalid back reference"
      else .ok (pattern, groups)
  | .ok (_, '\\' :: _, _) | .ok (_, _, _) => .error "Unmatched ) or \\)"

/-- The expression that matches a text and nothing else. -/
def literal (folded : Bool) (text : Raw) : Pattern :=
  text.foldr (fun c rest => both (one (.single folded c)) rest) nothing

end ShaderLiterals.Programs.Regex
