import ShaderLiterals.Text.Digits

/-!
# Escapes in string literals

A backslash and what follows it stand for other text.  `read` takes one escape, `decode` a whole
text; the first escape that stands for nothing ends the decoding and is reported with its place.
-/

namespace ShaderLiterals.Escape

/-- The characters that have names, under those names in upper case. -/
abbrev Names := String → Option Char

/-- The escapes that give a code point in a fixed number of hexadecimal digits. -/
inductive HexForm where
  | byte
  | short
  | long
deriving DecidableEq, Repr

namespace HexForm

def letter : HexForm → Char
  | byte => 'x'
  | short => 'u'
  | long => 'U'

def digits : HexForm → Nat
  | byte => 2
  | short => 4
  | long => 8

def ofLetter? : Char → Option HexForm
  | 'x' => some byte
  | 'u' => some short
  | 'U' => some long
  | _ => none

@[simp] theorem ofLetter?_letter (form : HexForm) : ofLetter? form.letter = some form := by
  cases form <;> rfl

end HexForm

/-- Why an escape stands for nothing. -/
inductive Cause where
  /-- Fewer hexadecimal digits than the form asks for. -/
  | truncated (form : HexForm)
  /-- The value is a surrogate or past the last code point. -/
  | invalidCodePoint (value : Nat)
  /-- A name that is empty, or not between braces. -/
  | malformedName
  | unknownName (name : String)
deriving DecidableEq, Repr

/-- Why a text cannot be decoded. -/
inductive Fault where
  /-- The escape whose backslash stands `offset` bytes into the text stands for nothing. -/
  | escape (offset : Nat) (cause : Cause)
  /-- A backslash with nothing after it. -/
  | trailingBackslash
deriving DecidableEq, Repr

def Cause.message (offset : Nat) : Cause → String
  | truncated form =>
      s!"truncated \\{form.letter} escape at byte {offset}: expected {form.digits} hex digits"
  | invalidCodePoint value =>
      s!"escape at byte {offset} encodes 0x{String.ofList (Nat.toDigits 16 value)}, "
        ++ "which is not a unicode scalar value"
  | malformedName => s!"malformed \\N\x7b...\x7d escape at byte {offset}"
  | unknownName name => s!"unknown unicode character name `{name}` at byte {offset}"

def Fault.message : Fault → String
  | escape offset cause => cause.message offset
  | trailingBackslash => "lone backslash at end of text"

/-- An escape that was read. -/
structure Reading where
  /-- The characters taken after the one that follows the backslash. -/
  more : List Char
  /-- The text that the escape stands for. -/
  value : List Char
deriving DecidableEq, Repr

/-- The escapes of one letter that stand for one character. -/
def simple? : Char → Option Char
  | '\\' => some '\\'
  | '\'' => some '\''
  | '"' => some '"'
  | 'a' => some '\x07'
  | 'b' => some '\x08'
  | 'f' => some '\x0C'
  | 'n' => some '\n'
  | 'r' => some '\r'
  | 't' => some '\t'
  | 'v' => some '\x0B'
  | _ => none

/-- Up to three octal digits, the first of which is `letter`. -/
def readOctal (letter : Char) (rest : List Char) : Reading :=
  let more := (rest.take 2).takeWhile (Digits.isDigit 8)
  ⟨more, [Char.ofNat ((Digits.number? 8 (letter :: more)).getD 0)]⟩

/-- As many hexadecimal digits as the form asks for, and no fewer. -/
def readHex (form : HexForm) (rest : List Char) : Except Cause Reading :=
  let more := rest.take form.digits
  if more.length < form.digits then .error (.truncated form)
  else
    match Digits.number? 16 more with
    | none => .error (.truncated form)
    | some value =>
        if value.isValidChar then .ok ⟨more, [Char.ofNat value]⟩
        else .error (.invalidCodePoint value)

/-- A name between braces, known in upper case. -/
def readNamed (names : Names) : List Char → Except Cause Reading
  | '\x7b' :: rest =>
      let name := rest.takeWhile (· != '\x7d')
      if name.isEmpty || name.length == rest.length then .error .malformedName
      else
        match names (String.ofList (name.map Char.toUpper)) with
        | some c => .ok ⟨'\x7b' :: name ++ ['\x7d'], [c]⟩
        | none => .error (.unknownName (String.ofList name))
  | _ => .error .malformedName

/-- The escape of a backslash before `letter` and `rest`.  A newline is dropped with its
backslash, and an unknown escape stands for itself. -/
def read (names : Names) (letter : Char) (rest : List Char) : Except Cause Reading :=
  if letter = '\n' then .ok ⟨[], []⟩
  else
    match simple? letter, HexForm.ofLetter? letter with
    | some c, _ => .ok ⟨[], [c]⟩
    | none, some form => readHex form rest
    | none, none =>
        if letter = 'N' then readNamed names rest
        else if Digits.isDigit 8 letter then .ok (readOctal letter rest)
        else .ok ⟨[], ['\\', letter]⟩

/-- The number of bytes of a text. -/
def byteLength (text : List Char) : Nat :=
  text.foldr (fun c n => c.utf8Size + n) 0

@[simp] theorem byteLength_nil : byteLength [] = 0 := rfl

@[simp] theorem byteLength_cons (c : Char) (text : List Char) :
    byteLength (c :: text) = c.utf8Size + byteLength text := rfl

@[simp] theorem byteLength_append (s t : List Char) :
    byteLength (s ++ t) = byteLength s + byteLength t := by
  induction s with
  | nil => simp
  | cons c s ih => simp [ih, Nat.add_assoc]

/-- Decodes a text that stands `offset` bytes into a longer one. -/
def decodeFrom (names : Names) (offset : Nat) : List Char → Except Fault (List Char)
  | [] => .ok []
  | '\\' :: [] => .error .trailingBackslash
  | '\\' :: letter :: rest =>
      match read names letter rest with
      | .error cause => .error (.escape offset cause)
      | .ok e =>
          (decodeFrom names (offset + 1 + letter.utf8Size + byteLength e.more)
            (rest.drop e.more.length)).map (e.value ++ ·)
  | c :: rest => (decodeFrom names (offset + c.utf8Size) rest).map (c :: ·)
termination_by text => text.length
decreasing_by all_goals simp; try omega

/-- The text that a text with escapes stands for. -/
def decode (names : Names) (text : List Char) : Except Fault (List Char) :=
  decodeFrom names 0 text

end ShaderLiterals.Escape
