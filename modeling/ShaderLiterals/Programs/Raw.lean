import ShaderLiterals.Text.Digits
import ShaderLiterals.Text.Utf8

/-!
# Raw text

Programs of the machine work on bytes.  Each byte is held as the character of its number, so that
scripts and patterns can be read with character literals.
-/

namespace ShaderLiterals.Programs

abbrev Raw := List Char

namespace Raw

def ofBytes (bytes : List UInt8) : Raw :=
  bytes.map fun b => Char.ofNat b.toNat

def toBytes (raw : Raw) : List UInt8 :=
  raw.map fun c => UInt8.ofNat c.toNat

/-- The bytes of a text. -/
def ofText (text : String) : Raw :=
  ofBytes (Utf8.encode text.toList)

/-- The text that the bytes spell, with replacement characters for faults. -/
def toText (raw : Raw) : String :=
  String.ofList (Utf8.decodeLossy raw.toBytes)

/-- The byte with a number, which wraps around. -/
def byte (n : Nat) : Char :=
  Char.ofNat (n % 256)

/-- A number in decimal digits. -/
def ofNat (n : Nat) : Raw :=
  Nat.toDigits 10 n

/-- The number that decimal digits spell; at least one is needed. -/
def nat? (raw : Raw) : Option Nat :=
  if raw.isEmpty then none else Digits.number? 10 raw

/-- The number that decimal digits after an optional sign spell. -/
def int? : Raw → Option Int
  | '-' :: digits => (nat? digits).map fun n => -(n : Int)
  | '+' :: digits => (nat? digits).map fun n => (n : Int)
  | digits => (nat? digits).map fun n => (n : Int)

/-- Whether a text comes no later than another one in the order of the bytes. -/
def precedes : Raw → Raw → Bool
  | [], _ => true
  | _ :: _, [] => false
  | a :: as, b :: bs => if a = b then precedes as bs else decide (a < b)

/-- The control characters that letters after a backslash stand for. -/
def control? : Char → Option Char
  | 'a' => some '\x07'
  | 'f' => some '\x0C'
  | 'n' => some '\n'
  | 'r' => some '\r'
  | 't' => some '\t'
  | 'v' => some '\x0B'
  | _ => none

def isBlank (c : Char) : Bool := c == ' ' || c == '\t'

/-- Whether a character counts as space between words. -/
def isSpace (c : Char) : Bool := c == ' ' || ('\t' ≤ c && c ≤ '\r')

/-- The words of a text. -/
def words (text : Raw) : List Raw := (text.splitOnP isSpace).filter (!·.isEmpty)

def dropEnd (isDropped : Char → Bool) (text : Raw) : Raw :=
  (text.reverse.dropWhile isDropped).reverse

/-- A text without the characters at both ends that are dropped. -/
def trim (isDropped : Char → Bool) (text : Raw) : Raw :=
  dropEnd isDropped (text.dropWhile isDropped)

/-- The lines of a raw text, without their newlines. -/
def lines (raw : Raw) : List Raw :=
  let pieces := raw.splitOn '\n'
  if pieces.getLast? == some [] then pieces.dropLast else pieces

/-- Lines with a newline after each. -/
def unlines (lines : List Raw) : Raw :=
  lines.flatMap (· ++ ['\n'])

end Raw

end ShaderLiterals.Programs
