import ShaderLiterals.Text.ShownRanges

/-!
# Quoted text

How a path is named in a message: between double quotes, with what a reader could not see, or
could mistake, written as an escape.
-/

namespace ShaderLiterals.Quoted

/-- Whether a character stands for itself between the quotes, escapes with a letter apart. -/
def isShown (c : Char) : Bool :=
  if c.toNat < 0x80 then 0x20 ≤ c.toNat && c.toNat < 0x7F else shownRanges.contains c

/-- A code point in lower-case hexadecimal, with as few digits as it needs. -/
def hex (n : Nat) : List Char :=
  Nat.toDigits 16 n

def quoteChar (c : Char) : List Char :=
  match c with
  | '"' => ['\\', '"']
  | '\\' => ['\\', '\\']
  | '\n' => ['\\', 'n']
  | '\r' => ['\\', 'r']
  | '\t' => ['\\', 't']
  | '\x00' => ['\\', '0']
  | c => if isShown c then [c] else ['\\', 'u', '\x7b'] ++ hex c.toNat ++ ['\x7d']

/-- A text between double quotes. -/
def quote (text : String) : String :=
  String.ofList ('"' :: text.toList.flatMap quoteChar ++ ['"'])

end ShaderLiterals.Quoted
