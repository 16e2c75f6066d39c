import ShaderLiterals.CharName.Hangul
import ShaderLiterals.CharName.Ideograph
import ShaderLiterals.CharName.Table

/-!
# Names of characters

Names are in upper case.  Syllables and ideographs have names made by a rule; other names stand in
a table.
-/

namespace ShaderLiterals.CharName

/-- No character has a name of more bytes than this. -/
def maxBytes : Nat := 88

/-- The character of a name. -/
def lookup (name : String) : Option Char :=
  if maxBytes < name.utf8ByteSize then none
  else
    match "HANGUL SYLLABLE ".toList.isPrefixOf? name.toList with
    | some letters => Hangul.syllable? letters
    | none =>
        match "CJK UNIFIED IDEOGRAPH-".toList.isPrefixOf? name.toList with
        | some digits => Ideograph.ideograph? digits
        | none => (table.lookup name).map Char.ofNat

end ShaderLiterals.CharName
