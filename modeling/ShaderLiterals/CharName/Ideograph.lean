import ShaderLiterals.Text.CodeRange
import ShaderLiterals.Text.Digits

/-!
# Names of unified ideographs

An ideograph is named by its code point in at most five hexadecimal digits.
-/

namespace ShaderLiterals.CharName.Ideograph

/-- The blocks of unified ideographs, as far as they are assigned. -/
def blocks : CodeRanges :=
  [(0x3400, 0x4DBF), (0x4E00, 0x9FFF), (0x20000, 0x2A6DF), (0x2A700, 0x2B739), (0x2B740, 0x2B81D),
    (0x2B820, 0x2CEA1), (0x2CEB0, 0x2EBE0), (0x2EBF0, 0x2EE5D), (0x30000, 0x3134A),
    (0x31350, 0x323AF)]

def ideograph? (text : List Char) : Option Char :=
  if 5 < text.length then none
  else ((Digits.number? 16 text).map Char.ofNat).filter blocks.contains

end ShaderLiterals.CharName.Ideograph
