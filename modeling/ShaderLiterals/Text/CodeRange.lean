/-!
# Sets of characters given by ranges of code points
-/

namespace ShaderLiterals

/-- The first and the last code point of each range. -/
abbrev CodeRanges := List (Nat × Nat)

/-- Whether one of the ranges holds the character. -/
def CodeRanges.contains (ranges : CodeRanges) (c : Char) : Bool :=
  ranges.any fun r => r.1 ≤ c.toNat && c.toNat ≤ r.2

@[simp] theorem CodeRanges.contains_nil (c : Char) : CodeRanges.contains [] c = false := rfl

@[simp] theorem CodeRanges.contains_cons (r : Nat × Nat) (rs : CodeRanges) (c : Char) :
    CodeRanges.contains (r :: rs) c = ((r.1 ≤ c.toNat && c.toNat ≤ r.2) || rs.contains c) := rfl

end ShaderLiterals
