/-! # Digits and the numbers they spell -/

namespace ShaderLiterals.Digits

/-- The value of a digit of either case, if it is below the base. -/
def digit? (base : Nat) (c : Char) : Option Nat :=
  let value? :=
    if '0' ≤ c ∧ c ≤ '9' then some (c.toNat - '0'.toNat)
    else if 'a' ≤ c ∧ c ≤ 'f' then some (c.toNat - 'a'.toNat + 10)
    else if 'A' ≤ c ∧ c ≤ 'F' then some (c.toNat - 'A'.toNat + 10)
    else none
  value?.filter (· < base)

def isDigit (base : Nat) (c : Char) : Bool :=
  (digit? base c).isSome

theorem digit?_lt {base : Nat} {c : Char} {d : Nat} (h : digit? base c = some d) : d < base := by
  simpa using (Option.filter_eq_some_iff.1 h).2

/-- The number that digits spell, the most significant first. -/
def value (base : Nat) (digits : List Nat) : Nat :=
  digits.foldl (fun n d => n * base + d) 0

@[simp] theorem value_nil (base : Nat) : value base [] = 0 := rfl

theorem value_concat (base : Nat) (digits : List Nat) (d : Nat) :
    value base (digits ++ [d]) = value base digits * base + d := by
  simp [value]

/-- The number that a text of digits spells; `none` if one of its characters is no digit. -/
def number? (base : Nat) (text : List Char) : Option Nat :=
  (text.mapM (digit? base)).map (value base)

@[simp] theorem number?_nil (base : Nat) : number? base [] = some 0 := by
  simp [number?]

end ShaderLiterals.Digits
