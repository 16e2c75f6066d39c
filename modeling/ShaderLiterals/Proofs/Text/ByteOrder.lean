import ShaderLiterals.Text.Utf8

/-!
# The order of bytes

The bytes after the first one of a character are its last digits to the base 64, and the first byte
tells how many there are before it tells what is left.  So characters compare as their bytes do, and
so do texts (`encode_lt_encode`).
-/

namespace ShaderLiterals.Utf8

theorem ofNat_lt_ofNat {m n : Nat} (h : m < n) (hn : n < 256) : UInt8.ofNat m < UInt8.ofNat n := by
  rw [UInt8.lt_iff_toNat_lt, UInt8.toNat_ofNat', UInt8.toNat_ofNat']
  omega

/-- The bytes of the last `k` digits of a number to the base 64. -/
def lastDigits : (k : Nat) → (n : Nat) → List UInt8
  | 0, _ => []
  | k + 1, n => lastDigits k (n / 64) ++ [UInt8.ofNat (n % 64 + 128)]

/-- What is left of a number without those digits. -/
def withoutLast : (k : Nat) → (n : Nat) → Nat
  | 0, n => n
  | k + 1, n => withoutLast k (n / 64)

/-- Greater numbers have more left without their last digits, or else greater last digits. -/
theorem lastDigits_lt {m n : Nat} (h : m < n) (k : Nat) (s t : List UInt8) :
    withoutLast k m < withoutLast k n ∨
      withoutLast k m = withoutLast k n ∧ lastDigits k m ++ s < lastDigits k n ++ t := by
  induction k generalizing m n s t with
  | zero => exact .inl h
  | succ k ih =>
      have hdigit : m / 64 < n / 64 ∨ m / 64 = n / 64 ∧ m % 64 < n % 64 := by omega
      rw [withoutLast, withoutLast, lastDigits, lastDigits, List.append_assoc, List.append_assoc]
      rcases hdigit with hlt | ⟨heq, hlt⟩
      · exact ih hlt _ _
      · rw [heq]
        refine .inr ⟨rfl, List.append_left_lt (List.cons_lt_cons_iff.2 (.inl ?_))⟩
        exact ofNat_lt_ofNat (Nat.add_lt_add_right hlt 128) (by omega)

/-- The same for a first byte that tells what is left. -/
theorem cons_lastDigits_lt {m n : Nat} (h : m < n) {k lead : Nat}
    (hlead : withoutLast k n + lead < 256) (s t : List UInt8) :
    UInt8.ofNat (withoutLast k m + lead) :: lastDigits k m ++ s <
      UInt8.ofNat (withoutLast k n + lead) :: lastDigits k n ++ t := by
  refine List.cons_lt_cons_iff.2 ?_
  rcases lastDigits_lt h k s t with hlt | ⟨heq, hlt⟩
  · exact .inl (ofNat_lt_ofNat (Nat.add_lt_add_right hlt lead) hlead)
  · exact .inr ⟨by rw [heq], hlt⟩

/-- How many bytes follow the first one of a character. -/
def following (n : Nat) : Nat :=
  if n ≤ 0x7F then 0 else if n ≤ 0x7FF then 1 else if n ≤ 0xFFFF then 2 else 3

/-- What is added to a first byte to tell how many bytes follow. -/
def lead : Nat → Nat
  | 0 => 0
  | 1 => 0xC0
  | 2 => 0xE0
  | _ => 0xF0

/-- The number that a first byte stands for. -/
def leading (n : Nat) : Nat := withoutLast (following n) n + lead (following n)

theorem following_cases (n : Nat) :
    (n ≤ 0x7F ∧ following n = 0) ∨ (0x7F < n ∧ n ≤ 0x7FF ∧ following n = 1) ∨
      (0x7FF < n ∧ n ≤ 0xFFFF ∧ following n = 2) ∨ (0xFFFF < n ∧ following n = 3) := by
  unfold following
  split
  · omega
  · split
    · omega
    · split <;> omega

theorem toNat_lt (c : Char) : c.toNat < 0x110000 := by
  have hvalid : c.toNat < 0xD800 ∨ 0xDFFF < c.toNat ∧ c.toNat < 0x110000 := c.valid
  omega

theorem utf8EncodeChar_eq (c : Char) :
    String.utf8EncodeChar c =
      UInt8.ofNat (leading c.toNat) :: lastDigits (following c.toNat) c.toNat := by
  have hmax := toNat_lt c
  have hval : c.val.toNat = c.toNat := rfl
  unfold String.utf8EncodeChar leading following
  rw [hval]
  generalize c.toNat = n at hmax
  dsimp only
  split
  · simp [lead, withoutLast, lastDigits]
  · split
    · have hlead : n / 64 % 32 = n / 64 := by omega
      simp [lead, withoutLast, lastDigits, hlead]
    · split
      · have hlead : n / 4096 % 16 = n / 64 / 64 := by omega
        simp [lead, withoutLast, lastDigits, hlead]
      · have hlead : n / 262144 % 8 = n / 64 / 64 / 64 := by omega
        have hnext : n / 64 / 64 = n / 4096 := by omega
        simp [lead, withoutLast, lastDigits, hlead, hnext]

theorem leading_lt {n : Nat} (h : n < 0x110000) : leading n < 256 := by
  unfold leading
  rcases following_cases n with ⟨hn, h⟩ | ⟨-, hn, h⟩ | ⟨-, hn, h⟩ | ⟨-, h⟩ <;>
    simp only [h, lead, withoutLast] <;> omega

theorem leading_lt_leading {m n : Nat} (h : m < n) (hk : following m ≠ following n) :
    leading m < leading n := by
  unfold leading
  rcases following_cases m with ⟨hm, hm'⟩ | ⟨hm₀, hm, hm'⟩ | ⟨hm₀, hm, hm'⟩ | ⟨hm, hm'⟩ <;>
    rcases following_cases n with ⟨hn, hn'⟩ | ⟨hn₀, hn, hn'⟩ | ⟨hn₀, hn, hn'⟩ | ⟨hn, hn'⟩ <;>
    rw [hm', hn'] at hk ⊢ <;> simp only [lead, withoutLast] <;> omega

/-- The bytes of a smaller character come first, whatever follows them. -/
theorem utf8EncodeChar_append_lt {c d : Char} (h : c < d) (s t : List UInt8) :
    String.utf8EncodeChar c ++ s < String.utf8EncodeChar d ++ t := by
  have hlt : c.toNat < d.toNat := h
  have hbyte := leading_lt (toNat_lt d)
  rw [utf8EncodeChar_eq, utf8EncodeChar_eq]
  by_cases hk : following c.toNat = following d.toNat
  · unfold leading at hbyte ⊢
    rw [hk]
    exact cons_lastDigits_lt hlt hbyte s t
  · exact List.cons_lt_cons_iff.2 (.inl (ofNat_lt_ofNat (leading_lt_leading hlt hk) hbyte))

/-- The bytes of a smaller text come first. -/
theorem encode_lt_encode {s t : List Char} (h : s < t) : encode s < encode t := by
  induction h with
  | nil =>
      rw [encode_nil, encode_cons, utf8EncodeChar_eq]
      exact List.nil_lt_cons _ _
  | cons h ih => exact List.append_left_lt ih
  | rel h => exact utf8EncodeChar_append_lt h _ _

end ShaderLiterals.Utf8
