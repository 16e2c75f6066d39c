import Mathlib.Data.List.Forall2
import Mathlib.Data.List.Induction
import Mathlib.Data.Nat.Digits.Defs
import Mathlib.Tactic.IntervalCases
import ShaderLiterals.Text.Digits

/-!
# What digits denote

A digit is looked up in the row of digits of its case, where it stands at its value, and a text of
digits denotes the number that has these values as its digits in the base.  `number?` reads exactly
the texts that denote a number (`number?_eq_some_iff`).
-/

namespace ShaderLiterals.Digits

def lowerCase : List Char := "0123456789abcdef".toList

def upperCase : List Char := "0123456789ABCDEF".toList

/-- The character is the digit of value `d` in the base. -/
def Denotes (base : Nat) (c : Char) (d : Nat) : Prop :=
  d < base ∧ (lowerCase[d]? = some c ∨ upperCase[d]? = some c)

/-- The text is a row of digits, the most significant first, and `n` is their number. -/
def Spells (base : Nat) (text : List Char) (n : Nat) : Prop :=
  ∃ ds, List.Forall₂ (Denotes base) text ds ∧ n = Nat.ofDigits base ds.reverse

/-! ## One digit -/

theorem eq_ofNat_of_toNat_eq {c : Char} {n : Nat} (h : c.toNat = n) : c = Char.ofNat n := by
  rw [← h, Char.ofNat_toNat]

theorem denotes_of_digit?_eq {base : Nat} {c : Char} {d : Nat} (h : digit? base c = some d) :
    Denotes base c d := by
  have decimal : ∀ d < 10, lowerCase[d]? = some (Char.ofNat (48 + d)) := by decide
  have lower : ∀ d < 16, 10 ≤ d → lowerCase[d]? = some (Char.ofNat (87 + d)) := by decide
  have upper : ∀ d < 16, 10 ≤ d → upperCase[d]? = some (Char.ofNat (55 + d)) := by decide
  refine ⟨digit?_lt h, ?_⟩
  have hv := (Option.filter_eq_some_iff.1 h).1
  split at hv
  · rename_i hc
    change 48 ≤ c.toNat ∧ c.toNat ≤ 57 at hc
    have hd : c.toNat - 48 = d := Option.some.inj hv
    rw [eq_ofNat_of_toNat_eq (show c.toNat = 48 + d by omega)]
    exact .inl (decimal d (by omega))
  · split at hv
    · rename_i hc
      change 97 ≤ c.toNat ∧ c.toNat ≤ 102 at hc
      have hd : c.toNat - 97 + 10 = d := Option.some.inj hv
      rw [eq_ofNat_of_toNat_eq (show c.toNat = 87 + d by omega)]
      exact .inl (lower d (by omega) (by omega))
    · split at hv
      · rename_i hc
        change 65 ≤ c.toNat ∧ c.toNat ≤ 70 at hc
        have hd : c.toNat - 65 + 10 = d := Option.some.inj hv
        rw [eq_ofNat_of_toNat_eq (show c.toNat = 55 + d by omega)]
        exact .inr (upper d (by omega) (by omega))
      · cases hv

theorem digit?_eq_of_denotes {base : Nat} {c : Char} {d : Nat} (h : Denotes base c d) :
    digit? base c = some d := by
  obtain ⟨hlt, hc⟩ := h
  have hd : d < 16 := by
    rcases hc with hc | hc
    · exact (List.getElem?_eq_some_iff.1 hc).1
    · exact (List.getElem?_eq_some_iff.1 hc).1
  refine Option.filter_eq_some_iff.2 ⟨?_, decide_eq_true hlt⟩
  clear hlt
  rcases hc with hc | hc
  · interval_cases d <;> cases hc <;> rfl
  · interval_cases d <;> cases hc <;> rfl

theorem digit?_eq_some_iff {base : Nat} {c : Char} {d : Nat} :
    digit? base c = some d ↔ Denotes base c d :=
  ⟨denotes_of_digit?_eq, digit?_eq_of_denotes⟩

theorem isDigit_iff {base : Nat} {c : Char} : isDigit base c = true ↔ ∃ d, Denotes base c d := by
  unfold isDigit
  rw [Option.isSome_iff_exists]
  simp only [digit?_eq_some_iff]

/-! ## Rows of digits -/

/-- Reading from the left is the same as summing up the places from the right. -/
theorem value_eq_ofDigits (base : Nat) (ds : List Nat) :
    value base ds = Nat.ofDigits base ds.reverse := by
  induction ds using List.reverseRecOn with
  | nil => rfl
  | append_singleton ds d ih =>
      rw [value_concat, ih, List.reverse_append, List.reverse_singleton, List.singleton_append,
        Nat.ofDigits_cons, Nat.mul_comm, Nat.add_comm]

theorem mapM_digit?_eq_some_iff {base : Nat} {text : List Char} {ds : List Nat} :
    text.mapM (digit? base) = some ds ↔ List.Forall₂ (Denotes base) text ds := by
  induction text generalizing ds with
  | nil =>
      rw [List.mapM_nil, List.forall₂_nil_left_iff]
      exact ⟨fun h => (Option.some.inj h).symm, fun h => by rw [h]; rfl⟩
  | cons c text ih =>
      rw [List.mapM_cons, List.forall₂_cons_left_iff]
      constructor
      · intro h
        obtain ⟨d, hd, h⟩ := Option.bind_eq_some_iff.1 h
        obtain ⟨rest, hrest, h⟩ := Option.bind_eq_some_iff.1 h
        exact ⟨d, rest, digit?_eq_some_iff.1 hd, ih.1 hrest, (Option.some.inj h).symm⟩
      · rintro ⟨d, rest, hd, hrest, rfl⟩
        rw [digit?_eq_some_iff.2 hd, ih.2 hrest]
        rfl

theorem number?_eq_some_iff {base : Nat} {text : List Char} {n : Nat} :
    number? base text = some n ↔ Spells base text n := by
  unfold number? Spells
  rw [Option.map_eq_some_iff]
  constructor
  · rintro ⟨ds, hds, rfl⟩
    exact ⟨ds, mapM_digit?_eq_some_iff.1 hds, value_eq_ofDigits base ds⟩
  · rintro ⟨ds, hds, rfl⟩
    exact ⟨ds, mapM_digit?_eq_some_iff.2 hds, value_eq_ofDigits base ds⟩

/-- Digits spell one number. -/
theorem Spells.unique {base : Nat} {text : List Char} {m n : Nat} (hm : Spells base text m)
    (hn : Spells base text n) : m = n := by
  rw [← number?_eq_some_iff] at hm hn
  exact Option.some.inj (hm.symm.trans hn)

theorem Spells.isDigit {base : Nat} {text : List Char} {n : Nat} (h : Spells base text n) :
    ∀ c ∈ text, isDigit base c = true := by
  obtain ⟨ds, hds, -⟩ := h
  induction hds with
  | nil => exact fun c hc => absurd hc List.not_mem_nil
  | cons hd _ ih => exact List.forall_mem_cons.2 ⟨isDigit_iff.2 ⟨_, hd⟩, ih⟩

/-- The number that digits spell has no more places than they are. -/
theorem Spells.lt_pow {base : Nat} {text : List Char} {n : Nat} (hbase : 1 < base)
    (h : Spells base text n) : n < base ^ text.length := by
  obtain ⟨ds, hds, rfl⟩ := h
  have hlt : ∀ d ∈ ds, d < base := by
    induction hds with
    | nil => exact fun d hd => absurd hd List.not_mem_nil
    | cons hd _ ih => exact List.forall_mem_cons.2 ⟨hd.1, ih⟩
  rw [hds.length_eq, ← List.length_reverse]
  exact Nat.ofDigits_lt_base_pow_length hbase fun d hd => hlt d (List.mem_reverse.1 hd)

/-- Every row of digits spells a number. -/
theorem exists_spells {base : Nat} {text : List Char} (h : ∀ c ∈ text, isDigit base c = true) :
    ∃ n, Spells base text n := by
  induction text with
  | nil => exact ⟨0, [], .nil, rfl⟩
  | cons c text ih =>
      obtain ⟨d, hd⟩ := isDigit_iff.1 (h c List.mem_cons_self)
      obtain ⟨-, ds, hds, -⟩ := ih fun c' hc' => h c' (List.mem_cons_of_mem c hc')
      exact ⟨_, d :: ds, .cons hd hds, rfl⟩

/-! ## Printed numbers -/

/-- One digit more makes the number that many times larger. -/
theorem Spells.concat {base : Nat} {text : List Char} {n : Nat} (h : Spells base text n) {c : Char}
    {d : Nat} (hd : Denotes base c d) : Spells base (text ++ [c]) (n * base + d) := by
  obtain ⟨ds, hds, rfl⟩ := h
  refine ⟨ds ++ [d], List.rel_append hds (.cons hd .nil), ?_⟩
  rw [List.reverse_append, List.reverse_singleton, List.singleton_append, Nat.ofDigits_cons,
    Nat.mul_comm, Nat.add_comm]

theorem denotes_digitChar {d : Nat} (h : d < 10) : Denotes 10 (Nat.digitChar d) d := by
  have hrow : ∀ d < 10, lowerCase[d]? = some (Nat.digitChar d) := by decide
  exact ⟨h, .inl (hrow d h)⟩

/-- The decimal digits that a number is printed with spell it. -/
theorem spells_toDigits (n : Nat) : Spells 10 (Nat.toDigits 10 n) n := by
  induction n using Nat.strongRecOn with
  | ind n ih =>
      by_cases hn : n < 10
      · rw [Nat.toDigits_of_lt_base hn]
        exact ⟨[n], .cons (denotes_digitChar hn) .nil, Nat.ofDigits_singleton.symm⟩
      · have hdigit := denotes_digitChar (Nat.mod_lt n (show 10 > 0 by decide))
        have hconcat := (ih (n / 10) (by omega)).concat hdigit
        rwa [Nat.div_add_mod', ← Nat.toDigits_of_base_le (by decide) (Nat.le_of_not_lt hn)]
          at hconcat

/-- Zeros in front do not change the number. -/
theorem Spells.replicate_append {base : Nat} (hbase : 0 < base) {text : List Char} {n : Nat}
    (h : Spells base text n) (zeros : Nat) :
    Spells base (List.replicate zeros '0' ++ text) n := by
  induction zeros with
  | zero => exact h
  | succ zeros ih =>
      obtain ⟨ds, hds, hn⟩ := ih
      refine ⟨0 :: ds, .cons ⟨hbase, .inl rfl⟩ hds, ?_⟩
      rw [List.reverse_cons, Nat.ofDigits_append, Nat.ofDigits_singleton, Nat.mul_zero,
        Nat.add_zero]
      exact hn

end ShaderLiterals.Digits
