import ShaderLiterals.Proofs.Escape.Fault

/-!
# Digits added up in a word

The number that an escape gives is read one digit at a time: each digit is added to what the digits
before it came to, in a word of 32 bits (`Tally`).  As long as no more digits are taken than fit, the
word holds the number that they spell (`Tally.Counts.next`, `Tally.Counts.run`); eight hexadecimal
digits just fit.  So no turn ever wraps, and what is read this way is what `read` gives
(`read_eq_tally`).
-/

namespace ShaderLiterals.Escape

/-- Where a reader of digits stands. -/
structure Tally where
  /-- What was taken so far. -/
  taken : List Char
  /-- What the digits came to, in 32 bits. -/
  value : UInt32
  /-- What was not taken. -/
  left : List Char

namespace Tally

def start (text : List Char) : Tally := ⟨[], 0, text⟩

/-- The value of the next character, if that is a digit. -/
def digit? (base : Nat) (tally : Tally) : Option Nat :=
  tally.left.head?.bind (Digits.digit? base)

/-- Takes a digit, and adds its value. -/
def next? (base : Nat) (tally : Tally) : Option Tally :=
  match tally.left with
  | [] => none
  | c :: left =>
      (Digits.digit? base c).map fun d =>
        ⟨tally.taken ++ [c], tally.value * UInt32.ofNat base + UInt32.ofNat d, left⟩

/-- Takes digits until something else comes or all turns are used up. -/
def run (base : Nat) : (turns : Nat) → Tally → Tally
  | 0, tally => tally
  | turns + 1, tally =>
      match tally.next? base with
      | none => tally
      | some next => next.run base turns

variable {base turns : Nat} {tally next : Tally}

/-! ## What is taken -/

theorem exists_of_next?_eq_some (h : tally.next? base = some next) :
    ∃ c left d, tally.left = c :: left ∧ Digits.Denotes base c d ∧ tally.digit? base = some d ∧
      next = ⟨tally.taken ++ [c], tally.value * UInt32.ofNat base + UInt32.ofNat d, left⟩ := by
  obtain ⟨taken, value, left⟩ := tally
  cases left with
  | nil => cases h
  | cons c left =>
      obtain ⟨d, hd, rfl⟩ := Option.map_eq_some_iff.1 h
      exact ⟨c, left, d, rfl, Digits.digit?_eq_some_iff.1 hd, hd, rfl⟩

theorem isDigit_eq_false_of_next?_eq_none {c : Char} {left : List Char}
    (h : tally.next? base = none) (hleft : tally.left = c :: left) :
    Digits.isDigit base c = false := by
  rw [next?, hleft] at h
  rw [Digits.isDigit, Option.map_eq_none_iff.1 h]
  rfl

/-- The digits that come first are taken, as many of them as there are turns. -/
theorem taken_run (base turns : Nat) (tally : Tally) :
    (tally.run base turns).taken =
      tally.taken ++ (tally.left.take turns).takeWhile (Digits.isDigit base) := by
  induction turns generalizing tally with
  | zero => simp [run]
  | succ turns ih =>
      rw [run]
      cases hnext : tally.next? base with
      | none =>
          cases hleft : tally.left with
          | nil => simp
          | cons c left =>
              have hc := isDigit_eq_false_of_next?_eq_none hnext hleft
              simp [hc]
      | some next =>
          obtain ⟨c, left, d, hleft, hd, -, rfl⟩ := exists_of_next?_eq_some hnext
          have hc : Digits.isDigit base c = true := Digits.isDigit_iff.2 ⟨d, hd⟩
          dsimp only
          rw [ih, hleft, List.take_succ_cons, List.takeWhile_cons_of_pos hc]
          simp

/-- Nothing is lost: what is not taken is left. -/
theorem taken_append_left_run (base turns : Nat) (tally : Tally) :
    (tally.run base turns).taken ++ (tally.run base turns).left = tally.taken ++ tally.left := by
  induction turns generalizing tally with
  | zero => rfl
  | succ turns ih =>
      rw [run]
      cases hnext : tally.next? base with
      | none => rfl
      | some next =>
          obtain ⟨c, left, d, hleft, -, -, rfl⟩ := exists_of_next?_eq_some hnext
          dsimp only
          rw [ih, hleft, List.append_assoc, List.singleton_append]

/-! ## What the digits come to -/

/-- The word holds the number that the taken digits spell. -/
def Counts (base : Nat) (tally : Tally) : Prop :=
  Digits.Spells base tally.taken tally.value.toNat

theorem counts_start (base : Nat) (text : List Char) : Counts base (start text) :=
  ⟨[], .nil, rfl⟩

namespace Counts

/-- Another digit can be added without wrapping, if as many digits fit into a word. -/
theorem value_mul_add_lt {d : Nat} (h : Counts base tally) (hbase : 1 < base)
    (hfit : base ^ (tally.taken.length + 1) ≤ 2 ^ 32) (hd : tally.digit? base = some d) :
    tally.value.toNat * base + d < 2 ^ 32 := by
  obtain ⟨c, -, hc⟩ := Option.bind_eq_some_iff.1 hd
  have hspells := Digits.Spells.concat h (Digits.digit?_eq_some_iff.1 hc)
  have hlt := hspells.lt_pow hbase
  rw [List.length_append, List.length_singleton] at hlt
  exact Nat.lt_of_lt_of_le hlt hfit

/-- A turn keeps the word right. -/
theorem of_next? (h : Counts base tally) (hbase : 1 < base)
    (hfit : base ^ (tally.taken.length + 1) ≤ 2 ^ 32) (hnext : tally.next? base = some next) :
    Counts base next := by
  obtain ⟨c, left, d, -, hd, hdigit, rfl⟩ := exists_of_next?_eq_some hnext
  have hlt := h.value_mul_add_lt hbase hfit hdigit
  have hvalue : (tally.value * UInt32.ofNat base + UInt32.ofNat d).toNat =
      tally.value.toNat * base + d := by
    rw [UInt32.toNat_add, UInt32.toNat_mul, UInt32.toNat_ofNat', UInt32.toNat_ofNat',
      Nat.mul_mod_mod, ← Nat.add_mod, Nat.mod_eq_of_lt hlt]
  show Digits.Spells base (tally.taken ++ [c]) _
  rw [hvalue]
  exact Digits.Spells.concat h hd

theorem run (h : Counts base tally) (hbase : 1 < base)
    (hfit : base ^ (tally.taken.length + turns) ≤ 2 ^ 32) : Counts base (tally.run base turns) := by
  induction turns generalizing tally with
  | zero => exact h
  | succ turns ih =>
      rw [Tally.run]
      cases hnext : tally.next? base with
      | none => exact h
      | some next =>
          have hone : base ^ (tally.taken.length + 1) ≤ base ^ (tally.taken.length + (turns + 1)) :=
            Nat.pow_le_pow_right (by omega) (by omega)
          refine ih (h.of_next? hbase (Nat.le_trans hone hfit) hnext) ?_
          obtain ⟨c, left, d, -, -, -, rfl⟩ := exists_of_next?_eq_some hnext
          rwa [List.length_append, List.length_singleton, Nat.add_assoc, Nat.add_comm 1]

end Counts

end Tally

/-! ## Hexadecimal digits -/

/-- The digits of an escape, as many as the form asks for. -/
def HexForm.tally (form : HexForm) (rest : List Char) : Tally :=
  (Tally.start rest).run 16 form.digits

/-- The character that the digits come to, if none is missing. -/
def HexForm.character (form : HexForm) (tally : Tally) : Except Cause Char :=
  if tally.taken.length < form.digits then .error (.truncated form)
  else if tally.value.toNat.isValidChar then .ok (Char.ofNat tally.value.toNat)
  else .error (.invalidCodePoint tally.value.toNat)

section Hex

variable {form : HexForm} {turns : Nat}

theorem HexForm.pow_digits_le (form : HexForm) : 16 ^ form.digits ≤ 2 ^ 32 := by
  cases form <;> decide

/-- Up to as many digits as the form asks for, the word holds their number. -/
theorem counts_run_start (form : HexForm) (rest : List Char) (h : turns ≤ form.digits) :
    Tally.Counts 16 ((Tally.start rest).run 16 turns) := by
  refine (Tally.counts_start 16 rest).run (by decide) ?_
  show 16 ^ (0 + turns) ≤ 2 ^ 32
  rw [Nat.zero_add]
  exact Nat.le_trans (Nat.pow_le_pow_right (by decide) h) form.pow_digits_le

/-- No turn for a hexadecimal escape wraps. -/
theorem value_run_start_mul_add_lt (form : HexForm) {rest : List Char} {d : Nat}
    (h : turns < form.digits) (hd : ((Tally.start rest).run 16 turns).digit? 16 = some d) :
    ((Tally.start rest).run 16 turns).value.toNat * 16 + d < 2 ^ 32 := by
  have hle : ((Tally.start rest).run 16 turns).taken.length ≤ turns := by
    rw [Tally.taken_run]
    exact Nat.le_trans (List.takeWhile_prefix _).length_le (List.length_take_le _ _)
  have hpow := Nat.pow_le_pow_right (show 0 < 16 by decide) (Nat.succ_le_succ hle)
  have hform := Nat.pow_le_pow_right (show 0 < 16 by decide) h
  have hcounts := counts_run_start form rest (Nat.le_of_lt h)
  exact hcounts.value_mul_add_lt (by decide)
    (Nat.le_trans hpow (Nat.le_trans hform form.pow_digits_le)) hd

theorem taken_tally (form : HexForm) (rest : List Char) :
    (form.tally rest).taken = (rest.take form.digits).takeWhile (Digits.isDigit 16) :=
  Tally.taken_run 16 form.digits (.start rest)

theorem taken_append_left_tally (form : HexForm) (rest : List Char) :
    (form.tally rest).taken ++ (form.tally rest).left = rest :=
  Tally.taken_append_left_run 16 form.digits (.start rest)

theorem length_taken_tally_le (form : HexForm) (rest : List Char) :
    (form.tally rest).taken.length ≤ form.digits := by
  rw [taken_tally]
  have htake := List.length_take_le form.digits rest
  exact Nat.le_trans (List.takeWhile_prefix _).length_le htake

/-- What is read is what the digits come to. -/
theorem readHex_eq_tally (form : HexForm) (rest : List Char) :
    readHex form rest =
      (form.character (form.tally rest)).map fun c => ⟨(form.tally rest).taken, [c]⟩ := by
  have hcounts : Digits.Spells 16 (form.tally rest).taken (form.tally rest).value.toNat :=
    counts_run_start form rest (Nat.le_refl _)
  have hrest := taken_append_left_tally form rest
  have hle := length_taken_tally_le form rest
  have htaken := taken_tally form rest
  generalize form.tally rest = tally at hcounts hrest hle htaken
  rw [HexForm.character]
  by_cases hlt : tally.taken.length < form.digits
  · rw [if_pos hlt]
    -- Digits enough at the beginning would all have been taken.
    refine readHex_truncated fun digits tail happend hlength hdigits => ?_
    rw [happend, ← hlength, List.take_left, List.takeWhile_eq_self_iff.2 hdigits] at htaken
    rw [htaken] at hlt
    omega
  · have hlength : tally.taken.length = form.digits := by omega
    rw [if_neg hlt]
    by_cases hv : tally.value.toNat.isValidChar
    · rw [if_pos hv]
      exact readHex_eq_ok_iff.2 ⟨_, _, _, hrest.symm, hlength, hcounts, hv, rfl⟩
    · rw [if_neg hv, ← hrest]
      exact readHex_append_of_not_isValidChar hlength hcounts hv

theorem toNat_ofNat_of_isValidChar {n : Nat} (h : n.isValidChar) : (Char.ofNat n).toNat = n := by
  rw [Char.ofNat, dif_pos h]
  rfl

/-- Exactly the digits that spell a character are taken for it. -/
theorem character_tally_eq_ok_iff {rest left : List Char} {c : Char} :
    form.character (form.tally rest) = .ok c ∧ (form.tally rest).left = left ↔
      ∃ digits, rest = digits ++ left ∧ digits.length = form.digits ∧
        Digits.Spells 16 digits c.toNat := by
  have hrest := taken_append_left_tally form rest
  have hread := readHex_eq_tally form rest
  generalize form.tally rest = tally at hrest hread
  constructor
  · rintro ⟨hc, rfl⟩
    rw [hc] at hread
    obtain ⟨digits, tail, n, -, hlength, hn, hv, he⟩ := readHex_eq_ok_iff.1 hread
    cases he
    rw [toNat_ofNat_of_isValidChar hv]
    exact ⟨tally.taken, hrest.symm, hlength, hn⟩
  · rintro ⟨digits, happend, hlength, hn⟩
    have hok : readHex form rest = .ok ⟨digits, [c]⟩ :=
      readHex_eq_ok_iff.2 ⟨digits, left, c.toNat, happend, hlength, hn, c.valid,
        by rw [Char.ofNat_toNat]⟩
    rw [hok] at hread
    cases hchar : form.character tally with
    | error cause =>
        rw [hchar] at hread
        cases hread
    | ok c' =>
        rw [hchar] at hread
        cases hread
        rw [happend] at hrest
        exact ⟨rfl, List.append_cancel_left hrest⟩

end Hex

/-! ## Octal digits -/

/-- The digits of an octal escape: its letter is the first, and two more may come. -/
def octalTally (letter : Char) (rest : List Char) : Tally :=
  Tally.run 8 2 ⟨[letter], UInt32.ofNat ((Digits.digit? 8 letter).getD 0), rest⟩

section Octal

variable {letter : Char} {rest : List Char}

theorem taken_octalTally (letter : Char) (rest : List Char) :
    (octalTally letter rest).taken = letter :: (rest.take 2).takeWhile (Digits.isDigit 8) :=
  Tally.taken_run 8 2 _

theorem taken_append_left_octalTally (letter : Char) (rest : List Char) :
    (octalTally letter rest).taken ++ (octalTally letter rest).left = letter :: rest :=
  Tally.taken_append_left_run 8 2 _

theorem length_taken_octalTally_le (letter : Char) (rest : List Char) :
    (octalTally letter rest).taken.length ≤ 3 := by
  rw [taken_octalTally, List.length_cons]
  have htake := List.length_take_le 2 rest
  have hfirst := (List.takeWhile_prefix (Digits.isDigit 8) (l := rest.take 2)).length_le
  omega

theorem counts_octalTally (h : letter ∈ octalDigits) (rest : List Char) :
    Tally.Counts 8 (octalTally letter rest) := by
  obtain ⟨d, hd⟩ := Digits.isDigit_iff.1 (isDigit_eight_iff.2 h)
  refine Tally.Counts.run ?_ (by decide) (show 8 ^ 3 ≤ 2 ^ 32 by decide)
  show Digits.Spells 8 [letter] (UInt32.ofNat ((Digits.digit? 8 letter).getD 0)).toNat
  have hlt : d < 8 := hd.1
  rw [Digits.digit?_eq_some_iff.2 hd, Option.getD_some, UInt32.toNat_ofNat',
    Nat.mod_eq_of_lt (by omega)]
  exact ⟨[d], .cons hd .nil, Nat.ofDigits_singleton.symm⟩

/-- No run of up to three octal digits is longer than the one that is taken. -/
theorem prefix_taken_octalTally_iff (h : letter ∈ octalDigits) {digits : List Char} :
    digits <+: (octalTally letter rest).taken ↔
      digits <+: letter :: rest ∧ digits.length ≤ 3 ∧ ∀ c ∈ digits, c ∈ octalDigits := by
  constructor
  · intro hfirst
    refine ⟨hfirst.trans ?_, ?_, fun c hc => ?_⟩
    · exact ⟨_, taken_append_left_octalTally letter rest⟩
    · exact Nat.le_trans hfirst.length_le (length_taken_octalTally_le letter rest)
    · exact isDigit_eight_iff.1 ((counts_octalTally h rest).isDigit c (hfirst.subset hc))
  · rintro ⟨hfirst, hlength, hdigits⟩
    rw [taken_octalTally]
    cases digits with
    | nil => exact List.nil_prefix
    | cons first more =>
        obtain ⟨rfl, tail, rfl⟩ := List.cons_prefix_cons.1 hfirst
        have hmore : ∀ c ∈ more, Digits.isDigit 8 c = true := fun c hc =>
          isDigit_eight_iff.2 (hdigits c (List.mem_cons_of_mem _ hc))
        rw [List.length_cons] at hlength
        rw [List.take_append, List.take_of_length_le (by omega),
          List.takeWhile_append_of_pos hmore]
        exact List.cons_prefix_cons.2 ⟨rfl, List.prefix_append _ _⟩

/-- What is read is what the digits come to. -/
theorem readOctal_eq_tally (h : letter ∈ octalDigits) (rest : List Char) :
    readOctal letter rest =
      ⟨(octalTally letter rest).taken.tail,
        [Char.ofNat (octalTally letter rest).value.toNat]⟩ := by
  have hcounts : Digits.Spells 8 _ _ := counts_octalTally h rest
  rw [taken_octalTally] at hcounts
  rw [readOctal, Digits.number?_eq_some_iff.2 hcounts, taken_octalTally]
  rfl

/-- Three octal digits come to 511 at most. -/
theorem value_octalTally_le (h : letter ∈ octalDigits) (rest : List Char) :
    (octalTally letter rest).value.toNat ≤ 511 := by
  have hlt := (counts_octalTally h rest).lt_pow (by decide)
  have hpow : 8 ^ (octalTally letter rest).taken.length ≤ 8 ^ 3 :=
    Nat.pow_le_pow_right (by decide) (length_taken_octalTally_le letter rest)
  omega

end Octal

/-! ## Code points that stand for no character -/

section Invalid

variable {names : Names} {letter : Char} {rest : List Char} {value : Nat}

theorem faulty_invalidCodePoint_iff {after : List Char} :
    Faulty names (.invalidCodePoint value) after ↔
      ∃ form digits left, form ≠ HexForm.byte ∧ after = form.letter :: (digits ++ left) ∧
        digits.length = form.digits ∧ Digits.Spells 16 digits value ∧ ¬ value.isValidChar := by
  constructor
  · intro h
    cases h with
    | invalidCodePoint form digits left value hform hlength hdigits hvalue =>
        refine ⟨form, digits, left, ?_, rfl, hlength, hdigits, not_isValidChar_iff.2 hvalue⟩
        rintro rfl
        rcases hform with hform | hform <;> cases hform
  · rintro ⟨form, digits, left, hform, rfl, hlength, hdigits, hvalue⟩
    refine .invalidCodePoint form digits left value ?_ hlength hdigits (not_isValidChar_iff.1 hvalue)
    cases form with
    | byte => exact absurd rfl hform
    | short => exact .inl rfl
    | long => exact .inr rfl

end Invalid

/-- Numbers are read one digit at a time into a word of 32 bits.  At no turn does the word wrap: it
holds the number that the digits taken so far spell, and only digits are taken.  A hexadecimal escape
gives a character exactly if as many digits as its form asks for come next and spell the code point
of that character, and they are all that is taken.  An octal escape takes the longest run of up to
three digits, which come to 511 at most.  So only the two longer hexadecimal forms can give a code
point that stands for no character, and it is the number that is written there. -/
theorem read_eq_tally (names : Names) (rest : List Char) :
    (∀ form : HexForm,
      (∀ turns < form.digits, ∀ d,
        let tally := (Tally.start rest).run 16 turns
        tally.digit? 16 = some d → tally.value.toNat * 16 + d < 2 ^ 32) ∧
      (∀ turns ≤ form.digits,
        let tally := (Tally.start rest).run 16 turns
        tally.taken ++ tally.left = rest ∧ Digits.Spells 16 tally.taken tally.value.toNat) ∧
      read names form.letter rest =
        (form.character (form.tally rest)).map (fun c => ⟨(form.tally rest).taken, [c]⟩) ∧
      ∀ c left, form.character (form.tally rest) = .ok c ∧ (form.tally rest).left = left ↔
        ∃ digits, rest = digits ++ left ∧ digits.length = form.digits ∧
          Digits.Spells 16 digits c.toNat) ∧
    (∀ letter ∈ octalDigits,
      let tally := octalTally letter rest
      (∃ c, read names letter rest = .ok ⟨tally.taken.tail, [c]⟩ ∧ c.toNat = tally.value.toNat) ∧
      tally.taken ++ tally.left = letter :: rest ∧
      (∀ digits, digits <+: tally.taken ↔
        digits <+: letter :: rest ∧ digits.length ≤ 3 ∧ ∀ c ∈ digits, c ∈ octalDigits) ∧
      Digits.Spells 8 tally.taken tally.value.toNat ∧ tally.value.toNat ≤ 511) ∧
    (∀ letter value, read names letter rest = .error (.invalidCodePoint value) ↔
      ∃ form digits left, form ≠ HexForm.byte ∧ letter = form.letter ∧ rest = digits ++ left ∧
        digits.length = form.digits ∧ Digits.Spells 16 digits value ∧ ¬ value.isValidChar) ∧
    ∀ text offset value, decode names text = .error (.escape offset (.invalidCodePoint value)) →
      ∃ before form digits after, form ≠ HexForm.byte ∧
        text = before ++ '\\' :: form.letter :: (digits ++ after) ∧ byteLength before = offset ∧
        digits.length = form.digits ∧ Digits.Spells 16 digits value := by
  refine ⟨fun form => ⟨fun turns hturns d => ?_, fun turns hturns => ⟨?_, ?_⟩, ?_, fun c left => ?_⟩,
    fun letter hletter => ⟨?_, ?_, fun digits => ?_, ?_, ?_⟩, fun letter value => ?_,
    fun text offset value h => ?_⟩
  · exact value_run_start_mul_add_lt form hturns
  · exact Tally.taken_append_left_run 16 turns (.start rest)
  · exact counts_run_start form rest hturns
  · rw [read_hex, readHex_eq_tally]
  · exact character_tally_eq_ok_iff
  · have hle := value_octalTally_le hletter rest
    refine ⟨Char.ofNat (octalTally letter rest).value.toNat, ?_, ?_⟩
    · rw [read_octal hletter, readOctal_eq_tally hletter]
    · exact toNat_ofNat_of_isValidChar (.inl (by omega))
  · exact taken_append_left_octalTally letter rest
  · exact prefix_taken_octalTally_iff hletter
  · exact counts_octalTally hletter rest
  · exact value_octalTally_le hletter rest
  · rw [read_eq_error_iff, faulty_invalidCodePoint_iff]
    simp only [List.cons.injEq, and_assoc]
  · obtain ⟨before, after, s, rfl, -, hstops⟩ := decode_eq_error_iff.1 h
    cases hstops with
    | escape hfaulty =>
        obtain ⟨form, digits, left, hform, rfl, hlength, hdigits, -⟩ :=
          faulty_invalidCodePoint_iff.1 hfaulty
        exact ⟨before, form, digits, left, hform, rfl, rfl, hlength, hdigits⟩

end ShaderLiterals.Escape
