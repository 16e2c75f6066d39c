import Mathlib.Data.Bool.AllAny
import Mathlib.Data.List.TakeWhile
import ShaderLiterals.Escape
import ShaderLiterals.Proofs.Text.Digits

/-!
# What one escape takes

The letter after a backslash decides which kind of escape it is (`letter_cases`), and each kind has
an equation for `read`.  An escape takes the beginning of what follows its letter
(`read_more_prefix`), and text that could neither lengthen nor finish one may stand behind it
(`read_append_of_inert`).
-/

namespace ShaderLiterals.Escape

/-! ## Letters -/

/-- The letters that stand for one character, and that character. -/
def simpleEscapes : List (Char × Char) :=
  [('\\', '\\'), ('\'', '\''), ('"', '"'), ('a', '\x07'), ('b', '\x08'), ('f', '\x0C'),
    ('n', '\n'), ('r', '\r'), ('t', '\t'), ('v', '\x0B')]

def octalDigits : List Char := "01234567".toList

/-- The letters that mean something after a backslash. -/
def announcing : List Char :=
  '\n' :: simpleEscapes.map Prod.fst ++ octalDigits ++ ['x', 'u', 'U', 'N']

theorem simple?_eq_some_iff {letter c : Char} :
    simple? letter = some c ↔ (letter, c) ∈ simpleEscapes := by
  constructor
  · intro h
    unfold simple? at h
    split at h <;> cases h <;> decide
  · intro h
    simp only [simpleEscapes, List.mem_cons, List.not_mem_nil, or_false, Prod.mk.injEq] at h
    rcases h with h | h | h | h | h | h | h | h | h | h <;> obtain ⟨rfl, rfl⟩ := h <;> rfl

theorem isDigit_eight_iff {c : Char} : Digits.isDigit 8 c = true ↔ c ∈ octalDigits := by
  constructor
  · intro h
    obtain ⟨d, hd, hc⟩ := Digits.isDigit_iff.1 h
    interval_cases d <;> rcases hc with hc | hc <;> cases hc <;> decide
  · intro h
    have key : ∀ d ∈ octalDigits, Digits.isDigit 8 d = true :=
      List.all_iff_forall_prop.1 (by decide)
    exact key c h

/-- A letter that means nothing is of none of the kinds that do. -/
theorem kinds_of_not_announcing {letter : Char} (h : letter ∉ announcing) :
    letter ≠ '\n' ∧ letter ∉ simpleEscapes.map Prod.fst ∧ letter ∉ octalDigits ∧
      HexForm.ofLetter? letter = none ∧ letter ≠ 'N' := by
  refine ⟨?_, ?_, ?_, ?_, ?_⟩
  · rintro rfl
    exact h (by decide)
  · exact fun hc => h (List.mem_append_left _ (List.mem_append_left _ (List.mem_cons_of_mem _ hc)))
  · exact fun hc => h (List.mem_append_left _ (List.mem_append_right _ hc))
  · unfold HexForm.ofLetter?
    split <;> first | rfl | exact absurd (by decide) h
  · rintro rfl
    exact h (by decide)

/-- Every letter is of one kind. -/
@[elab_as_elim]
theorem letter_cases {motive : Char → Prop} (newline : motive '\n')
    (simple : ∀ letter c, (letter, c) ∈ simpleEscapes → motive letter)
    (octal : ∀ letter, letter ∈ octalDigits → motive letter)
    (hex : ∀ form : HexForm, motive form.letter) (named : motive 'N')
    (verbatim : ∀ letter, letter ∉ announcing → motive letter) (letter : Char) :
    motive letter := by
  by_cases h : letter ∈ announcing
  · rcases List.mem_append.1 h with h | h
    · rcases List.mem_append.1 h with h | h
      · rcases List.mem_cons.1 h with rfl | h
        · exact newline
        · obtain ⟨⟨letter, c⟩, hc, rfl⟩ := List.mem_map.1 h
          exact simple letter c hc
      · exact octal letter h
    · simp only [List.mem_cons, List.not_mem_nil, or_false] at h
      rcases h with rfl | rfl | rfl | rfl
      · exact hex .byte
      · exact hex .short
      · exact hex .long
      · exact named
  · exact verbatim letter h

section Read

variable {names : Names} {letter : Char} {rest : List Char}

theorem read_newline : read names '\n' rest = .ok ⟨[], []⟩ := rfl

theorem read_simple {c : Char} (h : (letter, c) ∈ simpleEscapes) :
    read names letter rest = .ok ⟨[], [c]⟩ := by
  simp only [simpleEscapes, List.mem_cons, List.not_mem_nil, or_false, Prod.mk.injEq] at h
  rcases h with h | h | h | h | h | h | h | h | h | h <;> obtain ⟨rfl, rfl⟩ := h <;> rfl

theorem read_octal (h : letter ∈ octalDigits) :
    read names letter rest = .ok (readOctal letter rest) := by
  have key : ∀ c ∈ octalDigits,
      c ≠ '\n' ∧ simple? c = none ∧ HexForm.ofLetter? c = none ∧ c ≠ 'N' :=
    List.all_iff_forall_prop.1 (by decide)
  obtain ⟨hn, hs, hx, hN⟩ := key letter h
  simp only [read, if_neg hn, hs, hx, if_neg hN, if_pos (isDigit_eight_iff.2 h)]

theorem read_hex (form : HexForm) : read names form.letter rest = readHex form rest := by
  cases form <;> rfl

theorem read_named : read names 'N' rest = readNamed names rest := rfl

theorem read_verbatim (h : letter ∉ announcing) :
    read names letter rest = .ok ⟨[], ['\\', letter]⟩ := by
  obtain ⟨hn, hs, ho, hx, hN⟩ := kinds_of_not_announcing h
  have hs' : simple? letter = none := by
    rw [Option.eq_none_iff_forall_not_mem]
    exact fun c hc => hs (List.mem_map_of_mem (simple?_eq_some_iff.1 hc))
  have ho' : ¬ Digits.isDigit 8 letter = true := fun hc => ho (isDigit_eight_iff.1 hc)
  simp only [read, if_neg hn, hs', hx, if_neg hN, if_neg ho']

end Read

/-! ## Digits -/

/-- An octal escape takes its digits up to the third, and leaves none that it could take. -/
theorem readOctal_append {letter : Char} {more tail : List Char} {n : Nat}
    (hlen : more.length ≤ 2) (hn : Digits.Spells 8 (letter :: more) n)
    (hnext : more.length < 2 → ∀ c ∈ tail.head?, c ∉ octalDigits) :
    readOctal letter (more ++ tail) = ⟨more, [Char.ofNat n]⟩ := by
  have hmore : ∀ c ∈ more, Digits.isDigit 8 c = true := fun c hc =>
    hn.isDigit c (List.mem_cons_of_mem _ hc)
  have htail : (tail.take (2 - more.length)).takeWhile (Digits.isDigit 8) = [] := by
    rcases Nat.lt_or_eq_of_le hlen with hlt | heq
    · cases tail with
      | nil => simp
      | cons c tail =>
          obtain ⟨k, hk⟩ : ∃ k, 2 - more.length = k + 1 := ⟨1 - more.length, by omega⟩
          have hc : ¬ Digits.isDigit 8 c = true := fun hd =>
            hnext hlt c rfl (isDigit_eight_iff.1 hd)
          rw [hk, List.take_succ_cons, List.takeWhile_cons_of_neg hc]
    · rw [heq, Nat.sub_self, List.take_zero, List.takeWhile_nil]
  have htake : ((more ++ tail).take 2).takeWhile (Digits.isDigit 8) = more := by
    rw [List.take_append, List.take_of_length_le hlen, List.takeWhile_append_of_pos hmore, htail,
      List.append_nil]
  simp only [readOctal, htake, Digits.number?_eq_some_iff.2 hn, Option.getD_some]

/-- The octal digits at the beginning of a text, two at most. -/
theorem exists_octal_prefix (rest : List Char) :
    ∃ more tail, rest = more ++ tail ∧ more.length ≤ 2 ∧ (∀ c ∈ more, c ∈ octalDigits) ∧
      (more.length < 2 → ∀ c ∈ tail.head?, c ∉ octalDigits) := by
  rcases rest with _ | ⟨a, rest⟩
  · exact ⟨[], [], rfl, by decide, by simp, by simp⟩
  · by_cases ha : a ∈ octalDigits
    · rcases rest with _ | ⟨b, rest⟩
      · exact ⟨[a], [], rfl, by simp, by simpa using ha, by simp⟩
      · by_cases hb : b ∈ octalDigits
        · exact ⟨[a, b], rest, rfl, by simp, by simpa using ⟨ha, hb⟩, by simp⟩
        · exact ⟨[a], b :: rest, rfl, by simp, by simpa using ha, by simpa using hb⟩
    · exact ⟨[], a :: rest, rfl, by simp, by simp, by simpa using ha⟩

/-- What an octal escape takes, whatever follows its first digit. -/
theorem exists_readOctal_append {letter : Char} (h : letter ∈ octalDigits) (rest : List Char) :
    ∃ more tail n, rest = more ++ tail ∧ more.length ≤ 2 ∧ Digits.Spells 8 (letter :: more) n ∧
      (more.length < 2 → ∀ c ∈ tail.head?, c ∉ octalDigits) := by
  obtain ⟨more, tail, hrest, hlen, hmore, hnext⟩ := exists_octal_prefix rest
  have hdigits : ∀ c ∈ letter :: more, Digits.isDigit 8 c = true := by
    intro c hc
    rcases List.mem_cons.1 hc with rfl | hc
    · exact isDigit_eight_iff.2 h
    · exact isDigit_eight_iff.2 (hmore c hc)
  obtain ⟨n, hn⟩ := Digits.exists_spells hdigits
  exact ⟨more, tail, n, hrest, hlen, hn, hnext⟩

section Hex

variable {form : HexForm} {rest : List Char}

theorem readHex_eq_ok_iff {e : Reading} :
    readHex form rest = .ok e ↔
      ∃ digits tail n, rest = digits ++ tail ∧ digits.length = form.digits ∧
        Digits.Spells 16 digits n ∧ n.isValidChar ∧ e = ⟨digits, [Char.ofNat n]⟩ := by
  constructor
  · intro h
    unfold readHex at h
    dsimp only at h
    split at h
    · cases h
    · rename_i hlen
      split at h
      · cases h
      · rename_i n hn
        split at h
        · rename_i hv
          have htake := List.length_take_le form.digits rest
          exact ⟨rest.take form.digits, rest.drop form.digits, n,
            (List.take_append_drop _ _).symm, by omega, Digits.number?_eq_some_iff.1 hn, hv,
            (Except.ok.inj h).symm⟩
        · cases h
  · rintro ⟨digits, tail, n, rfl, hlen, hn, hv, rfl⟩
    have htake : (digits ++ tail).take form.digits = digits := by rw [← hlen, List.take_left]
    simp only [readHex, htake, hlen, Nat.lt_irrefl, if_false, Digits.number?_eq_some_iff.2 hn,
      if_pos hv]

/-- Without its digits, a hexadecimal escape is truncated. -/
theorem readHex_truncated
    (h : ∀ digits tail, rest = digits ++ tail → digits.length = form.digits →
      ¬ ∀ c ∈ digits, Digits.isDigit 16 c = true) :
    readHex form rest = .error (.truncated form) := by
  unfold readHex
  dsimp only
  split
  · rfl
  · rename_i hlen
    split
    · rfl
    · rename_i n hn
      have htake := List.length_take_le form.digits rest
      exact absurd (Digits.number?_eq_some_iff.1 hn).isDigit
        (h _ (rest.drop form.digits) (List.take_append_drop _ _).symm (by omega))

/-- Only digits that follow directly can be taken. -/
theorem readHex_append_of_not_digit {extra : List Char}
    (h : ∀ c ∈ extra, Digits.isDigit 16 c = false) :
    readHex form (rest ++ extra) = readHex form rest := by
  by_cases hlen : form.digits ≤ rest.length
  · unfold readHex
    rw [List.take_append_of_le_length hlen]
  · rw [readHex_truncated, readHex_truncated]
    · intro digits tail hrest hdigits
      rw [hrest, List.length_append] at hlen
      omega
    · -- digits as many as the form asks for would reach into the text that holds none
      intro digits tail hrest hdigits hall
      have hprefix : rest <+: digits :=
        List.prefix_of_prefix_length_le (List.prefix_append rest extra)
          (hrest ▸ List.prefix_append digits tail) (by omega)
      obtain ⟨more, rfl⟩ := hprefix
      rw [List.append_assoc, List.append_cancel_left_eq] at hrest
      cases more with
      | nil => rw [List.append_nil] at hdigits; omega
      | cons c more =>
          have hc := hall c (List.mem_append_right _ List.mem_cons_self)
          rw [h c (hrest ▸ List.mem_append_left _ List.mem_cons_self)] at hc
          cases hc

end Hex

/-! ## Names -/

section Named

variable {names : Names}

/-- The closing brace is the first one, and the name is what stands before it. -/
theorem readNamed_closed {name : List Char} (h : '\x7d' ∉ name) (hne : name ≠ [])
    (tail : List Char) :
    readNamed names ('\x7b' :: (name ++ '\x7d' :: tail)) =
      match names (String.ofList (name.map Char.toUpper)) with
      | some c => .ok ⟨'\x7b' :: name ++ ['\x7d'], [c]⟩
      | none => .error (.unknownName (String.ofList name)) := by
  have htake : (name ++ '\x7d' :: tail).takeWhile (· != '\x7d') = name := by
    rw [List.takeWhile_append_of_pos fun c hc => by simpa using ne_of_mem_of_not_mem hc h,
      List.takeWhile_cons_of_neg (by simp), List.append_nil]
  have hguard : ¬ (name.isEmpty || name.length == (name ++ '\x7d' :: tail).length) = true := by
    intro hg
    rcases Bool.or_eq_true_iff.1 hg with hg | hg
    · exact hne (List.isEmpty_iff.1 hg)
    · have hlen := beq_iff_eq.1 hg
      rw [List.length_append, List.length_cons] at hlen
      omega
  simp only [readNamed, htake]
  exact if_neg hguard

theorem readNamed_empty (tail : List Char) :
    readNamed names ('\x7b' :: '\x7d' :: tail) = .error .malformedName := rfl

theorem readNamed_unclosed {rest : List Char} (h : '\x7d' ∉ rest) :
    readNamed names ('\x7b' :: rest) = .error .malformedName := by
  have htake : rest.takeWhile (· != '\x7d') = rest :=
    List.takeWhile_eq_self_iff.2 fun c hc => by simpa using ne_of_mem_of_not_mem hc h
  simp [readNamed, htake]

theorem readNamed_unopened {rest : List Char} (h : '\x7b' ∉ rest.head?) :
    readNamed names rest = .error .malformedName := by
  unfold readNamed
  split
  · exact absurd rfl h
  · rfl

/-- A text opens no name, or does not close it, or gives one. -/
theorem name_cases (rest : List Char) :
    '\x7b' ∉ rest.head? ∨ (∃ name, rest = '\x7b' :: name ∧ '\x7d' ∉ name) ∨
      ∃ name tail, rest = '\x7b' :: (name ++ '\x7d' :: tail) ∧ '\x7d' ∉ name := by
  rcases rest with _ | ⟨c, rest⟩
  · exact .inl (by simp)
  · by_cases hc : c = '\x7b'
    · subst hc
      by_cases h : '\x7d' ∈ rest
      · obtain ⟨name, tail, rfl, hname⟩ := List.eq_append_cons_of_mem h
        exact .inr (.inr ⟨name, tail, rfl, hname⟩)
      · exact .inr (.inl ⟨rest, rfl, h⟩)
    · exact .inl (by simpa using hc)

theorem readNamed_eq_ok_iff {rest : List Char} {e : Reading} :
    readNamed names rest = .ok e ↔
      ∃ name tail c, rest = '\x7b' :: (name ++ '\x7d' :: tail) ∧ '\x7d' ∉ name ∧ name ≠ [] ∧
        names (String.ofList (name.map Char.toUpper)) = some c ∧
        e = ⟨'\x7b' :: name ++ ['\x7d'], [c]⟩ := by
  constructor
  · intro h
    rcases name_cases rest with hopen | ⟨name, rfl, hname⟩ | ⟨name, tail, rfl, hname⟩
    · rw [readNamed_unopened hopen] at h
      cases h
    · rw [readNamed_unclosed hname] at h
      cases h
    · by_cases hne : name = []
      · rw [hne, List.nil_append, readNamed_empty] at h
        cases h
      · rw [readNamed_closed hname hne] at h
        split at h
        · rename_i c hc
          exact ⟨name, tail, c, rfl, hname, hne, hc, (Except.ok.inj h).symm⟩
        · cases h
  · rintro ⟨name, tail, c, rfl, hname, hne, hc, rfl⟩
    rw [readNamed_closed hname hne, hc]

/-- A text without braces neither begins a name nor ends one. -/
theorem readNamed_append_of_not_brace {extra : List Char}
    (hopen : '\x7b' ∉ extra) (hclose : '\x7d' ∉ extra) (rest : List Char) :
    readNamed names (rest ++ extra) = readNamed names rest := by
  rcases name_cases rest with h | ⟨name, rfl, hname⟩ | ⟨name, tail, rfl, hname⟩
  · rw [readNamed_unopened h, readNamed_unopened]
    intro hc
    rw [List.head?_append] at hc
    rcases Option.or_eq_some_iff.1 hc with hc | ⟨-, hc⟩
    · exact h hc
    · exact hopen (List.mem_of_mem_head? hc)
  · rw [List.cons_append, readNamed_unclosed hname, readNamed_unclosed]
    exact fun hc => (List.mem_append.1 hc).elim hname hclose
  · by_cases hne : name = []
    · rw [hne, List.nil_append, List.cons_append, List.cons_append, readNamed_empty,
        readNamed_empty]
    · rw [List.cons_append, List.append_assoc, List.cons_append, readNamed_closed hname hne,
        readNamed_closed hname hne]

end Named

/-! ## One escape -/

section Escape

variable {names : Names} {letter : Char} {rest : List Char}

/-- An escape takes the beginning of what follows its letter. -/
theorem read_more_prefix {e : Reading} (h : read names letter rest = .ok e) : e.more <+: rest := by
  induction letter using letter_cases with
  | newline =>
      rw [read_newline] at h
      cases h
      exact List.nil_prefix
  | simple letter c hc =>
      rw [read_simple hc] at h
      cases h
      exact List.nil_prefix
  | octal letter hletter =>
      obtain ⟨more, tail, n, rfl, hlen, hn, hnext⟩ := exists_readOctal_append hletter rest
      rw [read_octal hletter, readOctal_append hlen hn hnext] at h
      cases h
      exact List.prefix_append more tail
  | hex form =>
      obtain ⟨digits, tail, n, rfl, -, -, -, rfl⟩ := readHex_eq_ok_iff.1 (read_hex form ▸ h)
      exact List.prefix_append digits tail
  | named =>
      obtain ⟨name, tail, c, rfl, -, -, -, rfl⟩ := readNamed_eq_ok_iff.1 (read_named ▸ h)
      exact ⟨tail, by simp⟩
  | verbatim letter hletter =>
      rw [read_verbatim hletter] at h
      cases h
      exact List.nil_prefix

/-- The characters that no escape takes, or misses, after its letter. -/
def Inert (c : Char) : Prop :=
  Digits.isDigit 16 c = false ∧ c ≠ '\x7b' ∧ c ≠ '\x7d'

instance : DecidablePred Inert := fun _ => inferInstanceAs (Decidable (_ ∧ _ ∧ _))

theorem Inert.not_octal {c : Char} (h : Inert c) : c ∉ octalDigits := by
  intro hc
  have key : ∀ d ∈ octalDigits, Digits.isDigit 16 d = true :=
    List.all_iff_forall_prop.1 (by decide)
  exact Bool.false_ne_true (h.1.symm.trans (key c hc))

/-- An escape does not see inert text behind what it is read from. -/
theorem read_append_of_inert {extra : List Char} (h : ∀ c ∈ extra, Inert c) :
    read names letter (rest ++ extra) = read names letter rest := by
  induction letter using letter_cases with
  | newline => rw [read_newline, read_newline]
  | simple letter c hc => rw [read_simple hc, read_simple hc]
  | octal letter hletter =>
      obtain ⟨more, tail, n, rfl, hlen, hn, hnext⟩ := exists_readOctal_append hletter rest
      rw [read_octal hletter, read_octal hletter, readOctal_append hlen hn hnext,
        List.append_assoc, readOctal_append hlen hn]
      intro hlt c hc
      rw [List.head?_append] at hc
      rcases Option.or_eq_some_iff.1 hc with hc | ⟨-, hc⟩
      · exact hnext hlt c hc
      · exact (h c (List.mem_of_mem_head? hc)).not_octal
  | hex form =>
      rw [read_hex, read_hex, readHex_append_of_not_digit fun c hc => (h c hc).1]
  | named =>
      rw [read_named, read_named, readNamed_append_of_not_brace]
      · exact fun hc => (h _ hc).2.1 rfl
      · exact fun hc => (h _ hc).2.2 rfl
  | verbatim letter hletter => rw [read_verbatim hletter, read_verbatim hletter]

end Escape

end ShaderLiterals.Escape
