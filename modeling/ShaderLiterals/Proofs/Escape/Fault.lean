import ShaderLiterals.Proofs.Escape.Token

/-!
# Where and why a text cannot be decoded

The decoder stops at the first backslash behind which nothing stands that it could read.  What
stands behind it tells the cause (`Faulty`, `read_eq_error_iff`).  What stands before it is decoded
on its own, for a text that can be decoded may stand before any other one that does not go on with
an octal digit (`decodeFrom_append_of_ok`).
-/

namespace ShaderLiterals.Escape

/-! ## What an escape stumbles over -/

/-- What follows the backslash of an escape that stands for nothing. -/
inductive Faulty (names : Names) : Cause → List Char → Prop
  | truncated (form : HexForm) (rest : List Char)
      (h : (rest.takeWhile (Digits.isDigit 16)).length < form.digits) :
      Faulty names (.truncated form) (form.letter :: rest)
  /-- The value is a surrogate, or past the last code point. -/
  | invalidCodePoint (form : HexForm) (digits rest : List Char) (value : Nat)
      (hform : form = .short ∨ form = .long) (hlen : digits.length = form.digits)
      (hdigits : Digits.Spells 16 digits value)
      (hvalue : 0xD800 ≤ value ∧ value ≤ 0xDFFF ∨ 0x10FFFF < value) :
      Faulty names (.invalidCodePoint value) (form.letter :: (digits ++ rest))
  | unopened (rest : List Char) (h : '\x7b' ∉ rest.head?) :
      Faulty names .malformedName ('N' :: rest)
  | nameless (rest : List Char) : Faulty names .malformedName ('N' :: '\x7b' :: '\x7d' :: rest)
  | unclosed (rest : List Char) (h : '\x7d' ∉ rest) :
      Faulty names .malformedName ('N' :: '\x7b' :: rest)
  | unknownName (name rest : List Char) (hne : name ≠ []) (hbrace : '\x7d' ∉ name)
      (hname : names (String.ofList (name.map Char.toUpper)) = none) :
      Faulty names (.unknownName (String.ofList name))
        ('N' :: '\x7b' :: (name ++ '\x7d' :: rest))

section Hex

variable {form : HexForm} {rest : List Char} {n : Nat}

/-- As many digits as a text begins with can be taken off it. -/
theorem exists_digits_prefix {p : Char → Bool} (h : n ≤ (rest.takeWhile p).length) :
    ∃ digits tail, rest = digits ++ tail ∧ digits.length = n ∧ ∀ c ∈ digits, p c = true := by
  refine ⟨(rest.takeWhile p).take n, (rest.takeWhile p).drop n ++ rest.dropWhile p, ?_, ?_, ?_⟩
  · rw [← List.append_assoc, List.take_append_drop, List.takeWhile_append_dropWhile]
  · rw [List.length_take, Nat.min_eq_left h]
  · exact fun c hc => List.mem_takeWhile_imp (List.mem_of_mem_take hc)

theorem readHex_truncated_of_lt (h : (rest.takeWhile (Digits.isDigit 16)).length < form.digits) :
    readHex form rest = .error (.truncated form) := by
  refine readHex_truncated fun digits tail hrest hlen hall => ?_
  rw [hrest, List.takeWhile_append_of_pos hall, List.length_append] at h
  omega

theorem readHex_append_of_not_isValidChar {digits tail : List Char}
    (hlen : digits.length = form.digits) (hn : Digits.Spells 16 digits n) (hv : ¬ n.isValidChar) :
    readHex form (digits ++ tail) = .error (.invalidCodePoint n) := by
  have htake : (digits ++ tail).take form.digits = digits := by rw [← hlen, List.take_left]
  simp only [readHex, htake, hlen, Nat.lt_irrefl, if_false, Digits.number?_eq_some_iff.2 hn,
    if_neg hv]

/-- Two digits spell a character. -/
theorem isValidChar_of_spells_byte {digits : List Char}
    (hlen : digits.length = HexForm.digits .byte) (h : Digits.Spells 16 digits n) :
    n.isValidChar := by
  have hlt : n < 16 ^ digits.length := h.lt_pow (by decide)
  rw [hlen] at hlt
  have hbyte : 16 ^ HexForm.digits .byte = 256 := rfl
  exact .inl (by omega)

theorem not_isValidChar_iff :
    ¬ n.isValidChar ↔ 0xD800 ≤ n ∧ n ≤ 0xDFFF ∨ 0x10FFFF < n := by
  unfold Nat.isValidChar
  omega

theorem faulty_of_readHex {names : Names} {cause : Cause} (h : readHex form rest = .error cause) :
    Faulty names cause (form.letter :: rest) := by
  by_cases hlt : (rest.takeWhile (Digits.isDigit 16)).length < form.digits
  · rw [readHex_truncated_of_lt hlt] at h
    cases h
    exact .truncated form rest hlt
  · obtain ⟨digits, tail, rfl, hlen, hall⟩ := exists_digits_prefix (Nat.not_lt.1 hlt)
    obtain ⟨n, hn⟩ := Digits.exists_spells hall
    by_cases hv : n.isValidChar
    · rw [readHex_eq_ok_iff.2 ⟨digits, tail, n, rfl, hlen, hn, hv, rfl⟩] at h
      cases h
    · rw [readHex_append_of_not_isValidChar hlen hn hv] at h
      cases h
      refine .invalidCodePoint form digits tail n ?_ hlen hn (not_isValidChar_iff.1 hv)
      cases form with
      | byte => exact absurd (isValidChar_of_spells_byte hlen hn) hv
      | short => exact .inl rfl
      | long => exact .inr rfl

end Hex

section Read

variable {names : Names} {letter : Char} {rest : List Char} {cause : Cause}

theorem faulty_of_readNamed (h : readNamed names rest = .error cause) :
    Faulty names cause ('N' :: rest) := by
  rcases name_cases rest with hopen | ⟨name, rfl, hname⟩ | ⟨name, tail, rfl, hname⟩
  · rw [readNamed_unopened hopen] at h
    cases h
    exact .unopened rest hopen
  · rw [readNamed_unclosed hname] at h
    cases h
    exact .unclosed name hname
  · by_cases hne : name = []
    · subst hne
      rw [List.nil_append, readNamed_empty] at h
      cases h
      exact .nameless tail
    · rw [readNamed_closed hname hne] at h
      split at h
      · cases h
      · next hnone =>
        cases h
        exact .unknownName name tail hne hname hnone

/-- Only what means nothing behind a backslash stops an escape, and tells the cause. -/
theorem read_eq_error_iff :
    read names letter rest = .error cause ↔ Faulty names cause (letter :: rest) := by
  constructor
  · intro h
    induction letter using letter_cases with
    | newline => rw [read_newline] at h; cases h
    | simple letter c hc => rw [read_simple hc] at h; cases h
    | octal letter hletter => rw [read_octal hletter] at h; cases h
    | hex form => exact faulty_of_readHex (read_hex form ▸ h)
    | named => exact faulty_of_readNamed h
    | verbatim letter hletter => rw [read_verbatim hletter] at h; cases h
  · intro h
    cases h with
    | truncated form rest hlt => exact (read_hex form).trans (readHex_truncated_of_lt hlt)
    | invalidCodePoint form digits tail value _ hlen hdigits hvalue =>
        exact (read_hex form).trans
          (readHex_append_of_not_isValidChar hlen hdigits (not_isValidChar_iff.2 hvalue))
    | unopened rest hopen => exact readNamed_unopened hopen
    | nameless rest => exact read_named.trans (readNamed_empty rest)
    | unclosed rest hbrace => exact readNamed_unclosed hbrace
    | unknownName name tail hne hbrace hname =>
        rw [read_named, readNamed_closed hbrace hne, hname]

end Read

/-! ## A text behind a text -/

section Append

variable {names : Names} {offset : Nat} {text tail s : List Char}

/-- A token stands before a text if it stands before the beginning of it. -/
theorem Token.MayPrecede.append {token : Token names} (h : token.MayPrecede text)
    (htail : ∀ c ∈ tail.head?, c ∉ octalDigits) : token.MayPrecede (text ++ tail) := by
  cases token with
  | octal digits n hn hne hlen =>
      intro hlt c hc
      rw [List.head?_append] at hc
      rcases Option.or_eq_some_iff.1 hc with hc | ⟨-, hc⟩
      · exact h hlt c hc
      · exact htail c hc
  | plain | continuation | simple | hex | named | verbatim => trivial

theorem Token.MayPrecede.of_append {token : Token names} (h : token.MayPrecede (text ++ tail)) :
    token.MayPrecede text := by
  cases token with
  | octal digits n hn hne hlen =>
      intro hlt c hc
      refine h hlt c ?_
      rw [List.head?_append, Option.mem_def.1 hc, Option.some_or]
      rfl
  | plain | continuation | simple | hex | named | verbatim => trivial

/-- What tokens spell is decoded before any text that cannot lengthen the last of them. -/
theorem decodeFrom_append_of_spell {tokens : List (Token names)} (h : Spell tokens text)
    (htail : ∀ c ∈ tail.head?, c ∉ octalDigits) :
    decodeFrom names offset (text ++ tail) =
      (decodeFrom names (offset + byteLength text) tail).map (tokens.flatMap Token.value ++ ·) := by
  induction h generalizing offset with
  | nil =>
      rw [List.nil_append, byteLength_nil, Nat.add_zero, List.flatMap_nil]
      cases decodeFrom names offset tail <;> rfl
  | @cons token tokens rest hprecede _ ih =>
      rw [List.append_assoc, decodeFrom_written_append (hprecede.append htail), ih,
        byteLength_append, ← Nat.add_assoc, List.flatMap_cons]
      cases decodeFrom names (offset + byteLength token.written + byteLength rest) tail with
      | error fault => rfl
      | ok u => exact congrArg Except.ok (List.append_assoc _ _ _).symm

/-- Where a text stands does not matter if it can be decoded. -/
theorem decodeFrom_eq_ok_iff_decode :
    decodeFrom names offset text = .ok s ↔ decode names text = .ok s := by
  constructor
  · intro h
    obtain ⟨tokens, hspell, rfl⟩ := exists_spell_of_decodeFrom h
    exact decodeFrom_of_spell hspell
  · intro h
    obtain ⟨tokens, hspell, rfl⟩ := exists_spell_of_decodeFrom h
    exact decodeFrom_of_spell hspell

/-- A text that can be decoded may stand before any that does not go on with an octal digit. -/
theorem decodeFrom_append_of_ok (h : decode names text = .ok s)
    (htail : ∀ c ∈ tail.head?, c ∉ octalDigits) :
    decodeFrom names offset (text ++ tail) =
      (decodeFrom names (offset + byteLength text) tail).map (s ++ ·) := by
  obtain ⟨tokens, hspell, rfl⟩ := exists_spell_of_decodeFrom h
  exact decodeFrom_append_of_spell hspell htail

end Append

/-! ## Where the decoder stops -/

/-- The decoder stops at a backslash that stands at the offset, before the text. -/
inductive Stops (names : Names) (offset : Nat) : List Char → Fault → Prop
  | lone : Stops names offset [] .trailingBackslash
  | escape {after : List Char} {cause : Cause} (h : Faulty names cause after) :
      Stops names offset after (.escape offset cause)

section Stops

variable {names : Names} {offset : Nat} {text before after : List Char} {fault : Fault}

theorem decodeFrom_eq_error_of_stops (h : Stops names offset after fault) :
    decodeFrom names offset ('\\' :: after) = .error fault := by
  cases h with
  | lone => exact decodeFrom_lone
  | @escape after cause h =>
      rcases after with _ | ⟨letter, rest⟩
      · cases h
      · exact decodeFrom_fault (read_eq_error_iff.2 h)

/-- The decoder comes past a text that it can decode. -/
theorem decodeFrom_append_backslash {s : List Char} (h : decode names before = .ok s) :
    decodeFrom names offset (before ++ '\\' :: after) =
      (decodeFrom names (offset + byteLength before) ('\\' :: after)).map (s ++ ·) :=
  decodeFrom_append_of_ok h fun c hc => by
    obtain rfl := Option.some.inj hc
    decide

theorem exists_stops_of_decodeFrom (h : decodeFrom names offset text = .error fault) :
    ∃ before after s, text = before ++ '\\' :: after ∧ decode names before = .ok s ∧
      Stops names (offset + byteLength before) after fault := by
  induction offset, text using decodeFrom_induction names with
  | nil offset => rw [decodeFrom_nil] at h; cases h
  | lone offset =>
      rw [decodeFrom_lone] at h
      cases h
      exact ⟨[], [], [], rfl, decodeFrom_nil, .lone⟩
  | fault offset letter rest cause hread =>
      rw [decodeFrom_fault hread] at h
      cases h
      exact ⟨[], letter :: rest, [], rfl, decodeFrom_nil, .escape (read_eq_error_iff.1 hread)⟩
  | escape offset letter more tail value hread ih =>
      rw [decodeFrom_escape hread] at h
      obtain ⟨before, after, s, rfl, hbefore, hstops⟩ := ih (eq_error_of_map_eq_error h)
      obtain ⟨token, hwritten, -, hprecede⟩ := exists_token_of_read hread
      refine ⟨'\\' :: letter :: more ++ before, after, token.value ++ s, by simp, ?_, ?_⟩
      · rw [← hwritten, decode, decodeFrom_written_append hprecede.of_append,
          decodeFrom_eq_ok_iff_decode.2 hbefore]
        rfl
      · rwa [byteLength_append, ← Nat.add_assoc]
  | plain offset c rest hc ih =>
      rw [decodeFrom_plain hc] at h
      obtain ⟨before, after, s, rfl, hbefore, hstops⟩ := ih (eq_error_of_map_eq_error h)
      refine ⟨c :: before, after, c :: s, rfl, ?_, ?_⟩
      · rw [decode, decodeFrom_plain hc, decodeFrom_eq_ok_iff_decode.2 hbefore]
        rfl
      · rwa [byteLength_cons, ← Nat.add_assoc]

/-- The decoder fails exactly where it stops behind a text that it can decode. -/
theorem decode_eq_error_iff :
    decode names text = .error fault ↔
      ∃ before after s, text = before ++ '\\' :: after ∧ decode names before = .ok s ∧
        Stops names (byteLength before) after fault := by
  constructor
  · intro h
    obtain ⟨before, after, s, htext, hbefore, hstops⟩ := exists_stops_of_decodeFrom h
    exact ⟨before, after, s, htext, hbefore, Nat.zero_add (byteLength before) ▸ hstops⟩
  · rintro ⟨before, after, s, rfl, hbefore, hstops⟩
    rw [decode, decodeFrom_append_backslash hbefore, Nat.zero_add,
      decodeFrom_eq_error_of_stops hstops]
    rfl

/-- Texts of one length that begin one text are the same. -/
theorem append_inj_of_byteLength_eq {front back : List Char}
    (h : before ++ after = front ++ back) (hlength : byteLength before = byteLength front) :
    before = front ∧ after = back := by
  have hnil : ∀ text, byteLength text = 0 → text = [] := fun text htext => by
    cases text with
    | nil => rfl
    | cons c rest =>
        rw [byteLength_cons] at htext
        have hpos := c.utf8Size_pos
        omega
  rcases List.append_eq_append_iff.1 h with ⟨more, rfl, rfl⟩ | ⟨more, rfl, rfl⟩
  · rw [byteLength_append] at hlength
    obtain rfl := hnil more (by omega)
    exact ⟨(List.append_nil _).symm, rfl⟩
  · rw [byteLength_append] at hlength
    obtain rfl := hnil more (by omega)
    exact ⟨List.append_nil _, rfl⟩

/-- What follows a backslash tells whether the decoder, if it comes as far, stops there. -/
theorem decode_append_backslash_eq_error_iff {cause : Cause} :
    decode names (before ++ '\\' :: after) = .error (.escape (byteLength before) cause) ↔
      (∃ s, decode names before = .ok s) ∧ Faulty names cause after := by
  rw [decode_eq_error_iff]
  constructor
  · rintro ⟨front, back, s, htext, hfront, hstops⟩
    generalize hoffset : byteLength before = offset at hstops
    cases hstops with
    | escape h =>
        obtain ⟨rfl, hback⟩ := append_inj_of_byteLength_eq htext hoffset
        obtain ⟨-, rfl⟩ := List.cons.inj hback
        exact ⟨⟨s, hfront⟩, h⟩
  · rintro ⟨⟨s, hbefore⟩, h⟩
    exact ⟨before, after, s, rfl, hbefore, .escape h⟩

/-- The decoder fails with a cause at the backslash where what can be decoded ends: the text before
it can be decoded, the text from it on fails by itself in the same way, and what follows it is
faulty for this cause and no other.  Wherever a backslash stands behind a text that can be decoded,
what follows it decides; and if nothing does, it is a lone backslash. -/
theorem decode_eq_error_iff_faulty (names : Names) (text : List Char) :
    (∀ offset cause, decode names text = .error (.escape offset cause) →
        ∃ before after s, text = before ++ '\\' :: after ∧ byteLength before = offset ∧
          decode names before = .ok s ∧
          decode names ('\\' :: after) = .error (.escape 0 cause) ∧
          ∀ other, other = cause ↔ Faulty names other after) ∧
      (∀ before after s, text = before ++ '\\' :: after → decode names before = .ok s →
        ∀ cause, decode names text = .error (.escape (byteLength before) cause) ↔
          Faulty names cause after) ∧
      (decode names text = .error .trailingBackslash ↔
        ∃ before s, text = before ++ ['\\'] ∧ decode names before = .ok s) := by
  refine ⟨fun offset cause h => ?_, ?_, ?_⟩
  · obtain ⟨before, after, s, rfl, hbefore, hstops⟩ := decode_eq_error_iff.1 h
    cases hstops with
    | escape hfaulty =>
        refine ⟨before, after, s, rfl, rfl, hbefore,
          decodeFrom_eq_error_of_stops (.escape hfaulty), fun other => ⟨?_, fun hother => ?_⟩⟩
        · rintro rfl
          exact hfaulty
        · have hagain := decode_append_backslash_eq_error_iff.2 ⟨⟨s, hbefore⟩, hother⟩
          cases h.symm.trans hagain
          rfl
  · rintro before after s rfl hbefore cause
    rw [decode_append_backslash_eq_error_iff]
    exact ⟨And.right, And.intro ⟨s, hbefore⟩⟩
  · rw [decode_eq_error_iff]
    constructor
    · rintro ⟨before, after, s, rfl, hbefore, hstops⟩
      cases hstops
      exact ⟨before, s, rfl, hbefore⟩
    · rintro ⟨before, s, rfl, hbefore⟩
      exact ⟨before, [], s, rfl, hbefore, .lone⟩

end Stops

end ShaderLiterals.Escape
