import Mathlib.Data.List.Forall2
import ShaderLiterals.Proofs.Text.ByteOrder

/-!
# UTF-8 read back

A first byte tells how many bytes follow it, and some first bytes narrow the range of the second
one; `IsChar` says so in numbers.  The bytes of a character are exactly those
(`isChar_utf8EncodeChar`, `utf8EncodeChar_codePoint`), so that the strict reader takes every text
back from its bytes, and takes nothing else (`decode?_eq_some_iff`).
-/

namespace ShaderLiterals.Utf8

variable {first : UInt8} {tail bs : List UInt8} {rs : List ByteRange}

/-! ## The bytes of one character, in numbers -/

/-- Whether a byte can stand after the first one of a character. -/
def IsTail (b : UInt8) : Prop := 0x80 ≤ b.toNat ∧ b.toNat ≤ 0xBF

/-- The first byte of a character, and those after it. -/
inductive IsChar : UInt8 → List UInt8 → Prop where
  | one {a : UInt8} : a.toNat ≤ 0x7F → IsChar a []
  | two {a b : UInt8} : 0xC2 ≤ a.toNat → a.toNat ≤ 0xDF → IsTail b → IsChar a [b]
  /-- After `0xE0` lie no overlong forms, after `0xED` no surrogates. -/
  | three {a b c : UInt8} : 0xE0 ≤ a.toNat → a.toNat ≤ 0xEF → IsTail b →
      (a.toNat = 0xE0 → 0xA0 ≤ b.toNat) → (a.toNat = 0xED → b.toNat ≤ 0x9F) → IsTail c →
      IsChar a [b, c]
  /-- After `0xF0` lie no overlong forms, after `0xF4` nothing past the last code point. -/
  | four {a b c d : UInt8} : 0xF0 ≤ a.toNat → a.toNat ≤ 0xF4 → IsTail b →
      (a.toNat = 0xF0 → 0x90 ≤ b.toNat) → (a.toNat = 0xF4 → b.toNat ≤ 0x8F) → IsTail c →
      IsTail d → IsChar a [b, c, d]

theorem codePoint_one (a : UInt8) : codePoint a [] = a.toNat := rfl

theorem codePoint_two (a b : UInt8) :
    codePoint a [b] = a.toNat % 0x20 * 0x40 + b.toNat % 0x40 := rfl

theorem codePoint_three (a b c : UInt8) :
    codePoint a [b, c] = (a.toNat % 0x10 * 0x40 + b.toNat % 0x40) * 0x40 + c.toNat % 0x40 := rfl

theorem codePoint_four (a b c d : UInt8) :
    codePoint a [b, c, d] =
      ((a.toNat % 0x08 * 0x40 + b.toNat % 0x40) * 0x40 + c.toNat % 0x40) * 0x40 +
        d.toNat % 0x40 := rfl

theorem toNat_ofNat_of_lt {n : Nat} (h : n < 256) : (UInt8.ofNat n).toNat = n := by
  rw [UInt8.toNat_ofNat', Nat.mod_eq_of_lt h]

theorem ofNat_eq_of_toNat_eq {b : UInt8} {n : Nat} (h : n = b.toNat) : UInt8.ofNat n = b := by
  rw [h, UInt8.ofNat_toNat]

/-- A character has bytes of that kind, and they spell its number. -/
theorem isChar_utf8EncodeChar (c : Char) :
    ∃ first tail, String.utf8EncodeChar c = first :: tail ∧ IsChar first tail ∧
      codePoint first tail = c.toNat := by
  refine ⟨_, _, utf8EncodeChar_eq c, ?_⟩
  have hmax := toNat_lt c
  have hvalid : c.toNat < 0xD800 ∨ 0xDFFF < c.toNat ∧ c.toNat < 0x110000 := c.valid
  generalize c.toNat = n at hmax hvalid
  have hlead := leading_lt hmax
  have hdigit : ∀ m, (UInt8.ofNat (m % 64 + 128)).toNat = m % 64 + 128 := fun m =>
    toNat_ofNat_of_lt (by omega)
  unfold leading at hlead ⊢
  rcases following_cases n with ⟨hn, h⟩ | ⟨hn, hn', h⟩ | ⟨hn, hn', h⟩ | ⟨hn, h⟩ <;>
    rw [h] at hlead ⊢ <;>
    simp only [lead, withoutLast, lastDigits, List.nil_append, List.cons_append] at hlead ⊢ <;>
    have hfirst := toNat_ofNat_of_lt hlead <;>
    generalize UInt8.ofNat _ = first at hfirst
  · exact ⟨.one (by omega), hfirst⟩
  · refine ⟨.two (by omega) (by omega) ⟨?_, ?_⟩, ?_⟩
    all_goals simp only [codePoint_two, hdigit]
    all_goals omega
  · refine ⟨.three (by omega) (by omega) ⟨?_, ?_⟩ ?_ ?_ ⟨?_, ?_⟩, ?_⟩
    all_goals simp only [codePoint_three, hdigit]
    all_goals omega
  · refine ⟨.four (by omega) (by omega) ⟨?_, ?_⟩ ?_ ?_ ⟨?_, ?_⟩ ⟨?_, ?_⟩, ?_⟩
    all_goals simp only [codePoint_four, hdigit]
    all_goals omega

theorem isValidChar_codePoint (h : IsChar first tail) : (codePoint first tail).isValidChar := by
  unfold Nat.isValidChar
  cases h with
  | one ha => rw [codePoint_one]; omega
  | two ha ha' hb => rw [codePoint_two]; omega
  | three ha ha' hb hlow hhigh hc => unfold IsTail at hb hc; rw [codePoint_three]; omega
  | four ha ha' hb hlow hhigh hc hd => unfold IsTail at hb hc hd; rw [codePoint_four]; omega

/-- The number of bytes is the one that the code point asks for. -/
theorem following_codePoint (h : IsChar first tail) :
    following (codePoint first tail) = tail.length := by
  have hcases := following_cases (codePoint first tail)
  cases h with
  | one ha => rw [codePoint_one] at hcases ⊢; simp only [List.length_nil]; omega
  | two ha ha' hb =>
      unfold IsTail at hb
      rw [codePoint_two] at hcases ⊢
      simp only [List.length_cons, List.length_nil]
      omega
  | three ha ha' hb hlow hhigh hc =>
      unfold IsTail at hb hc
      rw [codePoint_three] at hcases ⊢
      simp only [List.length_cons, List.length_nil]
      omega
  | four ha ha' hb hlow hhigh hc hd =>
      unfold IsTail at hb hc hd
      rw [codePoint_four] at hcases ⊢
      simp only [List.length_cons, List.length_nil]
      omega

/-- Bytes of that kind are those of the character whose number they spell. -/
theorem utf8EncodeChar_codePoint (h : IsChar first tail) :
    String.utf8EncodeChar (Char.ofNat (codePoint first tail)) = first :: tail := by
  have hnat : (Char.ofNat (codePoint first tail)).toNat = codePoint first tail := by
    rw [Char.ofNat, dif_pos (isValidChar_codePoint h)]
    rfl
  rw [utf8EncodeChar_eq, hnat, leading, following_codePoint h]
  cases h with
  | one ha =>
      simp only [List.length_nil, lead, withoutLast, lastDigits, codePoint_one, List.cons.injEq,
        and_true]
      exact ofNat_eq_of_toNat_eq (by omega)
  | two ha ha' hb =>
      unfold IsTail at hb
      simp only [List.length_cons, List.length_nil, lead, withoutLast, lastDigits, codePoint_two,
        List.nil_append, List.cons.injEq, and_true]
      exact ⟨ofNat_eq_of_toNat_eq (by omega), ofNat_eq_of_toNat_eq (by omega)⟩
  | three ha ha' hb hlow hhigh hc =>
      unfold IsTail at hb hc
      simp only [List.length_cons, List.length_nil, lead, withoutLast, lastDigits, codePoint_three,
        List.nil_append, List.cons_append, List.cons.injEq, and_true]
      exact ⟨ofNat_eq_of_toNat_eq (by omega), ofNat_eq_of_toNat_eq (by omega),
        ofNat_eq_of_toNat_eq (by omega)⟩
  | four ha ha' hb hlow hhigh hc hd =>
      unfold IsTail at hb hc hd
      simp only [List.length_cons, List.length_nil, lead, withoutLast, lastDigits, codePoint_four,
        List.nil_append, List.cons_append, List.cons.injEq, and_true]
      exact ⟨ofNat_eq_of_toNat_eq (by omega), ofNat_eq_of_toNat_eq (by omega),
        ofNat_eq_of_toNat_eq (by omega), ofNat_eq_of_toNat_eq (by omega)⟩

/-! ## Ranges -/

theorem ByteRange.contains_iff {r : ByteRange} {b : UInt8} :
    r.contains b = true ↔ r.low.toNat ≤ b.toNat ∧ b.toNat ≤ r.high.toNat := by
  simp only [ByteRange.contains, Bool.and_eq_true, decide_eq_true_eq, UInt8.le_iff_toNat_le]

/-- The bytes lie in the ranges, one by one. -/
def Fits (rs : List ByteRange) (tail : List UInt8) : Prop :=
  List.Forall₂ (fun r b => r.contains b = true) rs tail

theorem fits_nil : Fits [] tail ↔ tail = [] :=
  List.forall₂_nil_left_iff

theorem fits_cons {r : ByteRange} :
    Fits (r :: rs) tail ↔ ∃ b bs, r.contains b = true ∧ Fits rs bs ∧ tail = b :: bs :=
  List.forall₂_cons_left_iff

theorem fit_eq_true_iff : fit rs bs = (tail, true) ↔ Fits rs tail ∧ tail <+: bs := by
  induction rs generalizing bs tail with
  | nil =>
      rw [fits_nil, fit]
      constructor
      · rintro ⟨⟩
        exact ⟨rfl, List.nil_prefix⟩
      · rintro ⟨rfl, -⟩
        rfl
  | cons r rs ih =>
      rw [fits_cons]
      cases bs with
      | nil =>
          constructor
          · rintro ⟨⟩
          · rintro ⟨⟨b, bs, -, -, rfl⟩, hprefix⟩
            cases List.prefix_nil.1 hprefix
      | cons b bs =>
          rw [fit]
          split
          · next hb =>
            rcases hfit : fit rs bs with ⟨taken, full⟩
            constructor
            · rintro ⟨⟩
              obtain ⟨hfits, hprefix⟩ := ih.1 hfit
              exact ⟨⟨b, taken, hb, hfits, rfl⟩, List.cons_prefix_cons.2 ⟨rfl, hprefix⟩⟩
            · rintro ⟨⟨c, cs, -, hcs, rfl⟩, hprefix⟩
              obtain ⟨rfl, hrest⟩ := List.cons_prefix_cons.1 hprefix
              obtain ⟨⟩ := hfit.symm.trans (ih.2 ⟨hcs, hrest⟩)
              rfl
          · next hb =>
            constructor
            · rintro ⟨⟩
            · rintro ⟨⟨c, cs, hc, -, rfl⟩, hprefix⟩
              obtain ⟨rfl, -⟩ := List.cons_prefix_cons.1 hprefix
              exact absurd hc hb

/-- What a first byte is owed is what may follow it. -/
theorem exists_fits_of_isChar (h : IsChar first tail) :
    ∃ rs, owed first = some rs ∧ Fits rs tail := by
  simp only [owed, UInt8.le_iff_toNat_le, UInt8.lt_iff_toNat_lt, ← UInt8.toNat_inj,
    UInt8.toNat_ofNat]
  cases h with
  | one ha => exact ⟨[], if_pos ha, fits_nil.2 rfl⟩
  | two ha ha' hb =>
      unfold IsTail at hb
      rw [if_neg (by omega), if_neg (by omega), if_pos (by omega)]
      exact ⟨_, rfl, .cons (ByteRange.contains_iff.2 hb) .nil⟩
  | three ha ha' hb hlow hhigh hc =>
      unfold IsTail at hb hc
      rw [if_neg (by omega), if_neg (by omega), if_neg (by omega)]
      split_ifs
      all_goals
        refine ⟨_, rfl, ?_⟩
        simp only [Fits, List.forall₂_cons, List.Forall₂.nil, ByteRange.contains_iff,
          ByteRange.tail, UInt8.reduceToNat, and_true]
        omega
  | four ha ha' hb hlow hhigh hc hd =>
      unfold IsTail at hb hc hd
      rw [if_neg (by omega), if_neg (by omega), if_neg (by omega), if_neg (by omega),
        if_neg (by omega), if_neg (by omega)]
      split_ifs
      iterate 3
        · refine ⟨_, rfl, ?_⟩
          simp only [Fits, List.forall₂_cons, List.Forall₂.nil, ByteRange.contains_iff,
            ByteRange.tail, UInt8.reduceToNat, and_true]
          omega
      · omega

theorem isChar_of_fits (howed : owed first = some rs) (hfits : Fits rs tail) :
    IsChar first tail := by
  simp only [owed, UInt8.le_iff_toNat_le, UInt8.lt_iff_toNat_lt, ← UInt8.toNat_inj,
    UInt8.toNat_ofNat] at howed
  split_ifs at howed
  all_goals
    obtain rfl := Option.some.inj howed
    simp only [fits_cons, fits_nil, ByteRange.contains_iff, ByteRange.tail,
      UInt8.toNat_ofNat] at hfits
  · subst hfits
    exact .one ‹_›
  · obtain ⟨b, bs, hb, rfl, rfl⟩ := hfits
    exact .two (by omega) (by omega) hb
  iterate 3
    · obtain ⟨b, bs, hb, ⟨c, cs, hc, rfl, rfl⟩, rfl⟩ := hfits
      exact .three (by omega) (by omega) (by unfold IsTail; omega) (by omega) (by omega) hc
  iterate 3
    · obtain ⟨b, bs, hb, ⟨c, cs, hc, ⟨d, ds, hd, rfl, rfl⟩, rfl⟩, rfl⟩ := hfits
      exact .four (by omega) (by omega) (by unfold IsTail; omega) (by omega) (by omega) hc hd

/-! ## Pieces -/

theorem piece_append_of_isChar (h : IsChar first tail) (rest : List UInt8) :
    piece first (tail ++ rest) =
      .char (Char.ofNat (codePoint first tail)) (first :: tail) := by
  obtain ⟨rs, howed, hfits⟩ := exists_fits_of_isChar h
  rw [piece, howed]
  dsimp only
  rw [fit_eq_true_iff.2 ⟨hfits, List.prefix_append tail rest⟩]

/-- The bytes of a piece that is a character are its bytes. -/
theorem utf8EncodeChar_of_piece_eq {c : Char} {bytes : List UInt8}
    (h : piece first bs = .char c bytes) : String.utf8EncodeChar c = bytes := by
  unfold piece at h
  split at h
  · cases h
  · next rs howed =>
    split at h
    · next tail hfit =>
      cases h
      exact utf8EncodeChar_codePoint (isChar_of_fits howed (fit_eq_true_iff.1 hfit).1)
    · cases h

/-- The first character of a text is its first piece. -/
theorem pieces_utf8EncodeChar_append (c : Char) (rest : List UInt8) :
    pieces (String.utf8EncodeChar c ++ rest) =
      .char c (String.utf8EncodeChar c) :: pieces rest := by
  obtain ⟨first, tail, hbytes, hchar, hnumber⟩ := isChar_utf8EncodeChar c
  have hpiece := piece_append_of_isChar hchar rest
  rw [hnumber, Char.ofNat_toNat] at hpiece
  have hafter : afterPiece first (tail ++ rest) = rest := by
    rw [afterPiece, hpiece]
    exact List.drop_left
  rw [hbytes, List.cons_append, pieces_cons, hafter, hpiece]

/-- The strict reader takes a text from its bytes, and takes nothing else. -/
theorem decode?_eq_some_iff {text : List Char} : decode? bs = some text ↔ encode text = bs := by
  constructor
  · intro h
    unfold decode? at h
    fun_induction pieces bs generalizing text with
    | case1 =>
        obtain rfl := Option.some.inj h
        rfl
    | case2 first bs ih =>
        rw [List.mapM_cons] at h
        obtain ⟨c, hc, h⟩ := Option.bind_eq_some_iff.1 h
        obtain ⟨rest, hrest, h⟩ := Option.bind_eq_some_iff.1 h
        obtain rfl := Option.some.inj h
        rw [encode_cons, ih hrest, ← bytes_piece_append_afterPiece first bs]
        cases hpiece : piece first bs with
        | char d bytes =>
            rw [hpiece] at hc
            obtain rfl := Option.some.inj hc
            rw [utf8EncodeChar_of_piece_eq hpiece]
            rfl
        | fault bytes =>
            rw [hpiece] at hc
            cases hc
  · rintro rfl
    unfold decode?
    induction text with
    | nil => rw [encode_nil, pieces_nil]; rfl
    | cons c text ih => rw [encode_cons, pieces_utf8EncodeChar_append, List.mapM_cons, ih]; rfl

theorem decode?_encode (text : List Char) : decode? (encode text) = some text :=
  decode?_eq_some_iff.2 rfl

/-- Nothing is replaced in the bytes of a text. -/
theorem decodeLossy_encode (text : List Char) : decodeLossy (encode text) = text := by
  unfold decodeLossy
  induction text with
  | nil => rw [encode_nil, pieces_nil, List.map_nil]
  | cons c text ih =>
      rw [encode_cons, pieces_utf8EncodeChar_append, List.map_cons, ih]
      rfl

theorem encode_injective {s t : List Char} (h : encode s = encode t) : s = t := by
  rw [← decode?_eq_some_iff, decode?_encode] at h
  exact (Option.some.inj h).symm

end ShaderLiterals.Utf8
