import Mathlib.Logic.Relation
import ShaderLiterals.Proofs.Escape.Token
import ShaderLiterals.Text.Utf8

/-!
# How long a decoded text is

A token stands for itself, or for fewer bytes than it is written with (`Token.value_eq_written`,
`Token.byteLength_value_lt`).  So a text that is decoded never becomes longer, and if it stays as
long it stays as it is.  While the decoder is at work, what it has put out and what it has not read
yet never take more bytes than the text (`Work.Step.byteLength_le`).  Decoding again and again takes
at least a byte away each time, as long as it changes anything (`decodeTimes_cases`).
-/

namespace ShaderLiterals.Escape

variable {names : Names}

/-! ## Bytes of characters -/

theorem toNat_ofNat_le (n : Nat) : (Char.ofNat n).toNat ≤ n := by
  by_cases h : n.isValidChar
  · rw [Char.ofNat, dif_pos h]
    exact Nat.le_refl n
  · rw [Char.ofNat, dif_neg h]
    exact Nat.zero_le n

theorem utf8Size_ofNat_le_one {n : Nat} (h : n < 0x80) : (Char.ofNat n).utf8Size ≤ 1 := by
  have hle : (Char.ofNat n).toNat ≤ 0x7F := Nat.le_trans (toNat_ofNat_le n) (by omega)
  exact Nat.le_of_eq (Char.utf8Size_eq_one_iff.2 hle)

theorem utf8Size_ofNat_le_two {n : Nat} (h : n < 0x800) : (Char.ofNat n).utf8Size ≤ 2 := by
  have hle : (Char.ofNat n).toNat ≤ 0x7FF := Nat.le_trans (toNat_ofNat_le n) (by omega)
  have hval : (Char.ofNat n).val ≤ 0x7FF := hle
  unfold Char.utf8Size
  dsimp only
  split
  · exact Nat.le_succ 1
  · split
    · exact Nat.le_refl 2
    · next hnot => exact absurd hval hnot

/-- A text has at least one byte for each character. -/
theorem length_le_byteLength (text : List Char) : text.length ≤ byteLength text := by
  induction text with
  | nil => exact Nat.le_refl 0
  | cons c text ih =>
      have hpos := c.utf8Size_pos
      rw [List.length_cons, byteLength_cons]
      omega

/-- The bytes of a text are counted character by character. -/
theorem length_encode (text : List Char) : (Utf8.encode text).length = byteLength text := by
  induction text with
  | nil => rfl
  | cons c text ih =>
      rw [Utf8.encode_cons, List.length_append, String.length_utf8EncodeChar, ih, byteLength_cons]

/-! ## Tokens -/

namespace Token

/-- Whether the token stands for itself. -/
def IsLiteral : Token names → Prop
  | plain _ _ | verbatim _ _ => True
  | continuation | simple _ _ _ | octal _ _ _ _ _ | hex _ _ _ _ _ _ | named _ _ _ _ _ => False

theorem value_eq_written {token : Token names} (h : token.IsLiteral) :
    token.value = token.written := by
  cases token with
  | plain | verbatim => rfl
  | continuation | simple | octal | hex | named => exact h.elim

/-- A token that does not stand for itself stands for fewer bytes than it has. -/
theorem byteLength_value_lt {token : Token names} (h : ¬ token.IsLiteral) :
    byteLength token.value < byteLength token.written := by
  have hbackslash : '\\'.utf8Size = 1 := rfl
  cases token with
  | plain | verbatim => exact absurd trivial h
  | continuation => exact Nat.zero_lt_succ _
  | simple letter c hletter =>
      have key : ∀ p ∈ simpleEscapes, byteLength [p.2] < byteLength ['\\', p.1] :=
        List.all_iff_forall_prop.1 (by decide)
      exact key _ hletter
  | octal digits n hn hne hlen =>
      have hpos := List.length_pos_iff.2 hne
      have hle := length_le_byteLength digits
      have hlt := hn.lt_pow (by decide)
      simp only [value, written, byteLength_cons, byteLength_nil, hbackslash]
      -- one digit spells a character of one byte, and more digits one of at most two
      by_cases hone : digits.length = 1
      · rw [hone] at hlt
        have hsize : (Char.ofNat n).utf8Size ≤ 1 := utf8Size_ofNat_le_one (by omega)
        omega
      · have hpow : 8 ^ digits.length ≤ 8 ^ 3 := Nat.pow_le_pow_right (by decide) hlen
        have hsize : (Char.ofNat n).utf8Size ≤ 2 := utf8Size_ofNat_le_two (by omega)
        omega
  | hex form digits n hn hlen hv =>
      have hle := length_le_byteLength digits
      have hletter : form.letter.utf8Size = 1 := by cases form <;> rfl
      simp only [value, written, byteLength_cons, byteLength_nil, hbackslash, hletter]
      rw [hlen] at hle
      cases form with
      | byte =>
          have hlt := hn.lt_pow (by decide)
          rw [hlen, HexForm.digits] at hlt
          have hsize : (Char.ofNat n).utf8Size ≤ 2 := utf8Size_ofNat_le_two (by omega)
          change 2 ≤ _ at hle
          omega
      | short =>
          have hsize := (Char.ofNat n).utf8Size_le_four
          change 4 ≤ _ at hle
          omega
      | long =>
          have hsize := (Char.ofNat n).utf8Size_le_four
          change 8 ≤ _ at hle
          omega
  | named name c hne hbrace hc =>
      have hpos := List.length_pos_iff.2 hne
      have hle := length_le_byteLength name
      have hsize := c.utf8Size_le_four
      have hopen : '\x7b'.utf8Size = 1 := rfl
      have hclose : '\x7d'.utf8Size = 1 := rfl
      have hletter : 'N'.utf8Size = 1 := rfl
      simp only [value, written, byteLength_append, byteLength_cons, byteLength_nil, hbackslash,
        hopen, hclose, hletter, List.cons_append]
      omega

theorem byteLength_value_le (token : Token names) :
    byteLength token.value ≤ byteLength token.written := by
  by_cases h : token.IsLiteral
  · rw [value_eq_written h]
  · exact Nat.le_of_lt (byteLength_value_lt h)

end Token

/-! ## Rows of tokens -/

section Rows

variable {tokens : List (Token names)} {text : List Char}

/-- What tokens spell is what they are written as. -/
theorem Spell.flatMap_written (h : Spell tokens text) : tokens.flatMap Token.written = text := by
  induction h with
  | nil => rfl
  | cons _ _ ih => rw [List.flatMap_cons, ih]

theorem byteLength_flatMap_value_le (tokens : List (Token names)) :
    byteLength (tokens.flatMap Token.value) ≤ byteLength (tokens.flatMap Token.written) := by
  induction tokens with
  | nil => exact Nat.le_refl _
  | cons token tokens ih =>
      rw [List.flatMap_cons, List.flatMap_cons, byteLength_append, byteLength_append]
      exact Nat.add_le_add token.byteLength_value_le ih

/-- Tokens stand for as many bytes as they have only if all of them stand for themselves. -/
theorem isLiteral_of_byteLength_eq
    (h : byteLength (tokens.flatMap Token.value) = byteLength (tokens.flatMap Token.written)) :
    ∀ token ∈ tokens, token.IsLiteral := by
  induction tokens with
  | nil => exact fun token hmem => absurd hmem List.not_mem_nil
  | cons token tokens ih =>
      rw [List.flatMap_cons, List.flatMap_cons, byteLength_append, byteLength_append] at h
      have htokens := byteLength_flatMap_value_le tokens
      have htoken := token.byteLength_value_le
      refine List.forall_mem_cons.2 ⟨?_, ih (by omega)⟩
      by_contra hnot
      have hlt := Token.byteLength_value_lt hnot
      omega

theorem flatMap_value_eq_of_isLiteral (h : ∀ token ∈ tokens, token.IsLiteral) :
    tokens.flatMap Token.value = tokens.flatMap Token.written :=
  List.flatMap_congr fun token hmem => Token.value_eq_written (h token hmem)

end Rows

/-! ## Texts -/

section Texts

variable {text s : List Char}

theorem byteLength_le_of_decode (h : decode names text = .ok s) :
    byteLength s ≤ byteLength text := by
  obtain ⟨tokens, hspell, rfl⟩ := exists_spell_of_decodeFrom h
  rw [← hspell.flatMap_written]
  exact byteLength_flatMap_value_le tokens

/-- A text that is decoded to itself is spelled by tokens that stand for themselves. -/
theorem exists_spell_isLiteral (h : decode names text = .ok s)
    (hlength : byteLength s = byteLength text) :
    ∃ tokens : List (Token names), Spell tokens text ∧ ∀ token ∈ tokens, token.IsLiteral := by
  obtain ⟨tokens, hspell, rfl⟩ := exists_spell_of_decodeFrom h
  rw [← hspell.flatMap_written] at hlength
  exact ⟨tokens, hspell, isLiteral_of_byteLength_eq hlength⟩

theorem decode_eq_self {tokens : List (Token names)} (h : Spell tokens text)
    (hliteral : ∀ token ∈ tokens, token.IsLiteral) : decode names text = .ok text := by
  rw [decode, decodeFrom_of_spell h, flatMap_value_eq_of_isLiteral hliteral, h.flatMap_written]

/-- A text that keeps its length is left as it is. -/
theorem eq_of_byteLength_eq (h : decode names text = .ok s)
    (hlength : byteLength s = byteLength text) : s = text := by
  obtain ⟨tokens, hspell, hliteral⟩ := exists_spell_isLiteral h hlength
  exact Except.ok.inj (h.symm.trans (decode_eq_self hspell hliteral))

end Texts

/-! ## The decoder at work -/

/-- What the decoder has put out, and what it has not read yet. -/
structure Work where
  output : List Char
  rest : List Char

namespace Work

/-- The decoder takes the next character or the next escape. -/
inductive Step (names : Names) : Work → Work → Prop
  | plain (output rest : List Char) (c : Char) (h : c ≠ '\\') :
      Step names ⟨output, c :: rest⟩ ⟨output ++ [c], rest⟩
  | escape (output more tail value : List Char) (letter : Char)
      (h : read names letter (more ++ tail) = .ok ⟨more, value⟩) :
      Step names ⟨output, '\\' :: letter :: (more ++ tail)⟩ ⟨output ++ value, tail⟩

/-- The decoder comes from one state to the other. -/
abbrev Reaches (names : Names) : Work → Work → Prop :=
  Relation.ReflTransGen (Step names)

variable {work next : Work}

/-- No step makes the output and the rest longer together. -/
theorem Step.byteLength_le (h : Step names work next) :
    byteLength next.output + byteLength next.rest ≤
      byteLength work.output + byteLength work.rest := by
  cases h with
  | plain output rest c hc =>
      simp only [byteLength_append, byteLength_cons, byteLength_nil]
      omega
  | escape output more tail value letter hread =>
      obtain ⟨token, hwritten, rfl, -⟩ := exists_token_of_read hread
      have hle := token.byteLength_value_le
      rw [hwritten] at hle
      simp only [byteLength_append, byteLength_cons] at hle ⊢
      omega

theorem Reaches.byteLength_le (h : Reaches names work next) :
    byteLength next.output + byteLength next.rest ≤
      byteLength work.output + byteLength work.rest := by
  induction h with
  | refl => exact Nat.le_refl _
  | tail _ hstep ih => exact Nat.le_trans hstep.byteLength_le ih

theorem reaches_of_decodeFrom {offset : Nat} {text s : List Char}
    (h : decodeFrom names offset text = .ok s) (output : List Char) :
    Reaches names ⟨output, text⟩ ⟨output ++ s, []⟩ := by
  induction offset, text using decodeFrom_induction names generalizing output s with
  | nil offset =>
      rw [decodeFrom_nil] at h
      cases h
      rw [List.append_nil]
  | lone offset => rw [decodeFrom_lone] at h; cases h
  | fault offset letter rest cause hread => rw [decodeFrom_fault hread] at h; cases h
  | escape offset letter more tail value hread ih =>
      rw [decodeFrom_escape hread] at h
      obtain ⟨u, hu, rfl⟩ := exists_of_map_eq_ok h
      rw [← List.append_assoc]
      exact .head (.escape output more tail value letter hread) (ih hu _)
  | plain offset c rest hc ih =>
      rw [decodeFrom_plain hc] at h
      obtain ⟨u, hu, rfl⟩ := exists_of_map_eq_ok h
      rw [List.append_cons]
      exact .head (.plain output rest c hc) (ih hu _)

theorem exists_decodeFrom_of_reaches {s : List Char} (h : Reaches names work ⟨s, []⟩) :
    ∃ u, s = work.output ++ u ∧ ∀ offset, decodeFrom names offset work.rest = .ok u := by
  induction h using Relation.ReflTransGen.head_induction_on with
  | refl => exact ⟨[], (List.append_nil s).symm, fun _ => decodeFrom_nil⟩
  | head hstep _ ih =>
      obtain ⟨u, rfl, hu⟩ := ih
      cases hstep with
      | plain output rest c hc =>
          refine ⟨c :: u, List.append_assoc _ _ _, fun offset => ?_⟩
          rw [decodeFrom_plain hc, hu]
          rfl
      | escape output more tail value letter hread =>
          refine ⟨value ++ u, List.append_assoc _ _ _, fun offset => ?_⟩
          rw [decodeFrom_escape hread, hu]
          rfl

/-- The decoder gives what it has put out once nothing is left to read. -/
theorem reaches_iff_decode {text s : List Char} :
    Reaches names ⟨[], text⟩ ⟨s, []⟩ ↔ decode names text = .ok s := by
  constructor
  · intro h
    obtain ⟨u, rfl, hu⟩ := exists_decodeFrom_of_reaches h
    exact hu 0
  · exact fun h => reaches_of_decodeFrom h []

end Work

/-! ## Decoding again and again -/

/-- Decodes a text, then what came of it, and so on, `n` times. -/
def decodeTimes (names : Names) : (n : Nat) → (text : List Char) → Except Fault (List Char)
  | 0, text => .ok text
  | n + 1, text =>
      match decode names text with
      | .error fault => .error fault
      | .ok s => decodeTimes names n s

section Times

variable {n : Nat} {text s : List Char}

theorem decodeTimes_succ (h : decode names text = .ok s) :
    decodeTimes names (n + 1) text = decodeTimes names n s := by
  rw [decodeTimes, h]

theorem exists_of_decodeTimes_succ (h : decodeTimes names (n + 1) text = .ok s) :
    ∃ u, decode names text = .ok u ∧ decodeTimes names n u = .ok s := by
  rw [decodeTimes] at h
  split at h
  · cases h
  · next u hu => exact ⟨u, hu, h⟩

theorem decodeTimes_of_decode_eq_self (h : decode names text = .ok text) (n : Nat) :
    decodeTimes names n text = .ok text := by
  induction n with
  | zero => rfl
  | succ n ih => rw [decodeTimes_succ h, ih]

/-- A text that has come to rest stays as it is. -/
theorem decodeTimes_add (h : decodeTimes names n text = .ok s) (hself : decode names s = .ok s)
    (k : Nat) : decodeTimes names (n + k) text = .ok s := by
  induction n generalizing text with
  | zero =>
      cases h
      exact decodeTimes_of_decode_eq_self hself _
  | succ n ih =>
      obtain ⟨u, hu, hs⟩ := exists_of_decodeTimes_succ h
      rw [Nat.succ_add, decodeTimes_succ hu, ih hs]

/-- Each time the text loses a byte, until nothing changes any more. -/
theorem decodeTimes_cases (h : decodeTimes names n text = .ok s) :
    decode names s = .ok s ∨ byteLength s + n ≤ byteLength text := by
  induction n generalizing text with
  | zero =>
      cases h
      exact .inr (Nat.le_refl _)
  | succ n ih =>
      obtain ⟨u, hu, hs⟩ := exists_of_decodeTimes_succ h
      rcases Nat.lt_or_eq_of_le (byteLength_le_of_decode hu) with hlt | heq
      · exact (ih hs).imp_right fun hle => by omega
      · obtain rfl := eq_of_byteLength_eq hu heq
        rw [decodeTimes_of_decode_eq_self hu] at hs
        cases hs
        exact .inl hu

/-- A text that could be decoded as often as it has bytes has come to rest. -/
theorem decode_eq_self_of_decodeTimes (h : decodeTimes names (byteLength text) text = .ok s) :
    decode names s = .ok s := by
  rcases decodeTimes_cases h with hself | hle
  · exact hself
  · have hlength := length_le_byteLength s
    obtain rfl := List.length_eq_zero_iff.1 (by omega : s.length = 0)
    exact decodeFrom_nil

end Times

/-- Decoding makes no text longer; one that keeps its length is left as it is, and that is one of
plain characters and of backslashes before letters that mean nothing there.  The decoder never has
more put out than the text has bytes, not even of a text that it cannot decode to the end.  A text
that is decoded again and again comes to rest after as many times as it has bytes, or earlier. -/
theorem length_encode_decode (names : Names) (text : List Char) :
    (∀ s, decode names text = .ok s →
        (Utf8.encode s).length ≤ (Utf8.encode text).length ∧
        ((Utf8.encode s).length = (Utf8.encode text).length ↔ s = text) ∧
        (s = text ↔
          ∃ tokens : List (Token names), Spell tokens text ∧ ∀ token ∈ tokens, token.IsLiteral)) ∧
      (∀ s, decode names text = .ok s ↔ Work.Reaches names ⟨[], text⟩ ⟨s, []⟩) ∧
      (∀ work, Work.Reaches names ⟨[], text⟩ work →
        (Utf8.encode work.output).length ≤ (Utf8.encode text).length) ∧
      ∀ s, decodeTimes names (Utf8.encode text).length text = .ok s →
        decode names s = .ok s ∧
        ∀ n, (Utf8.encode text).length ≤ n → decodeTimes names n text = .ok s := by
  simp only [length_encode]
  refine ⟨fun s h => ⟨byteLength_le_of_decode h, ⟨eq_of_byteLength_eq h, congrArg _⟩, ?_, ?_⟩,
    fun s => Work.reaches_iff_decode.symm, fun work h => ?_, fun s h => ?_⟩
  · rintro rfl
    exact exists_spell_isLiteral h rfl
  · rintro ⟨tokens, hspell, hliteral⟩
    exact Except.ok.inj (h.symm.trans (decode_eq_self hspell hliteral))
  · have hle := h.byteLength_le
    simp only [byteLength_nil, Nat.zero_add] at hle
    omega
  · have hself := decode_eq_self_of_decodeTimes h
    refine ⟨hself, fun n hn => ?_⟩
    rw [← Nat.add_sub_cancel' hn]
    exact decodeTimes_add h hself _

end ShaderLiterals.Escape
