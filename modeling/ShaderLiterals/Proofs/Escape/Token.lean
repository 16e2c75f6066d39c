import Mathlib.Data.Set.Subsingleton
import ShaderLiterals.Proofs.Escape.Decoding

/-!
# The grammar of texts with escapes

A text with escapes is a row of tokens, each of which stands for a text of its own.  A token carries
what makes it well-formed; only an octal one of fewer than three digits also looks at what follows.
The decoder accepts exactly the texts that are spelled by tokens, and gives what the tokens stand
for; no text is spelled in two ways (`decode_eq_ok_iff_spell`).
-/

namespace ShaderLiterals.Escape

/-- A character that stands for itself, or an escape. -/
inductive Token (names : Names) where
  | plain (c : Char) (h : c ≠ '\\')
  /-- A backslash before a newline. -/
  | continuation
  | simple (letter c : Char) (h : (letter, c) ∈ simpleEscapes)
  | octal (digits : List Char) (n : Nat) (h : Digits.Spells 8 digits n) (hne : digits ≠ [])
      (hlen : digits.length ≤ 3)
  | hex (form : HexForm) (digits : List Char) (n : Nat) (h : Digits.Spells 16 digits n)
      (hlen : digits.length = form.digits) (hn : n.isValidChar)
  | named (name : List Char) (c : Char) (hne : name ≠ []) (hbrace : '\x7d' ∉ name)
      (hc : names (String.ofList (name.map Char.toUpper)) = some c)
  /-- A backslash before a letter that means nothing there. -/
  | verbatim (letter : Char) (h : letter ∉ announcing)

namespace Token

variable {names : Names}

/-- The token as it is written. -/
def written : Token names → List Char
  | plain c _ => [c]
  | continuation => ['\\', '\n']
  | simple letter _ _ => ['\\', letter]
  | octal digits _ _ _ _ => '\\' :: digits
  | hex form digits _ _ _ _ => '\\' :: form.letter :: digits
  | named name _ _ _ _ => '\\' :: 'N' :: '\x7b' :: name ++ ['\x7d']
  | verbatim letter _ => ['\\', letter]

/-- The text that the token stands for. -/
def value : Token names → List Char
  | plain c _ => [c]
  | continuation => []
  | simple _ c _ => [c]
  | octal _ n _ _ _ => [Char.ofNat n]
  | hex _ _ n _ _ _ => [Char.ofNat n]
  | named _ c _ _ _ => [c]
  | verbatim letter _ => ['\\', letter]

/-- Whether the token may stand before the text: an octal token that could be longer may not. -/
def MayPrecede : Token names → List Char → Prop
  | octal digits _ _ _ _, rest => digits.length < 3 → ∀ c ∈ rest.head?, c ∉ octalDigits
  | _, _ => True

end Token

/-- The text is the tokens, one after the other. -/
inductive Spell {names : Names} : List (Token names) → List Char → Prop
  | nil : Spell [] []
  | cons {token : Token names} {tokens : List (Token names)} {rest : List Char} :
      token.MayPrecede rest → Spell tokens rest → Spell (token :: tokens) (token.written ++ rest)

/-! ## Tokens are read as they are written -/

section Read

variable {names : Names}

/-- An escape is read off the text that its token begins. -/
theorem Token.exists_read_written (token : Token names) :
    (∃ c, c ≠ '\\' ∧ token.written = [c] ∧ token.value = [c]) ∨
      ∃ letter more, token.written = '\\' :: letter :: more ∧
        ∀ rest, token.MayPrecede rest →
          read names letter (more ++ rest) = .ok ⟨more, token.value⟩ := by
  cases token with
  | plain c h => exact .inl ⟨c, h, rfl, rfl⟩
  | continuation => exact .inr ⟨'\n', [], rfl, fun _ _ => read_newline⟩
  | simple letter c h => exact .inr ⟨letter, [], rfl, fun _ _ => read_simple h⟩
  | octal digits n h hne hlen =>
      rcases digits with _ | ⟨letter, more⟩
      · exact absurd rfl hne
      · refine .inr ⟨letter, more, rfl, fun rest hrest => ?_⟩
        rw [List.length_cons] at hlen
        rw [read_octal (isDigit_eight_iff.1 (h.isDigit letter List.mem_cons_self))]
        exact congrArg Except.ok (readOctal_append (by omega) h fun hlt =>
          hrest (by rw [List.length_cons]; omega))
  | hex form digits n h hlen hn =>
      refine .inr ⟨form.letter, digits, rfl, fun rest _ => ?_⟩
      rw [read_hex]
      exact readHex_eq_ok_iff.2 ⟨digits, rest, n, rfl, hlen, h, hn, rfl⟩
  | named name c hne hbrace hc =>
      refine .inr ⟨'N', '\x7b' :: name ++ ['\x7d'], rfl, fun rest _ => ?_⟩
      rw [read_named]
      exact readNamed_eq_ok_iff.2 ⟨name, rest, c, by simp, hbrace, hne, hc, rfl⟩
  | verbatim letter h => exact .inr ⟨letter, [], rfl, fun _ _ => read_verbatim h⟩

theorem Token.written_ne_nil (token : Token names) : token.written ≠ [] := by
  rcases token.exists_read_written with ⟨c, -, hwritten, -⟩ | ⟨letter, more, hwritten, -⟩
  · rw [hwritten]
    exact List.cons_ne_nil _ _
  · rw [hwritten]
    exact List.cons_ne_nil _ _

/-- Whatever is read is a token. -/
theorem exists_token_of_read {letter : Char} {more tail value : List Char}
    (h : read names letter (more ++ tail) = .ok ⟨more, value⟩) :
    ∃ token : Token names, token.written = '\\' :: letter :: more ∧ token.value = value ∧
      token.MayPrecede tail := by
  induction letter using letter_cases with
  | newline =>
      rw [read_newline] at h
      cases h
      exact ⟨.continuation, rfl, rfl, trivial⟩
  | simple letter c hletter =>
      rw [read_simple hletter] at h
      cases h
      exact ⟨.simple letter c hletter, rfl, rfl, trivial⟩
  | octal letter hletter =>
      obtain ⟨more', tail', n, hrest, hlen, hn, hnext⟩ :=
        exists_readOctal_append hletter (more ++ tail)
      rw [read_octal hletter, hrest, readOctal_append hlen hn hnext] at h
      cases h
      obtain rfl := List.append_cancel_left hrest
      refine ⟨.octal (letter :: more) n hn (List.cons_ne_nil _ _) ?_, rfl, rfl, fun hlt => ?_⟩
      · rw [List.length_cons]
        omega
      · rw [List.length_cons] at hlt
        exact hnext (by omega)
  | hex form =>
      obtain ⟨digits, tail', n, -, hlen, hn, hv, he⟩ := readHex_eq_ok_iff.1 (read_hex form ▸ h)
      cases he
      exact ⟨.hex form more n hn hlen hv, rfl, rfl, trivial⟩
  | named =>
      obtain ⟨name, tail', c, -, hbrace, hne, hc, he⟩ := readNamed_eq_ok_iff.1 (read_named ▸ h)
      cases he
      exact ⟨.named name c hne hbrace hc, rfl, rfl, trivial⟩
  | verbatim letter hletter =>
      rw [read_verbatim hletter] at h
      cases h
      exact ⟨.verbatim letter hletter, rfl, rfl, trivial⟩

end Read

/-! ## No text is spelled in two ways -/

/-- The kinds of tokens. -/
inductive Kind where
  | plain
  | continuation
  | simple
  | octal
  | hex
  | named
  | verbatim
deriving DecidableEq

/-- The kind of token that the letter after a backslash belongs to. -/
def Kind.ofLetter (letter : Char) : Kind :=
  if letter = '\n' then continuation
  else if letter ∈ simpleEscapes.map Prod.fst then simple
  else if letter ∈ octalDigits then octal
  else if (HexForm.ofLetter? letter).isSome then hex
  else if letter = 'N' then named
  else verbatim

/-- The kind of the token that a text is. -/
def Kind.ofText : List Char → Kind
  | _ :: letter :: _ => ofLetter letter
  | _ => plain

namespace Token

variable {names : Names}

def kind : Token names → Kind
  | plain _ _ => .plain
  | continuation => .continuation
  | simple _ _ _ => .simple
  | octal _ _ _ _ _ => .octal
  | hex _ _ _ _ _ _ => .hex
  | named _ _ _ _ _ => .named
  | verbatim _ _ => .verbatim

theorem ofText_written (token : Token names) : Kind.ofText token.written = token.kind := by
  cases token with
  | plain c h => rfl
  | continuation => rfl
  | simple letter c h =>
      have key : ∀ p ∈ simpleEscapes, Kind.ofLetter p.1 = .simple :=
        List.all_iff_forall_prop.1 (by decide)
      exact key _ h
  | octal digits n h hne hlen =>
      rcases digits with _ | ⟨letter, more⟩
      · exact absurd rfl hne
      · have key : ∀ c ∈ octalDigits, Kind.ofLetter c = .octal :=
          List.all_iff_forall_prop.1 (by decide)
        exact key letter (isDigit_eight_iff.1 (h.isDigit letter List.mem_cons_self))
  | hex form digits n h hlen hn => cases form <;> rfl
  | named name c hne hbrace hc => rfl
  | verbatim letter h =>
      obtain ⟨hn, hs, ho, hx, hN⟩ := kinds_of_not_announcing h
      change Kind.ofLetter letter = .verbatim
      rw [Kind.ofLetter, if_neg hn, if_neg hs, if_neg ho, if_neg (by simp [hx]), if_neg hN]

/-- What is written tells the token. -/
theorem written_injective : Function.Injective (written : Token names → List Char) := by
  intro t u h
  have hkind : t.kind = u.kind := by rw [← ofText_written, h, ofText_written]
  cases t <;> cases u <;> cases hkind
  case plain.plain c _ c' _ =>
      cases h
      rfl
  case continuation.continuation => rfl
  case simple.simple letter c hc letter' c' hc' =>
      cases h
      rw [← simple?_eq_some_iff] at hc hc'
      cases hc.symm.trans hc'
      rfl
  case octal.octal digits n hn _ _ digits' n' hn' _ _ =>
      cases h
      cases hn.unique hn'
      rfl
  case hex.hex form digits n hn _ _ form' digits' n' hn' _ _ =>
      simp only [written, List.cons.injEq, true_and] at h
      obtain ⟨hform, rfl⟩ := h
      have hsome := congrArg HexForm.ofLetter? hform
      rw [HexForm.ofLetter?_letter, HexForm.ofLetter?_letter] at hsome
      cases hsome
      cases hn.unique hn'
      rfl
  case named.named name c _ _ hc name' c' _ _ hc' =>
      simp only [written, List.cons_append, List.cons.injEq, true_and] at h
      obtain rfl := List.append_cancel_right h
      cases hc.symm.trans hc'
      rfl
  case verbatim.verbatim letter _ letter' _ =>
      cases h
      rfl

/-- Two tokens that begin one text, each as long as it can be, are the same. -/
theorem written_append_inj {t u : Token names} {rest rest' : List Char}
    (h : t.written ++ rest = u.written ++ rest') (ht : t.MayPrecede rest)
    (hu : u.MayPrecede rest') : t = u ∧ rest = rest' := by
  suffices hw : t.written = u.written by
    refine ⟨written_injective hw, ?_⟩
    rw [hw] at h
    exact List.append_cancel_left h
  rcases t.exists_read_written with ⟨c, hc, htw, -⟩ | ⟨letter, more, htw, htr⟩
  · rcases u.exists_read_written with ⟨c', -, huw, -⟩ | ⟨letter', more', huw, -⟩
    · rw [htw, huw] at h ⊢
      rw [(List.cons.inj h).1]
    · rw [htw, huw] at h
      exact absurd (List.cons.inj h).1 hc
  · rcases u.exists_read_written with ⟨c', hc', huw, -⟩ | ⟨letter', more', huw, hur⟩
    · rw [htw, huw] at h
      exact absurd (List.cons.inj h).1.symm hc'
    · rw [htw, huw] at h ⊢
      simp only [List.cons_append, List.cons.injEq, true_and] at h
      obtain ⟨rfl, hmore⟩ := h
      -- both tokens are what is read off the same text
      have hread := (htr rest ht).symm.trans ((congrArg _ hmore).trans (hur rest' hu))
      rw [(Reading.mk.inj (Except.ok.inj hread)).1]

end Token

theorem Spell.unique {names : Names} {ts us : List (Token names)} {text : List Char}
    (ht : Spell ts text) (hu : Spell us text) : ts = us := by
  induction ht generalizing us with
  | nil =>
      generalize htext : ([] : List Char) = text at hu
      cases hu with
      | nil => rfl
      | @cons u us rest' hprecede' hu =>
          exact absurd (List.append_eq_nil_iff.1 htext.symm).1 u.written_ne_nil
  | @cons t ts rest hprecede _ ih =>
      generalize htext : t.written ++ rest = text at hu
      cases hu with
      | nil => exact absurd (List.append_eq_nil_iff.1 htext).1 t.written_ne_nil
      | @cons u us rest' hprecede' hu =>
          obtain ⟨rfl, rfl⟩ := Token.written_append_inj htext hprecede hprecede'
          rw [ih hu]

/-! ## Decoding is spelling backwards -/

section Decode

variable {names : Names} {offset : Nat}

/-- A token in front of a text is decoded to its value in front of the text's. -/
theorem decodeFrom_written_append {token : Token names} {rest : List Char}
    (h : token.MayPrecede rest) :
    decodeFrom names offset (token.written ++ rest) =
      (decodeFrom names (offset + byteLength token.written) rest).map (token.value ++ ·) := by
  rcases token.exists_read_written with ⟨c, hc, hwritten, hvalue⟩ | ⟨letter, more, hwritten, hread⟩
  · rw [hwritten, hvalue, List.singleton_append, decodeFrom_plain hc]
    rfl
  · rw [hwritten, List.cons_append, List.cons_append, decodeFrom_escape (hread rest h)]

theorem decodeFrom_of_spell {tokens : List (Token names)} {text : List Char}
    (h : Spell tokens text) : decodeFrom names offset text = .ok (tokens.flatMap Token.value) := by
  induction h generalizing offset with
  | nil => rw [decodeFrom_nil, List.flatMap_nil]
  | cons hprecede _ ih =>
      rw [decodeFrom_written_append hprecede, ih, List.flatMap_cons]
      rfl

theorem exists_spell_of_decodeFrom {text s : List Char}
    (h : decodeFrom names offset text = .ok s) :
    ∃ tokens : List (Token names), Spell tokens text ∧ tokens.flatMap Token.value = s := by
  induction offset, text using decodeFrom_induction names generalizing s with
  | nil offset =>
      rw [decodeFrom_nil] at h
      cases h
      exact ⟨[], .nil, rfl⟩
  | lone offset => rw [decodeFrom_lone] at h; cases h
  | fault offset letter rest cause hread => rw [decodeFrom_fault hread] at h; cases h
  | escape offset letter more tail value hread ih =>
      rw [decodeFrom_escape hread] at h
      obtain ⟨u, hu, rfl⟩ := exists_of_map_eq_ok h
      obtain ⟨tokens, hspell, rfl⟩ := ih hu
      obtain ⟨token, hwritten, rfl, hprecede⟩ := exists_token_of_read hread
      refine ⟨token :: tokens, ?_, List.flatMap_cons⟩
      rw [← List.cons_append, ← List.cons_append, ← hwritten]
      exact .cons hprecede hspell
  | plain offset c rest hc ih =>
      rw [decodeFrom_plain hc] at h
      obtain ⟨u, hu, rfl⟩ := exists_of_map_eq_ok h
      obtain ⟨tokens, hspell, rfl⟩ := ih hu
      have hprecede : (Token.plain c hc : Token names).MayPrecede rest := trivial
      exact ⟨.plain c hc :: tokens, .cons hprecede hspell, List.flatMap_cons⟩

/-- The decoder accepts the texts that tokens spell, and gives what the tokens stand for; and
there is at most one way to spell a text. -/
theorem decode_eq_ok_iff_spell (names : Names) (text s : List Char) :
    (decode names text = .ok s ↔
      ∃ tokens : List (Token names), Spell tokens text ∧ tokens.flatMap Token.value = s) ∧
    { tokens : List (Token names) | Spell tokens text }.Subsingleton := by
  refine ⟨⟨exists_spell_of_decodeFrom, ?_⟩, fun ts ht us hu => Spell.unique ht hu⟩
  rintro ⟨tokens, hspell, rfl⟩
  exact decodeFrom_of_spell hspell

end Decode

end ShaderLiterals.Escape
