import Mathlib.Data.List.Chain
import ShaderLiterals.Proofs.Escape.Decoding

/-!
# Writing a text with escapes

`escaped` writes a text so that it can stand in a literal: backslashes, quotes and returns become
escapes, and newlines stay.  The decoder takes it back (`decode_escaped`), it holds no return, and
no quote in it follows another one, so nothing in it looks like a delimiter.
-/

namespace ShaderLiterals.Escape

/-- A character as it is written in a literal. -/
def escapedChar : Char → List Char
  | '\\' => ['\\', '\\']
  | '"' => ['\\', '"']
  | '\r' => ['\\', 'r']
  | c => [c]

/-- A text as it is written in a literal. -/
def escaped (text : List Char) : List Char :=
  text.flatMap escapedChar

/-- A character becomes an escape that stands for it, or is written as it is. -/
theorem escapedChar_cases (c : Char) :
    (∃ letter, (letter, c) ∈ simpleEscapes ∧ escapedChar c = ['\\', letter]) ∨
      c ≠ '\\' ∧ c ≠ '"' ∧ c ≠ '\r' ∧ escapedChar c = [c] := by
  unfold escapedChar
  split
  · exact .inl ⟨'\\', by decide, rfl⟩
  · exact .inl ⟨'"', by decide, rfl⟩
  · exact .inl ⟨'r', by decide, rfl⟩
  · rename_i hbackslash hquote hreturn
    exact .inr ⟨hbackslash, hquote, hreturn, rfl⟩

/-- What a text is written as is decoded to the text. -/
theorem decodeFrom_escaped {names : Names} {offset : Nat} (text : List Char) :
    decodeFrom names offset (escaped text) = .ok text := by
  induction text generalizing offset with
  | nil => exact decodeFrom_nil
  | cons c text ih =>
      rw [escaped, List.flatMap_cons]
      rcases escapedChar_cases c with ⟨letter, hletter, hc⟩ | ⟨hne, -, -, hc⟩
      · rw [hc]
        have hread : read names letter ([] ++ escaped text) = .ok ⟨[], [c]⟩ := read_simple hletter
        exact (decodeFrom_escape hread).trans (by rw [ih]; rfl)
      · rw [hc, List.singleton_append, decodeFrom_plain hne]
        exact congrArg _ ih

theorem decode_escaped (names : Names) (text : List Char) :
    decode names (escaped text) = .ok text :=
  decodeFrom_escaped text

theorem return_not_mem_escaped (text : List Char) : '\r' ∉ escaped text := by
  intro h
  obtain ⟨c, -, hc⟩ := List.mem_flatMap.1 h
  rcases escapedChar_cases c with ⟨letter, hletter, heq⟩ | ⟨-, -, hne, heq⟩
  · have key : ∀ p ∈ simpleEscapes, '\r' ∉ ['\\', p.1] := List.all_iff_forall_prop.1 (by decide)
    exact key _ hletter (heq ▸ hc)
  · rw [heq, List.mem_singleton] at hc
    exact hne hc.symm

/-! ## Quotes -/

/-- Every quote but the first character stands behind a backslash. -/
def QuotesEscaped (text : List Char) : Prop :=
  text.IsChain fun a b => b = '"' → a = '\\'

theorem quotesEscaped_escapedChar (c : Char) : QuotesEscaped (escapedChar c) := by
  rcases escapedChar_cases c with ⟨letter, -, heq⟩ | ⟨-, -, -, heq⟩
  · rw [heq]
    exact .cons_cons (fun _ => rfl) (.singleton letter)
  · rw [heq]
    exact .singleton c

/-- No text is written with a quote at its beginning. -/
theorem quote_not_mem_head?_escaped (text : List Char) : '"' ∉ (escaped text).head? := by
  cases text with
  | nil => exact fun h => nomatch h
  | cons c text =>
      rw [escaped, List.flatMap_cons]
      rcases escapedChar_cases c with ⟨letter, -, heq⟩ | ⟨-, hne, -, heq⟩
      · rw [heq]
        simp
      · rw [heq]
        simpa using hne

theorem quotesEscaped_escaped (text : List Char) : QuotesEscaped (escaped text) := by
  induction text with
  | nil => exact .nil
  | cons c text ih =>
      refine (quotesEscaped_escapedChar c).append ih fun a _ b hb hquote => ?_
      subst hquote
      exact absurd hb (quote_not_mem_head?_escaped text)

/-- Two quotes never meet. -/
theorem QuotesEscaped.no_adjacent_quotes {text : List Char} (h : QuotesEscaped text) :
    ¬ ['"', '"'] <:+: text := by
  intro hstands
  have hchain := h.infix hstands
  exact absurd (hchain.rel rfl) (by decide)

end ShaderLiterals.Escape
