import Mathlib.Algebra.Group.Nat.Even
import ShaderLiterals.Literal.Extraction
import ShaderLiterals.Proofs.Escape.Decoding

/-!
# Backslashes at the end of a body

The newline after the last line of a body belongs to the closing line, but a backslash at the end
of the body may escape it.  Whether one does is told by the parity of the backslashes that the body
ends in, although the decoder pairs backslashes from the left and may take some into a name that is
never closed, or find them where digits should be.  What ties the two together is that a complete
escape ends in an even number of backslashes, none or two
(`even_trailingBackslashes_escape`), so that the decoder is left with a lone backslash only if their
number is odd (`odd_of_decodeFrom_eq_trailingBackslash`).
-/

namespace ShaderLiterals.Literal

open Escape

/-! ## Runs of backslashes -/

/-- The text ends in exactly `n` backslashes. -/
def EndsInRun (n : Nat) (text : List Char) : Prop :=
  ∃ front, text = front ++ List.replicate n '\\' ∧ '\\' ∉ front.getLast?

theorem trailingBackslashes_concat (text : List Char) :
    trailingBackslashes (text ++ ['\\']) = trailingBackslashes text + 1 := by
  simp [trailingBackslashes]

theorem trailingBackslashes_eq_zero {text : List Char} (h : '\\' ∉ text.getLast?) :
    trailingBackslashes text = 0 := by
  induction text using List.reverseRecOn with
  | nil => rfl
  | append_singleton text c _ =>
      have hc : c ≠ '\\' := by simpa using h
      simp [trailingBackslashes, hc]

theorem trailingBackslashes_append_replicate (text : List Char) (n : Nat) :
    trailingBackslashes (text ++ List.replicate n '\\') = trailingBackslashes text + n := by
  induction n with
  | zero => rw [List.replicate_zero, List.append_nil, Nat.add_zero]
  | succ n ih =>
      rw [List.replicate_succ', ← List.append_assoc, trailingBackslashes_concat, ih,
        Nat.add_assoc]

theorem endsInRun_trailingBackslashes (text : List Char) :
    EndsInRun (trailingBackslashes text) text := by
  induction text using List.reverseRecOn with
  | nil => exact ⟨[], rfl, by simp⟩
  | append_singleton text c ih =>
      by_cases hc : c = '\\'
      · obtain ⟨front, htext, hfront⟩ := ih
        subst hc
        refine ⟨front, ?_, hfront⟩
        rw [trailingBackslashes_concat, List.replicate_succ', ← List.append_assoc, ← htext]
      · have hlast : '\\' ∉ (text ++ [c]).getLast? := by simpa using hc
        exact ⟨text ++ [c], by simp [trailingBackslashes_eq_zero hlast], hlast⟩

/-- A text ends in one run. -/
theorem endsInRun_iff {n : Nat} {text : List Char} :
    EndsInRun n text ↔ trailingBackslashes text = n := by
  constructor
  · rintro ⟨front, rfl, hfront⟩
    rw [trailingBackslashes_append_replicate, trailingBackslashes_eq_zero hfront, Nat.zero_add]
  · rintro rfl
    exact endsInRun_trailingBackslashes text

/-- Backslashes in front count only if nothing else stands between, and an even number of them
does not change the parity. -/
theorem even_trailingBackslashes_append_iff {front text : List Char}
    (hfront : Even (trailingBackslashes front)) :
    Even (trailingBackslashes (front ++ text)) ↔ Even (trailingBackslashes text) := by
  obtain ⟨between, heq, hbetween⟩ := endsInRun_trailingBackslashes text
  rcases List.eq_nil_or_concat' between with rfl | ⟨between, c, rfl⟩
  · have hsum : trailingBackslashes (front ++ text) =
        trailingBackslashes front + trailingBackslashes text := by
      conv_lhs => rw [heq, List.nil_append, trailingBackslashes_append_replicate]
    rw [hsum, Nat.even_add]
    exact iff_true_left hfront
  · have hrun : EndsInRun (trailingBackslashes text) (front ++ text) :=
      ⟨front ++ (between ++ [c]), by rw [List.append_assoc, ← heq], by simpa using hbetween⟩
    rw [endsInRun_iff.1 hrun]

/-- An odd run has a last backslash, with an even run before it. -/
theorem exists_eq_concat_of_odd {text : List Char} (h : Odd (trailingBackslashes text)) :
    ∃ front, text = front ++ ['\\'] ∧ Even (trailingBackslashes front) := by
  obtain ⟨front, htext, hfront⟩ := endsInRun_trailingBackslashes text
  obtain ⟨k, hk⟩ := h
  refine ⟨front ++ List.replicate (2 * k) '\\', ?_, ?_⟩
  · rw [List.append_assoc, ← List.replicate_succ', ← hk]
    exact htext
  · rw [trailingBackslashes_append_replicate, trailingBackslashes_eq_zero hfront, Nat.zero_add]
    exact even_two_mul k

/-! ## How the decoder pairs them -/

variable {names : Names} {offset : Nat}

/-- Only an escaped backslash puts a backslash at the end of an escape. -/
theorem trailingBackslashes_escape_eq_zero {letter : Char} {more : List Char}
    (h : ∀ c ∈ (letter :: more).getLast?, c ≠ '\\') :
    trailingBackslashes ('\\' :: letter :: more) = 0 := by
  refine trailingBackslashes_eq_zero fun hlast => h '\\' ?_ rfl
  rwa [List.getLast?_cons_cons] at hlast

theorem even_trailingBackslashes_simple {letter c : Char} (h : (letter, c) ∈ simpleEscapes) :
    Even (trailingBackslashes ['\\', letter]) := by
  have key : ∀ p ∈ simpleEscapes, Even (trailingBackslashes ['\\', p.1]) :=
    List.all_iff_forall_prop.1 (by decide)
  exact key _ h

theorem even_trailingBackslashes_singleton {c : Char} (h : c ≠ '\\') :
    Even (trailingBackslashes [c]) := by
  rw [trailingBackslashes_eq_zero (by simpa using h)]
  exact Even.zero

/-- A complete escape ends in two backslashes or in none. -/
theorem even_trailingBackslashes_escape {letter : Char} {more tail value : List Char}
    (h : read names letter (more ++ tail) = .ok ⟨more, value⟩) :
    Even (trailingBackslashes ('\\' :: letter :: more)) := by
  have of_last : (∀ c ∈ (letter :: more).getLast?, c ≠ '\\') →
      Even (trailingBackslashes ('\\' :: letter :: more)) := fun hlast => by
    rw [trailingBackslashes_escape_eq_zero hlast]
    exact Even.zero
  have of_digit : ∀ {base : Nat} {c : Char}, Digits.isDigit base c = true → c ≠ '\\' := by
    rintro base c hc rfl
    cases hc
  induction letter using letter_cases with
  | newline =>
      rw [read_newline] at h
      cases h
      exact of_last (by simp)
  | simple letter c hletter =>
      rw [read_simple hletter] at h
      cases h
      exact even_trailingBackslashes_simple hletter
  | octal letter hletter =>
      obtain ⟨more', tail', n, hrest, hlen, hn, hnext⟩ :=
        exists_readOctal_append hletter (more ++ tail)
      rw [read_octal hletter, hrest, readOctal_append hlen hn hnext] at h
      cases h
      exact of_last fun c hc => of_digit (hn.isDigit c (List.mem_of_getLast? hc))
  | hex form =>
      obtain ⟨digits, tail', n, -, hlen, hn, -, he⟩ := readHex_eq_ok_iff.1 (read_hex form ▸ h)
      cases he
      refine of_last fun c hc => ?_
      rcases List.mem_cons.1 (List.mem_of_getLast? hc) with rfl | hc
      · cases form <;> decide
      · exact of_digit (hn.isDigit c hc)
  | named =>
      obtain ⟨name, tail', c, -, -, -, -, he⟩ := readNamed_eq_ok_iff.1 (read_named ▸ h)
      cases he
      refine of_last fun c hc => ?_
      rw [← List.cons_append, List.getLast?_concat] at hc
      cases hc
      decide
  | verbatim letter hletter =>
      rw [read_verbatim hletter] at h
      cases h
      have hne : letter ≠ '\\' := fun hc => hletter (hc ▸ by decide)
      exact of_last (by simpa using hne)

/-- If the decoder is left with a lone backslash, the text ends in an odd number of them. -/
theorem odd_of_decodeFrom_eq_trailingBackslash {text : List Char}
    (h : decodeFrom names offset text = .error .trailingBackslash) :
    Odd (trailingBackslashes text) := by
  rw [← Nat.not_even_iff_odd]
  induction offset, text using decodeFrom_induction names with
  | nil offset => rw [decodeFrom_nil] at h; cases h
  | lone offset => decide
  | fault offset letter rest cause hread => rw [decodeFrom_fault hread] at h; cases h
  | escape offset letter more tail value hread ih =>
      rw [decodeFrom_escape hread] at h
      rw [← List.cons_append, ← List.cons_append,
        even_trailingBackslashes_append_iff (even_trailingBackslashes_escape hread)]
      exact ih (eq_error_of_map_eq_error h)
  | plain offset c rest hc ih =>
      rw [decodeFrom_plain hc] at h
      rw [← List.singleton_append,
        even_trailingBackslashes_append_iff (even_trailingBackslashes_singleton hc)]
      exact ih (eq_error_of_map_eq_error h)

/-- An even run leaves the decoder no lone backslash. -/
theorem decodeFrom_ne_trailingBackslash_of_even {text : List Char}
    (h : Even (trailingBackslashes text)) :
    decodeFrom names offset text ≠ .error .trailingBackslash := fun hd =>
  Nat.not_even_iff_odd.2 (odd_of_decodeFrom_eq_trailingBackslash hd) h

theorem inert_newline : ∀ c ∈ ['\n'], Inert c :=
  List.all_iff_forall_prop.1 (by decide)

theorem inert_escaped_newline : ∀ c ∈ ['\\', '\n'], Inert c :=
  List.all_iff_forall_prop.1 (by decide)

/-- An unescaped newline stands for itself, whatever faults there are before it. -/
theorem decode_append_newline_of_even {text : List Char} (h : Even (trailingBackslashes text)) :
    decode names (text ++ ['\n']) = (decode names text).map (· ++ ['\n']) := by
  unfold decode
  rw [decodeFrom_append_of_inert inert_newline text (decodeFrom_ne_trailingBackslash_of_even h),
    decodeFrom_plain (by decide), decodeFrom_nil]
  rfl

/-- An escaped newline vanishes together with its backslash, and so no fault sees either. -/
theorem decode_append_newline_of_odd {text : List Char} (h : Odd (trailingBackslashes text)) :
    decode names (text ++ ['\n']) = decode names text.dropLast := by
  obtain ⟨front, rfl, heven⟩ := exists_eq_concat_of_odd h
  have hnewline : ∀ offset, decodeFrom names offset ['\\', '\n'] = .ok [] := by
    intro offset
    have hread : read names '\n' ([] ++ []) = .ok ⟨[], []⟩ := read_newline
    exact (decodeFrom_escape hread).trans (by rw [decodeFrom_nil]; rfl)
  rw [List.dropLast_concat, List.append_assoc, List.singleton_append]
  unfold decode
  rw [decodeFrom_append_of_inert inert_escaped_newline _
      (decodeFrom_ne_trailingBackslash_of_even heven),
    hnewline]
  cases decodeFrom names 0 front with
  | error fault => rfl
  | ok s => exact congrArg Except.ok (List.append_nil s)

/-! ## The restored newline -/

theorem restoreNewline_of_even {text : List Char} (h : Even (trailingBackslashes text)) :
    restoreNewline text = text := by
  rw [restoreNewline, if_neg (by rw [Nat.even_iff] at h; omega)]

theorem restoreNewline_of_odd {text : List Char} (h : Odd (trailingBackslashes text)) :
    restoreNewline text = text ++ ['\n'] := by
  rw [restoreNewline, if_pos (Nat.odd_iff.1 h)]

theorem even_trailingBackslashes_restoreNewline (text : List Char) :
    Even (trailingBackslashes (restoreNewline text)) := by
  rcases Nat.even_or_odd (trailingBackslashes text) with h | h
  · rwa [restoreNewline_of_even h]
  · rw [restoreNewline_of_odd h, trailingBackslashes_eq_zero (by simp)]
    exact Even.zero

/-- What the literal gives if its body is decoded to the result. -/
def ofDecoded (literal : Literal) (result : Except Fault (List Char)) :
    Except ExtractFault Shader :=
  (result.map fun source =>
    { name := literal.opening.name
      stage := literal.opening.stage
      source := String.ofList source
      line := literal.opening.line }).mapError
    (.undecodable literal.opening.name literal.opening.line)

theorem extract_eq_ofDecoded (names : Names) (literal : Literal) :
    literal.extract names =
      literal.ofDecoded (decode names (restoreNewline literal.joined)) := rfl

theorem eq_error_of_ofDecoded_eq {literal : Literal} {result : Except Fault (List Char)}
    {name : String} {line : Nat} {fault : Fault}
    (h : literal.ofDecoded result = .error (.undecodable name line fault)) :
    result = .error fault := by
  cases result with
  | error fault' =>
      cases h
      rfl
  | ok source => cases h

theorem ofDecoded_map_append (literal : Literal) (result : Except Fault (List Char))
    (extra : List Char) :
    literal.ofDecoded (result.map (· ++ extra)) =
      (literal.ofDecoded result).map fun shader =>
        { shader with source := shader.source ++ String.ofList extra } := by
  cases result with
  | error fault => rfl
  | ok source =>
      simp only [ofDecoded, Except.map, Except.mapError, String.ofList_append]

/-- The lines of the body, each with the newline that ended it. -/
def terminated (literal : Literal) : List Char :=
  literal.body.flatMap fun line => line.toList ++ ['\n']

theorem terminated_eq_joined {literal : Literal} (h : literal.body ≠ []) :
    literal.terminated = literal.joined ++ ['\n'] := by
  obtain ⟨opening, body⟩ := literal
  unfold terminated joined
  dsimp only at h ⊢
  induction body with
  | nil => exact absurd rfl h
  | cons line body ih =>
      cases body with
      | nil => simp
      | cons next body =>
          rw [List.flatMap_cons, ih (List.cons_ne_nil _ _)]
          simp only [List.map_cons, List.intercalate_cons_cons, List.append_assoc]

/-- The repair of the end of a body is exact: no lone backslash is left, an even run of
backslashes leaves the text as it is, and an odd one costs it its last backslash; which is what
the text with all its newlines stands for, less the last one if no backslash takes it up. -/
theorem extract_restored_newline (names : Names) (literal : Literal) :
    ∃ n, EndsInRun n literal.joined ∧
      (∀ name line, literal.extract names ≠ .error (.undecodable name line .trailingBackslash)) ∧
      (Even n → literal.extract names = literal.ofDecoded (decode names literal.joined)) ∧
      (Odd n → literal.extract names = literal.ofDecoded (decode names literal.joined.dropLast)) ∧
      (literal.body ≠ [] →
        (Even n → literal.ofDecoded (decode names literal.terminated) =
          (literal.extract names).map fun shader =>
            { shader with source := shader.source ++ "\n" }) ∧
        (Odd n → literal.ofDecoded (decode names literal.terminated) =
          literal.extract names)) := by
  refine ⟨_, endsInRun_trailingBackslashes literal.joined, ?_, ?_, ?_, fun hbody => ⟨?_, ?_⟩⟩
  · intro name line h
    exact decodeFrom_ne_trailingBackslash_of_even
      (even_trailingBackslashes_restoreNewline literal.joined) (eq_error_of_ofDecoded_eq h)
  · intro h
    rw [extract_eq_ofDecoded, restoreNewline_of_even h]
  · intro h
    rw [extract_eq_ofDecoded, restoreNewline_of_odd h, decode_append_newline_of_odd h]
  · intro h
    rw [extract_eq_ofDecoded, restoreNewline_of_even h, terminated_eq_joined hbody,
      decode_append_newline_of_even h, ofDecoded_map_append]
  · intro h
    rw [extract_eq_ofDecoded, restoreNewline_of_odd h, terminated_eq_joined hbody]

end ShaderLiterals.Literal
