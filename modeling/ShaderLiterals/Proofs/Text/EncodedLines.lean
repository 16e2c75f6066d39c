import ShaderLiterals.Literal.Source
import ShaderLiterals.Proofs.Text.Lines
import ShaderLiterals.Proofs.Text.Utf8

/-!
# Lines of bytes

A newline and a return are one byte each, and no other character has such a byte.  So the lines of
the bytes of a text are the bytes of its lines (`lines_encode`), and bytes that are no text are none
on some line (`exists_first_unreadable`).
-/

namespace ShaderLiterals

namespace Utf8

/-! ## Characters of one byte -/

/-- A byte that is a character is no part of another one. -/
theorem utf8EncodeChar_eq_singleton_of_mem {c : Char} {b : UInt8} (hb : b.toNat ≤ 0x7F)
    (hmem : b ∈ String.utf8EncodeChar c) : String.utf8EncodeChar c = [b] := by
  obtain ⟨first, tail, hbytes, hchar, -⟩ := isChar_utf8EncodeChar c
  rw [hbytes] at hmem ⊢
  cases hchar with
  | one ha => rw [List.mem_singleton.1 hmem]
  | two ha ha' hx =>
      unfold IsTail at hx
      rcases List.mem_pair.1 hmem with rfl | rfl <;> omega
  | three ha ha' hx hlow hhigh hy =>
      unfold IsTail at hx hy
      simp only [List.mem_cons, List.not_mem_nil, or_false] at hmem
      rcases hmem with rfl | rfl | rfl <;> omega
  | four ha ha' hx hlow hhigh hy hz =>
      unfold IsTail at hx hy hz
      simp only [List.mem_cons, List.not_mem_nil, or_false] at hmem
      rcases hmem with rfl | rfl | rfl | rfl <;> omega

section Single

variable {a c : Char} {b : UInt8} {text : List Char} (ha : String.utf8EncodeChar a = [b])

include ha

theorem le_of_utf8EncodeChar_eq_singleton : b.toNat ≤ 0x7F := by
  obtain ⟨first, tail, hbytes, hchar, -⟩ := isChar_utf8EncodeChar a
  obtain ⟨rfl, rfl⟩ := List.cons.inj (ha.symm.trans hbytes)
  cases hchar with
  | one h => exact h

theorem mem_utf8EncodeChar_iff : b ∈ String.utf8EncodeChar c ↔ c = a := by
  constructor
  · intro hmem
    have hc := utf8EncodeChar_eq_singleton_of_mem (le_of_utf8EncodeChar_eq_singleton ha) hmem
    have hencode : encode [c] = encode [a] := by
      rw [encode_cons, encode_cons, hc, ha]
    exact List.singleton_inj.1 (encode_injective hencode)
  · rintro rfl
    rw [ha]
    exact List.mem_singleton_self b

theorem mem_encode_iff : b ∈ encode text ↔ a ∈ text := by
  rw [encode, List.mem_flatMap]
  simp only [mem_utf8EncodeChar_iff ha, exists_eq_right]

theorem encode_append_cons (line : List Char) :
    encode (line ++ a :: text) = encode line ++ b :: encode text := by
  rw [encode_append, encode_cons, ha]
  rfl

theorem getLast?_encode_iff : (encode text).getLast? = some b ↔ text.getLast? = some a := by
  rcases List.eq_nil_or_concat text with rfl | ⟨text, c, rfl⟩
  · simp
  · have hne : String.utf8EncodeChar c ≠ [] := by
      rw [utf8EncodeChar_eq]
      exact List.cons_ne_nil _ _
    have hsingle : encode [c] = String.utf8EncodeChar c := List.append_nil _
    rw [List.concat_eq_append, encode_append, List.getLast?_concat, Option.some_inj, hsingle,
      List.getLast?_append_of_ne_nil _ hne]
    constructor
    · exact fun hlast => (mem_utf8EncodeChar_iff ha).1 (List.mem_of_getLast? hlast)
    · rintro rfl
      rw [ha]
      rfl

end Single

/-! ## Bytes that are no text -/

/-- Whether the bytes are those of a text. -/
def IsText (bytes : List UInt8) : Prop := ∃ text, encode text = bytes

theorem decode?_eq_none_iff {bytes : List UInt8} : decode? bytes = none ↔ ¬ IsText bytes := by
  simp only [Option.eq_none_iff_forall_ne_some, ne_eq, decode?_eq_some_iff, IsText, not_exists]

end Utf8

namespace Lines

open Utf8 (encode IsText)

variable {newline ret : Char} {newlineByte returnByte : UInt8}

section Return

variable (hret : String.utf8EncodeChar ret = [returnByte])

include hret

theorem dropReturn_encode (line : List Char) :
    dropReturn returnByte (encode line) = encode (dropReturn ret line) := by
  unfold dropReturn
  simp only [beq_iff_eq, Utf8.getLast?_encode_iff hret]
  split
  · next hlast =>
    obtain ⟨line, rfl⟩ := List.getLast?_eq_some_iff.1 hlast
    rw [Utf8.encode_append_cons hret, Utf8.encode_nil, List.dropLast_concat, List.dropLast_concat]
  · rfl

/-- A return at the end makes no difference to whether bytes are a text. -/
theorem isText_dropReturn_iff (line : List UInt8) :
    IsText (dropReturn returnByte line) ↔ IsText line := by
  constructor
  · rintro ⟨text, htext⟩
    by_cases hlast : line.getLast? = some returnByte
    · obtain ⟨line, rfl⟩ := List.getLast?_eq_some_iff.1 hlast
      rw [dropReturn_concat] at htext
      exact ⟨text ++ [ret], by rw [Utf8.encode_append_cons hret, htext, Utf8.encode_nil]⟩
    · rw [dropReturn, if_neg (by simpa using hlast)] at htext
      exact ⟨text, htext⟩
  · rintro ⟨text, rfl⟩
    exact ⟨dropReturn ret text, (dropReturn_encode hret text).symm⟩

end Return

section Newline

variable (hnewline : String.utf8EncodeChar newline = [newlineByte])

include hnewline

/-- The lines of the bytes of a text are the bytes of its lines. -/
theorem lines_encode (hret : String.utf8EncodeChar ret = [returnByte]) (text : List Char) :
    lines newlineByte returnByte (encode text) = (lines newline ret text).map encode := by
  induction text using line_induction newline with
  | last line hline =>
      have hbytes : newlineByte ∉ encode line := (Utf8.mem_encode_iff hnewline).not.2 hline
      cases line with
      | nil => simp
      | cons c line =>
          have hne : encode (c :: line) ≠ [] := by
            rw [Utf8.encode_cons, Utf8.utf8EncodeChar_eq]
            exact List.cons_ne_nil _ _
          rw [lines_eq_singleton returnByte hbytes hne,
            lines_eq_singleton ret hline (List.cons_ne_nil c line), List.map_singleton]
  | line line text hline ih =>
      have hbytes : newlineByte ∉ encode line := (Utf8.mem_encode_iff hnewline).not.2 hline
      rw [Utf8.encode_append_cons hnewline, lines_append_cons returnByte hbytes,
        lines_append_cons ret hline, List.map_cons, ih, dropReturn_encode hret]

end Newline

/-! ## Returns before newlines -/

/-- The text with a return put before each newline. -/
def withReturns (newline ret : Char) (text : List Char) : List Char :=
  text.flatMap fun c => if c = newline then [ret, newline] else [c]

theorem withReturns_of_not_mem {text : List Char} (h : newline ∉ text) :
    withReturns newline ret text = text := by
  induction text with
  | nil => rfl
  | cons c text ih =>
      simp only [List.mem_cons, not_or] at h
      rw [withReturns, List.flatMap_cons, if_neg (Ne.symm h.1), List.singleton_append]
      exact congrArg _ (ih h.2)

theorem withReturns_append_cons {line : List Char} (h : newline ∉ line) (text : List Char) :
    withReturns newline ret (line ++ newline :: text) =
      (line ++ [ret]) ++ newline :: withReturns newline ret text := by
  have hline : withReturns newline ret line = line := withReturns_of_not_mem h
  rw [withReturns, List.flatMap_append, List.flatMap_cons, if_pos rfl]
  rw [withReturns] at hline
  rw [hline, List.append_assoc]
  rfl

/-- A return belongs to the newline behind it, unless there was one already. -/
theorem lines_withReturns (hne : newline ≠ ret) {text : List Char}
    (h : ¬ [ret, newline] <:+: text) :
    lines newline ret (withReturns newline ret text) = lines newline ret text := by
  induction text using line_induction newline with
  | last line hline => rw [withReturns_of_not_mem hline]
  | line line text hline ih =>
      have htext : ¬ [ret, newline] <:+: text := fun hstands =>
        h (hstands.trans ⟨line ++ [newline], [], by simp⟩)
      have hend : line.getLast? ≠ some ret := by
        intro hlast
        obtain ⟨front, rfl⟩ := List.getLast?_eq_some_iff.1 hlast
        exact h ⟨front, text, by simp⟩
      have hret : newline ∉ line ++ [ret] := by
        simpa using ⟨hline, hne⟩
      rw [withReturns_append_cons hline, lines_append_cons ret hret, lines_append_cons ret hline,
        ih htext, dropReturn_concat, dropReturn, if_neg (by simpa using hend)]

end Lines

/-! ## Lines of a file and of a text -/

theorem SourceLine.ofBytes_encode (text : List Char) :
    SourceLine.ofBytes (Utf8.encode text) = .ok (String.ofList text) := by
  rw [ofBytes, Utf8.decode?_encode]

theorem SourceLine.ofBytes_of_not_isText {bytes : List UInt8} (h : ¬ Utf8.IsText bytes) :
    SourceLine.ofBytes bytes = .error .invalidUtf8 := by
  rw [ofBytes, Utf8.decode?_eq_none_iff.2 h]

/-- A file that holds a text has the lines of the text. -/
theorem linesOfBytes_encode (text : String) :
    linesOfBytes (Utf8.encode text.toList) = linesOfText text := by
  have hlines : Lines.ofBytes (Utf8.encode text.toList) =
      (Lines.lines '\n' '\r' text.toList).map Utf8.encode := Lines.lines_encode rfl rfl _
  rw [linesOfBytes, hlines, linesOfText, Lines.ofText, List.map_map, List.map_map]
  exact List.map_congr_left fun line _ => SourceLine.ofBytes_encode line

/-- Bytes that are no text are none between some newlines.  The first line of that kind cannot be
read, and all lines before it can. -/
theorem exists_first_unreadable {bytes : List UInt8} (h : ¬ Utf8.IsText bytes) :
    ∃ (before : List (List UInt8)) (line : List UInt8) (after : List (List UInt8))
        (texts : List String) (more : List SourceLine),
      bytes.splitOn 0x0A = before ++ line :: after ∧ (∀ piece ∈ before, Utf8.IsText piece) ∧
        ¬ Utf8.IsText line ∧ texts.length = before.length ∧
        linesOfBytes bytes = texts.map .ok ++ .error .invalidUtf8 :: more := by
  have hnewline : String.utf8EncodeChar '\n' = [0x0A] := rfl
  have hret : String.utf8EncodeChar '\r' = [0x0D] := rfl
  induction bytes using Lines.line_induction (0x0A : UInt8) with
  | last line hline =>
      have hne : line ≠ [] := by
        rintro rfl
        exact h ⟨[], rfl⟩
      refine ⟨[], line, [], [], [], List.splitOn_eq_singleton hline, fun _ => nofun, h, rfl, ?_⟩
      rw [linesOfBytes, Lines.ofBytes, Lines.lines_eq_singleton _ hline hne, List.map_singleton,
        SourceLine.ofBytes_of_not_isText h]
      rfl
  | line line rest hline ih =>
      have hlines : linesOfBytes (line ++ 0x0A :: rest) =
          SourceLine.ofBytes (Lines.dropReturn 0x0D line) :: linesOfBytes rest := by
        rw [linesOfBytes, Lines.ofBytes, Lines.lines_append_cons _ hline]
        rfl
      rw [List.splitOn_append_cons_self_of_not_mem hline, hlines]
      by_cases htext : Utf8.IsText line
      · have hrest : ¬ Utf8.IsText rest := by
          rintro ⟨more, rfl⟩
          obtain ⟨text, rfl⟩ := htext
          exact h ⟨text ++ '\n' :: more, Utf8.encode_append_cons hnewline text⟩
        obtain ⟨before, bad, after, texts, more, hsplit, hbefore, hbad, hlength, hmore⟩ := ih hrest
        obtain ⟨text, hread⟩ := (Lines.isText_dropReturn_iff hret line).2 htext
        refine ⟨line :: before, bad, after, String.ofList text :: texts, more, congrArg _ hsplit,
          List.forall_mem_cons.2 ⟨htext, hbefore⟩, hbad, congrArg _ hlength, ?_⟩
        rw [← hread, SourceLine.ofBytes_encode, hmore]
        rfl
      · refine ⟨[], line, rest.splitOn 0x0A, [], linesOfBytes rest, rfl, fun _ => nofun, htext,
          rfl, ?_⟩
        have hbad := (Lines.isText_dropReturn_iff hret line).not.2 htext
        rw [SourceLine.ofBytes_of_not_isText hbad]
        rfl

end ShaderLiterals
