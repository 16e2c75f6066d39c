/-!
# Lines

A newline ends a line; a carriage return directly before it belongs to the ending.  What follows
the last newline is a line of its own if it is not empty, and keeps its carriage returns.  The
rule is the same for characters and for bytes, so both marks are parameters.
-/

namespace ShaderLiterals.Lines

variable {α : Type} [BEq α]

/-- A line without the carriage return at its end. -/
def dropReturn (ret : α) (line : List α) : List α :=
  if line.getLast? == some ret then line.dropLast else line

@[simp] theorem dropReturn_nil (ret : α) : dropReturn ret [] = [] := by
  simp [dropReturn]

theorem dropReturn_concat [LawfulBEq α] (ret : α) (line : List α) :
    dropReturn ret (line ++ [ret]) = line := by
  simp [dropReturn]

/-- The lines of a text: what stands before each newline, less its return, and the rest. -/
def lines (newline ret : α) (text : List α) : List (List α) :=
  let pieces := text.splitOn newline
  pieces.dropLast.map (dropReturn ret) ++ pieces.getLast?.toList.filter (!·.isEmpty)

@[simp] theorem lines_nil (newline ret : α) : lines newline ret [] = [] := by
  simp [lines]

/-- A text without newlines is one line, if it is not empty. -/
theorem lines_eq_singleton [LawfulBEq α] {newline : α} (ret : α) {text : List α}
    (h : newline ∉ text) (hne : text ≠ []) : lines newline ret text = [text] := by
  simp [lines, List.splitOn_eq_singleton h, hne]

/-- The first newline ends the first line, and the lines go on after it. -/
theorem lines_append_cons [LawfulBEq α] {newline : α} (ret : α) {line : List α}
    (h : newline ∉ line) (text : List α) :
    lines newline ret (line ++ newline :: text)
      = dropReturn ret line :: lines newline ret text := by
  have hne := List.splitOn_ne_nil newline text
  simp only [lines, List.splitOn_append_cons_self_of_not_mem h]
  rw [List.dropLast_cons_of_ne_nil hne, List.getLast?_cons_of_ne_nil hne]
  rfl

/-! ## Reading line by line -/

/-- What follows the first line of a text. -/
def afterLine (newline : α) : List α → List α
  | [] => []
  | c :: rest => if c == newline then rest else afterLine newline rest

/-- What follows the first `n` lines of a text. -/
def afterLines (newline : α) : Nat → List α → List α
  | 0, text => text
  | n + 1, text => afterLines newline n (afterLine newline text)

theorem afterLine_suffix (newline : α) (text : List α) : afterLine newline text <:+ text := by
  induction text with
  | nil => exact List.suffix_rfl
  | cons c rest ih =>
      unfold afterLine
      split
      · exact List.suffix_cons c rest
      · exact ih.trans (List.suffix_cons c rest)

theorem afterLines_suffix (newline : α) (n : Nat) (text : List α) :
    afterLines newline n text <:+ text := by
  induction n generalizing text with
  | zero => exact List.suffix_rfl
  | succ n ih => exact (ih _).trans (afterLine_suffix newline text)

theorem afterLine_append_cons [LawfulBEq α] {newline : α} {line : List α} (h : newline ∉ line)
    (text : List α) : afterLine newline (line ++ newline :: text) = text := by
  induction line with
  | nil => simp [afterLine]
  | cons c line ih =>
      simp only [List.mem_cons, not_or] at h
      simp [afterLine, Ne.symm h.1, ih h.2]

theorem afterLine_of_not_mem [LawfulBEq α] {newline : α} {text : List α} (h : newline ∉ text) :
    afterLine newline text = [] := by
  induction text with
  | nil => rfl
  | cons c text ih =>
      simp only [List.mem_cons, not_or] at h
      simp [afterLine, Ne.symm h.1, ih h.2]

/-- A line is read together with the newline that ends it. -/
theorem lines_afterLine [LawfulBEq α] (newline ret : α) (text : List α) :
    lines newline ret (afterLine newline text) = (lines newline ret text).tail := by
  by_cases h : newline ∈ text
  · obtain ⟨line, rest, rfl, hline⟩ := List.eq_append_cons_of_mem h
    rw [afterLine_append_cons hline, lines_append_cons ret hline, List.tail_cons]
  · rw [afterLine_of_not_mem h, lines_nil]
    by_cases hne : text = []
    · simp [hne]
    · rw [lines_eq_singleton ret h hne, List.tail_cons]

theorem lines_afterLines [LawfulBEq α] (newline ret : α) (n : Nat) (text : List α) :
    lines newline ret (afterLines newline n text) = (lines newline ret text).drop n := by
  induction n generalizing text with
  | zero => rfl
  | succ n ih => rw [afterLines, ih, lines_afterLine, List.drop_tail]

/-- The lines of a text of characters. -/
def ofText (text : String) : List String :=
  (lines '\n' '\r' text.toList).map String.ofList

/-- The lines of a text of bytes. -/
def ofBytes (bytes : List UInt8) : List (List UInt8) :=
  lines 0x0A 0x0D bytes

end ShaderLiterals.Lines
