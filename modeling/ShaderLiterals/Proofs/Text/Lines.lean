import ShaderLiterals.Text.Lines

/-!
# Lines and the pieces between newlines

What stands before a newline is read as the pieces that its own newlines split it into, each less
its return, and what follows is read after it (`lines_append_cons_splitOn`).
-/

namespace ShaderLiterals.Lines

/-- What is joined stands in the whole. -/
theorem infix_intercalate {α : Type} {sep l : List α} {ls : List (List α)} (h : l ∈ ls) :
    l <:+: sep.intercalate ls := by
  induction ls with
  | nil => exact absurd h List.not_mem_nil
  | cons m ls ih =>
      cases ls with
      | nil =>
          obtain rfl := List.mem_singleton.1 h
          exact ⟨[], [], by rw [List.nil_append, List.append_nil, List.intercalate_singleton]⟩
      | cons k ls =>
          rw [List.intercalate_cons_cons]
          rcases List.mem_cons.1 h with rfl | h
          · exact ((List.prefix_append l sep).trans (List.prefix_append _ _)).isInfix
          · exact (ih h).trans (List.suffix_append _ _).isInfix

variable {α : Type} [BEq α]

/-- There is one piece more than there are newlines. -/
theorem length_splitOn (newline : α) (text : List α) :
    (text.splitOn newline).length = text.count newline + 1 := by
  induction text with
  | nil => rw [List.splitOn_nil, List.length_singleton, List.count_nil]
  | cons c text ih =>
      rw [List.splitOn_cons_eq_if_modifyHead, List.count_cons]
      split
      · rw [List.length_cons, ih]
      · rw [List.length_modifyHead, ih, Nat.add_zero]

variable [LawfulBEq α] {newline ret : α} {text piece : List α}

/-- To prove something of every text, prove it of a text without newlines, and carry it over a line
in front. -/
theorem line_induction (newline : α) {motive : List α → Prop}
    (last : ∀ line, newline ∉ line → motive line)
    (line : ∀ line text, newline ∉ line → motive text → motive (line ++ newline :: text))
    (text : List α) : motive text := by
  induction hn : text.length using Nat.strongRecOn generalizing text with
  | ind n ih =>
      by_cases h : newline ∈ text
      · obtain ⟨first, rest, rfl, hfirst⟩ := List.eq_append_cons_of_mem h
        rw [List.length_append, List.length_cons] at hn
        exact line first rest hfirst (ih rest.length (by omega) rest rfl)
      · exact last text h

/-- A piece between newlines stands in the text. -/
theorem infix_of_mem_splitOn (h : piece ∈ text.splitOn newline) : piece <:+: text := by
  have hstands : piece <:+: [newline].intercalate (text.splitOn newline) := infix_intercalate h
  rwa [List.intercalate_splitOn] at hstands

theorem dropReturn_eq_self (h : ret ∉ piece) : dropReturn ret piece = piece := by
  rw [dropReturn, if_neg]
  intro hlast
  exact h (List.mem_of_getLast? (beq_iff_eq.1 hlast))

theorem map_dropReturn_splitOn (h : ret ∉ text) :
    (text.splitOn newline).map (dropReturn ret) = text.splitOn newline := by
  refine (List.map_congr_left fun piece hpiece => ?_).trans (List.map_id _)
  exact dropReturn_eq_self fun hret => h ((infix_of_mem_splitOn hpiece).subset hret)

/-- A newline ends the lines before it. -/
theorem lines_append_cons_splitOn (newline ret : α) (text rest : List α) :
    lines newline ret (text ++ newline :: rest) =
      (text.splitOn newline).map (dropReturn ret) ++ lines newline ret rest := by
  have hne := List.splitOn_ne_nil newline rest
  have hlast : (text.splitOn newline ++ rest.splitOn newline).getLast? =
      (rest.splitOn newline).getLast? := by
    rw [List.getLast?_append, List.getLast?_eq_some_getLast hne, Option.some_or]
  rw [lines, List.splitOn_append_cons_self, List.dropLast_append_of_ne_nil hne, hlast,
    List.map_append, List.append_assoc]
  rfl

end ShaderLiterals.Lines
