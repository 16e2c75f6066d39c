import Mathlib.Data.Nat.Find
import ShaderLiterals.Proofs.Literal.Scan

/-!
# Where the literals of a source lie

A division of the lines of a source names the opening and the closing line of each literal by what
the lines are, without a reader that goes through them: an opening line is the first opener after
the literal before it, and a closing line is the first marker after the opening one.  Every source
has exactly one division, and extraction gives the literals of it
(`exists_division_results`).
-/

namespace ShaderLiterals

/-- `i` is the first number from `start` on that has the property. -/
def IsFirst (p : Nat → Prop) (start i : Nat) : Prop :=
  start ≤ i ∧ p i ∧ ∀ j, start ≤ j → j < i → ¬ p j

theorem exists_isFirst {p : Nat → Prop} {start : Nat} (h : ∃ i, start ≤ i ∧ p i) :
    ∃ i, IsFirst p start i := by
  classical
  obtain ⟨hle, hp⟩ := Nat.find_spec h
  exact ⟨Nat.find h, hle, hp, fun j hj hlt hpj => Nat.find_min h hlt ⟨hj, hpj⟩⟩

theorem IsFirst.unique {p : Nat → Prop} {start i j : Nat} (hi : IsFirst p start i)
    (hj : IsFirst p start j) : i = j := by
  rcases Nat.lt_trichotomy i j with hlt | heq | hlt
  · exact absurd hi.2.1 (hj.2.2 i hi.1 hlt)
  · exact heq
  · exact absurd hj.2.1 (hi.2.2 j hj.1 hlt)

/-! ## Lines by their places -/

/-- There is a line at the place, counted from 0, and it passes the test. -/
def LineIs (test : String → Bool) (lines : List String) (i : Nat) : Prop :=
  ∃ line, lines[i]? = some line ∧ test line = true

/-- The lines from the first place on and before the second. -/
def linesBetween (lines : List String) (i j : Nat) : List String :=
  (lines.take j).drop i

section Lines

variable {test : String → Bool} {lines : List String} {start i : Nat}

theorem LineIs.lt_length (h : LineIs test lines i) : i < lines.length := by
  obtain ⟨line, hline, -⟩ := h
  exact (List.getElem?_eq_some_iff.1 hline).1

/-- A line between two places stands at a place between them. -/
theorem exists_of_mem_linesBetween {j : Nat} {line : String} (h : line ∈ linesBetween lines i j) :
    ∃ k, i ≤ k ∧ k < j ∧ lines[k]? = some line := by
  obtain ⟨m, hm⟩ := List.mem_iff_getElem?.1 h
  rw [linesBetween, List.getElem?_drop] at hm
  have hlt : i + m < j := by
    have hlen := (List.getElem?_eq_some_iff.1 hm).1
    rw [List.length_take] at hlen
    omega
  rw [List.getElem?_take_of_lt hlt] at hm
  exact ⟨i + m, Nat.le_add_right i m, hlt, hm⟩

/-- No line from the place on passes the test. -/
theorem forall_mem_drop_of_not_lineIs (h : ∀ i, start ≤ i → ¬ LineIs test lines i) :
    ∀ line ∈ lines.drop start, test line = false := by
  intro line hline
  obtain ⟨m, hm⟩ := List.mem_iff_getElem?.1 hline
  rw [List.getElem?_drop] at hm
  exact Bool.eq_false_iff.2 fun htest => h _ (Nat.le_add_right start m) ⟨line, hm, htest⟩

/-- The first line that passes the test cuts the lines in two. -/
theorem IsFirst.exists_drop_eq (h : IsFirst (LineIs test lines) start i) :
    ∃ line, lines[i]? = some line ∧ test line = true ∧
      lines.drop start = linesBetween lines start i ++ line :: lines.drop (i + 1) ∧
      (linesBetween lines start i).length = i - start ∧
      ∀ l ∈ linesBetween lines start i, test l = false := by
  obtain ⟨hle, ⟨line, hline, htest⟩, hfirst⟩ := h
  obtain ⟨hlt, hget⟩ := List.getElem?_eq_some_iff.1 hline
  refine ⟨line, hline, htest, ?_, ?_, fun l hl => ?_⟩
  · have hlen : start ≤ (lines.take i).length := by
      rw [List.length_take]
      omega
    rw [linesBetween, ← hget, ← List.drop_eq_getElem_cons hlt, ← List.drop_append_of_le_length hlen,
      List.take_append_drop]
  · rw [linesBetween, List.length_drop, List.length_take]
    omega
  · obtain ⟨k, hk, hki, hkl⟩ := exists_of_mem_linesBetween hl
    exact Bool.eq_false_iff.2 fun hc => hfirst k hk hki ⟨l, hkl, hc⟩

end Lines

/-! ## Divisions -/

/-- The pairs are the places of the opening and the closing lines of all literals from the place
on. -/
inductive Division (lines : List String) : Nat → List (Nat × Nat) → Prop
  /-- There is no opener left. -/
  | idle {start : Nat} : (∀ i, start ≤ i → ¬ LineIs isOpener lines i) → Division lines start []
  /-- The first opener is followed by no marker. -/
  | unfinished {start a : Nat} : IsFirst (LineIs isOpener lines) start a →
      (∀ i, a < i → ¬ LineIs isMarker lines i) → Division lines start []
  | literal {start a c : Nat} {pairs : List (Nat × Nat)} :
      IsFirst (LineIs isOpener lines) start a → IsFirst (LineIs isMarker lines) (a + 1) c →
      Division lines (c + 1) pairs → Division lines start ((a, c) :: pairs)

/-- The literal that lies between the two places, if the first holds a shader name. -/
def literalAt? (lines : List String) (places : Nat × Nat) : Option Literal := do
  let opener ← lines[places.1]?
  let (name, stage) ← Name.first? opener.toList
  some ⟨⟨String.ofList name, stage, places.1 + 1⟩,
    linesBetween lines (places.1 + 1) places.2⟩

section Divisions

variable {lines : List String} {start : Nat} {pairs : List (Nat × Nat)}

theorem exists_division (lines : List String) (start : Nat) :
    ∃ pairs, Division lines start pairs := by
  induction hn : lines.length - start using Nat.strong_induction_on generalizing start with
  | h n ih =>
      by_cases hopener : ∃ i, start ≤ i ∧ LineIs isOpener lines i
      · obtain ⟨a, ha⟩ := exists_isFirst hopener
        by_cases hcloser : ∃ i, a + 1 ≤ i ∧ LineIs isMarker lines i
        · obtain ⟨c, hc⟩ := exists_isFirst hcloser
          have hlt := hc.2.1.lt_length
          have hac := hc.1
          have hstart := ha.1
          obtain ⟨pairs, hpairs⟩ := ih (lines.length - (c + 1)) (by omega) (c + 1) rfl
          exact ⟨(a, c) :: pairs, .literal ha hc hpairs⟩
        · exact ⟨[], .unfinished ha fun i hi hm => hcloser ⟨i, hi, hm⟩⟩
      · exact ⟨[], .idle fun i hi ho => hopener ⟨i, hi, ho⟩⟩

theorem Division.unique {pairs' : List (Nat × Nat)} (h : Division lines start pairs)
    (h' : Division lines start pairs') : pairs = pairs' := by
  induction h generalizing pairs' with
  | idle hidle =>
      cases h' with
      | idle | unfinished => rfl
      | literal ha' => exact absurd ha'.2.1 (hidle _ ha'.1)
  | unfinished ha hrest =>
      cases h' with
      | idle | unfinished => rfl
      | literal ha' hc' =>
          obtain rfl := ha.unique ha'
          exact absurd hc'.2.1 (hrest _ hc'.1)
  | literal ha hc _ ih =>
      cases h' with
      | idle hidle => exact absurd ha.2.1 (hidle _ ha.1)
      | unfinished ha' hrest =>
          obtain rfl := ha.unique ha'
          exact absurd hc.2.1 (hrest _ hc.1)
      | literal ha' hc' hpairs' =>
          obtain rfl := ha.unique ha'
          obtain rfl := hc.unique hc'
          rw [ih hpairs']

/-- The places of a division go up, and stand at or after its beginning. -/
theorem Division.pairwise_lt (h : Division lines start pairs) :
    (pairs.flatMap fun p => [p.1, p.2]).Pairwise (· < ·) ∧
      ∀ i ∈ pairs.flatMap fun p => [p.1, p.2], start ≤ i := by
  induction h with
  | idle | unfinished => simp
  | @literal start a c pairs ha hc _ ih =>
      have hac : a + 1 ≤ c := hc.1
      have hstart : start ≤ a := ha.1
      obtain ⟨hpairwise, hle⟩ := ih
      have hc_lt : ∀ i ∈ pairs.flatMap fun p => [p.1, p.2], c < i := hle
      have ha_lt : ∀ i ∈ pairs.flatMap fun p => [p.1, p.2], a < i := fun i hi =>
        Nat.lt_trans hac (hc_lt i hi)
      rw [List.flatMap_cons, List.cons_append, List.singleton_append]
      refine ⟨.cons ?_ (.cons hc_lt hpairwise), ?_⟩
      · exact List.forall_mem_cons.2 ⟨hac, ha_lt⟩
      · refine List.forall_mem_cons.2 ⟨hstart, List.forall_mem_cons.2 ⟨by omega, fun i hi => ?_⟩⟩
        exact Nat.le_trans hstart (Nat.le_of_lt (ha_lt i hi))

/-- A reader who starts outside at the place closes the literals of the division. -/
theorem Division.map_literalAt? (h : Division lines start pairs) :
    pairs.map (literalAt? lines) =
      ((Cursor.mk .outside start).literals (lines.drop start)).map some := by
  induction h with
  | idle hidle =>
      rw [Cursor.literals_of_idle (forall_mem_drop_of_not_lineIs hidle)]
      rfl
  | unfinished ha hrest =>
      obtain ⟨opener, -, hopener, hdrop, -, hbefore⟩ := ha.exists_drop_eq
      obtain ⟨name, stage, hname⟩ := exists_name_of_isOpener hopener
      rw [hdrop, Cursor.literals_append_of_idle hbefore, Cursor.literals_of_not_closes
          (Cursor.next_opener (isMarker_of_isOpener hopener) hname) (fun _ => nofun),
        Cursor.literals_of_body (forall_mem_drop_of_not_lineIs hrest)]
      rfl
  | @literal start a c pairs ha hc _ ih =>
      have hstart : start ≤ a := ha.1
      have hac : a + 1 ≤ c := hc.1
      obtain ⟨opener, hline, hopener, hdrop, hlen, hbefore⟩ := ha.exists_drop_eq
      obtain ⟨closer, -, hcloser, hdrop', hlen', hbody⟩ := hc.exists_drop_eq
      obtain ⟨name, stage, hname⟩ := exists_name_of_isOpener hopener
      have hat : literalAt? lines (a, c) =
          some ⟨⟨String.ofList name, stage, a + 1⟩, linesBetween lines (a + 1) c⟩ := by
        simp [literalAt?, hline, hname]
      have hplace : start + (a - start) = a := by omega
      have hnext : a + 1 + (c - (a + 1)) + 1 = c + 1 := by omega
      rw [hdrop, Cursor.literals_append_of_idle hbefore, hdrop', Cursor.literals_literal
          (isMarker_of_isOpener hopener) hname hbody hcloser,
        hlen, hplace, hlen', hnext, List.map_cons, List.map_cons, hat, ih]

end Divisions

/-- A source has one division, its lines are read as the literals of the division, and pulling
shaders to the end gives what these literals hold, up to the first that cannot be decoded. -/
theorem exists_division_results (names : Escape.Names) (lines : List String) :
    ∃ pairs, (∀ pairs', Division lines 0 pairs' ↔ pairs' = pairs) ∧
      (pairs.flatMap fun p => [p.1, p.2]).Pairwise (· < ·) ∧
      pairs.map (literalAt? lines) = (Cursor.start.literals lines).map some ∧
      Extraction.start.results names (lines.map .ok) =
        upToFault ((Cursor.start.literals lines).map (Literal.extract names)) := by
  obtain ⟨pairs, hpairs⟩ := exists_division lines 0
  refine ⟨pairs, fun pairs' => ⟨fun h => h.unique hpairs, fun h => h ▸ hpairs⟩,
    hpairs.pairwise_lt.1, hpairs.map_literalAt?, ?_⟩
  exact Extraction.results_map_ok .start lines

end ShaderLiterals
