import Mathlib.Data.List.TakeWhile
import ShaderLiterals.Literal.Name

/-!
# The pattern of shader names

The name of a shader is what the pattern `\b\w+(Fragment|Vertex)Source\b` matches first: a stem of
word characters, a mark that tells the stage, and `Source`, with a boundary of words on either side.
`search?` tries the pattern at one place after the other, and the longest stem first at each.  All
this trying comes down to the words of the text: what it finds is the first word that is a name as a
whole (`search?_eq_first?`), and the mark always tells a stage.
-/

namespace ShaderLiterals

namespace Stage

/-- The part of a name that tells the stage. -/
def mark : Stage → List Char
  | vertex => "Vertex".toList
  | fragment => "Fragment".toList

/-- The stage that a part of a name tells. -/
def ofMark? (mark : List Char) : Option Stage :=
  if mark = "Vertex".toList then some vertex
  else if mark = "Fragment".toList then some fragment
  else none

@[simp] theorem ofMark?_mark (stage : Stage) : ofMark? stage.mark = some stage := by
  cases stage <;> decide

theorem ending_eq (stage : Stage) : stage.ending = stage.mark ++ "Source".toList := by
  cases stage <;> decide

theorem isWord_of_mem_ending (stage : Stage) : ∀ c ∈ stage.ending, Word.isWord c = true := by
  cases stage <;> exact List.all_eq_true.1 (by decide)

/-- No name ends in the endings of two stages. -/
theorem eq_of_ending_suffix {stage other : Stage} {word : List Char} (h : stage.ending <:+ word)
    (h' : other.ending <:+ word) : stage = other := by
  have key : ∀ s t : Stage, s.ending <:+ t.ending → s = t := by
    rintro (_ | _) (_ | _) <;> decide
  rcases List.suffix_or_suffix_of_suffix h h' with h | h
  · exact key _ _ h
  · exact (key _ _ h).symm

end Stage

/-! ## Words -/

namespace Word

/-- The first word of a text ends where something else follows. -/
theorem takeWhile_append {word after : List Char} (h : ∀ c ∈ word, isWord c = true)
    (hafter : after.head?.any isWord = false) : (word ++ after).takeWhile isWord = word := by
  rw [List.takeWhile_append_of_pos h]
  cases after with
  | nil => rw [List.takeWhile_nil, List.append_nil]
  | cons c after =>
      have hc : ¬ isWord c = true := Bool.eq_false_iff.1 hafter
      rw [List.takeWhile_cons_of_neg hc, List.append_nil]

/-- A text begins with a word, maybe an empty one. -/
theorem exists_append (text : List Char) :
    ∃ word after, text = word ++ after ∧ (∀ c ∈ word, isWord c = true) ∧
      after.head?.any isWord = false := by
  refine ⟨text.takeWhile isWord, text.dropWhile isWord, List.takeWhile_append_dropWhile.symm,
    fun c hc => List.mem_takeWhile_imp hc, ?_⟩
  have hhead := List.head?_dropWhile_not isWord text
  cases h : (text.dropWhile isWord).head? with
  | none => rfl
  | some c =>
      rw [h] at hhead
      exact hhead

theorem runs_cons_of_not_isWord {c : Char} (h : isWord c = false) (text : List Char) :
    runs (c :: text) = [] :: runs text :=
  runs_append_cons (fun _ hmem => absurd hmem List.not_mem_nil) h text

theorem runs_cons_of_isWord {c : Char} (h : isWord c = true) (text : List Char) :
    runs (c :: text) = (runs text).modifyHead (c :: ·) := by
  rw [runs, List.splitOnP_cons_eq_if_modifyHead, h]
  rfl

/-- The first run is what the text begins with. -/
theorem runs_eq_takeWhile_cons (text : List Char) :
    runs text = text.takeWhile isWord :: (runs text).tail := by
  induction text with
  | nil => simp
  | cons c text ih =>
      by_cases hc : isWord c = true
      · rw [runs_cons_of_isWord hc, List.takeWhile_cons_of_pos hc, ih]
        rfl
      · rw [runs_cons_of_not_isWord (Bool.eq_false_iff.2 hc), List.takeWhile_cons_of_neg hc]
        rfl

/-- Runs hold word characters only. -/
theorem isWord_of_mem_runs {text word : List Char} (h : word ∈ runs text) :
    ∀ c ∈ word, isWord c = true := by
  induction text generalizing word with
  | nil =>
      rw [runs_nil, List.mem_singleton] at h
      rw [h]
      exact fun c hc => absurd hc List.not_mem_nil
  | cons d text ih =>
      by_cases hd : isWord d = true
      · rw [runs_cons_of_isWord hd] at h
        have hruns := runs_eq_takeWhile_cons text
        rw [hruns, List.modifyHead_cons] at h
        rcases List.mem_cons.1 h with rfl | h
        · exact List.forall_mem_cons.2 ⟨hd, ih (hruns ▸ List.mem_cons_self)⟩
        · exact ih (List.mem_of_mem_tail h)
      · rw [runs_cons_of_not_isWord (Bool.eq_false_iff.2 hd)] at h
        rcases List.mem_cons.1 h with rfl | h
        · exact fun c hc => absurd hc List.not_mem_nil
        · exact ih h

end Word

namespace Name

/-! ## Names as words -/

theorem isFor_iff {stage : Stage} {word : List Char} :
    isFor stage word = true ↔ ∃ stem, stem ≠ [] ∧ word = stem ++ stage.ending := by
  rw [isFor, Bool.and_eq_true, List.isSuffixOf_iff_suffix, decide_eq_true_eq]
  constructor
  · rintro ⟨⟨stem, rfl⟩, hlength⟩
    refine ⟨stem, ?_, rfl⟩
    rintro rfl
    exact Nat.lt_irrefl _ hlength
  · rintro ⟨stem, hstem, rfl⟩
    have hpos := List.length_pos_iff.2 hstem
    refine ⟨List.suffix_append _ _, ?_⟩
    rw [List.length_append]
    omega

/-- A name has a stem and the ending of its stage. -/
theorem stage?_eq_some_iff {stage : Stage} {word : List Char} :
    stage? word = some stage ↔ ∃ stem, stem ≠ [] ∧ word = stem ++ stage.ending := by
  rw [← isFor_iff]
  refine ⟨isFor_of_stage?_eq, fun h => ?_⟩
  have hmem : stage ∈ [Stage.vertex, Stage.fragment] := by
    cases stage <;> decide
  cases hstage : stage? word with
  | none => exact absurd h (List.find?_eq_none.1 hstage stage hmem)
  | some other =>
      obtain ⟨stem, -, hword⟩ := isFor_iff.1 h
      obtain ⟨stem', -, hword'⟩ := isFor_iff.1 (isFor_of_stage?_eq hstage)
      exact congrArg some (Stage.eq_of_ending_suffix ⟨stem', hword'.symm⟩ ⟨stem, hword.symm⟩)

/-- The first name in a text is a word of it that is a name. -/
theorem of_first?_eq_some {text name : List Char} {stage : Stage}
    (h : first? text = some (name, stage)) :
    (∀ c ∈ name, Word.isWord c = true) ∧ ∃ stem, stem ≠ [] ∧ name = stem ++ stage.ending := by
  obtain ⟨word, hmem, hword⟩ := List.exists_of_findSome?_eq_some h
  obtain ⟨stage', hstage, heq⟩ := Option.map_eq_some_iff.1 hword
  cases heq
  exact ⟨Word.isWord_of_mem_runs hmem, stage?_eq_some_iff.1 hstage⟩

/-! ## The pattern -/

/-- What the pattern matched. -/
structure Found where
  name : List Char
  mark : List Char
deriving DecidableEq, Repr

/-- Whether a word begins or ends between two characters, or at an end of the text. -/
def isBoundary (before after : Option Char) : Bool :=
  before.any Word.isWord != after.any Word.isWord

/-- Matches what follows the stem: a mark, `Fragment` before `Vertex`, then `Source` and a
boundary. -/
def matchEnding? (stem rest : List Char) : Option Found :=
  ["Fragment".toList, "Vertex".toList].findSome? fun mark =>
    let ending := mark ++ "Source".toList
    if ending.isPrefixOf rest &&
        isBoundary ending.getLast? (rest.drop ending.length).head? then
      some ⟨stem ++ ending, mark⟩
    else none

/-- Matches the pattern at a place behind the character `before`, if there is one, with as long a
stem as possible. -/
def matchHere? (before : Option Char) (text : List Char) : Option Found :=
  if isBoundary before text.head? then
    (List.range (text.takeWhile Word.isWord).length).reverse.findSome? fun n =>
      matchEnding? (text.take (n + 1)) (text.drop (n + 1))
  else none

/-- Matches the pattern at the first place of the text where it matches. -/
def searchFrom? (before : Option Char) : List Char → Option Found
  | [] => matchHere? before []
  | c :: rest => (matchHere? before (c :: rest)).or (searchFrom? (some c) rest)

/-- The first match in a text. -/
def search? (text : List Char) : Option Found := searchFrom? none text

/-- What the pattern gives for a word that is a name. -/
def whole? (word : List Char) : Option Found :=
  (stage? word).map fun stage => ⟨word, stage.mark⟩

@[simp] theorem whole?_nil : whole? [] = none := by decide

/-- The end of the pattern is the ending of a stage, and nothing of a word follows it. -/
theorem exists_stage_of_matchEnding? {stem rest : List Char} {found : Found}
    (h : matchEnding? stem rest = some found) :
    ∃ stage after, rest = Stage.ending stage ++ after ∧ after.head?.any Word.isWord = false ∧
      found = ⟨stem ++ stage.ending, stage.mark⟩ := by
  obtain ⟨mark, hmem, hmark⟩ := List.exists_of_findSome?_eq_some h
  obtain ⟨stage, rfl⟩ : ∃ stage : Stage, mark = stage.mark := by
    simp only [List.mem_cons, List.not_mem_nil, or_false] at hmem
    rcases hmem with rfl | rfl
    · exact ⟨.fragment, rfl⟩
    · exact ⟨.vertex, rfl⟩
  dsimp only at hmark
  rw [← Stage.ending_eq] at hmark
  split at hmark
  · next hguard =>
    obtain ⟨hbegins, hboundary⟩ := Bool.and_eq_true_iff.1 hguard
    obtain ⟨after, rfl⟩ := List.isPrefixOf_iff_prefix.1 hbegins
    have hlast : stage.ending.getLast?.any Word.isWord = true := by
      cases stage <;> decide
    rw [isBoundary, List.drop_left, hlast] at hboundary
    exact ⟨stage, after, rfl, by simpa using hboundary, (Option.some.inj hmark).symm⟩
  · cases hmark

/-- The ending of a stage matches, if nothing of a word follows it. -/
theorem isSome_matchEnding? (stem : List Char) (stage : Stage) {after : List Char}
    (h : after.head?.any Word.isWord = false) :
    (matchEnding? stem (stage.ending ++ after)).isSome = true := by
  have hmem : stage.mark ∈ ["Fragment".toList, "Vertex".toList] := by
    cases stage <;> decide
  have hlast : stage.ending.getLast?.any Word.isWord = true := by
    cases stage <;> decide
  refine List.findSome?_isSome_iff.2 ⟨stage.mark, hmem, ?_⟩
  dsimp only
  rw [← Stage.ending_eq, if_pos]
  · rfl
  · rw [List.isPrefixOf_iff_prefix.2 (List.prefix_append _ _), List.drop_left, isBoundary, hlast, h]
    rfl

/-- A match that begins where a word does is the whole word. -/
theorem whole?_of_matchEnding? {word after : List Char} {n : Nat} {found : Found}
    (hword : ∀ c ∈ word, Word.isWord c = true) (hafter : after.head?.any Word.isWord = false)
    (hn : n < word.length)
    (h : matchEnding? ((word ++ after).take (n + 1)) ((word ++ after).drop (n + 1)) = some found) :
    whole? word = some found := by
  obtain ⟨stage, after', hrest, hafter', rfl⟩ := exists_stage_of_matchEnding? h
  have htake : (word ++ after).take (n + 1) = word.take (n + 1) := List.take_append_of_le_length hn
  have hstem : word.take (n + 1) ≠ [] := by
    rw [← List.length_pos_iff, List.length_take]
    omega
  have htext : word ++ after = word.take (n + 1) ++ stage.ending ++ after' := by
    rw [List.append_assoc, ← hrest, ← htake, List.take_append_drop]
  have hall : ∀ c ∈ word.take (n + 1) ++ stage.ending, Word.isWord c = true := by
    intro c hc
    rcases List.mem_append.1 hc with hc | hc
    · exact hword c (List.mem_of_mem_take hc)
    · exact stage.isWord_of_mem_ending c hc
  -- what the text begins with is the word, and what the pattern matched
  have hwhole : word = word.take (n + 1) ++ stage.ending :=
    calc
      word = (word ++ after).takeWhile Word.isWord := (Word.takeWhile_append hword hafter).symm
      _ = (word.take (n + 1) ++ stage.ending ++ after').takeWhile Word.isWord := by rw [htext]
      _ = word.take (n + 1) ++ stage.ending := Word.takeWhile_append hall hafter'
  rw [htake, ← hwhole, whole?, stage?_eq_some_iff.2 ⟨_, hstem, hwhole⟩]
  rfl

theorem exists_isSome_matchEnding? {word after : List Char} {found : Found}
    (hwhole : whole? word = some found) (hafter : after.head?.any Word.isWord = false) :
    ∃ n ∈ (List.range word.length).reverse,
      (matchEnding? ((word ++ after).take (n + 1)) ((word ++ after).drop (n + 1))).isSome =
        true := by
  obtain ⟨stage, hstage, -⟩ := Option.map_eq_some_iff.1 hwhole
  obtain ⟨stem, hstem, rfl⟩ := stage?_eq_some_iff.1 hstage
  have hpos := List.length_pos_iff.2 hstem
  have hlength : stem.length - 1 + 1 = stem.length := by omega
  refine ⟨stem.length - 1, ?_, ?_⟩
  · rw [List.mem_reverse, List.mem_range, List.length_append]
    omega
  · rw [hlength, List.append_assoc, List.take_left, List.drop_left]
    exact isSome_matchEnding? stem stage hafter

/-- Where a word begins, the pattern matches the whole of it if it is a name, or else nothing. -/
theorem matchHere?_of_boundary {before : Option Char} (h : before.any Word.isWord = false)
    (text : List Char) : matchHere? before text = whole? (text.takeWhile Word.isWord) := by
  obtain ⟨word, after, rfl, hword, hafter⟩ := Word.exists_append text
  rw [matchHere?, Word.takeWhile_append hword hafter]
  cases hhead : word with
  | nil =>
      rw [List.nil_append, isBoundary, h, hafter, whole?_nil]
      rfl
  | cons c rest =>
      have hc : Word.isWord c = true := hword c (hhead ▸ List.mem_cons_self)
      have hboundary : isBoundary before (c :: rest ++ after).head? = true := by
        rw [isBoundary, h, List.cons_append, List.head?_cons, Option.any_some, hc]
        rfl
      rw [if_pos hboundary, ← hhead]
      cases hwhole : whole? word with
      | none =>
          refine List.findSome?_eq_none_iff.2 fun n hn => ?_
          rw [List.mem_reverse, List.mem_range] at hn
          cases hmatch : matchEnding? ((word ++ after).take (n + 1))
              ((word ++ after).drop (n + 1)) with
          | none => rfl
          | some found => cases hwhole.symm.trans (whole?_of_matchEnding? hword hafter hn hmatch)
      | some found =>
          have hsome : ((List.range word.length).reverse.findSome? fun n =>
              matchEnding? ((word ++ after).take (n + 1))
                ((word ++ after).drop (n + 1))).isSome = true := by
            rw [List.findSome?_isSome_iff]
            exact exists_isSome_matchEnding? hwhole hafter
          obtain ⟨other, hother⟩ := Option.isSome_iff_exists.1 hsome
          obtain ⟨n, hn, hmatch⟩ := List.exists_of_findSome?_eq_some hother
          rw [List.mem_reverse, List.mem_range] at hn
          rw [hother, ← whole?_of_matchEnding? hword hafter hn hmatch, hwhole]

/-- Inside a word the pattern does not match. -/
theorem matchHere?_of_not_boundary {before : Option Char} (h : before.any Word.isWord = true)
    (text : List Char) : matchHere? before text = none := by
  obtain ⟨word, after, rfl, hword, hafter⟩ := Word.exists_append text
  rw [matchHere?, Word.takeWhile_append hword hafter, isBoundary, h]
  cases word with
  | nil => rw [List.length_nil, List.range_zero, List.reverse_nil, List.findSome?_nil, ite_self]
  | cons c word =>
      rw [List.cons_append, List.head?_cons, Option.any_some, hword c List.mem_cons_self]
      rfl

/-- The words that are left at a place are tried in order, but not one that began before it. -/
theorem searchFrom?_eq_findSome? (before : Option Char) (text : List Char) :
    searchFrom? before text =
      (if before.any Word.isWord then (Word.runs text).tail else Word.runs text).findSome?
        whole? := by
  induction text generalizing before with
  | nil =>
      rw [searchFrom?, Word.runs_nil]
      cases h : before.any Word.isWord with
      | true => exact matchHere?_of_not_boundary h []
      | false => exact matchHere?_of_boundary h []
  | cons c rest ih =>
      rw [searchFrom?, ih, Option.any_some]
      have hruns := Word.runs_eq_takeWhile_cons rest
      by_cases hc : Word.isWord c = true
      · have hcons : Word.runs (c :: rest) =
            (c :: rest).takeWhile Word.isWord :: (Word.runs rest).tail := by
          rw [Word.runs_cons_of_isWord hc, List.takeWhile_cons_of_pos hc, hruns]
          rfl
        rw [hcons, if_pos hc]
        cases h : before.any Word.isWord with
        | true =>
            rw [matchHere?_of_not_boundary h]
            rfl
        | false =>
            rw [matchHere?_of_boundary h, if_neg Bool.false_ne_true, List.findSome?_cons]
            cases whole? ((c :: rest).takeWhile Word.isWord) <;> rfl
      · have hcons := Word.runs_cons_of_not_isWord (Bool.eq_false_iff.2 hc) rest
        have hnone : matchHere? before (c :: rest) = none := by
          cases h : before.any Word.isWord with
          | true => exact matchHere?_of_not_boundary h _
          | false =>
              rw [matchHere?_of_boundary h, List.takeWhile_cons_of_neg hc, whole?_nil]
        rw [hcons, hnone, if_neg hc, Option.none_or]
        cases before.any Word.isWord <;> rfl

/-- What the pattern finds is the first word of the text that is a name, the whole of it, and the
mark is that of its stage. -/
theorem search?_eq_first? (text : List Char) :
    search? text = (first? text).map fun name => ⟨name.1, name.2.mark⟩ := by
  rw [search?, searchFrom?_eq_findSome?, first?, List.map_findSome?]
  refine congrArg (List.findSome? · _) (funext fun word => ?_)
  rw [whole?, Function.comp_apply, Option.map_map]
  rfl

end Name

end ShaderLiterals
