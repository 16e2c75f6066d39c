import Mathlib.Data.List.Induction
import ShaderLiterals.Proofs.Literal.Name
import ShaderLiterals.Proofs.Literal.Schedule

/-!
# Where a reader of lines can stand

A reader who has read some lines knows how many they were, and stands inside a literal exactly if
one was opened and no marker came after it.  What the reader holds then is what was read since
(`Opened`); one line keeps this (`Reached.next`), and so do all.  Nothing that a reader takes for
granted is ever missing: a name that was found tells a stage, and a literal that is closed was open
(`readAll?_eq_ok`).
-/

namespace ShaderLiterals

/-! ## A reader who takes nothing for granted -/

/-- Why a reader of lines cannot go on. -/
inductive Stuck where
  /-- A name was found whose mark tells no stage. -/
  | noStage (found : Name.Found)
  /-- A literal is to be closed, and none is open. -/
  | noLiteral
deriving DecidableEq, Repr

/-- Where a marker leads from outside, if the pattern of names decides. -/
def Place.open? (number : Nat) (line : String) : Except Stuck Place :=
  match Name.search? line.toList with
  | none => .ok .outside
  | some found =>
      match Stage.ofMark? found.mark with
      | none => .error (.noStage found)
      | some stage => .ok (.inside ⟨String.ofList found.name, stage, number⟩ #[])

/-- The literal that is open at a place. -/
def Place.close? : Place → Except Stuck Literal
  | outside => .error .noLiteral
  | inside opening body => .ok ⟨opening, body.toList⟩

/-- The literal that a line closes, if it does. -/
def Role.literal? : Role → Option Literal
  | closes literal => some literal
  | plain | unnamed | opens _ | body => none

namespace Cursor

/-- Reads a line, and looks at the place once more when a literal is closed. -/
def feed? (cursor : Cursor) (line : String) : Except Stuck (Option Literal × Cursor) :=
  let number := cursor.line + 1
  match cursor.place, isMarker line with
  | .outside, false => .ok (none, ⟨.outside, number⟩)
  | .outside, true => (Place.open? number line).map fun place => (none, ⟨place, number⟩)
  | .inside opening body, false => .ok (none, ⟨.inside opening (body.push line), number⟩)
  | .inside _ _, true => cursor.place.close?.map fun literal => (some literal, ⟨.outside, number⟩)

/-- Reads lines: the literals that they close, and where the reader stands after them. -/
def readAll? (cursor : Cursor) : List String → Except Stuck (List Literal × Cursor)
  | [] => .ok ([], cursor)
  | line :: rest =>
      match cursor.feed? line with
      | .error stuck => .error stuck
      | .ok (literal, next) =>
          (next.readAll? rest).map fun last => (literal.toList ++ last.1, last.2)

/-- The name that opens a literal tells its stage, and the place is looked at twice with the same
outcome. -/
theorem feed?_eq_ok (cursor : Cursor) (line : String) :
    cursor.feed? line = .ok ((cursor.next line).1.literal?, (cursor.next line).2) := by
  obtain ⟨place, n⟩ := cursor
  cases place with
  | outside =>
      cases hmarker : isMarker line with
      | false => simp only [feed?, next, nextOutside, hmarker, Bool.false_eq_true, if_false]; rfl
      | true =>
          simp only [feed?, next, nextOutside, hmarker, if_true, Place.open?,
            Name.search?_eq_first?]
          cases Name.first? line.toList with
          | none => rfl
          | some name => simp only [Option.map_some, Stage.ofMark?_mark]; rfl
  | inside opening body =>
      cases hmarker : isMarker line with
      | false => rw [next_body hmarker]; simp only [feed?, hmarker]; rfl
      | true => rw [next_closer hmarker]; simp only [feed?, hmarker]; rfl

/-- A line that closes a literal is a marker, and the literal is what was held. -/
theorem of_next_closes {cursor : Cursor} {line : String} {literal : Literal}
    (h : (cursor.next line).1 = .closes literal) :
    isMarker line = true ∧
      ∃ body, cursor.place = .inside literal.opening body ∧ body.toList = literal.body := by
  obtain ⟨place, n⟩ := cursor
  cases place with
  | outside =>
      cases hopener : isOpener line with
      | true =>
          obtain ⟨name, stage, hname⟩ := exists_name_of_isOpener hopener
          rw [next_opener (isMarker_of_isOpener hopener) hname] at h
          cases h
      | false =>
          obtain ⟨role, hrole, hnext⟩ := next_idle (n := n) hopener
          rw [hnext] at h
          exact absurd h (hrole literal)
  | inside opening body =>
      cases hmarker : isMarker line with
      | true =>
          rw [next_closer hmarker] at h
          cases h
          exact ⟨rfl, body, rfl, rfl⟩
      | false =>
          rw [next_body hmarker] at h
          cases h

theorem literals_cons (cursor : Cursor) (line : String) (rest : List String) :
    cursor.literals (line :: rest) =
      (cursor.next line).1.literal?.toList ++ (cursor.next line).2.literals rest := by
  rw [literals]
  rcases cursor.next line with ⟨role, next⟩
  cases role <;> rfl

/-- Nothing is missing where a reader looks for it. -/
theorem readAll?_eq_ok (cursor : Cursor) (lines : List String) :
    cursor.readAll? lines = .ok (cursor.literals lines, cursor.readAll lines) := by
  induction lines generalizing cursor with
  | nil => rfl
  | cons line rest ih =>
      rw [readAll?, feed?_eq_ok, literals_cons, readAll_cons]
      dsimp only
      rw [ih]
      rfl

end Cursor

/-! ## What a reader holds -/

/-- The literal with this opening, and with these lines so far, was opened among the lines and is
still open after them. -/
structure Opened (lines : List String) (opening : Opening) (body : List String) : Prop where
  one_le : 1 ≤ opening.line
  le_length : opening.line ≤ lines.length
  line_add_length : opening.line + body.length = lines.length
  body_eq : body = lines.drop opening.line
  not_isMarker : ∀ line ∈ body, isMarker line = false
  /-- The line that opened it is a marker, and its first name is that of the literal. -/
  opener : ∃ line, lines[opening.line - 1]? = some line ∧ isMarker line = true ∧
    Name.search? line.toList = some ⟨opening.name.toList, opening.stage.mark⟩
  isWord : ∀ c ∈ opening.name.toList, Word.isWord c = true
  name_eq : ∃ stem, stem ≠ [] ∧
    opening.name.toList = stem ++ (opening.stage.mark ++ "Source".toList)

namespace Opened

variable {lines body : List String} {opening : Opening} {line : String}

/-- An opener opens a literal. -/
theorem of_first? {name : List Char} {stage : Stage} (hmarker : isMarker line = true)
    (hname : Name.first? line.toList = some (name, stage)) :
    Opened (lines ++ [line]) ⟨String.ofList name, stage, lines.length + 1⟩ [] := by
  obtain ⟨hword, hstem⟩ := Name.of_first?_eq_some hname
  have hlength : (lines ++ [line]).length = lines.length + 1 := List.length_append
  constructor
  case one_le => exact Nat.le_add_left 1 _
  case le_length => exact hlength.ge
  case line_add_length => exact hlength.symm
  case body_eq => exact (List.drop_eq_nil_of_le hlength.le).symm
  case not_isMarker => exact fun line h => absurd h List.not_mem_nil
  case opener =>
    refine ⟨line, List.getElem?_concat_length, hmarker, ?_⟩
    rw [Name.search?_eq_first?, hname, String.toList_ofList]
    rfl
  case isWord => rwa [String.toList_ofList]
  case name_eq => rwa [String.toList_ofList, ← Stage.ending_eq]

/-- A line that is no marker is held, and the literal stays open. -/
theorem push (h : Opened lines opening body) (hmarker : isMarker line = false) :
    Opened (lines ++ [line]) opening (body ++ [line]) where
  one_le := h.one_le
  le_length := by
    rw [List.length_append]
    exact Nat.le_add_right_of_le h.le_length
  line_add_length := by
    rw [List.length_append, List.length_append, ← Nat.add_assoc, h.line_add_length]
  body_eq := by rw [List.drop_append_of_le_length h.le_length, ← h.body_eq]
  not_isMarker := by
    intro other hother
    rcases List.mem_append.1 hother with hother | hother
    · exact h.not_isMarker other hother
    · rwa [List.mem_singleton.1 hother]
  opener := by
    obtain ⟨opener, hopener, hrest⟩ := h.opener
    have hlt := (List.getElem?_eq_some_iff.1 hopener).1
    exact ⟨opener, (List.getElem?_append_left hlt).trans hopener, hrest⟩
  isWord := h.isWord
  name_eq := h.name_eq

end Opened

/-- Some lines lead to the cursor: it counts them, and what it holds was opened among them. -/
structure Reached (lines : List String) (cursor : Cursor) : Prop where
  line_eq : cursor.line = lines.length
  opened : ∀ opening body, cursor.place = .inside opening body →
    Opened lines opening body.toList

namespace Reached

variable {lines : List String} {cursor : Cursor}

theorem start : Reached [] .start := ⟨rfl, fun _ _ h => nomatch h⟩

/-- A line leads from where lines lead to where they lead with it. -/
theorem next (h : Reached lines cursor) (line : String) :
    Reached (lines ++ [line]) (cursor.next line).2 := by
  refine ⟨?_, fun opening' body' hplace => ?_⟩
  · rw [Cursor.line_next, h.line_eq, List.length_append, List.length_singleton]
  · obtain ⟨place, n⟩ := cursor
    obtain rfl : n = lines.length := h.line_eq
    cases place with
    | outside =>
        by_cases hopener : isOpener line = true
        · have hmarker := isMarker_of_isOpener hopener
          obtain ⟨name, stage, hname⟩ := exists_name_of_isOpener hopener
          rw [Cursor.next_opener hmarker hname] at hplace
          cases hplace
          exact .of_first? hmarker hname
        · obtain ⟨role, -, hnext⟩ := Cursor.next_idle (Bool.eq_false_iff.2 hopener)
          rw [hnext] at hplace
          cases hplace
    | inside opening body =>
        have hopened := h.opened opening body rfl
        cases hmarker : isMarker line with
        | true =>
            -- the literal is closed, and nothing is open
            rw [Cursor.next_closer hmarker] at hplace
            cases hplace
        | false =>
            rw [Cursor.next_body hmarker] at hplace
            cases hplace
            rw [Array.toList_push]
            exact hopened.push hmarker

/-- What a line closes was open before it. -/
theorem opened_of_closes (h : Reached lines cursor) {line : String} {literal : Literal}
    (hnext : (cursor.next line).1 = .closes literal) :
    Opened lines literal.opening literal.body := by
  obtain ⟨body, hplace, hbody⟩ := (Cursor.of_next_closes hnext).2
  exact hbody ▸ h.opened _ body hplace

end Reached

theorem reached_readAll (lines : List String) : Reached lines (Cursor.start.readAll lines) := by
  induction lines using List.reverseRecOn with
  | nil => exact .start
  | append_singleton lines line ih =>
      rw [Cursor.readAll_append]
      exact ih.next line

/-! ## Inside and outside -/

namespace Cursor

/-- Outside, an opener alone leads inside. -/
theorem isInside_next_of_outside {cursor : Cursor} (h : cursor.isInside = false) (line : String) :
    (cursor.next line).2.isInside = isOpener line := by
  obtain ⟨place, n⟩ := cursor
  cases place with
  | inside => cases h
  | outside =>
      cases hopener : isOpener line with
      | true =>
          obtain ⟨name, stage, hname⟩ := exists_name_of_isOpener hopener
          rw [next_opener (isMarker_of_isOpener hopener) hname, isInside_inside]
      | false =>
          obtain ⟨role, -, hnext⟩ := next_idle (n := n) hopener
          rw [hnext, isInside_outside]

/-- Inside, a marker alone leads outside. -/
theorem isInside_next_of_inside {cursor : Cursor} (h : cursor.isInside = true) (line : String) :
    (cursor.next line).2.isInside = !isMarker line := by
  obtain ⟨place, n⟩ := cursor
  cases place with
  | outside => cases h
  | inside opening body =>
      cases hmarker : isMarker line with
      | true => rw [next_closer hmarker, isInside_outside, Bool.not_true]
      | false => rw [next_body hmarker, isInside_inside, Bool.not_false]

theorem isInside_readAll_of_body {cursor : Cursor} (h : cursor.isInside = true)
    {lines : List String} (hlines : ∀ line ∈ lines, isMarker line = false) :
    (cursor.readAll lines).isInside = true := by
  induction lines generalizing cursor with
  | nil => exact h
  | cons line lines ih =>
      obtain ⟨hline, hlines⟩ := List.forall_mem_cons.1 hlines
      refine ih ?_ hlines
      rw [isInside_next_of_inside h, hline, Bool.not_false]

/-- A reader who began outside is inside exactly if a line led inside and no marker came after
it. -/
theorem isInside_readAll_iff {cursor : Cursor} (h : cursor.isInside = false)
    (lines : List String) :
    (cursor.readAll lines).isInside = true ↔
      ∃ before opener after, lines = before ++ opener :: after ∧
        (cursor.readAll before).isInside = false ∧ isOpener opener = true ∧
        ∀ line ∈ after, isMarker line = false := by
  constructor
  · intro hinside
    induction lines using List.reverseRecOn with
    | nil => cases h.symm.trans hinside
    | append_singleton lines line ih =>
        rw [readAll_append, readAll_cons, readAll_nil] at hinside
        cases hlines : (cursor.readAll lines).isInside with
        | false =>
            rw [isInside_next_of_outside hlines] at hinside
            exact ⟨lines, line, [], rfl, hlines, hinside, fun _ h => absurd h List.not_mem_nil⟩
        | true =>
            rw [isInside_next_of_inside hlines, Bool.not_eq_true'] at hinside
            obtain ⟨before, opener, after, rfl, hbefore, hopener, hafter⟩ := ih hlines
            refine ⟨before, opener, after ++ [line], List.append_assoc _ _ _, hbefore, hopener, ?_⟩
            exact List.forall_mem_append.2 ⟨hafter, List.forall_mem_singleton.2 hinside⟩
  · rintro ⟨before, opener, after, rfl, hbefore, hopener, hafter⟩
    rw [readAll_append, readAll_cons]
    refine isInside_readAll_of_body ?_ hafter
    rw [isInside_next_of_outside hbefore, hopener]

end Cursor

/-- What holds of a reader who has read any lines from the start: it has counted them; inside a
literal it holds what was read since the opener; a line that closes a literal is a marker, and leads
outside; it is inside exactly if an opener led there and no marker came after it; and nothing that
it takes for granted was missing. -/
theorem readAll_start (lines : List String) :
    let cursor := Cursor.start.readAll lines
    cursor.line = lines.length ∧
      (∀ opening body, cursor.place = .inside opening body →
        Opened lines opening body.toList) ∧
      (∀ before last literal, lines = before ++ [last] →
        ((Cursor.start.readAll before).next last).1 = .closes literal →
        isMarker last = true ∧ Opened before literal.opening literal.body ∧
          literal.opening.line + literal.body.length + 1 = lines.length ∧
          cursor.place = .outside) ∧
      (cursor.isInside = true ↔
        ∃ before opener after, lines = before ++ opener :: after ∧
          (Cursor.start.readAll before).isInside = false ∧ isOpener opener = true ∧
          ∀ line ∈ after, isMarker line = false) ∧
      Cursor.start.readAll? lines = .ok (Cursor.start.literals lines, cursor) := by
  intro cursor
  obtain ⟨hline, hopened⟩ := reached_readAll lines
  refine ⟨hline, hopened, ?_, Cursor.isInside_readAll_iff rfl lines,
    Cursor.readAll?_eq_ok .start lines⟩
  rintro before last literal rfl hnext
  have hbefore := (reached_readAll before).opened_of_closes hnext
  refine ⟨(Cursor.of_next_closes hnext).1, hbefore, ?_, ?_⟩
  · rw [hbefore.line_add_length, List.length_append, List.length_singleton]
  · have hcursor : cursor = ((Cursor.start.readAll before).next last).2 :=
      Cursor.readAll_append _ _ _
    rw [hcursor, Cursor.place_next_of_closes hnext]

end ShaderLiterals
