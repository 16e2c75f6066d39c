import ShaderLiterals.Proofs.Check.Survey
import ShaderLiterals.Proofs.Literal.Invariant
import ShaderLiterals.Proofs.Text.Digits

/-!
# Reading a listing

A row of a listing is read from the right: the stage stands behind the last space, the name behind
the one before, and the number of the line behind the last colon of what is left.  None of the three
holds the mark before it, because names are words (`Machine.of_mem_survey`), so a row gives back
what it was printed for (`Located.read?_row`), whatever the path looks like.  As long as no path
holds a newline, the rows can be told apart too, and a listing tells all that was found.
-/

namespace ShaderLiterals

variable {names : Escape.Names}

/-! ## The last mark of a text -/

section LastMark

variable {α : Type} [DecidableEq α] {mark : α} {before behind : List α}

/-- What stands before the last mark of a text, and what stands behind it. -/
def splitLast? (mark : α) : List α → Option (List α × List α)
  | [] => none
  | a :: rest =>
      match splitLast? mark rest with
      | some (before, behind) => some (a :: before, behind)
      | none => if a = mark then some ([], rest) else none

theorem splitLast?_of_not_mem (h : mark ∉ behind) : splitLast? mark behind = none := by
  induction behind with
  | nil => rfl
  | cons a behind ih =>
      obtain ⟨ha, hbehind⟩ := not_or.1 (List.mem_cons.not.1 h)
      rw [splitLast?, ih hbehind]
      exact if_neg (Ne.symm ha)

theorem splitLast?_append_cons (before : List α) (h : mark ∉ behind) :
    splitLast? mark (before ++ mark :: behind) = some (before, behind) := by
  induction before with
  | nil =>
      rw [List.nil_append, splitLast?, splitLast?_of_not_mem h]
      exact if_pos rfl
  | cons a before ih => rw [List.cons_append, splitLast?, ih]

/-- Texts that are ended by marks they do not hold can be told apart. -/
theorem splitOn_flatMap_append {texts : List (List α)} (h : ∀ text ∈ texts, mark ∉ text) :
    (texts.flatMap (· ++ [mark])).splitOn mark = texts ++ [[]] := by
  induction texts with
  | nil => rfl
  | cons text texts ih =>
      obtain ⟨htext, htexts⟩ := List.forall_mem_cons.1 h
      rw [List.flatMap_cons, List.append_assoc, List.singleton_append,
        List.splitOn_append_cons_self_of_not_mem htext, ih htexts, List.cons_append]

end LastMark

/-! ## Names -/

/-- A shader has the name that its literal was opened with. -/
theorem Literal.name_eq_of_extract {literal : Literal} {shader : Shader}
    (h : literal.extract names = .ok shader) : shader.name = literal.opening.name := by
  unfold Literal.extract Literal.shader at h
  cases hdecode : Escape.decode names (restoreNewline literal.joined) with
  | error fault =>
      rw [hdecode] at h
      cases h
  | ok source =>
      rw [hdecode] at h
      cases h
      rfl

/-- Wherever lines lead, the shaders behind have words for names. -/
theorem isWord_of_mem_extractFrom {before : List String} {cursor : Cursor}
    (hreached : Reached before cursor) {lines : List SourceLine} {shader : Shader}
    (h : shader ∈ (extractFrom names cursor lines).shaders) :
    ∀ c ∈ shader.name.toList, Word.isWord c = true := by
  induction lines generalizing before cursor with
  | nil => exact absurd h List.not_mem_nil
  | cons source lines ih =>
      cases source with
      | error cause => exact absurd h List.not_mem_nil
      | ok line =>
          have hrest := ih (hreached.next line)
          have hopened (literal : Literal) (hcloses : (cursor.next line).1 = .closes literal) :=
            hreached.opened_of_closes hcloses
          rcases hnext : cursor.next line with ⟨role, next⟩
          rw [hnext] at hrest hopened
          rw [extractFrom, hnext] at h
          cases role with
          | closes literal =>
              dsimp only at h
              cases hextract : literal.extract names with
              | error fault =>
                  rw [hextract] at h
                  exact absurd h List.not_mem_nil
              | ok first =>
                  rw [hextract] at h
                  rcases List.mem_cons.1 h with rfl | h
                  · rw [Literal.name_eq_of_extract hextract]
                    exact (hopened literal rfl).isWord
                  · exact hrest h
          | plain | unnamed | opens | body => exact hrest h

/-- What a survey finds was found at one of its paths, and its name is a word. -/
theorem Machine.of_mem_survey {machine : Machine} {paths : List String} {place : String × Shader}
    (h : place ∈ (machine.survey names paths).found) :
    place.1 ∈ paths ∧ ∀ c ∈ place.2.name.toList, Word.isWord c = true := by
  induction paths with
  | nil => exact absurd h List.not_mem_nil
  | cons path paths ih =>
      have hafter {lines : List SourceLine} {rest : Survey}
          (hmem : place ∈ (Survey.after path (extract names lines).shaders rest).found)
          (hrest : place ∈ rest.found → place ∈ (machine.survey names paths).found) :
          place.1 ∈ path :: paths ∧ ∀ c ∈ place.2.name.toList, Word.isWord c = true := by
        rcases List.mem_append.1 hmem with hmem | hmem
        · obtain ⟨shader, hshader, rfl⟩ := List.mem_map.1 hmem
          exact ⟨List.mem_cons_self, isWord_of_mem_extractFrom .start hshader⟩
        · obtain ⟨hpath, hword⟩ := ih (hrest hmem)
          exact ⟨List.mem_cons_of_mem _ hpath, hword⟩
      cases hlines : machine.lines path with
      | error cause =>
          rw [survey_of_lines_error hlines] at h
          exact absurd h List.not_mem_nil
      | ok lines =>
          cases hfault : (extract names lines).fault with
          | some cause =>
              rw [survey_of_fault hlines hfault] at h
              exact hafter h fun hmem => absurd hmem List.not_mem_nil
          | none =>
              rw [survey_of_no_fault hlines hfault] at h
              exact hafter h id

/-! ## Rows -/

/-- Where a shader was found, and which one it is. -/
structure Located where
  path : String
  line : Nat
  name : String
  stage : Stage
deriving DecidableEq, Repr

/-- The stage of this description. -/
def Stage.ofDescription? (text : List Char) : Option Stage :=
  [vertex, fragment].find? (·.describe.toList == text)

@[simp] theorem Stage.ofDescription?_describe (stage : Stage) :
    ofDescription? stage.describe.toList = some stage := by
  cases stage <;> decide

namespace Located

def of (place : String × Shader) : Located :=
  ⟨place.1, place.2.line, place.2.name, place.2.stage⟩

/-- The line of a listing, without the newline that ends it. -/
def row (located : Located) : List Char :=
  ((located.path.toList ++ ':' :: Nat.toDigits 10 located.line) ++ ' ' :: located.name.toList) ++
    ' ' :: located.stage.describe.toList

/-- Reads a row from the right. -/
def read? (row : List Char) : Option Located := do
  let (rest, stage) ← splitLast? ' ' row
  let (rest, name) ← splitLast? ' ' rest
  let (path, line) ← splitLast? ':' rest
  let stage ← Stage.ofDescription? stage
  let line ← Digits.number? 10 line
  some ⟨String.ofList path, line, String.ofList name, stage⟩

/-- Printed digits hold no mark. -/
theorem not_mem_toDigits {mark : Char} (h : mark.isDigit = false) (n : Nat) :
    mark ∉ Nat.toDigits 10 n := by
  intro hmem
  cases h.symm.trans (Nat.isDigit_of_mem_toDigits (by decide) (by decide) hmem)

/-- Words hold no mark. -/
theorem not_mem_of_isWord {mark : Char} (h : Word.isWord mark = false) {word : List Char}
    (hword : ∀ c ∈ word, Word.isWord c = true) : mark ∉ word := by
  intro hmem
  cases h.symm.trans (hword mark hmem)

theorem isWord_of_mem_describe (stage : Stage) :
    ∀ c ∈ stage.describe.toList, Word.isWord c = true := by
  cases stage <;> exact List.all_eq_true.1 (by decide)

variable {located : Located}

/-- A row gives back what it was printed for. -/
theorem read?_row (h : ∀ c ∈ located.name.toList, Word.isWord c = true) :
    read? located.row = some located := by
  have hstage := not_mem_of_isWord (show Word.isWord ' ' = false by decide)
    (isWord_of_mem_describe located.stage)
  have hname := not_mem_of_isWord (show Word.isWord ' ' = false by decide) h
  have hline := not_mem_toDigits (show ':'.isDigit = false by decide) located.line
  have hnumber := Digits.number?_eq_some_iff.2 (Digits.spells_toDigits located.line)
  simp only [read?, row, splitLast?_append_cons _ hstage, splitLast?_append_cons _ hname,
    splitLast?_append_cons _ hline, Stage.ofDescription?_describe, hnumber, String.ofList_toList,
    Option.bind_eq_bind, Option.bind_some]

/-- A row is one line if the path is. -/
theorem newline_not_mem_row (hpath : '\n' ∉ located.path.toList)
    (h : ∀ c ∈ located.name.toList, Word.isWord c = true) : '\n' ∉ located.row := by
  have hword : Word.isWord '\n' = false := by decide
  simp only [row, List.mem_append, List.mem_cons, not_or]
  exact ⟨⟨⟨hpath, by decide, not_mem_toDigits (by decide) _⟩, by decide, not_mem_of_isWord hword h⟩,
    by decide, not_mem_of_isWord hword (isWord_of_mem_describe _)⟩

theorem toList_listingLine (path : String) (shader : Shader) :
    (listingLine path shader).toList = (of (path, shader)).row ++ ['\n'] := by
  have hline : listingLine path shader = path ++ ":" ++ toString shader.line ++ " " ++
      shader.name ++ " " ++ shader.stage.describe ++ "\n" := rfl
  simp [hline, row, of]

end Located

/-! ## Listings -/

namespace Survey

variable {survey : Survey}

/-- Where the shaders were found. -/
def located (survey : Survey) : List Located := survey.found.map .of

/-- A listing is its rows, each ended by a newline. -/
theorem toList_listing (survey : Survey) :
    survey.listing.toList = (survey.located.map Located.row).flatMap (· ++ ['\n']) := by
  obtain ⟨found, fault⟩ := survey
  rw [listing, located]
  dsimp only
  induction found with
  | nil => rfl
  | cons place found ih =>
      rw [List.map_cons, String.join_cons, String.toList_append, ih, Located.toList_listingLine]
      rfl

end Survey

namespace Machine

variable {machine other : Machine} {paths : List String}

theorem of_mem_located {located : Located} (h : located ∈ (machine.survey names paths).located) :
    located.path ∈ paths ∧ ∀ c ∈ located.name.toList, Word.isWord c = true := by
  obtain ⟨place, hplace, rfl⟩ := List.mem_map.1 h
  exact of_mem_survey hplace

theorem newline_not_mem_rows (hpaths : ∀ path ∈ paths, '\n' ∉ path.toList) :
    ∀ row ∈ (machine.survey names paths).located.map Located.row, '\n' ∉ row := by
  intro row hrow
  obtain ⟨located, hlocated, rfl⟩ := List.mem_map.1 hrow
  obtain ⟨hpath, hname⟩ := of_mem_located hlocated
  exact Located.newline_not_mem_row (hpaths _ hpath) hname

/-- The rows of a survey give back what was found. -/
theorem map_read?_rows (names : Escape.Names) (machine : Machine) (paths : List String) :
    ((machine.survey names paths).located.map Located.row).map Located.read? =
      (machine.survey names paths).located.map some := by
  rw [List.map_map]
  exact List.map_congr_left fun located hlocated => Located.read?_row (of_mem_located hlocated).2

/-- What was found can be told from the text alone. -/
theorem located_eq_of_listing_eq {others : List String}
    (hpaths : ∀ path ∈ paths, '\n' ∉ path.toList) (hothers : ∀ path ∈ others, '\n' ∉ path.toList)
    (h : (other.survey names others).listing = (machine.survey names paths).listing) :
    (other.survey names others).located = (machine.survey names paths).located := by
  have htext := congrArg (fun text => text.toList.splitOn '\n') h
  rw [Survey.toList_listing, Survey.toList_listing,
    splitOn_flatMap_append (newline_not_mem_rows hothers),
    splitOn_flatMap_append (newline_not_mem_rows hpaths)] at htext
  have hrows := congrArg (List.map Located.read?) (List.append_cancel_right htext)
  rw [map_read?_rows, map_read?_rows] at hrows
  exact List.map_injective_iff.2 (Option.some_injective _) hrows

end Machine

/-- A listing that succeeds is as many lines as it counts, and each of them, read from the right,
gives back where a shader was found, and which one it is.  Where listings are the same, so is what
was found. -/
theorem read?_listFiles (names : Escape.Names) {machine : Machine} {paths : List String}
    (hpaths : ∀ path ∈ paths, '\n' ∉ path.toList) :
    (∀ count sink, listFiles names machine paths .working = (.ok count, sink) →
        ∃ rows : List (List Char), sink.text.toList = rows.flatMap (· ++ ['\n']) ∧
          rows.length = count ∧ (∀ row ∈ rows, '\n' ∉ row) ∧
          rows.map Located.read? = (machine.survey names paths).located.map some) ∧
      ∀ (other : Machine) (others : List String), (∀ path ∈ others, '\n' ∉ path.toList) →
        (listFiles names other others .working).2.text =
          (listFiles names machine paths .working).2.text →
        (other.survey names others).located = (machine.survey names paths).located := by
  constructor
  · intro count sink h
    rw [listFiles_eq_survey] at h
    obtain ⟨hresult, rfl⟩ := Prod.mk.inj h
    obtain ⟨-, rfl⟩ := Survey.result_eq_ok_iff.1 hresult
    refine ⟨_, Survey.toList_listing _, ?_, Machine.newline_not_mem_rows hpaths,
      Machine.map_read?_rows names machine paths⟩
    rw [List.length_map, Survey.located, List.length_map, Survey.shaders, List.length_map]
  · intro other others hothers h
    rw [listFiles_eq_survey, listFiles_eq_survey] at h
    exact Machine.located_eq_of_listing_eq hpaths hothers h

/-- A machine with a file whose path looks like a row of a listing. -/
def rowLike : Machine :=
  { Machine.empty with
    tree := ⟨(["home", "root", "b:7 cVertexSource vertex"], .file 0) :: Machine.empty.tree.entries⟩
    store := ⟨[⟨Utf8.encode "let aFragmentSource = \"\"\"\n\"\"\"\n".toList, 0o644, 0⟩]⟩ }

theorem survey_rowLike : rowLike.survey (fun _ => none) ["b:7 cVertexSource vertex"] =
    ⟨[("b:7 cVertexSource vertex", ⟨"aFragmentSource", .fragment, "", 1⟩)], none⟩ := by
  have hfind : rowLike.find "b:7 cVertexSource vertex" = .ok (.file 0) :=
    Machine.find_of_get? (by decide) (by decide) (by decide) nofun
  rw [Machine.survey_of_no_fault (Machine.lines_of_find_file hfind) (by decide +kernel)]
  decide +kernel

theorem read?_listFiles_rowLike :
    let names : Escape.Names := fun _ => none
    let listed := listFiles names rowLike ["b:7 cVertexSource vertex"] .working
    (∀ path ∈ ["b:7 cVertexSource vertex"], '\n' ∉ path.toList) ∧ listed.1 = .ok 1 ∧
      ∃ row, listed.2.text.toList = row ++ ['\n'] ∧
        Located.read? row =
          some ⟨"b:7 cVertexSource vertex", 1, "aFragmentSource", .fragment⟩ := by
  intro names listed
  have hpaths : ∀ path ∈ ["b:7 cVertexSource vertex"], '\n' ∉ path.toList :=
    List.forall_mem_singleton.2 (by decide)
  have hlisted : listed = (.ok 1, listed.2) := by
    rw [show listed = _ from listFiles_eq_survey names rowLike _, survey_rowLike]
    rfl
  obtain ⟨rows, htext, -, -, hrows⟩ := (read?_listFiles names hpaths).1 1 listed.2 hlisted
  rw [survey_rowLike] at hrows
  obtain ⟨row, rfl, hrow⟩ := List.map_eq_singleton_iff.1 hrows
  rw [List.flatMap_cons, List.flatMap_nil, List.append_nil] at htext
  exact ⟨hpaths, congrArg Prod.fst hlisted, row, htext, hrow⟩

end ShaderLiterals
