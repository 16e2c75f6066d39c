import ShaderLiterals.Literal.Extraction

/-!
# Reading many lines

`Cursor.literals` collects the literals that a reader of lines closes.  What one line does depends
on where the reader stands, and there is one equation for each case; text between literals and
bodies of literals are read in one go.  Pulling shaders to the end gives what the literals hold, up
to the first that cannot be decoded (`Extraction.results_map_ok`).
-/

namespace ShaderLiterals

variable {names : Escape.Names}

/-- A marker that names a shader. -/
def isOpener (line : String) : Bool :=
  isMarker line && (Name.first? line.toList).isSome

theorem isMarker_of_isOpener {line : String} (h : isOpener line = true) : isMarker line = true :=
  (Bool.and_eq_true_iff.1 h).1

theorem exists_name_of_isOpener {line : String} (h : isOpener line = true) :
    ∃ name stage, Name.first? line.toList = some (name, stage) := by
  obtain ⟨⟨name, stage⟩, hname⟩ := Option.isSome_iff_exists.1 (Bool.and_eq_true_iff.1 h).2
  exact ⟨name, stage, hname⟩

namespace Cursor

/-- The literals that are closed while the lines are read. -/
def literals (cursor : Cursor) : List String → List Literal
  | [] => []
  | line :: rest =>
      match cursor.next line with
      | (.closes literal, cursor) => literal :: cursor.literals rest
      | (_, cursor) => cursor.literals rest

section Steps

variable {n : Nat} {line : String} {opening : Opening} {body : Array String}

/-- A line that opens nothing is passed over outside. -/
theorem next_idle (h : isOpener line = false) :
    ∃ role, (∀ literal, role ≠ .closes literal) ∧
      (Cursor.mk .outside n).next line = (role, ⟨.outside, n + 1⟩) := by
  by_cases hm : isMarker line = true
  · have hname : Name.first? line.toList = none := by
      simpa [isOpener, hm] using h
    refine ⟨.unnamed, ?_, by simp [next, nextOutside, hm, hname]⟩
    intro literal hc
    cases hc
  · refine ⟨.plain, ?_, by simp [next, nextOutside, hm]⟩
    intro literal hc
    cases hc

theorem next_opener {name : List Char} {stage : Stage} (hm : isMarker line = true)
    (hname : Name.first? line.toList = some (name, stage)) :
    (Cursor.mk .outside n).next line =
      (.opens ⟨String.ofList name, stage, n + 1⟩,
        ⟨.inside ⟨String.ofList name, stage, n + 1⟩ #[], n + 1⟩) := by
  simp [next, nextOutside, hm, hname]

theorem next_body (h : isMarker line = false) :
    (Cursor.mk (.inside opening body) n).next line =
      (.body, ⟨.inside opening (body.push line), n + 1⟩) := by
  simp [next, nextInside, h]

theorem next_closer (h : isMarker line = true) :
    (Cursor.mk (.inside opening body) n).next line =
      (.closes ⟨opening, body.toList⟩, ⟨.outside, n + 1⟩) := by
  simp [next, nextInside, h]

end Steps

section Runs

variable {n : Nat} {rest : List String}

theorem literals_of_not_closes {cursor cursor' : Cursor} {line : String} {role : Role}
    (h : cursor.next line = (role, cursor')) (hrole : ∀ literal, role ≠ .closes literal) :
    cursor.literals (line :: rest) = cursor'.literals rest := by
  rw [literals, h]
  cases role with
  | closes literal => exact absurd rfl (hrole literal)
  | plain | unnamed | opens | body => rfl

/-- Lines that open nothing are passed over outside. -/
theorem literals_append_of_idle {lines : List String}
    (h : ∀ line ∈ lines, isOpener line = false) :
    (Cursor.mk .outside n).literals (lines ++ rest) =
      (Cursor.mk .outside (n + lines.length)).literals rest := by
  induction lines generalizing n with
  | nil => rfl
  | cons line lines ih =>
      obtain ⟨role, hrole, hnext⟩ := next_idle (n := n) (h line List.mem_cons_self)
      rw [List.cons_append, literals_of_not_closes hnext hrole,
        ih fun l hl => h l (List.mem_cons_of_mem line hl), List.length_cons, Nat.add_assoc,
        Nat.add_comm 1]

theorem literals_of_idle {lines : List String} (h : ∀ line ∈ lines, isOpener line = false) :
    (Cursor.mk .outside n).literals lines = [] := by
  rw [← List.append_nil lines, literals_append_of_idle h]
  rfl

/-- Lines that close nothing are collected inside. -/
theorem literals_append_of_body {opening : Opening} {body : Array String} {lines : List String}
    (h : ∀ line ∈ lines, isMarker line = false) :
    (Cursor.mk (.inside opening body) n).literals (lines ++ rest) =
      (Cursor.mk (.inside opening (body ++ lines)) (n + lines.length)).literals rest := by
  induction lines generalizing n body with
  | nil => rw [Array.appendList_nil]; rfl
  | cons line lines ih =>
      rw [List.cons_append, literals_of_not_closes (next_body (h line List.mem_cons_self))
          (fun _ => nofun),
        ih fun l hl => h l (List.mem_cons_of_mem line hl), List.length_cons, Nat.add_assoc,
        Nat.add_comm 1, Array.appendList_cons]

theorem literals_of_body {opening : Opening} {body : Array String} {lines : List String}
    (h : ∀ line ∈ lines, isMarker line = false) :
    (Cursor.mk (.inside opening body) n).literals lines = [] := by
  rw [← List.append_nil lines, literals_append_of_body h]
  rfl

/-- A whole literal. -/
theorem literals_literal {opener closer : String} {name : List Char} {stage : Stage}
    {body : List String} (hopener : isMarker opener = true)
    (hname : Name.first? opener.toList = some (name, stage))
    (hbody : ∀ line ∈ body, isMarker line = false) (hcloser : isMarker closer = true) :
    (Cursor.mk .outside n).literals (opener :: (body ++ closer :: rest)) =
      ⟨⟨String.ofList name, stage, n + 1⟩, body⟩ ::
        (Cursor.mk .outside (n + 1 + body.length + 1)).literals rest := by
  rw [literals_of_not_closes (next_opener hopener hname) (fun _ => nofun),
    literals_append_of_body hbody, literals, next_closer hcloser]
  simp

end Runs

end Cursor

/-! ## One pull -/

namespace Extraction

/-- An extraction fails by the pull that gives a fault. -/
theorem failed_pullFrom (names : Escape.Names) (cursor : Cursor) (lines : List SourceLine) :
    (pullFrom names cursor lines).extraction.failed =
      (pullFrom names cursor lines).result.any fun result => result.toOption.isNone := by
  fun_induction pullFrom names cursor lines with
  | case1 => rfl
  | case2 => rfl
  | case3 => rfl
  | case4 cursor line rest role cursor' hrole hnext ih => exact ih

end Extraction

/-- What can be extracted is what the next pull gives, and then the rest. -/
theorem extractFrom_eq_pullFrom (names : Escape.Names) (cursor : Cursor)
    (lines : List SourceLine) :
    extractFrom names cursor lines =
      match Extraction.pullFrom names cursor lines with
      | ⟨none, _, _⟩ => .empty
      | ⟨some (.error fault), _, _⟩ => ⟨[], some fault⟩
      | ⟨some (.ok shader), extraction, unread⟩ =>
          (extractFrom names extraction.cursor unread).cons shader := by
  fun_induction Extraction.pullFrom names cursor lines with
  | case1 => rfl
  | case2 => rfl
  | case3 cursor line rest literal cursor' hnext =>
      rw [extractFrom, hnext]
      dsimp only [Extraction.report]
      cases literal.extract names <;> rfl
  | case4 cursor line rest role cursor' hrole hnext ih =>
      rw [extractFrom, hnext]
      cases role with
      | closes literal => exact absurd rfl (hrole literal)
      | plain | unnamed | opens | body => exact ih

/-- To prove something of all that is read by pulls, prove it where the next pull gives nothing or a
fault, and carry it over a pull that gives a shader. -/
theorem Extraction.pull_induction {motive : Cursor → List SourceLine → Prop}
    (nothing : ∀ cursor lines extraction unread,
      pull names ⟨cursor, false⟩ lines = ⟨none, extraction, unread⟩ →
      extractFrom names cursor lines = .empty → motive cursor lines)
    (fault : ∀ cursor lines fault extraction unread,
      pull names ⟨cursor, false⟩ lines = ⟨some (.error fault), extraction, unread⟩ →
      extractFrom names cursor lines = ⟨[], some fault⟩ → motive cursor lines)
    (shader : ∀ cursor lines shader next unread,
      pull names ⟨cursor, false⟩ lines = ⟨some (.ok shader), ⟨next, false⟩, unread⟩ →
      extractFrom names cursor lines = (extractFrom names next unread).cons shader →
      motive next unread → motive cursor lines)
    (cursor : Cursor) (lines : List SourceLine) : motive cursor lines := by
  induction hn : lines.length using Nat.strongRecOn generalizing cursor lines with
  | ind n ih =>
      have hextract := extractFrom_eq_pullFrom names cursor lines
      have hfailed := failed_pullFrom names cursor lines
      have hlt : ∀ {result}, (pullFrom names cursor lines).result = some result →
          (pullFrom names cursor lines).unread.length < n :=
        fun h => hn ▸ length_unread_pullFrom_lt h
      rcases hpull : pullFrom names cursor lines with ⟨result, ⟨next, failed⟩, unread⟩
      rw [hpull] at hextract hfailed hlt
      rcases result with _ | cause | found
      · exact nothing cursor lines _ _ hpull hextract
      · exact fault cursor lines cause _ _ hpull hextract
      · obtain rfl : failed = false := hfailed
        exact shader cursor lines found next unread hpull hextract
          (ih unread.length (hlt rfl) next unread rfl)

/-! ## Pulling to the end -/

/-- The results up to the first fault, and that one. -/
def upToFault {ε α : Type} : List (Except ε α) → List (Except ε α)
  | [] => []
  | .ok a :: rest => .ok a :: upToFault rest
  | .error fault :: _ => [.error fault]

theorem upToFault_map_ok {ε α : Type} (as : List α) :
    upToFault (as.map (.ok : α → Except ε α)) = as.map .ok := by
  induction as with
  | nil => rfl
  | cons a as ih => exact congrArg _ ih

/-- The shaders of an extraction, and after them its fault. -/
def Extracted.results (extracted : Extracted) : List (Except ExtractFault Shader) :=
  extracted.shaders.map .ok ++ extracted.fault.toList.map .error

theorem Extracted.error_mem_results_iff {extracted : Extracted} {fault : ExtractFault} :
    .error fault ∈ extracted.results ↔ extracted.fault = some fault := by
  simp [results]

namespace Extraction

/-- What the pulls on the lines give, until one gives nothing. -/
def results (names : Escape.Names) (extraction : Extraction) (lines : List SourceLine) :
    List (Except ExtractFault Shader) :=
  match _h : (extraction.pull names lines).result with
  | none => []
  | some result =>
      result ::
        results names (extraction.pull names lines).extraction (extraction.pull names lines).unread
termination_by lines.length
decreasing_by exact length_unread_pull_lt _h

variable {cursor : Cursor} {rest : List SourceLine}

theorem results_of_pull_none {extraction : Extraction} {lines : List SourceLine}
    (h : (extraction.pull names lines).result = none) : extraction.results names lines = [] := by
  rw [results]
  split
  · rfl
  · rename_i hsome
    rw [h] at hsome
    cases hsome

theorem results_of_pull_some {extraction : Extraction} {lines : List SourceLine}
    {result : Except ExtractFault Shader} (h : (extraction.pull names lines).result = some result) :
    extraction.results names lines =
      result ::
        (extraction.pull names lines).extraction.results names
          (extraction.pull names lines).unread := by
  rw [results]
  split
  · rename_i hnone
    rw [h] at hnone
    cases hnone
  · rename_i hsome
    rw [h] at hsome
    cases hsome
    rfl

/-- The results hang on the next pull alone. -/
theorem results_congr {extraction extraction' : Extraction} {lines lines' : List SourceLine}
    (h : extraction.pull names lines = extraction'.pull names lines') :
    extraction.results names lines = extraction'.results names lines' := by
  cases hresult : (extraction.pull names lines).result with
  | none => rw [results_of_pull_none hresult, results_of_pull_none (h ▸ hresult)]
  | some result =>
      have hresult' : (extraction'.pull names lines').result = some result := h ▸ hresult
      rw [results_of_pull_some hresult, h, ← results_of_pull_some hresult']

/-- A failed extraction gives nothing. -/
theorem results_failed (cursor : Cursor) (lines : List SourceLine) :
    results names ⟨cursor, true⟩ lines = [] :=
  results_of_pull_none rfl

theorem results_nil : results names ⟨cursor, false⟩ [] = [] :=
  results_of_pull_none rfl

theorem results_error (cause : ReadFault) :
    results names ⟨cursor, false⟩ (.error cause :: rest) =
      [.error (.unreadable (cursor.line + 1) cause)] := by
  have hresult : (pull names ⟨cursor, false⟩ (.error cause :: rest)).result =
      some (.error (.unreadable (cursor.line + 1) cause)) := rfl
  rw [results_of_pull_some hresult]
  exact congrArg _ (results_failed cursor rest)

theorem results_closes {cursor' : Cursor} {line : String} {literal : Literal}
    (h : cursor.next line = (.closes literal, cursor')) :
    results names ⟨cursor, false⟩ (.ok line :: rest) =
      literal.extract names ::
        results names ⟨cursor', (literal.extract names).toOption.isNone⟩ rest := by
  have hpull : pull names ⟨cursor, false⟩ (.ok line :: rest) =
      report cursor' (literal.extract names) rest := by
    simp only [pull, Bool.false_eq_true, if_false, pullFrom, h]
  have hresult : (pull names ⟨cursor, false⟩ (.ok line :: rest)).result =
      some (literal.extract names) := by
    rw [hpull, result_report]
  rw [results_of_pull_some hresult, hpull]
  rfl

theorem results_of_not_closes {cursor' : Cursor} {line : String} {role : Role}
    (h : cursor.next line = (role, cursor')) (hrole : ∀ literal, role ≠ .closes literal) :
    results names ⟨cursor, false⟩ (.ok line :: rest) = results names ⟨cursor', false⟩ rest := by
  refine results_congr ?_
  simp only [pull, Bool.false_eq_true, if_false, pullFrom, h]

/-- Pulling to the end gives what `extractFrom` gives, shader by shader. -/
theorem results_eq_extractFrom (cursor : Cursor) (lines : List SourceLine) :
    results names ⟨cursor, false⟩ lines = (extractFrom names cursor lines).results := by
  induction lines generalizing cursor with
  | nil => exact results_nil
  | cons line rest ih =>
      cases line with
      | error cause => exact results_error cause
      | ok line =>
          rcases hnext : cursor.next line with ⟨role, cursor'⟩
          rw [extractFrom, hnext]
          cases role with
          | closes literal =>
              rw [results_closes hnext]
              dsimp only
              cases literal.extract names with
              | error fault => exact congrArg _ (results_failed cursor' rest)
              | ok shader => exact congrArg _ (ih cursor')
          | plain | unnamed | opens | body =>
              rw [results_of_not_closes hnext (fun _ => nofun), ih]

/-- Pulling from lines that can all be read gives what their literals hold. -/
theorem results_map_ok (cursor : Cursor) (lines : List String) :
    results names ⟨cursor, false⟩ (lines.map .ok) =
      upToFault ((cursor.literals lines).map (Literal.extract names)) := by
  induction lines generalizing cursor with
  | nil => exact results_nil
  | cons line lines ih =>
      rw [List.map_cons]
      rcases hnext : cursor.next line with ⟨role, cursor'⟩
      by_cases hrole : ∃ literal, role = .closes literal
      · obtain ⟨literal, rfl⟩ := hrole
        rw [results_closes hnext, Cursor.literals, hnext, List.map_cons]
        cases literal.extract names with
        | error fault => exact congrArg _ (results_failed cursor' _)
        | ok shader => exact congrArg _ (ih cursor')
      · have hnot : ∀ literal, role ≠ .closes literal := fun literal hc => hrole ⟨literal, hc⟩
        rw [results_of_not_closes hnext hnot, Cursor.literals_of_not_closes hnext hnot]
        exact ih cursor'

end Extraction

end ShaderLiterals
