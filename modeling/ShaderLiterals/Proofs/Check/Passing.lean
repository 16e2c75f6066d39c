import ShaderLiterals.Check.External
import ShaderLiterals.Proofs.Check.Composition

/-!
# Checks that pass

A check with another program passes (`External.Passes`) if every path can be opened at its turn,
the lines that come up have an end and can be read, every literal that is closed can be decoded, and
the program runs on each shader and exits with success.  That is when `checkFiles` finds no errors
(`passes_iff_checkFiles`).
-/

namespace ShaderLiterals

variable {names : Escape.Names}

/-! ## Lines without faults -/

theorem Extracted.cons_eq_iff {shader first : Shader} {rest : Extracted} {shaders : List Shader}
    {fault : Option ExtractFault} :
    Extracted.cons shader rest = ⟨first :: shaders, fault⟩ ↔
      shader = first ∧ rest = ⟨shaders, fault⟩ := by
  obtain ⟨others, fault'⟩ := rest
  simp [cons, and_assoc]

/-- Nothing ends the extraction if every literal can be decoded. -/
theorem extractFrom_map_ok_iff {cursor : Cursor} {texts : List String} {shaders : List Shader} :
    extractFrom names cursor (texts.map .ok) = ⟨shaders, none⟩ ↔
      (cursor.literals texts).map (Literal.extract names) = shaders.map .ok := by
  induction texts generalizing cursor shaders with
  | nil => simp [extractFrom, Extracted.empty, Cursor.literals, eq_comm]
  | cons text texts ih =>
      rw [List.map_cons, extractFrom, Cursor.literals]
      rcases cursor.next text with ⟨role, next⟩
      cases role with
      | closes literal =>
          dsimp only
          rw [List.map_cons]
          cases literal.extract names with
          | error fault => cases shaders <;> simp
          | ok shader =>
              cases shaders with
              | nil => simp [Extracted.cons]
              | cons first shaders =>
                  rw [List.map_cons, List.cons.injEq, Except.ok.injEq, ← ih]
                  exact Extracted.cons_eq_iff
      | plain | unnamed | opens | body => exact ih

/-- Without a fault every line could be read. -/
theorem exists_map_ok_of_no_fault {cursor : Cursor} {lines : List SourceLine}
    (h : (extractFrom names cursor lines).fault = none) :
    ∃ texts : List String, lines = texts.map .ok := by
  fun_induction extractFrom names cursor lines with
  | case1 => exact ⟨[], rfl⟩
  | case2 => cases h
  | case3 cursor line rest literal next hnext shader hshader ih =>
      obtain ⟨texts, rfl⟩ := ih h
      exact ⟨line :: texts, rfl⟩
  | case4 => cases h
  | case5 cursor line rest role next hrole hnext ih =>
      obtain ⟨texts, rfl⟩ := ih h
      exact ⟨line :: texts, rfl⟩

namespace External

variable {files : TemporaryFiles} {programs : Programs} {external : External} {machine : Machine}
  {shader : Shader} {shaders : List Shader} {path : String} {paths : List String}

/-! ## Programs that accept shaders -/

/-- The shader is written to a file of its own, and the program runs on it and exits with
success. -/
def Accepts (files : TemporaryFiles) (programs : Programs) (external : External)
    (machine : Machine) (shader : Shader) : Prop :=
  ∃ file fresh written outcome after,
    TemporaryFile.create files shader.stage machine = .ok (file, fresh) ∧
      file.write files (Utf8.encode shader.source.toList) fresh = (none, written) ∧
      programs external.program
          (external.args ++ [Files.Path.join machine.temp file.name]) written =
        .ok (outcome, after) ∧
      outcome.ending = .exited 0

/-- The program accepts the shaders one after the other. -/
def AcceptsAll (files : TemporaryFiles) (programs : Programs) (external : External) :
    Machine → List Shader → Prop
  | _, [] => True
  | machine, shader :: rest =>
      external.Accepts files programs machine shader ∧
        external.AcceptsAll files programs (external.validator files programs shader machine).2 rest

theorem verdict_eq_passed_iff {outcome : Outcome} :
    verdict outcome = .passed ↔ outcome.ending = .exited 0 := by
  rw [verdict, ← Ending.isSuccess_iff]
  split <;> simp [*]

theorem verdict_of_ne_success {outcome : Outcome} (h : outcome.ending ≠ .exited 0) :
    verdict outcome = .failed (String.ofList (Utf8.decodeLossy outcome.output)) :=
  if_neg (mt Ending.isSuccess_iff.1 h)

theorem accepts_iff : external.Accepts files programs machine shader ↔
    (validator files programs external shader machine).1 = .ok .passed := by
  unfold Accepts validator
  rcases TemporaryFile.create files shader.stage machine with fault | ⟨file, fresh⟩
  · simp
  · dsimp only
    rcases hwrite : file.write files (Utf8.encode shader.source.toList) fresh with
      ⟨_ | cause, written⟩
    · dsimp only
      rcases hrun : programs external.program
        (external.args ++ [Files.Path.join machine.temp file.name]) written with
        cause | ⟨outcome, after⟩
      · simp [hwrite, hrun]
      · simp [hwrite, hrun, verdict_eq_passed_iff]
    · simp [hwrite]

theorem acceptsAll_iff : external.AcceptsAll files programs machine shaders ↔
    (external.validator files programs).Judges machine shaders ∧
      (external.validator files programs).failures machine shaders = [] := by
  induction shaders generalizing machine with
  | nil => simp [AcceptsAll, Validator.Judges, Validator.answers]
  | cons shader rest ih =>
      rw [AcceptsAll, accepts_iff, ih, Validator.judges_cons, Validator.failures_cons]
      rcases (validator files programs external shader machine).1 with
        cause | (_ | diagnostic) <;>
        simp [Validator.failureOf]

/-! ## Files that pass -/

/-- Nothing goes wrong when the files are checked: each path can be opened when its turn comes, the
lines that come up have an end and can be read, the literals in them can be decoded, and the program
accepts the shaders. -/
inductive Passes (names : Escape.Names) (files : TemporaryFiles) (programs : Programs)
    (external : External) : Machine → List String → Prop
  | nil (machine : Machine) : Passes names files programs external machine []
  | cons {machine : Machine} {path : String} {paths : List String} {reading : Reading}
      {texts : List String} {shaders : List Shader}
      (opens : machine.openPath path = .ok reading)
      (reads : reading.linesDuring names (external.validator files programs) .start machine =
        some (texts.map .ok))
      (decodes : (Cursor.start.literals texts).map (Literal.extract names) = shaders.map .ok)
      (accepts : external.AcceptsAll files programs machine shaders)
      (rest : Passes names files programs external
        ((external.validator files programs).after machine shaders) paths) :
      Passes names files programs external machine (path :: paths)

theorem passes_cons_iff : external.Passes names files programs machine (path :: paths) ↔
    ∃ reading lines, machine.openPath path = .ok reading ∧
      reading.linesDuring names (external.validator files programs) .start machine = some lines ∧
      (extract names lines).fault = none ∧
      external.AcceptsAll files programs machine (extract names lines).shaders ∧
      external.Passes names files programs
        ((external.validator files programs).after machine (extract names lines).shaders)
        paths := by
  constructor
  · rintro (_ | ⟨hopen, hread, hdecode, haccept, hrest⟩)
    have hextract := extractFrom_map_ok_iff.2 hdecode
    refine ⟨_, _, hopen, hread, ?_⟩
    rw [extract, hextract]
    exact ⟨rfl, haccept, hrest⟩
  · rintro ⟨reading, lines, hopen, hread, hfault, haccept, hrest⟩
    obtain ⟨texts, rfl⟩ := exists_map_ok_of_no_fault hfault
    have hextract : extractFrom names .start (texts.map .ok) =
        ⟨(extract names (texts.map .ok)).shaders, none⟩ := by
      rw [← hfault]
      rfl
    exact .cons hopen hread (extractFrom_map_ok_iff.1 hextract) haccept hrest

/-- The files pass if the survey of them comes to an end without a fault, and all shaders in it
compile. -/
theorem passes_iff : external.Passes names files programs machine paths ↔
    ∃ survey, machine.surveyDuring names (external.validator files programs) paths = some survey ∧
      survey.fault = none ∧
      (external.validator files programs).failures machine survey.shaders = [] := by
  induction paths generalizing machine with
  | nil => simp [Machine.surveyDuring, Survey.empty, Survey.shaders, Passes.nil machine]
  | cons path paths ih =>
      rw [passes_cons_iff]
      cases hopen : machine.openPath path with
      | error cause =>
          rw [Machine.surveyDuring_of_open_error hopen]
          simp [Survey.failed]
      | ok reading =>
          simp only [Except.ok.injEq, exists_and_left, exists_eq_left']
          cases hlines : reading.linesDuring names (external.validator files programs) .start
            machine with
          | none =>
              rw [Machine.surveyDuring_of_endless hopen hlines]
              simp
          | some lines =>
              simp only [Option.some.injEq, exists_eq_left', acceptsAll_iff, ih]
              cases hend : machine.faultDuring names (external.validator files programs) path
                lines with
              | some fault =>
                  rw [Machine.surveyDuring_of_fault hopen hlines hend]
                  refine iff_of_false ?_ ?_
                  · rintro ⟨hnone, ⟨hjudges, -⟩, -⟩
                    cases hend.symm.trans (Machine.faultDuring_eq_none_iff.2 ⟨hjudges, hnone⟩)
                  · rintro ⟨survey, hsurvey, hnone, -⟩
                    cases hsurvey
                    cases hnone
              | none =>
                  obtain ⟨hjudges, hnone⟩ := Machine.faultDuring_eq_none_iff.1 hend
                  rw [Machine.surveyDuring_of_no_fault hopen hlines hend,
                    Validator.handed_of_judges _ hjudges]
                  simp only [hnone, hjudges, true_and, Option.map_eq_some_iff]
                  constructor
                  · rintro ⟨hshaders, rest, hrest, hfault, hfailures⟩
                    refine ⟨_, ⟨rest, hrest, rfl⟩, hfault, ?_⟩
                    rw [Survey.shaders_after, Validator.failures_append, hshaders, hfailures]
                    rfl
                  · rintro ⟨_, ⟨rest, hrest, rfl⟩, hfault, hfailures⟩
                    rw [Survey.shaders_after, Validator.failures_append, List.append_eq_nil_iff]
                      at hfailures
                    exact ⟨hfailures.1, rest, hrest, hfault, hfailures.2⟩

/-- A check passes if it comes to its end and finds no errors. -/
theorem passes_iff_checkFiles : external.Passes names files programs machine paths ↔
    ∃ last, checkFiles names (external.validator files programs) paths (.start machine .working) =
      some (.ok false, last) := by
  rw [passes_iff]
  simp only [checkFiles_eq_ok_iff]
  simp

end External

end ShaderLiterals
