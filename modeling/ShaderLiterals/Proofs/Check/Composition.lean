import ShaderLiterals.Proofs.Check.Survey

/-!
# Checks of many files

Checking some files and then others is checking all of them, unless a fault of the first ends it
(`checkFiles_append`).  What a check writes and hands to the validator goes behind what was there
before (`checkFiles_eq_start`), so that a longer check shows all that a shorter one shows.  A check
comes to an end if the validator leaves the files alone (`exists_checkFiles`).
-/

namespace ShaderLiterals

variable {names : Escape.Names} {validator : Validator} {machine : Machine} {paths : List String}

/-- Checking some files and then others is checking all of them. -/
theorem checkFiles_append (names : Escape.Names) (validator : Validator)
    (paths others : List String) (session : Session) :
    checkFiles names validator (paths ++ others) session =
      match checkFiles names validator paths session with
      | none => none
      | some (.error fault, session) => some (.error fault, session)
      | some (.ok hasErrors, session) =>
          (checkFiles names validator others session).map fun (result, session) =>
            (result.map (hasErrors || ·), session) := by
  induction paths generalizing session with
  | nil =>
      rw [List.nil_append, checkFiles]
      dsimp only
      rcases checkFiles names validator others session with
        _ | ⟨fault | hasErrors, session⟩ <;> rfl
  | cons path paths ih =>
      rw [List.cons_append, checkFiles, checkFiles]
      rcases checkFile names validator path session with _ | ⟨fault | report, session⟩
      · rfl
      · rfl
      · dsimp only
        rw [ih]
        rcases checkFiles names validator paths session with _ | ⟨fault | hasErrors, session⟩
        · rfl
        · rfl
        · dsimp only [Option.map, Except.map]
          rcases checkFiles names validator others session with _ | ⟨fault | hasErrors', session⟩
          · rfl
          · rfl
          · dsimp only
            rw [Bool.or_assoc]

/-- What a check writes and what it hands to the validator goes behind what was there before. -/
theorem checkFiles_eq_start (names : Escape.Names) (validator : Validator) (machine : Machine)
    (paths : List String) (text : String) (seen : List Shader) :
    checkFiles names validator paths ⟨machine, ⟨text, false⟩, seen⟩ =
      (checkFiles names validator paths (.start machine .working)).map fun alone =>
        (alone.1, ⟨alone.2.machine, ⟨text ++ alone.2.sink.text, false⟩, seen ++ alone.2.seen⟩) := by
  rw [Session.start, Sink.working, checkFiles_working, checkFiles_working, Option.map_map]
  refine congrArg (Option.map · _) (funext fun survey => ?_)
  simp

/-! ## Checks that come to their end -/

/-- A check comes to its end if no fault ends the survey. -/
theorem checkFiles_eq_ok_iff {hasErrors : Bool} {last : Session} :
    checkFiles names validator paths (.start machine .working) = some (.ok hasErrors, last) ↔
      ∃ survey, machine.surveyDuring names validator paths = some survey ∧
        survey.fault = none ∧
        (!(validator.failures machine survey.shaders).isEmpty) = hasErrors ∧
        last = ⟨validator.after machine survey.shaders,
          ⟨reports (validator.failures machine survey.shaders), false⟩, survey.shaders⟩ := by
  rw [Session.start, Sink.working, checkFiles_working, Option.map_eq_some_iff]
  simp only [Prod.mk.injEq, Survey.result_eq_ok_iff, String.empty_append, List.nil_append,
    and_assoc, eq_comm (b := last)]

/-- Files that are checked after others are checked as if they stood alone, on the machine that the
validator left. -/
theorem checkFiles_append_of_eq_ok {others : List String} {hasErrors : Bool} {reached : Session}
    (h : checkFiles names validator paths (.start machine .working) =
      some (.ok hasErrors, reached)) :
    checkFiles names validator (paths ++ others) (.start machine .working) =
      (checkFiles names validator others (.start reached.machine .working)).map fun second =>
        (second.1.map (hasErrors || ·),
          ⟨second.2.machine, ⟨reached.sink.text ++ second.2.sink.text, false⟩,
            reached.seen ++ second.2.seen⟩) := by
  obtain ⟨survey, -, -, -, hreached⟩ := checkFiles_eq_ok_iff.1 h
  rw [checkFiles_append, h, hreached]
  dsimp only
  rw [checkFiles_eq_start, Option.map_map]
  rfl

theorem checkFiles_append_of_eq_error {others : List String} {fault : CheckFault}
    {reached : Session}
    (h : checkFiles names validator paths (.start machine .working) =
      some (.error fault, reached)) :
    checkFiles names validator (paths ++ others) (.start machine .working) =
      some (.error fault, reached) := by
  rw [checkFiles_append, h]

theorem checkFiles_append_of_eq_none {others : List String}
    (h : checkFiles names validator paths (.start machine .working) = none) :
    checkFiles names validator (paths ++ others) (.start machine .working) = none := by
  rw [checkFiles_append, h]

/-- A check that comes to its end has checked each file to the last shader, whatever the validator
said of those before it. -/
theorem exists_checked_of_eq_ok {hasErrors : Bool} {last : Session} {before after : List String}
    {path : String}
    (h : checkFiles names validator (before ++ path :: after) (.start machine .working) =
      some (.ok hasErrors, last)) :
    ∃ earlier reached reading lines,
      checkFiles names validator before (.start machine .working) = some (.ok earlier, reached) ∧
        reached.machine.openPath path = .ok reading ∧
        reading.linesDuring names validator .start reached.machine = some lines ∧
        (extract names lines).fault = none ∧
        reached.seen ++ (extract names lines).shaders <+: last.seen := by
  rcases hbefore : checkFiles names validator before (.start machine .working) with
    _ | ⟨fault | earlier, reached⟩
  · cases (checkFiles_append_of_eq_none hbefore).symm.trans h
  · cases (checkFiles_append_of_eq_error hbefore).symm.trans h
  · rw [checkFiles_append_of_eq_ok hbefore] at h
    obtain ⟨⟨result, next⟩, hlater, hlast⟩ := Option.map_eq_some_iff.1 h
    cases result with
    | error fault => cases hlast
    | ok later =>
        cases hlast
        obtain ⟨survey, hsurvey, hfault, -, rfl⟩ := checkFiles_eq_ok_iff.1 hlater
        cases hopen : reached.machine.openPath path with
        | error cause =>
            rw [Machine.surveyDuring_of_open_error hopen] at hsurvey
            cases hsurvey
            cases hfault
        | ok reading =>
            cases hlines : reading.linesDuring names validator .start reached.machine with
            | none =>
                rw [Machine.surveyDuring_of_endless hopen hlines] at hsurvey
                cases hsurvey
            | some lines =>
                refine ⟨earlier, reached, reading, lines, rfl, hopen, hlines, ?_⟩
                cases hend : reached.machine.faultDuring names validator path lines with
                | some fault =>
                    rw [Machine.surveyDuring_of_fault hopen hlines hend] at hsurvey
                    cases hsurvey
                    cases hfault
                | none =>
                    obtain ⟨hjudges, hnone⟩ := Machine.faultDuring_eq_none_iff.1 hend
                    rw [Machine.surveyDuring_of_no_fault hopen hlines hend,
                      validator.handed_of_judges hjudges] at hsurvey
                    obtain ⟨rest, -, rfl⟩ := Option.map_eq_some_iff.1 hsurvey
                    refine ⟨hnone, ?_⟩
                    rw [Survey.shaders_after]
                    exact (List.prefix_append_right_inj _).2 (List.prefix_append _ _)

/-! ## Checks that are sure to end -/

/-- A check only changes the machine by what it hands to the validator. -/
theorem exists_machine_checkExtracted (validator : Validator) (report : FileReport)
    (fault : Option ExtractFault) (shaders : List Shader) (session : Session) :
    ∃ handed, (checkExtracted validator report fault shaders session).2.machine =
      validator.after session.machine handed := by
  induction shaders generalizing report session with
  | nil => exact ⟨[], by cases fault <;> rfl⟩
  | cons shader rest ih =>
      have hmachine := machine_checkShader validator report shader session
      rw [checkExtracted]
      rcases hcheck : checkShader validator report shader session with ⟨fault | report', next⟩
      all_goals rw [hcheck] at hmachine
      · exact ⟨[shader], hmachine⟩
      · obtain ⟨handed, hhanded⟩ := ih report' next
        refine ⟨shader :: handed, hhanded.trans ?_⟩
        rw [Validator.after_cons]
        exact congrArg (validator.after · handed) hmachine

/-- If the validator leaves the files alone, the check comes to an end, and only the validator
changes the machine. -/
theorem exists_checkFiles {session : Session}
    (h : ∀ path ∈ paths, ∀ shaders,
      session.machine.SameAt (validator.after session.machine shaders) path) :
    ∃ outcome handed, checkFiles names validator paths session = some outcome ∧
      outcome.2.machine = validator.after session.machine handed := by
  induction paths generalizing session with
  | nil => exact ⟨_, [], rfl, rfl⟩
  | cons path paths ih =>
      have hpath := h path List.mem_cons_self
      rw [checkFiles, checkFile]
      cases hopen : session.machine.openPath path with
      | error cause => exact ⟨_, [], rfl, rfl⟩
      | ok reading =>
          dsimp only
          rw [checkReading_eq_checkFrom fun shaders => (hpath shaders).isSame hopen,
            Extraction.start, checkFrom_eq_checkExtracted]
          obtain ⟨handed, hhanded⟩ := exists_machine_checkExtracted validator (.start path)
            (extractFrom names .start (reading.lines session.machine)).fault
            (extractFrom names .start (reading.lines session.machine)).shaders session
          rcases hchecked : checkExtracted validator (.start path)
            (extractFrom names .start (reading.lines session.machine)).fault
            (extractFrom names .start (reading.lines session.machine)).shaders session with
            ⟨fault | report, next⟩
          · rw [hchecked] at hhanded
            exact ⟨_, handed, rfl, hhanded⟩
          · rw [hchecked] at hhanded
            dsimp only at hhanded ⊢
            have hrest : ∀ other ∈ paths, ∀ shaders,
                next.machine.SameAt (validator.after next.machine shaders) other := by
              intro other hmem shaders
              have hother := h other (List.mem_cons_of_mem _ hmem)
              rw [hhanded, ← Validator.after_append]
              exact (hother handed).between (hother (handed ++ shaders))
            obtain ⟨outcome, more, houtcome, hmore⟩ := ih hrest
            rw [houtcome]
            refine ⟨_, handed ++ more, rfl, hmore.trans ?_⟩
            rw [hhanded, Validator.after_append]

/-- A validator that decides by the shader alone leaves the machine as it is. -/
theorem exists_checkFiles_ofFunction (names : Escape.Names)
    (judge : Shader → Except ValidatorFault Verdict) (machine : Machine) (paths : List String) :
    ∃ result reached,
      checkFiles names (.ofFunction judge) paths (.start machine .working) =
          some (result, reached) ∧
        reached.machine = machine := by
  have hsame : ∀ path ∈ paths, ∀ shaders,
      machine.SameAt ((Validator.ofFunction judge).after machine shaders) path := by
    intro path _ shaders
    rw [Validator.after_ofFunction]
    exact .refl machine path
  obtain ⟨⟨result, reached⟩, handed, houtcome, hreached⟩ :
      ∃ outcome handed,
        checkFiles names (.ofFunction judge) paths (.start machine .working) = some outcome ∧
          outcome.2.machine = (Validator.ofFunction judge).after machine handed :=
    exists_checkFiles hsame
  exact ⟨result, reached, houtcome,
    hreached.trans (Validator.after_ofFunction judge machine handed)⟩

/-- Checks compose, and none of them hides that a shader does not compile.  Where the first check
comes to its end, the second goes on from the machine that the validator left, and what the two
write and hand to the validator is put together; a fault of the first is the fault of the whole, and
nothing of the other files is touched; and if one of the two never ends, the whole never does.  A
check that comes to its end has checked every file, and tells of a shader that does not compile
exactly if the validator said so of one, which is exactly if something was written.  With a
validator that decides by the shader alone there is always an end, and the machine is left as it is,
so that the other files are checked as if they stood alone. -/
theorem checkFiles_append_working (names : Escape.Names) (validator : Validator)
    (machine : Machine) (paths others : List String) :
    let first := checkFiles names validator paths (.start machine .working)
    let whole := checkFiles names validator (paths ++ others) (.start machine .working)
    (∀ hasErrors reached, first = some (.ok hasErrors, reached) →
        whole =
            (checkFiles names validator others (.start reached.machine .working)).map (fun second =>
              (second.1.map (hasErrors || ·),
                ⟨second.2.machine, ⟨reached.sink.text ++ second.2.sink.text, false⟩,
                  reached.seen ++ second.2.seen⟩)) ∧
          (hasErrors = true ↔
            ∃ diagnostic, .ok (.failed diagnostic) ∈ validator.answers machine reached.seen) ∧
          (hasErrors = true ↔ reached.sink.text ≠ "") ∧
          ∀ before path after, paths = before ++ path :: after →
            ∃ earlier between reading lines,
              checkFiles names validator before (.start machine .working) =
                  some (.ok earlier, between) ∧
                between.machine.openPath path = .ok reading ∧
                reading.linesDuring names validator .start between.machine = some lines ∧
                (extract names lines).fault = none ∧
                between.seen ++ (extract names lines).shaders <+: reached.seen) ∧
      (∀ fault reached, first = some (.error fault, reached) →
        whole = some (.error fault, reached)) ∧
      (first = none → whole = none) ∧
      ∀ judge, validator = .ofFunction judge →
        ∃ result reached, first = some (result, reached) ∧ reached.machine = machine := by
  intro first whole
  refine ⟨fun hasErrors reached hok => ?_,
    fun fault reached herror => checkFiles_append_of_eq_error herror,
    fun hnone => checkFiles_append_of_eq_none hnone, ?_⟩
  · obtain ⟨survey, -, -, herrors, hreached⟩ := checkFiles_eq_ok_iff.1 hok
    have hiff : hasErrors = true ↔ validator.failures machine survey.shaders ≠ [] := by
      rw [← herrors]
      simp
    refine ⟨checkFiles_append_of_eq_ok hok, ?_, ?_, ?_⟩
    · rw [hreached, hiff]
      exact validator.failures_ne_nil_iff
    · rw [hreached, hiff]
      exact not_congr reports_eq_empty_iff.symm
    · rintro before path after rfl
      exact exists_checked_of_eq_ok hok
  · rintro judge rfl
    exact exists_checkFiles_ofFunction names judge machine paths

end ShaderLiterals
