import ShaderLiterals.Proofs.Check.Extracted
import ShaderLiterals.Proofs.Iteration
import ShaderLiterals.Proofs.Literal.Schedule

/-!
# Files that are read while a validator is at work

A file is read as it stands after each shader, so a validator that changes files decides what there
is to read, and whether there is ever an end to it.  If there is, the lines that come up by then are
`Reading.linesDuring`, and the check of the file is the check of these lines
(`checkReading_of_linesDuring`).  With a sink that works, a check comes to an end only then
(`exists_linesDuring`).  If the validator leaves the file alone, there is an end, and the lines are
those that were there at the start (`Reading.linesDuring_eq_lines`).
-/

namespace ShaderLiterals

variable {names : Escape.Names} {validator : Validator} {report : FileReport}
  {extraction : Extraction} {reading : Reading} {machine : Machine} {session : Session}
  {shader : Shader}

/-! ## The lines that come up -/

/-- The lines that have come up for reading, and those that are still to come. -/
structure Course where
  extraction : Extraction
  reading : Reading
  machine : Machine
  read : List SourceLine

namespace Course

/-- Reads on to the next shader and hands it to the validator.  What is there without a shader in it
is the end, and so is a shader that is not judged. -/
def step (names : Escape.Names) (validator : Validator) (course : Course) :
    List SourceLine ⊕ Course :=
  let lines := course.reading.lines course.machine
  match (course.extraction.pull names lines).result with
  | none | some (.error _) => .inl (course.read ++ lines)
  | some (.ok shader) =>
      let count := course.extraction.readCount names lines
      match validator shader course.machine with
      | (.error _, _) => .inl (course.read ++ lines.take count)
      | (.ok _, next) =>
          .inr ⟨(course.extraction.pull names lines).extraction,
            course.reading.advance course.machine count, next, course.read ++ lines.take count⟩

/-- The course with lines that had come up before. -/
def after (front : List SourceLine) (course : Course) : Course :=
  { course with read := front ++ course.read }

variable {course : Course}

theorem step_of_none
    (h : (course.extraction.pull names (course.reading.lines course.machine)).result = none) :
    course.step names validator =
      .inl (course.read ++ course.reading.lines course.machine) := by
  rw [step]
  dsimp only
  rw [h]

theorem step_of_fault {cause : ExtractFault}
    (h : (course.extraction.pull names (course.reading.lines course.machine)).result =
      some (.error cause)) :
    course.step names validator =
      .inl (course.read ++ course.reading.lines course.machine) := by
  rw [step]
  dsimp only
  rw [h]

theorem step_of_refused {cause : ValidatorFault}
    (h : (course.extraction.pull names (course.reading.lines course.machine)).result =
      some (.ok shader))
    (hcause : (validator shader course.machine).1 = .error cause) :
    let lines := course.reading.lines course.machine
    course.step names validator =
      .inl (course.read ++ lines.take (course.extraction.readCount names lines)) := by
  intro lines
  rcases hturn : validator shader course.machine with ⟨answer, next⟩
  rw [hturn] at hcause
  obtain rfl : answer = .error cause := hcause
  rw [step]
  dsimp only
  rw [h]
  dsimp only
  rw [hturn]

theorem step_of_judged {verdict : Verdict}
    (h : (course.extraction.pull names (course.reading.lines course.machine)).result =
      some (.ok shader))
    (hverdict : (validator shader course.machine).1 = .ok verdict) :
    let lines := course.reading.lines course.machine
    let count := course.extraction.readCount names lines
    course.step names validator =
      .inr ⟨(course.extraction.pull names lines).extraction,
        course.reading.advance course.machine count, (validator shader course.machine).2,
        course.read ++ lines.take count⟩ := by
  intro lines count
  rcases hturn : validator shader course.machine with ⟨answer, next⟩
  rw [hturn] at hverdict
  obtain rfl : answer = .ok verdict := hverdict
  rw [step]
  dsimp only
  rw [h]
  dsimp only
  rw [hturn]

/-- The lines only go on behind a shader that was judged. -/
theorem exists_of_step_eq_inr {onward : Course} (h : course.step names validator = .inr onward) :
    let lines := course.reading.lines course.machine
    let count := course.extraction.readCount names lines
    ∃ shader, (course.extraction.pull names lines).result = some (.ok shader) ∧
      onward = ⟨(course.extraction.pull names lines).extraction,
        course.reading.advance course.machine count, (validator shader course.machine).2,
        course.read ++ lines.take count⟩ := by
  intro lines count
  rcases hresult : (course.extraction.pull names (course.reading.lines course.machine)).result with
    _ | cause | shader
  · cases (step_of_none hresult).symm.trans h
  · cases (step_of_fault hresult).symm.trans h
  · cases hanswer : (validator shader course.machine).1 with
    | error cause => cases (step_of_refused hresult hanswer).symm.trans h
    | ok verdict =>
        cases (step_of_judged hresult hanswer).symm.trans h
        exact ⟨shader, rfl, rfl⟩

/-- Lines that had come up before have no say. -/
theorem step_after (front : List SourceLine) (course : Course) :
    (course.after front).step names validator =
      (course.step names validator).map (front ++ ·) (after front) := by
  rcases hresult : (course.extraction.pull names (course.reading.lines course.machine)).result with
    _ | cause | shader
  · have hfront : (course.after front).step names validator = _ := step_of_none hresult
    rw [step_of_none hresult, hfront]
    exact congrArg _ (List.append_assoc _ _ _)
  · have hfront : (course.after front).step names validator = _ := step_of_fault hresult
    rw [step_of_fault hresult, hfront]
    exact congrArg _ (List.append_assoc _ _ _)
  · cases hanswer : (validator shader course.machine).1 with
    | error cause =>
        have hfront : (course.after front).step names validator = _ :=
          step_of_refused hresult hanswer
        rw [step_of_refused hresult hanswer, hfront]
        exact congrArg _ (List.append_assoc _ _ _)
    | ok verdict =>
        have hfront : (course.after front).step names validator = _ :=
          step_of_judged hresult hanswer
        rw [step_of_judged hresult hanswer, hfront]
        dsimp only [after, Sum.map_inr]
        rw [List.append_assoc]

end Course

/-- The lines that come up for reading while a validator is handed the shaders in them: after each
shader the file is read on as it stands then, and a shader that is not judged is the last one.
There is nothing if the lines never end. -/
def Reading.linesDuring (names : Escape.Names) (validator : Validator) (extraction : Extraction)
    (reading : Reading) (machine : Machine) : Option (List SourceLine) :=
  iterate (Course.step names validator) ⟨extraction, reading, machine, []⟩

theorem Reading.linesDuring_of_none
    (h : (extraction.pull names (reading.lines machine)).result = none) :
    reading.linesDuring names validator extraction machine = some (reading.lines machine) :=
  iterate_of_inl (Course.step_of_none h)

theorem Reading.linesDuring_of_fault {cause : ExtractFault}
    (h : (extraction.pull names (reading.lines machine)).result = some (.error cause)) :
    reading.linesDuring names validator extraction machine = some (reading.lines machine) :=
  iterate_of_inl (Course.step_of_fault h)

theorem Reading.linesDuring_of_refused {cause : ValidatorFault}
    (h : (extraction.pull names (reading.lines machine)).result = some (.ok shader))
    (hcause : (validator shader machine).1 = .error cause) :
    reading.linesDuring names validator extraction machine =
      some ((reading.lines machine).take
        (extraction.readCount names (reading.lines machine))) :=
  iterate_of_inl (Course.step_of_refused h hcause)

theorem Reading.linesDuring_of_judged {verdict : Verdict}
    (h : (extraction.pull names (reading.lines machine)).result = some (.ok shader))
    (hverdict : (validator shader machine).1 = .ok verdict) :
    let lines := reading.lines machine
    let count := extraction.readCount names lines
    reading.linesDuring names validator extraction machine =
      ((reading.advance machine count).linesDuring names validator
        (extraction.pull names lines).extraction (validator shader machine).2).map
          (lines.take count ++ ·) := by
  intro lines count
  let onward : Course := ⟨(extraction.pull names lines).extraction, reading.advance machine count,
    (validator shader machine).2, []⟩
  have hstep : Course.step names validator ⟨extraction, reading, machine, []⟩ =
      .inr (onward.after (lines.take count)) := by
    rw [Course.step_of_judged h hverdict, Course.after, List.append_nil]
    rfl
  rw [linesDuring, iterate_of_inr hstep]
  exact iterate_map (Course.step_after (lines.take count)) onward

/-! ## The steps of a check -/

namespace FileCheck

variable {check : FileCheck}

theorem step_of_none
    (h : (check.extraction.pull names (check.reading.lines check.session.machine)).result = none) :
    check.step names validator = .inl (.ok check.report, check.session) := by
  rw [step]
  dsimp only
  rw [h]

theorem step_of_fault {cause : ExtractFault}
    (h : (check.extraction.pull names (check.reading.lines check.session.machine)).result =
      some (.error cause)) :
    check.step names validator =
      .inl (.error (.cannotExtract check.report.path cause), check.session) := by
  rw [step]
  dsimp only
  rw [h]

theorem step_of_refused {fault : CheckFault} {next : Session}
    (h : (check.extraction.pull names (check.reading.lines check.session.machine)).result =
      some (.ok shader))
    (hcheck : checkShader validator check.report shader check.session = (.error fault, next)) :
    check.step names validator = .inl (.error fault, next) := by
  rw [step]
  dsimp only
  rw [h]
  dsimp only
  rw [hcheck]

theorem step_of_judged {report : FileReport} {next : Session}
    (h : (check.extraction.pull names (check.reading.lines check.session.machine)).result =
      some (.ok shader))
    (hcheck : checkShader validator check.report shader check.session = (.ok report, next)) :
    let lines := check.reading.lines check.session.machine
    check.step names validator =
      .inr ⟨report, (check.extraction.pull names lines).extraction,
        check.reading.advance check.session.machine (check.extraction.readCount names lines),
        next⟩ := by
  intro lines
  rw [step]
  dsimp only
  rw [h]
  dsimp only
  rw [hcheck]

/-- A check only goes on behind a shader that was judged. -/
theorem exists_of_step_eq_inr {onward : FileCheck} (h : check.step names validator = .inr onward) :
    let lines := check.reading.lines check.session.machine
    ∃ shader report next, (check.extraction.pull names lines).result = some (.ok shader) ∧
      checkShader validator check.report shader check.session = (.ok report, next) ∧
      onward = ⟨report, (check.extraction.pull names lines).extraction,
        check.reading.advance check.session.machine (check.extraction.readCount names lines),
        next⟩ := by
  intro lines
  rcases hresult :
      (check.extraction.pull names (check.reading.lines check.session.machine)).result with
    _ | cause | shader
  · cases (step_of_none hresult).symm.trans h
  · cases (step_of_fault hresult).symm.trans h
  · rcases hcheck : checkShader validator check.report shader check.session with
      ⟨fault | report, next⟩
    · cases (step_of_refused hresult hcheck).symm.trans h
    · cases (step_of_judged hresult hcheck).symm.trans h
      exact ⟨shader, report, next, rfl, hcheck, rfl⟩

end FileCheck

theorem checkReading_of_none
    (h : (extraction.pull names (reading.lines session.machine)).result = none) :
    checkReading names validator report extraction reading session =
      some (.ok report, session) :=
  iterate_of_inl (FileCheck.step_of_none h)

theorem checkReading_of_fault {cause : ExtractFault}
    (h : (extraction.pull names (reading.lines session.machine)).result = some (.error cause)) :
    checkReading names validator report extraction reading session =
      some (.error (.cannotExtract report.path cause), session) :=
  iterate_of_inl (FileCheck.step_of_fault h)

theorem checkReading_of_shader
    (h : (extraction.pull names (reading.lines session.machine)).result = some (.ok shader)) :
    let lines := reading.lines session.machine
    checkReading names validator report extraction reading session =
      match checkShader validator report shader session with
      | (.error fault, session) => some (.error fault, session)
      | (.ok report, next) =>
          checkReading names validator report (extraction.pull names lines).extraction
            (reading.advance session.machine (extraction.readCount names lines)) next := by
  intro lines
  rcases hcheck : checkShader validator report shader session with ⟨fault | report', next⟩
  · exact iterate_of_inl (FileCheck.step_of_refused h hcheck)
  · exact iterate_of_inr (FileCheck.step_of_judged h hcheck)

/-- What is true of every end of a check, and passes from the check after a shader to the one before
it, is true of whatever a check comes to. -/
theorem checkReading_induction
    {motive : FileReport → Extraction → Reading → Session →
      Except CheckFault FileReport × Session → Prop}
    (none : ∀ report extraction reading (session : Session),
      (extraction.pull names (reading.lines session.machine)).result = none →
        motive report extraction reading session (.ok report, session))
    (fault : ∀ report extraction reading (session : Session) cause,
      (extraction.pull names (reading.lines session.machine)).result = some (.error cause) →
        motive report extraction reading session
          (.error (.cannotExtract report.path cause), session))
    (refused : ∀ report extraction reading session shader fault next,
      (extraction.pull names (reading.lines session.machine)).result = some (.ok shader) →
        checkShader validator report shader session = (.error fault, next) →
          motive report extraction reading session (.error fault, next))
    (judged : ∀ report extraction reading session shader report' next outcome,
      (extraction.pull names (reading.lines session.machine)).result = some (.ok shader) →
        checkShader validator report shader session = (.ok report', next) →
          (let lines := reading.lines session.machine
          motive report' (extraction.pull names lines).extraction
            (reading.advance session.machine (extraction.readCount names lines)) next outcome) →
              motive report extraction reading session outcome)
    {outcome : Except CheckFault FileReport × Session}
    (h : checkReading names validator report extraction reading session = some outcome) :
    motive report extraction reading session outcome := by
  have hruns := runs_of_iterate h
  clear h
  generalize hcheck : FileCheck.mk report extraction reading session = check at hruns
  induction hruns generalizing report extraction reading session with
  | done hstep =>
      subst hcheck
      rcases hresult : (extraction.pull names (reading.lines session.machine)).result with
        _ | cause | shader
      · cases (FileCheck.step_of_none hresult).symm.trans hstep
        exact none _ _ _ _ hresult
      · cases (FileCheck.step_of_fault hresult).symm.trans hstep
        exact fault _ _ _ _ _ hresult
      · rcases hshader : checkShader validator report shader session with ⟨fault | report', next⟩
        · cases (FileCheck.step_of_refused hresult hshader).symm.trans hstep
          exact refused _ _ _ _ _ _ _ hresult hshader
        · cases (FileCheck.step_of_judged hresult hshader).symm.trans hstep
  | more hstep _ ih =>
      subst hcheck
      obtain ⟨shader, report', next, hresult, hshader, rfl⟩ := FileCheck.exists_of_step_eq_inr hstep
      exact judged _ _ _ _ _ _ _ _ hresult hshader (ih rfl)

/-! ## The check of the lines that came up -/

/-- A shader is checked as soon as it is found, whatever comes behind it. -/
theorem checkFrom_take_append {lines : List SourceLine}
    (h : (extraction.pull names lines).result = some (.ok shader)) (validator : Validator)
    (report : FileReport) (more : List SourceLine) (session : Session) :
    checkFrom names validator report extraction
        (lines.take (extraction.readCount names lines) ++ more) session =
      match checkShader validator report shader session with
      | (.error fault, session) => (.error fault, session)
      | (.ok report, session) =>
          checkFrom names validator report (extraction.pull names lines).extraction more
            session := by
  rewrite [checkFrom, Extraction.pull_take_readCount_append h, h]
  rfl

/-- If a course comes to an end, so does every check that goes on from there, and it is the check of
the lines that come up from there on. -/
theorem Course.exists_of_runs {course : Course} {all : List SourceLine}
    (h : Runs (Course.step names validator) course all) :
    ∃ lines, all = course.read ++ lines ∧
      ∀ (report : FileReport) (session : Session), session.machine = course.machine →
        checkReading names validator report course.extraction course.reading session =
          some (checkFrom names validator report course.extraction lines session) := by
  induction h with
  | @done course all hstep =>
      rcases hresult :
          (course.extraction.pull names (course.reading.lines course.machine)).result with
        _ | cause | shader
      · cases (step_of_none hresult).symm.trans hstep
        refine ⟨_, rfl, ?_⟩
        rintro report session hmachine
        rw [← hmachine] at hresult ⊢
        rw [checkReading_of_none hresult, checkFrom, hresult]
      · cases (step_of_fault hresult).symm.trans hstep
        refine ⟨_, rfl, ?_⟩
        rintro report session hmachine
        rw [← hmachine] at hresult ⊢
        rw [checkReading_of_fault hresult, checkFrom, hresult]
      · cases hanswer : (validator shader course.machine).1 with
        | error cause =>
            cases (step_of_refused hresult hanswer).symm.trans hstep
            refine ⟨_, rfl, ?_⟩
            rintro report session hmachine
            rw [← hmachine] at hresult hanswer ⊢
            rw [checkReading_of_shader hresult, ← List.append_nil (List.take _ _),
              checkFrom_take_append hresult, checkShader_of_error hanswer session.sink]
        | ok verdict => cases (step_of_judged hresult hanswer).symm.trans hstep
  | @more course onward all hstep _ ih =>
      obtain ⟨shader, hresult, rfl⟩ := exists_of_step_eq_inr hstep
      obtain ⟨more, rfl, hmore⟩ := ih
      refine ⟨_, List.append_assoc _ _ _, ?_⟩
      rintro report session hmachine
      have hnext := machine_checkShader validator report shader session
      rw [← hmachine] at hresult hmore ⊢
      rw [checkReading_of_shader hresult, checkFrom_take_append hresult]
      rcases hcheck : checkShader validator report shader session with ⟨fault | report', session'⟩
      · rfl
      · rw [hcheck] at hnext
        exact hmore report' session' hnext

/-- If the lines come to an end, so does the check, and it is the check of these lines. -/
theorem checkReading_of_linesDuring {lines : List SourceLine}
    (h : reading.linesDuring names validator extraction session.machine = some lines) :
    checkReading names validator report extraction reading session =
      some (checkFrom names validator report extraction lines session) := by
  obtain ⟨lines, rfl, hcheck⟩ := Course.exists_of_runs (runs_of_iterate h)
  exact hcheck report session rfl

/-- With a sink that works, the check comes to an end only if the lines do. -/
theorem exists_linesDuring {outcome : Except CheckFault FileReport × Session}
    (h : checkReading names validator report extraction reading session = some outcome)
    (hsink : session.sink.isBroken = false) :
    ∃ lines, reading.linesDuring names validator extraction session.machine = some lines := by
  revert hsink
  refine checkReading_induction (motive := fun _ extraction reading session _ =>
    session.sink.isBroken = false →
      ∃ lines, reading.linesDuring names validator extraction session.machine = some lines)
    ?_ ?_ ?_ ?_ h
  · intro report extraction reading session hresult _
    exact ⟨_, Reading.linesDuring_of_none hresult⟩
  · intro report extraction reading session cause hresult _
    exact ⟨_, Reading.linesDuring_of_fault hresult⟩
  · intro report extraction reading session shader fault next hresult hcheck hsink
    cases hanswer : (validator shader session.machine).1 with
    | error cause => exact ⟨_, Reading.linesDuring_of_refused hresult hanswer⟩
    | ok verdict =>
        obtain ⟨machine, ⟨text, broken⟩, seen⟩ := session
        obtain rfl : broken = false := hsink
        cases hcheck.symm.trans (checkShader_of_ok hanswer)
  · intro report extraction reading session shader report' next outcome hresult hcheck ih hsink
    obtain ⟨machine, ⟨text, broken⟩, seen⟩ := session
    obtain rfl : broken = false := hsink
    cases hanswer : (validator shader machine).1 with
    | error cause => exact ⟨_, Reading.linesDuring_of_refused hresult hanswer⟩
    | ok verdict =>
        cases hcheck.symm.trans (checkShader_of_ok hanswer)
        obtain ⟨more, hmore⟩ := ih rfl
        exact ⟨_, (Reading.linesDuring_of_judged hresult hanswer).trans
          (congrArg (Option.map _) hmore)⟩

/-- With a sink that works, the check of a file is the check of the lines that come up. -/
theorem checkReading_working (hsink : session.sink.isBroken = false) :
    checkReading names validator report extraction reading session =
      (reading.linesDuring names validator extraction session.machine).map fun lines =>
        checkFrom names validator report extraction lines session := by
  cases hlines : reading.linesDuring names validator extraction session.machine with
  | some lines => exact checkReading_of_linesDuring hlines
  | none =>
      cases hcheck : checkReading names validator report extraction reading session with
      | none => rfl
      | some outcome =>
          obtain ⟨lines, hsome⟩ := exists_linesDuring hcheck hsink
          cases hlines.symm.trans hsome

/-! ## A file that the validator leaves alone -/

/-- What is left of a file after some lines, if a shader does not change the file: the file is left
alone from there on too, and what is left is what there was. -/
theorem Reading.advance_of_isSame (shader : Shader) (count : Nat)
    (h : ∀ shaders, reading.IsSame machine (validator.after machine shaders)) :
    let next := (validator shader machine).2
    (∀ shaders, (reading.advance machine count).IsSame next (validator.after next shaders)) ∧
      (reading.advance machine count).lines next = (reading.lines machine).drop count := by
  intro next
  have hnext : reading.IsSame machine next := h [shader]
  refine ⟨fun shaders => isSame_advance.2 (hnext.between (h (shader :: shaders))), ?_⟩
  rw [lines_eq (isSame_advance.2 hnext), lines_advance]

/-- If the validator judges everything and leaves the file alone, the lines that come up are those
that were there at the start. -/
theorem Reading.linesDuring_eq_lines
    (hjudges : ∀ shaders, validator.Judges machine shaders)
    (h : ∀ shaders, reading.IsSame machine (validator.after machine shaders)) :
    reading.linesDuring names validator extraction machine = some (reading.lines machine) := by
  induction hn : (reading.lines machine).length using Nat.strongRecOn
    generalizing extraction reading machine with
  | ind n ih =>
      rcases hresult : (extraction.pull names (reading.lines machine)).result with
        _ | cause | shader
      · exact linesDuring_of_none hresult
      · exact linesDuring_of_fault hresult
      · obtain ⟨⟨verdict, hverdict⟩, -⟩ := validator.judges_cons.1 (hjudges [shader])
        obtain ⟨hsame, hlines⟩ := advance_of_isSame shader
          (extraction.readCount names (reading.lines machine)) h
        have hlt := Extraction.length_unread_pull_lt hresult
        rw [← Extraction.drop_readCount, hn, ← hlines] at hlt
        rw [linesDuring_of_judged hresult hverdict,
          ih _ hlt (fun shaders => (validator.judges_cons.1 (hjudges (shader :: shaders))).2) hsame
            rfl, hlines]
        exact congrArg some (List.take_append_drop _ _)

/-- If the validator leaves the file alone, the check comes to an end, and it is the check of the
lines that were there at the start. -/
theorem checkReading_eq_checkFrom
    (h : ∀ shaders, reading.IsSame session.machine (validator.after session.machine shaders)) :
    checkReading names validator report extraction reading session =
      some (checkFrom names validator report extraction (reading.lines session.machine)
        session) := by
  induction hn : (reading.lines session.machine).length using Nat.strongRecOn
    generalizing report extraction reading session with
  | ind n ih =>
      rcases hresult : (extraction.pull names (reading.lines session.machine)).result with
        _ | cause | shader
      · rw [checkReading_of_none hresult, checkFrom, hresult]
      · rw [checkReading_of_fault hresult, checkFrom, hresult]
      · obtain ⟨hsame, hlines⟩ := Reading.advance_of_isSame shader
          (extraction.readCount names (reading.lines session.machine)) h
        have hlt := Extraction.length_unread_pull_lt hresult
        have hnext := machine_checkShader validator report shader session
        rw [checkReading_of_shader hresult]
        conv_rhs => rw [checkFrom, hresult]
        dsimp only
        rcases hcheck : checkShader validator report shader session with ⟨fault | report', session'⟩
        · rfl
        · rw [hcheck] at hnext
          rw [← Extraction.drop_readCount] at hlt ⊢
          rw [← hnext] at hsame hlines
          rw [hn, ← hlines] at hlt
          rw [← hlines]
          exact ih _ hlt hsame rfl

end ShaderLiterals
