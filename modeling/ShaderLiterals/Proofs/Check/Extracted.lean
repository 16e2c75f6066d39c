import Mathlib.Data.List.ReduceOption
import ShaderLiterals.Check.Run
import ShaderLiterals.Proofs.Literal.Scan

/-!
# Checking what was extracted

A check validates each shader as soon as it is found, and finds the next one only after that.
What comes of it is the same as if all shaders had been extracted first: they are checked in order,
and the fault that ended the extraction counts only when all of them were
(`checkFrom_eq_checkExtracted`).
-/

namespace ShaderLiterals

/-! ## Shaders that are there already -/

/-- Checks extracted shaders in order, and ends with the fault of the extraction. -/
def checkExtracted (validator : Validator) (report : FileReport) (fault : Option ExtractFault) :
    List Shader → Session → Except CheckFault FileReport × Session
  | [], session =>
      match fault with
      | none => (.ok report, session)
      | some cause => (.error (.cannotExtract report.path cause), session)
  | shader :: rest, session =>
      match checkShader validator report shader session with
      | (.error fault, session) => (.error fault, session)
      | (.ok report, session) => checkExtracted validator report fault rest session

/-- Checking while lines are read is checking what can be extracted from them. -/
theorem checkFrom_eq_checkExtracted (names : Escape.Names) (validator : Validator)
    (report : FileReport) (cursor : Cursor) (lines : List SourceLine) (session : Session) :
    checkFrom names validator report ⟨cursor, false⟩ lines session =
      checkExtracted validator report (extractFrom names cursor lines).fault
        (extractFrom names cursor lines).shaders session := by
  induction cursor, lines using Extraction.pull_induction generalizing report session with
  | nothing cursor lines extraction unread hpull hextract =>
      rw [checkFrom, hpull, hextract]
      rfl
  | fault cursor lines fault extraction unread hpull hextract =>
      rw [checkFrom, hpull, hextract]
      rfl
  | shader cursor lines shader next unread hpull hextract ih =>
      rw [checkFrom, hpull, hextract]
      dsimp only [Extracted.cons, checkExtracted]
      rcases checkShader validator report shader session with ⟨fault | report', session'⟩
      · rfl
      · exact ih report' session'

/-- A check of lines is one of the shaders in them. -/
theorem checkLines_eq_checkExtracted (names : Escape.Names) (validator : Validator) (path : String)
    (lines : List SourceLine) (session : Session) :
    checkLines names validator path lines session =
      checkExtracted validator (.start path) (extract names lines).fault
        (extract names lines).shaders session :=
  checkFrom_eq_checkExtracted names validator (.start path) .start lines session

/-- What came of shaders that were checked after those of a first report. -/
def FileReport.after (first report : FileReport) : FileReport :=
  ⟨first.path, first.checked + report.checked, first.failures ++ report.failures⟩

namespace Validator

variable (validator : Validator)

/-- The answers to shaders that the validator is handed in order. -/
def answers (machine : Machine) : List Shader → List (Except ValidatorFault Verdict)
  | [] => []
  | shader :: rest =>
      (validator shader machine).1 :: answers (validator shader machine).2 rest

/-- The validator judges all of the shaders, if it is handed them in order. -/
def Judges (machine : Machine) (shaders : List Shader) : Prop :=
  ∀ cause, .error cause ∉ validator.answers machine shaders

/-- What the answer says against the shader. -/
def failureOf (shader : Shader) : Except ValidatorFault Verdict → Option Failure
  | .ok (.failed diagnostic) => some ⟨shader.name, diagnostic⟩
  | .ok .passed | .error _ => none

/-- The shaders that do not compile, if the validator is handed shaders in order. -/
def failures (machine : Machine) (shaders : List Shader) : List Failure :=
  (List.zipWith failureOf shaders (validator.answers machine shaders)).reduceOption

variable {machine : Machine} {shader : Shader} {rest : List Shader}

theorem judges_cons : validator.Judges machine (shader :: rest) ↔
    (∃ verdict, (validator shader machine).1 = .ok verdict) ∧
      validator.Judges (validator shader machine).2 rest := by
  unfold Judges
  rw [answers]
  cases (validator shader machine).1 with
  | error cause =>
      refine ⟨fun h => absurd List.mem_cons_self (h cause), ?_⟩
      rintro ⟨⟨verdict, hverdict⟩, -⟩
      cases hverdict
  | ok verdict => simp

/-- A validator that always has a verdict judges everything. -/
theorem judges_of_forall
    (h : ∀ shader machine, ∃ verdict, (validator shader machine).1 = .ok verdict)
    (machine : Machine) (shaders : List Shader) : validator.Judges machine shaders := by
  induction shaders generalizing machine with
  | nil => exact fun _ => List.not_mem_nil
  | cons shader rest ih => exact validator.judges_cons.2 ⟨h shader machine, ih _⟩

/-- The first shader that is not judged, if there is one. -/
theorem judges_or_exists_error (machine : Machine) (shaders : List Shader) :
    validator.Judges machine shaders ∨
      ∃ judged shader rest cause, shaders = judged ++ shader :: rest ∧
        validator.Judges machine judged ∧
        (validator shader (validator.after machine judged)).1 = .error cause := by
  induction shaders generalizing machine with
  | nil => exact .inl fun _ => List.not_mem_nil
  | cons shader rest ih =>
      cases hanswer : (validator shader machine).1 with
      | error cause =>
          exact .inr ⟨[], shader, rest, cause, rfl, fun _ => List.not_mem_nil, hanswer⟩
      | ok verdict =>
          rcases ih (validator shader machine).2 with
            hrest | ⟨judged, next, others, cause, rfl, hjudged, hcause⟩
          · exact .inl (validator.judges_cons.2 ⟨⟨verdict, hanswer⟩, hrest⟩)
          · exact .inr ⟨shader :: judged, next, others, cause, rfl,
              validator.judges_cons.2 ⟨⟨verdict, hanswer⟩, hjudged⟩, hcause⟩

/-- The fault of the first shader that is not judged, if there is one. -/
def refusal? (machine : Machine) : List Shader → Option CheckFault
  | [] => none
  | shader :: rest =>
      match validator shader machine with
      | (.error cause, _) => some (.cannotValidate shader.name cause)
      | (.ok _, next) => refusal? next rest

theorem refusal?_of_judges {shaders : List Shader} (h : validator.Judges machine shaders) :
    validator.refusal? machine shaders = none := by
  induction shaders generalizing machine with
  | nil => rfl
  | cons shader rest ih =>
      obtain ⟨⟨verdict, hverdict⟩, hrest⟩ := validator.judges_cons.1 h
      rw [refusal?]
      rcases hturn : validator shader machine with ⟨answer, next⟩
      rw [hturn] at hverdict hrest
      obtain rfl : answer = .ok verdict := hverdict
      exact ih hrest

theorem refusal?_of_error {judged : List Shader} {cause : ValidatorFault}
    (hjudged : validator.Judges machine judged)
    (hcause : (validator shader (validator.after machine judged)).1 = .error cause) :
    validator.refusal? machine (judged ++ shader :: rest) =
      some (.cannotValidate shader.name cause) := by
  induction judged generalizing machine with
  | nil =>
      rw [List.nil_append, refusal?]
      rcases hturn : validator shader machine with ⟨answer, next⟩
      rw [after_nil, hturn] at hcause
      obtain rfl : answer = .error cause := hcause
      rfl
  | cons first judged ih =>
      obtain ⟨⟨verdict, hverdict⟩, hrest⟩ := validator.judges_cons.1 hjudged
      rw [after_cons] at hcause
      rw [List.cons_append, refusal?]
      rcases hturn : validator first machine with ⟨answer, next⟩
      rw [hturn] at hverdict hrest hcause
      obtain rfl : answer = .ok verdict := hverdict
      exact ih hrest hcause

theorem refusal?_eq_none_iff {shaders : List Shader} :
    validator.refusal? machine shaders = none ↔ validator.Judges machine shaders := by
  refine ⟨fun h => ?_, validator.refusal?_of_judges⟩
  rcases validator.judges_or_exists_error machine shaders with
    hjudged | ⟨judged, shader, rest, cause, rfl, hjudged, hcause⟩
  · exact hjudged
  · cases (validator.refusal?_of_error hjudged hcause).symm.trans h

/-- The shaders that the validator is handed, if it is handed shaders in order until it does not
judge one. -/
def handed (machine : Machine) : List Shader → List Shader
  | [] => []
  | shader :: rest =>
      shader ::
        match validator shader machine with
        | (.error _, _) => []
        | (.ok _, next) => handed next rest

theorem handed_of_judges {shaders : List Shader} (h : validator.Judges machine shaders) :
    validator.handed machine shaders = shaders := by
  induction shaders generalizing machine with
  | nil => rfl
  | cons shader rest ih =>
      obtain ⟨⟨verdict, hverdict⟩, hrest⟩ := validator.judges_cons.1 h
      rw [handed]
      rcases hturn : validator shader machine with ⟨answer, next⟩
      rw [hturn] at hverdict hrest
      obtain rfl : answer = .ok verdict := hverdict
      exact congrArg (shader :: ·) (ih hrest)

theorem handed_of_error {judged : List Shader} {cause : ValidatorFault}
    (hjudged : validator.Judges machine judged)
    (hcause : (validator shader (validator.after machine judged)).1 = .error cause) :
    validator.handed machine (judged ++ shader :: rest) = judged ++ [shader] := by
  induction judged generalizing machine with
  | nil =>
      rw [List.nil_append, handed]
      rcases hturn : validator shader machine with ⟨answer, next⟩
      rw [after_nil, hturn] at hcause
      obtain rfl : answer = .error cause := hcause
      rfl
  | cons first judged ih =>
      obtain ⟨⟨verdict, hverdict⟩, hrest⟩ := validator.judges_cons.1 hjudged
      rw [after_cons] at hcause
      rw [List.cons_append, handed]
      rcases hturn : validator first machine with ⟨answer, next⟩
      rw [hturn] at hverdict hrest hcause
      obtain rfl : answer = .ok verdict := hverdict
      exact congrArg (first :: ·) (ih hrest hcause)

@[simp] theorem failures_nil (machine : Machine) : validator.failures machine [] = [] := rfl

theorem failures_cons : validator.failures machine (shader :: rest) =
    (failureOf shader (validator shader machine).1).toList ++
      validator.failures (validator shader machine).2 rest := by
  unfold failures
  rw [answers, List.zipWith_cons_cons]
  cases failureOf shader (validator shader machine).1 <;> rfl

theorem failures_append (machine : Machine) (shaders more : List Shader) :
    validator.failures machine (shaders ++ more) =
      validator.failures machine shaders ++
        validator.failures (validator.after machine shaders) more := by
  induction shaders generalizing machine with
  | nil => rfl
  | cons shader shaders ih =>
      rw [List.cons_append, failures_cons, ih, failures_cons, List.append_assoc, after_cons]

theorem answers_append (machine : Machine) (shaders more : List Shader) :
    validator.answers machine (shaders ++ more) =
      validator.answers machine shaders ++
        validator.answers (validator.after machine shaders) more := by
  induction shaders generalizing machine with
  | nil => rfl
  | cons shader shaders ih =>
      rw [List.cons_append, answers, ih, answers, List.cons_append, after_cons]

theorem judges_append (machine : Machine) (shaders more : List Shader) :
    validator.Judges machine (shaders ++ more) ↔
      validator.Judges machine shaders ∧
        validator.Judges (validator.after machine shaders) more := by
  simp only [Judges, answers_append, List.mem_append, not_or, forall_and]

/-- Some shader does not compile if the validator says so of one. -/
theorem failures_ne_nil_iff {shaders : List Shader} : validator.failures machine shaders ≠ [] ↔
    ∃ diagnostic, .ok (.failed diagnostic) ∈ validator.answers machine shaders := by
  induction shaders generalizing machine with
  | nil => simp [answers]
  | cons shader rest ih =>
      rw [failures_cons, answers]
      rcases (validator shader machine).1 with cause | (_ | diagnostic)
      · simpa [failureOf] using ih
      · simpa [failureOf] using ih
      · simp [failureOf]

end Validator

/-! ## Reports -/

/-- The text of reports. -/
def reports (failures : List Failure) : String :=
  String.join (failures.map Failure.report)

@[simp] theorem reports_nil : reports [] = "" := rfl

theorem reports_append (failures more : List Failure) :
    reports (failures ++ more) = reports failures ++ reports more := by
  rw [reports, List.map_append, String.join_append]
  rfl

/-- Even the report of an empty diagnostic is some text. -/
theorem Failure.report_ne_empty (failure : Failure) : failure.report ≠ "" := by
  have hshader : toString "Shader " ≠ "" := by decide
  simp [report, hshader]

theorem reports_eq_empty_iff {failures : List Failure} : reports failures = "" ↔ failures = [] := by
  cases failures with
  | nil => simp
  | cons failure failures => simp [reports, failure.report_ne_empty]

theorem FileReport.hasErrors_iff {report : FileReport} :
    report.hasErrors = true ↔ report.failures ≠ [] := by
  simp [hasErrors]

section Working

variable {validator : Validator} {report : FileReport} {shader : Shader} {machine : Machine}
  {text : String} {seen : List Shader}

theorem Session.validate_mk (validator : Validator) (shader : Shader) (machine : Machine)
    (sink : Sink) (seen : List Shader) :
    (Session.mk machine sink seen).validate validator shader =
      ((validator shader machine).1, ⟨(validator shader machine).2, sink, seen ++ [shader]⟩) := rfl

theorem checkShader_of_error {cause : ValidatorFault}
    (h : (validator shader machine).1 = .error cause) (sink : Sink) :
    checkShader validator report shader ⟨machine, sink, seen⟩ =
      (.error (.cannotValidate shader.name cause),
        ⟨(validator shader machine).2, sink, seen ++ [shader]⟩) := by
  rw [checkShader, Session.validate_mk, h]

theorem checkShader_of_ok {verdict : Verdict} (h : (validator shader machine).1 = .ok verdict) :
    checkShader validator report shader ⟨machine, ⟨text, false⟩, seen⟩ =
      (.ok ⟨report.path, report.checked + 1,
          report.failures ++ (Validator.failureOf shader (.ok verdict)).toList⟩,
        ⟨(validator shader machine).2,
          ⟨text ++ reports (Validator.failureOf shader (.ok verdict)).toList, false⟩,
          seen ++ [shader]⟩) := by
  rw [checkShader, Session.validate_mk, h]
  cases verdict with
  | passed =>
      simp [Validator.failureOf, FileReport.addPassed, reports]
  | failed diagnostic =>
      simp [Validator.failureOf, FileReport.addFailure, reports]

/-- Shaders that the validator judges are counted and reported, and the check goes on. -/
theorem checkExtracted_append {judged : List Shader} (h : validator.Judges machine judged)
    (fault : Option ExtractFault) (rest : List Shader) :
    checkExtracted validator report fault (judged ++ rest) ⟨machine, ⟨text, false⟩, seen⟩ =
      checkExtracted validator
        ⟨report.path, report.checked + judged.length,
          report.failures ++ validator.failures machine judged⟩ fault rest
        ⟨validator.after machine judged,
          ⟨text ++ reports (validator.failures machine judged), false⟩, seen ++ judged⟩ := by
  induction judged generalizing report machine text seen with
  | nil => simp
  | cons shader judged ih =>
      obtain ⟨⟨verdict, hverdict⟩, hjudged⟩ := validator.judges_cons.1 h
      rw [List.cons_append, checkExtracted, checkShader_of_ok hverdict]
      dsimp only
      rw [ih hjudged, Validator.failures_cons, hverdict, reports_append, List.length_cons,
        Nat.add_assoc, Nat.add_comm 1, List.append_assoc, String.append_assoc, List.append_assoc]
      rfl

/-- If the validator judges all shaders, the check ends as the extraction did. -/
theorem checkExtracted_of_judges {shaders : List Shader} (h : validator.Judges machine shaders)
    (fault : Option ExtractFault) :
    checkExtracted validator report fault shaders ⟨machine, ⟨text, false⟩, seen⟩ =
      (match fault with
        | none => .ok ⟨report.path, report.checked + shaders.length,
            report.failures ++ validator.failures machine shaders⟩
        | some cause => .error (.cannotExtract report.path cause),
        ⟨validator.after machine shaders,
          ⟨text ++ reports (validator.failures machine shaders), false⟩, seen ++ shaders⟩) := by
  conv_lhs => rw [← List.append_nil shaders, checkExtracted_append h]
  cases fault <;> rfl

/-- The check ends at the first shader that is not judged. -/
theorem checkExtracted_of_error {judged rest : List Shader} {cause : ValidatorFault}
    (hjudged : validator.Judges machine judged)
    (hcause : (validator shader (validator.after machine judged)).1 = .error cause)
    (fault : Option ExtractFault) :
    checkExtracted validator report fault (judged ++ shader :: rest)
        ⟨machine, ⟨text, false⟩, seen⟩ =
      (.error (.cannotValidate shader.name cause),
        ⟨(validator shader (validator.after machine judged)).2,
          ⟨text ++ reports (validator.failures machine judged), false⟩,
          seen ++ judged ++ [shader]⟩) := by
  rw [checkExtracted_append hjudged, checkExtracted, checkShader_of_error hcause]

/-- The check has handed shaders to the validator up to the first that is not judged, and ends with
the fault of that one, or as the extraction did. -/
theorem checkExtracted_working (fault : Option ExtractFault) (shaders : List Shader) :
    let handed := validator.handed machine shaders
    checkExtracted validator report fault shaders ⟨machine, ⟨text, false⟩, seen⟩ =
      (match validator.refusal? machine shaders <|> fault.map (.cannotExtract report.path) with
        | some fault => .error fault
        | none => .ok ⟨report.path, report.checked + shaders.length,
            report.failures ++ validator.failures machine shaders⟩,
        ⟨validator.after machine handed,
          ⟨text ++ reports (validator.failures machine handed), false⟩, seen ++ handed⟩) := by
  intro handed
  rcases validator.judges_or_exists_error machine shaders with
    hjudged | ⟨judged, shader, rest, cause, rfl, hjudged, hcause⟩
  · have hhanded : handed = shaders := validator.handed_of_judges hjudged
    rw [hhanded, validator.refusal?_of_judges hjudged, checkExtracted_of_judges hjudged]
    cases fault <;> rfl
  · have hhanded : handed = judged ++ [shader] := validator.handed_of_error hjudged hcause
    have hfailures : validator.failures machine handed = validator.failures machine judged := by
      rw [hhanded, Validator.failures_append, Validator.failures_cons, hcause,
        Validator.failures_nil]
      exact List.append_nil _
    rw [checkExtracted_of_error hjudged hcause, validator.refusal?_of_error hjudged hcause,
      hfailures, hhanded, Validator.after_append, List.append_assoc]
    rfl

end Working

/-- What comes of checking lines: the validator is handed the shaders that can be extracted, in
order, up to the first that it does not judge; those that do not compile are reported, and nothing
else is.  Only if all shaders are judged, the fault of the extraction counts. -/
theorem checkLines_working (names : Escape.Names) (validator : Validator) (path : String)
    (lines : List SourceLine) (machine : Machine) :
    let found := extract names lines
    let outcome := checkLines names validator path lines (.start machine .working)
    ∃ judged, validator.Judges machine judged ∧
      outcome.2.sink.text =
        String.join ((validator.failures machine judged).map fun failure =>
          "Shader " ++ failure.name ++ " has errors:\n" ++ failure.diagnostic ++ "\n") ∧
      ((∃ shader rest cause fault, found.shaders = judged ++ shader :: rest ∧
          (validator shader (validator.after machine judged)).1 = .error cause ∧
          outcome.2.seen = judged ++ [shader] ∧ outcome.1 = .error fault ∧
          fault = .cannotValidate shader.name cause ∧
          fault.message = "could not validate " ++ shader.name ∧ fault.causes = cause.chain) ∨
        (found.shaders = judged ∧ outcome.2.seen = judged ∧
          ((∃ cause fault, found.fault = some cause ∧ outcome.1 = .error fault ∧
              fault = .cannotExtract path cause ∧
              fault.message = "could not extract shaders from " ++ Quoted.quote path ∧
              fault.causes = [cause.message, cause.causeMessage]) ∨
            (∃ report, found.fault = none ∧ outcome.1 = .ok report ∧ report.path = path ∧
              report.checked = found.shaders.length ∧
              report.failures = validator.failures machine judged ∧
              (report.hasErrors = true ↔ report.failures ≠ []))))) := by
  intro found outcome
  have houtcome : outcome = checkExtracted validator (.start path) found.fault found.shaders
      ⟨machine, ⟨"", false⟩, []⟩ := checkLines_eq_checkExtracted _ _ _ _ _
  rcases validator.judges_or_exists_error machine found.shaders with
    hjudged | ⟨judged, shader, rest, cause, hshaders, hjudged, hcause⟩
  · refine ⟨found.shaders, hjudged, ?_⟩
    rw [checkExtracted_of_judges hjudged] at houtcome
    cases hfault : found.fault with
    | none =>
        rw [hfault] at houtcome
        rw [houtcome]
        refine ⟨String.empty_append, .inr ⟨rfl, rfl, .inr ⟨_, rfl, rfl, rfl, ?_, rfl, ?_⟩⟩⟩
        · exact Nat.zero_add _
        · exact FileReport.hasErrors_iff
    | some cause =>
        rw [hfault] at houtcome
        rw [houtcome]
        exact ⟨String.empty_append, .inr ⟨rfl, rfl, .inl ⟨cause, _, rfl, rfl, rfl, rfl, rfl⟩⟩⟩
  · refine ⟨judged, hjudged, ?_⟩
    rw [hshaders, checkExtracted_append hjudged, checkExtracted, checkShader_of_error hcause]
      at houtcome
    rw [houtcome]
    exact ⟨String.empty_append,
      .inl ⟨shader, rest, cause, _, hshaders, hcause, rfl, rfl, rfl, rfl, rfl⟩⟩

end ShaderLiterals
