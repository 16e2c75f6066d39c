import ShaderLiterals.Proofs.Check.Extracted

/-!
# What a check hands to the validator

The validator is handed one shader after the other, each on the machine that it left after the one
before (`Validator.turns`).  Whatever the sink does, a check is what came of these turns: it leaves
the machine that the last one left, and a shader that is not judged ends it (`exists_handsOver`).
Nothing else of the validator has a say, so that two validators that agree on these turns give the
same check.
-/

namespace ShaderLiterals

namespace Validator

variable {validator : Validator} {machine : Machine} {shader : Shader} {shaders rest : List Shader}
  {turn : Shader × Machine}

/-- The shaders that the validator is handed in order, each with the machine on which its turn
comes. -/
def turns (validator : Validator) : Machine → List Shader → List (Shader × Machine)
  | _, [] => []
  | machine, shader :: rest =>
      (shader, machine) :: turns validator (validator shader machine).2 rest

/-- The machine of a turn is what those before it left. -/
theorem exists_of_mem_turns (h : turn ∈ validator.turns machine shaders) :
    ∃ before rest, shaders = before ++ turn.1 :: rest ∧
      turn.2 = validator.after machine before := by
  induction shaders generalizing machine with
  | nil => exact absurd h List.not_mem_nil
  | cons shader rest ih =>
      rcases List.mem_cons.1 h with rfl | h
      · exact ⟨[], rest, rfl, rfl⟩
      · obtain ⟨before, others, rfl, hmachine⟩ := ih h
        exact ⟨shader :: before, others, rfl, hmachine⟩

end Validator

variable {validator : Validator} {report : FileReport} {fault : Option ExtractFault}
  {shader : Shader} {shaders seen : List Shader} {session next : Session}

/-- A shader either ends the check, with the validator's fault if it has one, or is judged and
reported, and the check goes on. -/
theorem checkShader_cases (validator : Validator) (report : FileReport) (shader : Shader)
    (session : Session) :
    let turn := validator shader session.machine
    (∃ fault, checkShader validator report shader session =
        (.error fault, ⟨turn.2, session.sink, session.seen ++ [shader]⟩) ∧
          ∀ cause, turn.1 = .error cause → fault = .cannotValidate shader.name cause) ∨
      ∃ verdict sink, turn.1 = .ok verdict ∧ checkShader validator report shader session =
        (.ok ⟨report.path, report.checked + 1,
            report.failures ++ (Validator.failureOf shader turn.1).toList⟩,
          ⟨turn.2, sink, session.seen ++ [shader]⟩) := by
  intro turn
  unfold checkShader Session.validate
  have hturn : validator shader session.machine = turn := rfl
  rw [hturn]
  clear_value turn
  rcases turn with ⟨cause | (_ | diagnostic), machine⟩
  · left
    refine ⟨_, rfl, ?_⟩
    intro cause' hcause
    cases hcause
    rfl
  · right
    refine ⟨.passed, session.sink, rfl, ?_⟩
    simp [FileReport.addPassed, Validator.failureOf]
  · dsimp only
    cases session.sink.write (Failure.report ⟨shader.name, diagnostic⟩) with
    | none =>
        left
        refine ⟨_, rfl, ?_⟩
        intro cause hcause
        cases hcause
    | some sink =>
        right
        refine ⟨.failed diagnostic, sink, rfl, ?_⟩
        simp [FileReport.addFailure, Validator.failureOf]

/-- What a check of shaders has to do with the validator. -/
structure HandsOver (validator : Validator) (report : FileReport) (fault : Option ExtractFault)
    (shaders : List Shader) (session : Session) (seen : List Shader) : Prop where
  seen_eq : (checkExtracted validator report fault shaders session).2.seen = session.seen ++ seen
  machine_eq : (checkExtracted validator report fault shaders session).2.machine =
    validator.after session.machine seen
  /-- A shader that is not judged ends the check. -/
  refused : ∀ turn ∈ validator.turns session.machine seen, ∀ cause,
    (validator turn.1 turn.2).1 = .error cause →
      (checkExtracted validator report fault shaders session).1 =
        .error (.cannotValidate turn.1.name cause)
  reported : ∀ last, (checkExtracted validator report fault shaders session).1 = .ok last →
    seen = shaders ∧ last.checked = report.checked + seen.length ∧
      last.failures = report.failures ++ validator.failures session.machine seen
  /-- The validator has no say beyond the shaders that it was handed. -/
  congr : ∀ other : Validator,
    (∀ turn ∈ validator.turns session.machine seen,
      other turn.1 turn.2 = validator turn.1 turn.2) →
    checkExtracted other report fault shaders session =
      checkExtracted validator report fault shaders session

theorem checkShader_congr {other : Validator}
    (h : other shader session.machine = validator shader session.machine) :
    checkShader other report shader session = checkShader validator report shader session := by
  unfold checkShader Session.validate
  rw [h]

namespace HandsOver

/-- Without a shader there is no turn. -/
theorem nil (validator : Validator) (report : FileReport) (fault : Option ExtractFault)
    (session : Session) : HandsOver validator report fault [] session [] := by
  constructor
  · cases fault <;> exact (List.append_nil _).symm
  · cases fault <;> rfl
  · exact fun _ h => absurd h List.not_mem_nil
  · intro last h
    cases fault with
    | none =>
        cases h
        simp
    | some cause => cases h
  · exact fun _ _ => rfl

/-- A shader that ends the check has the last turn. -/
theorem of_error {fault' : CheckFault} {rest : List Shader}
    (h : checkShader validator report shader session = (.error fault', next))
    (hnext : next = ⟨(validator shader session.machine).2, session.sink, session.seen ++ [shader]⟩)
    (hfault : ∀ cause, (validator shader session.machine).1 = .error cause →
      fault' = .cannotValidate shader.name cause) :
    HandsOver validator report fault (shader :: rest) session [shader] := by
  have hcheck : checkExtracted validator report fault (shader :: rest) session =
      (.error fault', next) := by
    rw [checkExtracted, h]
  constructor
  · rw [hcheck, hnext]
  · rw [hcheck, hnext]
    rfl
  · intro turn hturn cause hcause
    obtain rfl := List.mem_singleton.1 hturn
    rw [hcheck, hfault cause hcause]
  · intro last hlast
    rw [hcheck] at hlast
    cases hlast
  · intro other hother
    rw [hcheck, checkExtracted, checkShader_congr (hother _ List.mem_cons_self), h]

/-- A shader that does not end the check has a turn before those of the others. -/
theorem cons {rest : List Shader} {verdict : Verdict} {sink : Sink} {report' : FileReport}
    (hverdict : (validator shader session.machine).1 = .ok verdict)
    (h : checkShader validator report shader session = (.ok report', next))
    (hreport : report' = ⟨report.path, report.checked + 1,
      report.failures ++
        (Validator.failureOf shader (validator shader session.machine).1).toList⟩)
    (hnext : next = ⟨(validator shader session.machine).2, sink, session.seen ++ [shader]⟩)
    (hrest : HandsOver validator report' fault rest next seen) :
    HandsOver validator report fault (shader :: rest) session (shader :: seen) := by
  have hcheck : checkExtracted validator report fault (shader :: rest) session =
      checkExtracted validator report' fault rest next := by
    rw [checkExtracted, h]
  have hmachine : next.machine = (validator shader session.machine).2 := by rw [hnext]
  constructor
  · rw [hcheck, hrest.seen_eq, hnext, List.append_assoc, List.singleton_append]
  · rw [hcheck, hrest.machine_eq, hmachine, Validator.after_cons]
  · intro turn hturn cause hcause
    rcases List.mem_cons.1 hturn with rfl | hturn
    · cases hverdict.symm.trans hcause
    · rw [← hmachine] at hturn
      rw [hcheck]
      exact hrest.refused turn hturn cause hcause
  · intro last hlast
    rw [hcheck] at hlast
    obtain ⟨rfl, hchecked, hfailures⟩ := hrest.reported last hlast
    rw [hchecked, hfailures, hreport, hmachine, Validator.failures_cons, List.length_cons,
      List.append_assoc]
    exact ⟨rfl, by dsimp only; omega, rfl⟩
  · intro other hother
    obtain ⟨hfirst, hothers⟩ := List.forall_mem_cons.1 hother
    rw [hcheck, checkExtracted, checkShader_congr hfirst, h]
    apply hrest.congr
    rwa [hmachine]

end HandsOver

/-- A check hands over shaders in order, and is what came of that. -/
theorem exists_handsOver (validator : Validator) (report : FileReport)
    (fault : Option ExtractFault) (shaders : List Shader) (session : Session) :
    ∃ seen, seen <+: shaders ∧ HandsOver validator report fault shaders session seen := by
  induction shaders generalizing report session with
  | nil => exact ⟨[], List.nil_prefix, .nil validator report fault session⟩
  | cons shader rest ih =>
      rcases checkShader_cases validator report shader session with
        ⟨fault', hcheck, hfault⟩ | ⟨verdict, sink, hverdict, hcheck⟩
      · refine ⟨[shader], ?_, .of_error hcheck rfl hfault⟩
        exact (List.prefix_append_right_inj [shader]).2 List.nil_prefix
      · obtain ⟨seen, hseen, hrest⟩ := ih _ _
        refine ⟨shader :: seen, ?_, .cons hverdict hcheck rfl rfl hrest⟩
        exact (List.prefix_cons_inj shader).2 hseen

end ShaderLiterals
