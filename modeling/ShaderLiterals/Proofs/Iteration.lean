import ShaderLiterals.Iteration

/-!
# Runs of an iteration

An iteration returns exactly what a run of finitely many steps returns (`iterate_eq_some_iff_runs`),
so what is true of every step that returns, and passes from a state to the one before it, is true of
whatever the iteration returns.
-/

namespace ShaderLiterals

universe u v w x

variable {State : Type u} {Value : Type v} {step : State → Value ⊕ State} {state next : State}
  {value : Value}

theorem iterate_of_inl (h : step state = .inl value) : iterate step state = some value := by
  rw [iterate, h]

theorem iterate_of_inr (h : step state = .inr next) :
    iterate step state = iterate step next := by
  rw [iterate, h]

/-- Steps from a state that return a value. -/
inductive Runs (step : State → Value ⊕ State) : State → Value → Prop where
  | done {state : State} {value : Value} (h : step state = .inl value) : Runs step state value
  | more {state next : State} {value : Value} (h : step state = .inr next)
      (hnext : Runs step next value) : Runs step state value

theorem runs_of_iterate (h : iterate step state = some value) : Runs step state value := by
  refine iterate.partial_correctness step (Runs step) ?_ state value h
  intro iterate ih state value h
  rcases hstep : step state with returned | next
  · rw [hstep] at h
    cases h
    exact .done hstep
  · rw [hstep] at h
    exact .more hstep (ih next value h)

theorem iterate_of_runs (h : Runs step state value) : iterate step state = some value := by
  induction h with
  | done h => exact iterate_of_inl h
  | more h _ ih => exact (iterate_of_inr h).trans ih

theorem iterate_eq_some_iff_runs : iterate step state = some value ↔ Runs step state value :=
  ⟨runs_of_iterate, iterate_of_runs⟩

section Map

variable {Place : Type w} {Answer : Type x} {walk : Place → Answer ⊕ Place}
  {place : State → Place} {answer : Value → Answer}
  (hmatch : ∀ state, walk (place state) = (step state).map answer place)

include hmatch

theorem Runs.map (h : Runs step state value) : Runs walk (place state) (answer value) := by
  induction h with
  | @done state value h =>
      apply Runs.done
      rw [hmatch, h, Sum.map_inl]
  | @more state next value h _ ih =>
      refine .more ?_ ih
      rw [hmatch, h, Sum.map_inr]

theorem Runs.exists_of_map {returned : Answer} (h : Runs walk (place state) returned) :
    ∃ value, Runs step state value ∧ returned = answer value := by
  generalize hplace : place state = start at h
  induction h generalizing state with
  | @done start returned h =>
      subst hplace
      rw [hmatch] at h
      cases hstep : step state with
      | inl value =>
          rw [hstep] at h
          exact ⟨value, .done hstep, (Sum.inl.inj h).symm⟩
      | inr next =>
          rw [hstep] at h
          cases h
  | @more start onward returned h _ ih =>
      subst hplace
      rw [hmatch] at h
      cases hstep : step state with
      | inl value =>
          rw [hstep] at h
          cases h
      | inr next =>
          rw [hstep] at h
          obtain ⟨value, hvalue, hreturned⟩ := ih (Sum.inr.inj h)
          exact ⟨value, .more hstep hvalue, hreturned⟩

/-- Steps that match those of another iteration return what these return, and never return if these
never do. -/
theorem iterate_map (state : State) :
    iterate walk (place state) = (iterate step state).map answer := by
  apply Option.ext
  intro returned
  rw [iterate_eq_some_iff_runs, Option.map_eq_some_iff]
  constructor
  · intro h
    obtain ⟨value, hvalue, hreturned⟩ := h.exists_of_map hmatch
    exact ⟨value, iterate_of_runs hvalue, hreturned.symm⟩
  · rintro ⟨value, hvalue, rfl⟩
    exact (runs_of_iterate hvalue).map hmatch

end Map

end ShaderLiterals
