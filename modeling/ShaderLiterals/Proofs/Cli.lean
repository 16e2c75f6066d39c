import ShaderLiterals.Cli
import ShaderLiterals.Proofs.Check.Passing

/-!
# What a run of the program ends with

The arguments decide whether any file is looked at.  A listing prints what a survey of the files
finds (`list_eq_survey`), and a check hands what it finds to a program and ends with status 0 if it
passes (`check_outcome`, `status_eq_zero_iff`).  Whatever ends either of them early is told in the
errors, which are empty only if all went well.  A check never ends if the lines of some file never
do.
-/

namespace ShaderLiterals

/-- A variable has no say in what there is to read. -/
theorem Machine.expandAll_withVariable (machine : Machine) (name : String) (value : Option String)
    (extensions paths : List String) :
    (machine.withVariable name value).expandAll extensions paths =
      machine.expandAll extensions paths := by
  induction paths with
  | nil => rfl
  | cons path paths ih =>
      rw [expandAll, expandAll, ih]
      rfl

theorem Report.render_ne_empty (message : String) (causes : List String) :
    render message causes ≠ "" := by
  have herror : toString "Error: " ≠ "" := by decide
  simp [render, herror]

theorem CheckFault.render_ne_empty (fault : CheckFault) : fault.render ≠ "" :=
  Report.render_ne_empty _ _

namespace Cli

variable {surroundings : Surroundings} {settings : CommandLine.Settings} {machine : Machine}
  {files : List String}

/-! ## Listings -/

/-- A listing is what the survey finds, and tells of its fault. -/
theorem list_eq_survey {names : Escape.Names}
    (hfiles : machine.expandAll settings.extensions settings.paths = .ok files) :
    let survey := machine.survey names files
    list names settings machine =
      ⟨if survey.fault = none then 0 else 1, survey.listing,
        survey.fault.elim "" CheckFault.render⟩ := by
  intro survey
  have hlisted : listFiles names machine files .working =
      (survey.result survey.shaders.length, ⟨survey.listing, false⟩) := listFiles_eq_survey _ _ _
  rw [list, hfiles]
  dsimp only
  rw [hlisted, Survey.result]
  cases survey.fault <;> rfl

/-! ## Checks -/

/-- What a check ends with: the reports of the shaders that do not compile, and behind them the
fault that ended it, if one did. -/
theorem check_outcome (hfiles : machine.expandAll settings.extensions settings.paths = .ok files) :
    let external : External := ⟨settings.validator, settings.validatorArgs⟩
    let validator := external.validator surroundings.files surroundings.programs
    check surroundings settings machine =
      (machine.surveyDuring surroundings.names validator files).map fun survey =>
        (⟨if survey.fault = none ∧ validator.failures machine survey.shaders = [] then 0 else 1, "",
            reports (validator.failures machine survey.shaders) ++
              survey.fault.elim "" CheckFault.render⟩,
          validator.after machine survey.shaders) := by
  intro external validator
  rw [check, hfiles]
  dsimp only
  rw [Session.start, Sink.working, checkFiles_working, Option.map_map]
  refine congrArg (Option.map · _) (funext fun survey => ?_)
  rw [Function.comp_apply, Survey.result]
  cases hfault : survey.fault with
  | some fault => simp [exitOf, validator, external]
  | none =>
      cases hfailures : validator.failures machine survey.shaders <;>
        simp_all [exitOf, validator, external]

/-- A check ends with status 0 if it passes. -/
theorem status_eq_zero_iff
    (hfiles : machine.expandAll settings.extensions settings.paths = .ok files) :
    let external : External := ⟨settings.validator, settings.validatorArgs⟩
    (∃ exit after, check surroundings settings machine = some (exit, after) ∧ exit.status = 0) ↔
      external.Passes surroundings.names surroundings.files surroundings.programs machine
        files := by
  intro external
  rw [External.passes_iff, check_outcome hfiles]
  constructor
  · rintro ⟨exit, after, hcheck, hstatus⟩
    obtain ⟨survey, hsurvey, hexit⟩ := Option.map_eq_some_iff.1 hcheck
    cases hexit
    exact ⟨survey, hsurvey, by simpa using hstatus⟩
  · rintro ⟨survey, hsurvey, hpasses⟩
    rw [hsurvey]
    exact ⟨_, _, rfl, if_pos hpasses⟩

/-! ## Runs -/

section Runs

variable {arguments : List String} {environment : Option String}

theorem run_of_list (surroundings : Surroundings) (machine : Machine)
    (hread : CommandLine.read arguments environment = .ok settings)
    (hlist : settings.list = true) :
    run surroundings arguments environment machine =
      some (list surroundings.names settings machine, machine) := by
  rw [run, hread]
  dsimp only
  rw [if_pos hlist]

theorem run_of_check (surroundings : Surroundings) (machine : Machine)
    (hread : CommandLine.read arguments environment = .ok settings)
    (hlist : settings.list = false) :
    run surroundings arguments environment machine =
      (check surroundings settings
        (machine.withVariable CommandLine.variableName environment)).map fun outcome =>
          (outcome.1, { outcome.2 with environment := machine.environment }) := by
  rw [run, hread]
  dsimp only
  rw [if_neg (Bool.eq_false_iff.1 hlist)]

end Runs

/-- What a run ends with.  If the arguments are refused or ask for help, that does not hang on any
file or program, and if the files to read cannot be collected, the run ends with that fault.  A
listing runs no program, so that it is the same whichever one is asked for; it prints the shaders
that come before the first fault, and has no errors unless there is a fault.  A check prints nothing
but errors: reports of the shaders that do not compile, and the fault that ended it.  There are none
if the check passes, and then alone its status is 0.  It never ends if the lines that come up in
some file have no end, and otherwise it does. -/
theorem run_outcome (surroundings : Surroundings) (arguments : List String)
    (environment : Option String) (machine : Machine) :
    let outcome := run surroundings arguments environment machine
    (∀ fault, CommandLine.read arguments environment = .error (.fault fault) →
        ∀ surroundings machine, run surroundings arguments environment machine =
          some (⟨2, "", fault.render⟩, machine)) ∧
      (CommandLine.read arguments environment = .error .help →
        ∀ surroundings machine, run surroundings arguments environment machine =
          some (⟨0, CommandLine.help .suspends environment, ""⟩, machine)) ∧
      ∀ settings, CommandLine.read arguments environment = .ok settings →
        (∀ fault, machine.expandAll settings.extensions settings.paths = .error fault →
          outcome = some (⟨1, "", fault.render⟩, machine)) ∧
        ∀ files, machine.expandAll settings.extensions settings.paths = .ok files →
          (settings.list = false →
            let seen := machine.withVariable CommandLine.variableName environment
            let external : External := ⟨settings.validator, settings.validatorArgs⟩
            let validator := external.validator surroundings.files surroundings.programs
            let survey? := seen.surveyDuring surroundings.names validator files
            (outcome = none ↔ survey? = none) ∧
              ((∃ exit after, outcome = some (exit, after) ∧ exit.status = 0) ↔
                external.Passes surroundings.names surroundings.files surroundings.programs seen
                  files) ∧
              ∀ exit after, outcome = some (exit, after) →
                exit.output = "" ∧ (exit.status = 0 ∨ exit.status = 1) ∧
                  (exit.status = 0 ↔ exit.errors = "") ∧
                  ∃ survey, survey? = some survey ∧
                    exit.errors = reports (validator.failures seen survey.shaders) ++
                      survey.fault.elim "" CheckFault.render) ∧
            (settings.list = true →
              let survey := machine.survey surroundings.names files
              ∃ exit, outcome = some (exit, machine) ∧
                exit.output = String.join (survey.found.map fun place =>
                  place.1 ++ ":" ++ toString place.2.line ++ " " ++ place.2.name ++ " " ++
                    place.2.stage.describe ++ "\n") ∧
                (exit.status = 0 ∧ exit.errors = "" ↔ survey.fault = none) ∧
                (∀ fault, survey.fault = some fault →
                  exit.status = 1 ∧ exit.errors = fault.render) ∧
                ∀ surroundings' arguments' environment' settings',
                  surroundings'.names = surroundings.names →
                  CommandLine.read arguments' environment' = .ok settings' →
                  settings'.list = true → settings'.paths = settings.paths →
                  settings'.extensions = settings.extensions →
                  run surroundings' arguments' environment' machine = some (exit, machine)) := by
  intro outcome
  refine ⟨fun fault hread surroundings machine => ?_, fun hread surroundings machine => ?_,
    fun settings hread => ⟨fun fault hfault => ?_, fun files hfiles => ⟨fun hlist => ?_,
      fun hlist => ?_⟩⟩⟩
  · rw [run, hread]
  · rw [run, hread]
  · cases hlist : settings.list with
    | true =>
        have houtcome : outcome = _ := run_of_list surroundings machine hread hlist
        rw [houtcome, list, hfault]
    | false =>
        have houtcome : outcome = _ := run_of_check surroundings machine hread hlist
        rw [houtcome, check, Machine.expandAll_withVariable, hfault]
        rfl
  · intro seen external validator survey?
    have hseen : seen.expandAll settings.extensions settings.paths = .ok files :=
      (Machine.expandAll_withVariable _ _ _ _ _).trans hfiles
    have houtcome : outcome = _ := run_of_check surroundings machine hread hlist
    have hcheck : check surroundings settings seen = _ := check_outcome hseen
    refine ⟨?_, ?_, fun exit after h => ?_⟩
    · rw [houtcome, Option.map_eq_none_iff, hcheck, Option.map_eq_none_iff]
    · refine Iff.trans ?_ (status_eq_zero_iff hseen)
      rw [houtcome]
      constructor
      · rintro ⟨exit, after, h, hstatus⟩
        obtain ⟨⟨_, reached⟩, hsome, hexit⟩ := Option.map_eq_some_iff.1 h
        cases hexit
        exact ⟨_, reached, hsome, hstatus⟩
      · rintro ⟨exit, reached, h, hstatus⟩
        rw [h]
        exact ⟨exit, _, rfl, hstatus⟩
    · rw [houtcome, hcheck, Option.map_map] at h
      obtain ⟨survey, hsurvey, hexit⟩ := Option.map_eq_some_iff.1 h
      cases hexit
      refine ⟨rfl, ?_, ?_, survey, hsurvey, rfl⟩
      · dsimp only
        split <;> simp
      · dsimp only
        cases survey.fault with
        | some fault => simp [fault.render_ne_empty]
        | none => simp [reports_eq_empty_iff]
  · intro survey
    have hlisted : outcome = _ := run_of_list surroundings machine hread hlist
    rw [hlisted]
    refine ⟨_, rfl, ?_⟩
    rw [list_eq_survey hfiles]
    refine ⟨rfl, ?_, ?_, ?_⟩
    · cases survey.fault <;> simp
    · intro fault hfault
      rw [hfault]
      exact ⟨rfl, rfl⟩
    · intro surroundings' arguments' environment' settings' hnames hread' hlist' hpaths hextensions
      have hfiles' : machine.expandAll settings'.extensions settings'.paths = .ok files := by
        rw [hpaths, hextensions, hfiles]
      rw [run_of_list surroundings' machine hread' hlist', hnames, list_eq_survey hfiles']

end Cli

end ShaderLiterals
