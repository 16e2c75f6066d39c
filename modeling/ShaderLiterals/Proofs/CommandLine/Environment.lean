import ShaderLiterals.Proofs.CommandLine.Reading

/-!
# What the environment has a say in

All arguments are read, and all that waits is checked, before the environment is looked at: reading
is gathering, and then filling in what was not given (`Reader.finish_eq_gather`).  So arguments that
are refused are refused whatever the environment names, for the same fault, and the environment
chooses the validator, or is refused, only where the arguments name none (`read_environment`).
-/

namespace ShaderLiterals.CommandLine

namespace Reader

/-- What the last arguments add to what was given, and what waits. -/
def gather (reader : Reader) : List String → Except Stop Given
  | [] => reader.settle.mapError .fault
  | argument :: rest => reader.next argument >>= fun reader => reader.gather rest

/-- The environment is looked at behind the last argument. -/
theorem finish_eq_gather (reader : Reader) (environment : Option String)
    (arguments : List String) :
    reader.finish environment arguments =
      reader.gather arguments >>= fun given => (given.settings environment).mapError .fault := by
  induction arguments generalizing reader with
  | nil =>
      rw [finish, gather]
      cases reader.settle <;> rfl
  | cons argument arguments ih =>
      rw [finish, gather]
      cases reader.next argument with
      | error stop => rfl
      | ok next => exact ih next

end Reader

section Environment

variable {arguments : List String} {environment : Option String} {given : Given} {line : Line}

theorem read_of_gather_error {stop : Stop} (h : Reader.start.gather arguments = .error stop)
    (environment : Option String) : read arguments environment = .error stop := by
  rw [read, Reader.finish_eq_gather, h]
  rfl

theorem read_of_gather_ok (h : Reader.start.gather arguments = .ok given)
    (environment : Option String) :
    read arguments environment = (given.settings environment).mapError .fault := by
  rw [read, Reader.finish_eq_gather, h]
  rfl

/-- A validator that was given hides the environment. -/
theorem Given.settings_congr {validator : String} (h : given.validator = some validator)
    (environment other : Option String) : given.settings environment = given.settings other := by
  simp only [settings, chooseValidator, h]

/-- Where no validator was given, an empty one in the environment is refused. -/
theorem Given.settings_empty (h : given.validator = none) :
    given.settings (some "") = .error (.valueRequired (.option .validator)) := by
  simp only [settings, chooseValidator, h]
  rfl

namespace Line

/-- What is allowed without an environment is allowed in all others, but not in one that names an
empty validator if the line names none. -/
theorem IsAllowed.of_none (h : line.IsAllowed none)
    (henvironment : line.values .validator = [] → environment ≠ some "") :
    line.IsAllowed environment :=
  { h with environment := henvironment }

theorem settings_of_validator (h : line.values .validator ≠ [])
    (environment other : Option String) : line.settings environment = line.settings other := by
  obtain ⟨validator, more, hvalues⟩ := List.exists_cons_of_ne_nil h
  rw [settings, settings, hvalues]
  rfl

theorem settings_of_no_validator (h : line.values .validator = [])
    (environment : Option String) :
    line.settings environment =
      { line.settings none with validator := environment.getD "glslangValidator" } := by
  rw [settings, settings, h]
  rfl

end Line

theorem read_line (h : line.IsAllowed environment) :
    read line.arguments environment = .ok (line.settings environment) :=
  read_eq_ok_iff.2 ⟨line, rfl, h, rfl⟩

/-- A line without a validator leaves it open to the environment. -/
theorem validator_eq_none_of_gather (hline : line.IsAllowed none)
    (hvalues : line.values .validator = [])
    (h : Reader.start.gather line.arguments = .ok given) : given.validator = none := by
  by_contra hne
  obtain ⟨validator, hgiven⟩ := Option.ne_none_iff_exists'.1 hne
  have hother : line.IsAllowed (some "other") := hline.of_none fun _ => by decide
  -- the settings would not depend on the environment
  have hread : read line.arguments none = read line.arguments (some "other") := by
    rw [read_of_gather_ok h, read_of_gather_ok h, Given.settings_congr hgiven]
  rw [read_line hline, read_line hother] at hread
  have hvalidator := congrArg Settings.validator (Except.ok.inj hread)
  rw [Line.settings_of_no_validator hvalues none,
    Line.settings_of_no_validator hvalues (some "other")] at hvalidator
  change "glslangValidator" = "other" at hvalidator
  exact absurd hvalidator (by decide)

end Environment

/-- Arguments stop with the same help or fault in every environment, or they make up a line.  If the
line names a validator, the settings are the same in every environment, also in one that names an
empty validator.  If not, only the validator hangs on the environment, and only an empty one is
refused. -/
theorem read_environment (arguments : List String) :
    (∃ stop, ∀ environment, read arguments environment = .error stop) ∨
      (∃ line : Line, line.arguments = arguments ∧ line.IsAllowed none) ∧
        ∀ line : Line, line.arguments = arguments → line.IsAllowed none →
          (line.values .validator ≠ [] →
            ∀ environment, read arguments environment = .ok (line.settings none)) ∧
          (line.values .validator = [] →
            (∀ environment, environment ≠ some "" →
              read arguments environment =
                .ok { line.settings none with
                  validator := environment.getD "glslangValidator" }) ∧
            read arguments (some "") =
              .error (.fault (.valueRequired (.option .validator)))) := by
  cases hgather : Reader.start.gather arguments with
  | error stop => exact .inl ⟨stop, read_of_gather_error hgather⟩
  | ok given =>
      refine .inr ⟨?_, ?_⟩
      · have hnone : ∃ settings, read arguments none = .ok settings := by
          rw [read_of_gather_ok hgather,
            Given.settings_eq_ok_iff.2 ⟨fun _ => by decide, rfl⟩]
          exact ⟨_, rfl⟩
        obtain ⟨settings, hread⟩ := hnone
        obtain ⟨line, hline, hallowed, -⟩ := read_eq_ok_iff.1 hread
        exact ⟨line, hline, hallowed⟩
      · rintro line rfl hallowed
        refine ⟨fun hvalues environment => ?_, fun hvalues => ⟨fun environment hne => ?_, ?_⟩⟩
        · rw [read_line (hallowed.of_none fun hnil => absurd hnil hvalues),
            Line.settings_of_validator hvalues environment none]
        · rw [read_line (hallowed.of_none fun _ => hne), Line.settings_of_no_validator hvalues]
        · have hvalidator := validator_eq_none_of_gather hallowed hvalues hgather
          rw [read_of_gather_ok hgather, Given.settings_empty hvalidator]
          rfl

/-- A fault of an argument comes before that of the environment, and a validator that comes late
hides the environment. -/
example : read ["a", "--list", "--list"] (some "") = .error (.fault (.repeated (.flag .list))) ∧
    read ["--validator-arg", "--validator", "a"] (some "") =
      .error (.fault (.valueRequired (.option .validator))) ∧
    read ["a", "--validator", "v"] (some "") =
      .ok ⟨["a"], ["swift"], "v", [], false⟩ := by
  decide +kernel

end ShaderLiterals.CommandLine
