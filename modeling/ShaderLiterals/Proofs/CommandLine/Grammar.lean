import ShaderLiterals.CommandLine.Reader

/-!
# The grammar of the command line

Arguments come in groups (`Group`): a path, an option with its value, or a flag.  Behind two hyphens
there are only paths.  What a line of groups means (`Line.settings`) does not hang on where a group
stands among others of another kind, and groups are added one by one to what was given before
(`addGroup_eq_ok_iff`).
-/

namespace ShaderLiterals.CommandLine

/-- An argument that is no option, wherever it stands. -/
def IsPlain (argument : String) : Prop :=
  argument = "-" ∨ argument.toList.head? ≠ some '-'

/-- Arguments that belong together. -/
inductive Group where
  | path (text : String)
  /-- An option, and its value as an argument of its own. -/
  | separate (option : ValueOption) (value : String)
  /-- An option and its value in one argument. -/
  | joined (option : ValueOption) (value : String)
  | list
deriving DecidableEq, Repr

namespace Group

def arguments : Group → List String
  | path text => [text]
  | separate option value => ["--" ++ option.name, value]
  | joined option value => ["--" ++ option.name ++ "=" ++ value]
  | list => ["--list"]

def path? : Group → Option String
  | path text => some text
  | separate _ _ | joined _ _ | list => none

/-- The value that the group gives for an option. -/
def value? (option : ValueOption) : Group → Option String
  | separate other value | joined other value => if other = option then some value else none
  | path _ | list => none

/-- Whether the arguments are read as one group. -/
def IsWritten : Group → Prop
  | path text => IsPlain text
  | separate .validatorArg _ => True
  | separate _ value => IsPlain value
  | joined _ _ | list => True

/-- Paths and validators have a text. -/
def IsFilled : Group → Prop
  | path text => text ≠ ""
  | separate .validator value | joined .validator value => value ≠ ""
  | separate _ _ | joined _ _ | list => True

/-- The paths of groups, in order. -/
def paths (groups : List Group) : List String := groups.filterMap path?

/-- The values that groups give for an option, in order. -/
def values (option : ValueOption) (groups : List Group) : List String :=
  groups.filterMap (value? option)

@[simp] theorem paths_singleton (group : Group) : paths [group] = group.path?.toList := by
  cases group <;> rfl

@[simp] theorem values_singleton (option : ValueOption) (group : Group) :
    values option [group] = (group.value? option).toList := by
  rw [values, List.filterMap_cons]
  cases group.value? option <;> rfl

end Group

/-- What a command line is made of. -/
structure Line where
  groups : List Group
  /-- The paths after two hyphens, if these are there. -/
  rest : Option (List String)

namespace Line

/-- Two hyphens, and the paths behind them. -/
def restArguments : Option (List String) → List String
  | none => []
  | some paths => "--" :: paths

variable (line : Line)

def arguments : List String :=
  line.groups.flatMap Group.arguments ++ restArguments line.rest

def paths : List String := Group.paths line.groups ++ line.rest.getD []

def values (option : ValueOption) : List String := Group.values option line.groups

/-- Whether the line is accepted, given the validator that the environment names. -/
structure IsAllowed (environment : Option String) : Prop where
  written : ∀ group ∈ line.groups, group.IsWritten
  filled : ∀ group ∈ line.groups, group.IsFilled
  rest : ∀ path ∈ line.rest.getD [], path ≠ ""
  validator : (line.values .validator).length ≤ 1
  list : line.groups.count .list ≤ 1
  environment : line.values .validator = [] → environment ≠ some ""

/-- What the line means.  What it leaves open is taken from the environment, or is the default. -/
def settings (environment : Option String) : Settings where
  paths := if line.paths = [] then ["Sources/awc/Neon.swift"] else line.paths
  extensions := if line.values .extension = [] then ["swift"] else line.values .extension
  validator := ((line.values .validator).head?.or environment).getD "glslangValidator"
  validatorArgs := line.values .validatorArg
  list := line.groups.contains .list

end Line

/-! ## Adding groups to what was given -/

namespace Given

variable {given given' : Given}

theorem addPaths_eq_ok_iff {paths : List String} :
    given.addPaths paths = .ok given' ↔
      (∀ path ∈ paths, path ≠ "") ∧ { given with paths := given.paths ++ paths } = given' := by
  unfold addPaths
  split
  · next h =>
    simp only [List.any_eq_true, String.isEmpty_iff] at h
    obtain ⟨path, hmem, hempty⟩ := h
    simp only [reduceCtorEq, false_iff, not_and]
    exact fun hpaths => absurd hempty (hpaths path hmem)
  · next h =>
    simp only [List.any_eq_true, String.isEmpty_iff, not_exists, not_and] at h
    exact ⟨fun hok => ⟨h, Except.ok.inj hok⟩, fun hok => congrArg _ hok.2⟩

/-- Some paths and then others are all of them. -/
theorem addPaths_append_eq_ok_iff {paths more : List String} :
    given.addPaths (paths ++ more) = .ok given' ↔
      ∃ next, given.addPaths paths = .ok next ∧ next.addPaths more = .ok given' := by
  simp only [addPaths_eq_ok_iff, List.forall_mem_append]
  constructor
  · rintro ⟨⟨hpaths, hmore⟩, rfl⟩
    exact ⟨_, ⟨hpaths, rfl⟩, hmore, by rw [List.append_assoc]⟩
  · rintro ⟨next, ⟨hpaths, rfl⟩, hmore, rfl⟩
    exact ⟨⟨hpaths, hmore⟩, by rw [List.append_assoc]⟩

theorem addValidator_eq_ok_iff {value : String} :
    given.addValue value .validator = .ok given' ↔
      value ≠ "" ∧ given.validator = none ∧ { given with validator := some value } = given' := by
  unfold addValue
  cases given.validator with
  | some validator => simp
  | none => by_cases hvalue : value = "" <;> simp [hvalue]

theorem addList_eq_ok_iff :
    given.addList = .ok given' ↔ given.list = false ∧ { given with list := true } = given' := by
  unfold addList
  cases given.list <;> simp

def addGroup (given : Given) : Group → Except UsageFault Given
  | .path text => given.addPaths [text]
  | .separate option value | .joined option value => given.addValue value option
  | .list => given.addList

/-- What was given, and what groups say. -/
def withGroups (given : Given) (groups : List Group) : Given where
  paths := given.paths ++ Group.paths groups
  extensions := given.extensions ++ Group.values .extension groups
  validator := given.validator.or (Group.values .validator groups).head?
  validatorArgs := given.validatorArgs ++ Group.values .validatorArg groups
  list := given.list || groups.contains .list

/-- Whether no more is given than can be, if groups are added. -/
def Admits (given : Given) (groups : List Group) : Prop :=
  given.validator.toList.length + (Group.values .validator groups).length ≤ 1 ∧
    given.list.toNat + groups.count .list ≤ 1

@[simp] theorem withGroups_nil (given : Given) : given.withGroups [] = given := by
  simp [withGroups, Group.paths, Group.values]

theorem admits_nil (given : Given) : given.Admits [] := by
  refine ⟨?_, ?_⟩
  · cases given.validator <;> simp [Group.values]
  · cases given.list <;> simp

theorem withGroups_append (given : Given) (groups more : List Group) :
    given.withGroups (groups ++ more) = (given.withGroups groups).withGroups more := by
  simp [withGroups, Group.paths, Group.values, List.filterMap_append, Option.or_assoc,
    Bool.or_assoc]

theorem admits_append {groups more : List Group} : given.Admits (groups ++ more) ↔
    given.Admits groups ∧ (given.withGroups groups).Admits more := by
  simp only [Admits, withGroups, Group.values, List.filterMap_append, List.length_append,
    List.count_append]
  have hvalidator (validator : Option String) (values : List String) (n : Nat) :
      validator.toList.length + (values.length + n) ≤ 1 ↔
        validator.toList.length + values.length ≤ 1 ∧
          (validator.or values.head?).toList.length + n ≤ 1 := by
    rcases validator with _ | validator <;> rcases values with _ | ⟨value, values⟩ <;>
      simp only [Option.toList_none, Option.toList_some, Option.none_or, Option.some_or,
        List.head?_nil, List.head?_cons, List.length_nil, List.length_cons] <;>
      omega
  have hlist (list : Bool) (n : Nat) :
      list.toNat + (groups.count .list + n) ≤ 1 ↔
        list.toNat + groups.count .list ≤ 1 ∧
          (list || groups.contains .list).toNat + n ≤ 1 := by
    by_cases hmem : Group.list ∈ groups
    · have hpos := List.count_pos_iff.2 hmem
      cases list with
      | false =>
          rw [List.contains_iff_mem.2 hmem, Bool.false_or, Bool.toNat_false, Bool.toNat_true]
          omega
      | true =>
          rw [Bool.true_or, Bool.toNat_true]
          omega
    · have hzero := List.count_eq_zero.2 hmem
      rcases list with _ | _ <;> simp [hmem, hzero]
  rw [hvalidator, hlist, and_and_and_comm]

theorem withGroups_singleton (given : Given) (group : Group) :
    given.withGroups [group] =
      { paths := given.paths ++ group.path?.toList
        extensions := given.extensions ++ (group.value? .extension).toList
        validator := given.validator.or (group.value? .validator)
        validatorArgs := given.validatorArgs ++ (group.value? .validatorArg).toList
        list := given.list || decide (group = .list) } := by
  simp [withGroups, eq_comm]

theorem admits_singleton {group : Group} : given.Admits [group] ↔
    (given.validator = none ∨ group.value? .validator = none) ∧
      (given.list = false ∨ group ≠ .list) := by
  have hvalidator (validator value : Option String) :
      validator.toList.length + value.toList.length ≤ 1 ↔ validator = none ∨ value = none := by
    cases validator <;> cases value <;> simp
  have hlist (list : Bool) :
      list.toNat + [group].count .list ≤ 1 ↔ list = false ∨ group ≠ .list := by
    by_cases hgroup : group = .list <;> cases list <;> simp [hgroup]
  rw [Admits, Group.values_singleton, hvalidator, hlist]

/-- A group is added if it is not empty where it must not be, and is not one too many. -/
theorem addGroup_eq_ok_iff {group : Group} : given.addGroup group = .ok given' ↔
    group.IsFilled ∧ given.Admits [group] ∧ given.withGroups [group] = given' := by
  rw [withGroups_singleton, admits_singleton]
  cases group with
  | path text =>
      simp [addGroup, addPaths_eq_ok_iff, Group.IsFilled, Group.path?, Group.value?]
  | separate option value | joined option value =>
      cases option with
      | validator =>
          cases hvalidator : given.validator <;>
            simp [addGroup, addValidator_eq_ok_iff, Group.IsFilled, Group.path?, Group.value?,
              hvalidator]
      | validatorArg | extension =>
          simp [addGroup, addValue, Group.IsFilled, Group.path?, Group.value?]
  | list =>
      simp [addGroup, addList_eq_ok_iff, Group.IsFilled, Group.path?, Group.value?]

end Given

end ShaderLiterals.CommandLine
