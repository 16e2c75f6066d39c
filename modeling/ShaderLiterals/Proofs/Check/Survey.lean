import ShaderLiterals.Check.Listing
import ShaderLiterals.Proofs.Check.Course
import ShaderLiterals.Proofs.Files.Lookup

/-!
# Files surveyed before they are checked or listed

A survey finds the shaders of files in order, each with its path, up to the first fault.  A listing
prints exactly what the survey finds (`listFiles_eq_survey`).  A check hands what it finds to the
validator, and finds what the validator has made of the files by then: that is a survey too, unless
it never ends (`surveyDuring`).  If it does, the check is one of the shaders found in it
(`checkFiles_eq_checkExtracted`), and a check that can write comes to an end only then
(`checkFiles_working`).  With a validator that judges everything and leaves the files alone,
checking and listing agree.
-/

namespace ShaderLiterals

variable {names : Escape.Names}

/-- What there is to find in files: the shaders, each with the path of its file, and the fault that
ends the search, if one does. -/
structure Survey where
  found : List (String × Shader)
  fault : Option CheckFault
deriving DecidableEq, Repr

namespace Survey

def empty : Survey := ⟨[], none⟩

/-- A search that finds nothing but a fault. -/
def failed (fault : CheckFault) : Survey := ⟨[], some fault⟩

/-- What there is to find if the shaders of one file come first. -/
def after (path : String) (shaders : List Shader) (rest : Survey) : Survey :=
  ⟨shaders.map (path, ·) ++ rest.found, rest.fault⟩

variable (survey : Survey)

/-- The shaders, wherever they were found. -/
def shaders : List Shader := survey.found.map Prod.snd

/-- The shaders, one line each. -/
def listing : String :=
  String.join (survey.found.map fun place => listingLine place.1 place.2)

/-- Something that comes of the survey if no fault ends it. -/
def result {α : Type} (a : α) : Except CheckFault α :=
  match survey.fault with
  | none => .ok a
  | some fault => .error fault

@[simp] theorem shaders_empty : empty.shaders = [] := rfl

@[simp] theorem shaders_failed (fault : CheckFault) : (failed fault).shaders = [] := rfl

@[simp] theorem shaders_after (path : String) (shaders : List Shader) :
    (survey.after path shaders).shaders = shaders ++ survey.shaders := by
  have hsnd : (shaders.map (path, ·)).map Prod.snd = shaders := by
    rw [List.map_map]
    exact List.map_id shaders
  rw [Survey.shaders, after, List.map_append, hsnd, Survey.shaders]

@[simp] theorem listing_empty : empty.listing = "" := rfl

@[simp] theorem listing_failed (fault : CheckFault) : (failed fault).listing = "" := rfl

@[simp] theorem listing_after (path : String) (shaders : List Shader) :
    (survey.after path shaders).listing =
      String.join (shaders.map (listingLine path)) ++ survey.listing := by
  rw [listing, after, List.map_append, String.join_append, List.map_map]
  rfl

variable {survey} {α : Type} {a b : α} {fault : CheckFault}

@[simp] theorem result_empty : empty.result a = .ok a := rfl

@[simp] theorem result_failed : (failed fault).result a = .error fault := rfl

@[simp] theorem result_after {path : String} {shaders : List Shader} :
    (survey.after path shaders).result a = survey.result a := rfl

theorem map_result (f : α → α) : (survey.result a).map f = survey.result (f a) := by
  unfold result
  cases survey.fault <;> rfl

theorem result_eq_ok_iff : survey.result a = .ok b ↔ survey.fault = none ∧ a = b := by
  unfold result
  cases survey.fault <;> simp

theorem result_eq_error_iff : survey.result a = .error fault ↔ survey.fault = some fault := by
  unfold result
  cases survey.fault <;> simp

end Survey

namespace Machine

/-- Searches files in order. -/
def survey (names : Escape.Names) (machine : Machine) : List String → Survey
  | [] => .empty
  | path :: paths =>
      match machine.lines path with
      | .error cause => .failed (.cannotOpen path cause)
      | .ok lines =>
          match (extract names lines).fault with
          | some cause =>
              Survey.after path (extract names lines).shaders (.failed (.cannotExtract path cause))
          | none => Survey.after path (extract names lines).shaders (machine.survey names paths)

/-- What there is to find hangs on what there is to read. -/
theorem survey_congr {machine other : Machine} {paths : List String}
    (h : ∀ path ∈ paths, machine.SameAt other path) :
    other.survey names paths = machine.survey names paths := by
  induction paths with
  | nil => rfl
  | cons path paths ih =>
      rw [survey, survey, (h path List.mem_cons_self).lines,
        ih fun path hmem => h path (List.mem_cons_of_mem _ hmem)]

variable {machine : Machine} {path : String} {paths : List String} {lines : List SourceLine}

@[simp] theorem survey_nil (names : Escape.Names) (machine : Machine) :
    machine.survey names [] = .empty := rfl

theorem survey_of_lines_error {cause : Files.Fault} (h : machine.lines path = .error cause) :
    machine.survey names (path :: paths) = .failed (.cannotOpen path cause) := by
  rw [survey, h]

theorem survey_of_fault {cause : ExtractFault} (h : machine.lines path = .ok lines)
    (hfault : (extract names lines).fault = some cause) :
    machine.survey names (path :: paths) =
      Survey.after path (extract names lines).shaders (.failed (.cannotExtract path cause)) := by
  rw [survey, h]
  dsimp only
  rw [hfault]

theorem survey_of_no_fault (h : machine.lines path = .ok lines)
    (hfault : (extract names lines).fault = none) :
    machine.survey names (path :: paths) =
      Survey.after path (extract names lines).shaders (machine.survey names paths) := by
  rw [survey, h]
  dsimp only
  rw [hfault]

end Machine

/-! ## Listing -/

/-- Listing while lines are read is listing what can be extracted from them. -/
theorem listFrom_eq_extractFrom (names : Escape.Names) (path : String) (count : Nat)
    (cursor : Cursor) (lines : List SourceLine) (text : String) :
    listFrom names path count ⟨cursor, false⟩ lines ⟨text, false⟩ =
      (match (extractFrom names cursor lines).fault with
        | none => .ok (count + (extractFrom names cursor lines).shaders.length)
        | some cause => .error (.cannotExtract path cause),
        ⟨text ++ String.join ((extractFrom names cursor lines).shaders.map (listingLine path)),
          false⟩) := by
  induction cursor, lines using Extraction.pull_induction generalizing count text with
  | nothing cursor lines extraction unread hpull hextract =>
      rw [listFrom, hpull, hextract]
      simp [Extracted.empty]
  | fault cursor lines fault extraction unread hpull hextract =>
      rw [listFrom, hpull, hextract]
      simp
  | shader cursor lines shader next unread hpull hextract ih =>
      rw [listFrom, hpull, hextract]
      dsimp only [Extracted.cons, Sink.write_working]
      rw [ih, List.length_cons, List.map_cons, String.join_cons, String.append_assoc,
        Nat.add_assoc, Nat.add_comm 1]

/-- A listing prints what the survey finds. -/
theorem listFilesFrom_eq_survey (names : Escape.Names) (machine : Machine) (count : Nat)
    (paths : List String) (text : String) :
    listFilesFrom names machine count paths ⟨text, false⟩ =
      ((machine.survey names paths).result (count + (machine.survey names paths).shaders.length),
        ⟨text ++ (machine.survey names paths).listing, false⟩) := by
  induction paths generalizing count text with
  | nil => simp [listFilesFrom]
  | cons path paths ih =>
      rw [listFilesFrom]
      cases hlines : machine.lines path with
      | error cause =>
          rw [Machine.survey_of_lines_error hlines]
          simp
      | ok lines =>
          have hlist : listFrom names path count .start lines ⟨text, false⟩ = _ :=
            listFrom_eq_extractFrom names path count .start lines text
          dsimp only
          rw [hlist]
          cases hfault : (extractFrom names .start lines).fault with
          | some cause =>
              rw [Machine.survey_of_fault hlines hfault]
              simp [extract]
          | none =>
              rw [Machine.survey_of_no_fault hlines hfault]
              dsimp only
              rw [ih]
              simp [extract, String.append_assoc, Nat.add_assoc]

theorem listFiles_eq_survey (names : Escape.Names) (machine : Machine) (paths : List String) :
    listFiles names machine paths .working =
      ((machine.survey names paths).result (machine.survey names paths).shaders.length,
        ⟨(machine.survey names paths).listing, false⟩) := by
  rw [listFiles, Sink.working, listFilesFrom_eq_survey, Nat.zero_add, String.empty_append]

/-! ## Checking -/

/-- What ends the check of a file with some lines: a shader that is not judged, or else the fault of
the extraction. -/
def Machine.faultDuring (names : Escape.Names) (validator : Validator) (machine : Machine)
    (path : String) (lines : List SourceLine) : Option CheckFault :=
  validator.refusal? machine (extract names lines).shaders <|>
    (extract names lines).fault.map (.cannotExtract path)

/-- What there is to find in files while the validator is handed what is found, up to the first
shader that it does not judge.  There is nothing if the lines of some file never end. -/
def Machine.surveyDuring (names : Escape.Names) (validator : Validator) (machine : Machine) :
    List String → Option Survey
  | [] => some .empty
  | path :: paths =>
      match machine.openPath path with
      | .error cause => some (.failed (.cannotOpen path cause))
      | .ok reading =>
          (reading.linesDuring names validator .start machine).bind fun lines =>
            let handed := validator.handed machine (extract names lines).shaders
            match machine.faultDuring names validator path lines with
            | some fault => some (Survey.after path handed (.failed fault))
            | none =>
                ((validator.after machine handed).surveyDuring names validator paths).map
                  (Survey.after path handed)

section During

variable {validator : Validator} {machine : Machine} {path : String} {paths : List String}
  {reading : Reading} {lines : List SourceLine}

theorem Machine.surveyDuring_of_open_error {cause : Files.Fault}
    (h : machine.openPath path = .error cause) :
    machine.surveyDuring names validator (path :: paths) =
      some (.failed (.cannotOpen path cause)) := by
  rw [surveyDuring, h]

theorem Machine.surveyDuring_of_endless (h : machine.openPath path = .ok reading)
    (hlines : reading.linesDuring names validator .start machine = none) :
    machine.surveyDuring names validator (path :: paths) = none := by
  rw [surveyDuring, h]
  dsimp only
  rw [hlines]
  rfl

theorem Machine.surveyDuring_of_fault {fault : CheckFault}
    (h : machine.openPath path = .ok reading)
    (hlines : reading.linesDuring names validator .start machine = some lines)
    (hfault : machine.faultDuring names validator path lines = some fault) :
    machine.surveyDuring names validator (path :: paths) =
      some (Survey.after path (validator.handed machine (extract names lines).shaders)
        (.failed fault)) := by
  rw [surveyDuring, h]
  dsimp only
  rw [hlines, Option.bind_some, hfault]

theorem Machine.surveyDuring_of_no_fault (h : machine.openPath path = .ok reading)
    (hlines : reading.linesDuring names validator .start machine = some lines)
    (hfault : machine.faultDuring names validator path lines = none) :
    let handed := validator.handed machine (extract names lines).shaders
    machine.surveyDuring names validator (path :: paths) =
      ((validator.after machine handed).surveyDuring names validator paths).map
        (Survey.after path handed) := by
  rw [surveyDuring, h]
  dsimp only
  rw [hlines, Option.bind_some, hfault]

/-- If nothing ends the check of a file, its shaders were judged, all of them. -/
theorem Machine.faultDuring_eq_none_iff :
    machine.faultDuring names validator path lines = none ↔
      validator.Judges machine (extract names lines).shaders ∧
        (extract names lines).fault = none := by
  rw [faultDuring, ← Validator.refusal?_eq_none_iff]
  cases validator.refusal? machine (extract names lines).shaders with
  | none => simp
  | some fault => simp

/-- With a working sink, the shaders that do not compile are reported, and nothing else is. -/
theorem checkReading_start_working (text : String) (seen : List Shader)
    (hlines : reading.linesDuring names validator .start machine = some lines) :
    let handed := validator.handed machine (extract names lines).shaders
    checkReading names validator (.start path) .start reading ⟨machine, ⟨text, false⟩, seen⟩ =
      some (match machine.faultDuring names validator path lines with
        | some fault => .error fault
        | none => .ok ⟨path, (extract names lines).shaders.length,
            validator.failures machine (extract names lines).shaders⟩,
        ⟨validator.after machine handed,
          ⟨text ++ reports (validator.failures machine handed), false⟩, seen ++ handed⟩) := by
  intro handed
  rw [checkReading_of_linesDuring hlines, Extraction.start, checkFrom_eq_checkExtracted,
    checkExtracted_working, FileReport.start, Nat.zero_add, List.nil_append]
  rfl

/-- With a working sink, the check of files comes to an end if and only if there is one to what is
found, and then it ends as the survey does. -/
theorem checkFiles_working (names : Escape.Names) (validator : Validator) (machine : Machine)
    (paths : List String) (text : String) (seen : List Shader) :
    checkFiles names validator paths ⟨machine, ⟨text, false⟩, seen⟩ =
      (machine.surveyDuring names validator paths).map fun survey =>
        (survey.result (!(validator.failures machine survey.shaders).isEmpty),
          ⟨validator.after machine survey.shaders,
            ⟨text ++ reports (validator.failures machine survey.shaders), false⟩,
            seen ++ survey.shaders⟩) := by
  induction paths generalizing machine text seen with
  | nil => simp [checkFiles, Machine.surveyDuring]
  | cons path paths ih =>
      rw [checkFiles, checkFile]
      cases hopen : machine.openPath path with
      | error cause =>
          rw [Machine.surveyDuring_of_open_error hopen]
          simp
      | ok reading =>
          dsimp only
          cases hlines : reading.linesDuring names validator .start machine with
          | none =>
              rw [checkReading_working rfl, hlines, Machine.surveyDuring_of_endless hopen hlines]
              rfl
          | some lines =>
              rw [checkReading_start_working text seen hlines]
              cases hfault : machine.faultDuring names validator path lines with
              | some fault =>
                  rw [Machine.surveyDuring_of_fault hopen hlines hfault, Option.map_some,
                    Survey.shaders_after, Survey.shaders_failed, List.append_nil,
                    Survey.result_after]
                  rfl
              | none =>
                  obtain ⟨hjudges, -⟩ := Machine.faultDuring_eq_none_iff.1 hfault
                  rw [Machine.surveyDuring_of_no_fault hopen hlines hfault,
                    validator.handed_of_judges hjudges]
                  dsimp only
                  rw [ih, Option.map_map, Option.map_map]
                  refine congrArg (Option.map · _) (funext fun survey => ?_)
                  dsimp only [Function.comp_apply]
                  rw [Survey.shaders_after, Survey.result_after, Survey.map_result,
                    Validator.failures_append, Validator.after_append, reports_append,
                    String.append_assoc, List.append_assoc, FileReport.hasErrors]
                  cases validator.failures machine (extract names lines).shaders <;> rfl

/-- What is found while the validator judges everything and leaves the files alone is what there was
to find. -/
theorem Machine.surveyDuring_eq_survey (hjudges : ∀ shaders, validator.Judges machine shaders)
    (h : ∀ path ∈ paths, ∀ shaders, machine.SameAt (validator.after machine shaders) path) :
    machine.surveyDuring names validator paths = some (machine.survey names paths) := by
  induction paths generalizing machine with
  | nil => rfl
  | cons path paths ih =>
      have hpath := h path List.mem_cons_self
      cases hopen : machine.openPath path with
      | error cause =>
          have hlines : machine.lines path = .error cause := by rw [lines, hopen]; rfl
          rw [surveyDuring_of_open_error hopen, survey_of_lines_error hlines]
      | ok reading =>
          have hlines : machine.lines path = .ok (reading.lines machine) := by
            rw [lines, hopen]
            rfl
          have hduring : reading.linesDuring names validator .start machine =
              some (reading.lines machine) :=
            Reading.linesDuring_eq_lines hjudges fun shaders => (hpath shaders).isSame hopen
          cases hfault : (extract names (reading.lines machine)).fault with
          | some cause =>
              have hend : machine.faultDuring names validator path (reading.lines machine) =
                  some (.cannotExtract path cause) := by
                rw [faultDuring, validator.refusal?_of_judges (hjudges _), hfault]
                rfl
              rw [surveyDuring_of_fault hopen hduring hend, survey_of_fault hlines hfault,
                validator.handed_of_judges (hjudges _)]
          | none =>
              rw [surveyDuring_of_no_fault hopen hduring
                  (faultDuring_eq_none_iff.2 ⟨hjudges _, hfault⟩),
                survey_of_no_fault hlines hfault, validator.handed_of_judges (hjudges _)]
              generalize (extract names (reading.lines machine)).shaders = shaders
              -- The rest is searched on the machine that the validator leaves.
              have hmore : ∀ more, validator.Judges (validator.after machine shaders) more :=
                fun more => ((validator.judges_append machine shaders more).1 (hjudges _)).2
              have hrest : ∀ other ∈ paths, ∀ more, (validator.after machine shaders).SameAt
                  (validator.after (validator.after machine shaders) more) other :=
                fun other hmem more => (h other (List.mem_cons_of_mem _ hmem) shaders).between
                  (validator.after_append machine shaders more ▸
                    h other (List.mem_cons_of_mem _ hmem) _)
              rw [ih hmore hrest, survey_congr fun other hmem =>
                h other (List.mem_cons_of_mem _ hmem) shaders]
              rfl

end During

/-! ## Checking and listing -/

/-- A validator that judges everything and leaves the files alone is handed what the survey
finds. -/
theorem checkFiles_eq_survey (names : Escape.Names) {validator : Validator} {machine : Machine}
    {paths : List String} (hjudges : ∀ shaders, validator.Judges machine shaders)
    (hfiles : ∀ path ∈ paths, ∀ shaders, machine.SameAt (validator.after machine shaders) path)
    (text : String) (seen : List Shader) :
    let survey := machine.survey names paths
    checkFiles names validator paths ⟨machine, ⟨text, false⟩, seen⟩ =
      some (survey.result (!(validator.failures machine survey.shaders).isEmpty),
        ⟨validator.after machine survey.shaders,
          ⟨text ++ reports (validator.failures machine survey.shaders), false⟩,
          seen ++ survey.shaders⟩) := by
  rw [checkFiles_working, Machine.surveyDuring_eq_survey hjudges hfiles]
  rfl

/-- A check with a validator that judges everything and leaves the files alone, and a listing of the
same files: the check comes to an end, the shaders that the validator is handed are the ones listed,
each with its path, and both end the same way. -/
theorem checkFiles_agrees_listFiles (names : Escape.Names) {validator : Validator}
    {machine : Machine} {paths : List String}
    (hjudges : ∀ shaders, validator.Judges machine shaders)
    (hfiles : ∀ path ∈ paths, ∀ shaders, machine.SameAt (validator.after machine shaders) path) :
    let listed := listFiles names machine paths .working
    let found := (machine.survey names paths).found
    ∃ checked, checkFiles names validator paths (.start machine .working) = some checked ∧
      checked.2.seen = found.map Prod.snd ∧
      listed.2.text = String.join (found.map fun place =>
        place.1 ++ ":" ++ toString place.2.line ++ " " ++ place.2.name ++ " " ++
          place.2.stage.describe ++ "\n") ∧
      ((∃ hasErrors, checked.1 = .ok hasErrors) ↔ ∃ count, listed.1 = .ok count) ∧
      (∀ count, listed.1 = .ok count → count = checked.2.seen.length) ∧
      ∀ fault, checked.1 = .error fault ↔ listed.1 = .error fault := by
  intro listed found
  have hlisted : listed = _ := listFiles_eq_survey names machine paths
  refine ⟨_, checkFiles_eq_survey names hjudges hfiles "" [], ?_⟩
  rw [hlisted]
  refine ⟨List.nil_append _, rfl, ?_, ?_, fun fault => ?_⟩
  · simp only [Survey.result_eq_ok_iff, exists_and_left, exists_eq', and_true]
  · intro count hcount
    obtain ⟨-, rfl⟩ := Survey.result_eq_ok_iff.1 hcount
    rfl
  · rw [Survey.result_eq_error_iff, Survey.result_eq_error_iff]

/-- A machine with two files, the first of which holds a shader. -/
def twoFiles : Machine :=
  { Machine.empty with
    tree := ⟨(["home", "root", "a.swift"], .file 0) :: (["home", "root", "b.swift"], .file 1) ::
      Machine.empty.tree.entries⟩
    store := ⟨[⟨Utf8.encode "let aVertexSource = \"\"\"\n\"\"\"\n".toList, 0o644, 0⟩,
      ⟨[], 0o644, 0⟩]⟩ }

theorem find_twoFiles_first : twoFiles.find "a.swift" = .ok (.file 0) :=
  Machine.find_of_get? (by decide) (by decide) (by decide) nofun

theorem find_twoFiles_second : twoFiles.find "b.swift" = .ok (.file 1) :=
  Machine.find_of_get? (by decide) (by decide) (by decide) nofun

theorem survey_twoFiles : twoFiles.survey (fun _ => none) ["a.swift", "b.swift"] =
    ⟨[("a.swift", ⟨"aVertexSource", .vertex, "", 1⟩)], none⟩ := by
  have hfirst := Machine.lines_of_find_file find_twoFiles_first
  have hsecond := Machine.lines_of_find_file find_twoFiles_second
  rw [Machine.survey_of_no_fault hfirst (by decide +kernel),
    Machine.survey_of_no_fault hsecond (by decide +kernel)]
  decide +kernel

theorem checkFiles_agrees_listFiles_twoFiles :
    let names : Escape.Names := fun _ => none
    let validator := Validator.ofFunction fun _ => .ok (.failed "bad")
    let listed := listFiles names twoFiles ["a.swift", "b.swift"] .working
    (∀ shaders, validator.Judges twoFiles shaders) ∧
      (∀ path ∈ ["a.swift", "b.swift"], ∀ shaders,
        twoFiles.SameAt (validator.after twoFiles shaders) path) ∧
      listed.2.text = "a.swift:1 aVertexSource vertex\n" ∧
      ∃ checked,
        checkFiles names validator ["a.swift", "b.swift"] (.start twoFiles .working) =
          some checked ∧
        checked.2.seen = [⟨"aVertexSource", .vertex, "", 1⟩] := by
  intro names validator listed
  have hjudges : ∀ shaders, validator.Judges twoFiles shaders :=
    validator.judges_of_forall (fun _ _ => ⟨_, rfl⟩) twoFiles
  have hfiles : ∀ path ∈ ["a.swift", "b.swift"], ∀ shaders,
      twoFiles.SameAt (validator.after twoFiles shaders) path := fun path _ shaders =>
    (Validator.after_ofFunction _ twoFiles shaders).symm ▸ .refl twoFiles path
  obtain ⟨checked, hchecked, hseen, htext, -⟩ := checkFiles_agrees_listFiles names hjudges hfiles
  rw [survey_twoFiles] at hseen htext
  exact ⟨hjudges, hfiles, htext, checked, hchecked, hseen⟩

/-! ## Files that change under a check -/

/-- Lets every shader pass, and takes away what stands at a location. -/
def removing (location : Files.Location) : Validator := fun _ machine =>
  (.ok .passed, machine.erase location)

theorem store_after_removing (location : Files.Location) (machine : Machine)
    (shaders : List Shader) :
    ((removing location).after machine shaders).store = machine.store := by
  induction shaders generalizing machine with
  | nil => rfl
  | cons shader shaders ih => exact ih (machine.erase location)

/-- The first file is checked as it stands, and the second one is gone after that. -/
theorem checkFile_removing :
    checkFile (fun _ => none) (removing ["home", "root", "b.swift"]) "a.swift"
        (.start twoFiles .working) =
      some (.ok ⟨"a.swift", 1, []⟩,
        ⟨twoFiles.erase ["home", "root", "b.swift"], .working,
          [⟨"aVertexSource", .vertex, "", 1⟩]⟩) := by
  have hopen : twoFiles.openPath "a.swift" = .ok (.file (.start 0)) := by
    rw [Machine.openPath, find_twoFiles_first]
  have hsame : ∀ shaders, Reading.IsSame twoFiles
      ((removing ["home", "root", "b.swift"]).after twoFiles shaders) (.file (.start 0)) :=
    fun shaders =>
      congrArg (fun store : Files.Store => store.bytes 0) (store_after_removing _ _ shaders)
  rw [checkFile, Session.start, hopen]
  dsimp only
  rw [checkReading_eq_checkFrom hsame, Extraction.start, checkFrom_eq_checkExtracted]
  decide +kernel

/-- If the file that comes next is gone by then, the check fails where the listing does not. -/
theorem removing_disagrees :
    let names : Escape.Names := fun _ => none
    (∀ shader machine, (removing ["home", "root", "b.swift"] shader machine).1 = .ok .passed) ∧
      (listFiles names twoFiles ["a.swift", "b.swift"] .working).1 = .ok 1 ∧
      ∃ last, checkFiles names (removing ["home", "root", "b.swift"]) ["a.swift", "b.swift"]
        (.start twoFiles .working) = some (.error (.cannotOpen "b.swift" .notFound), last) := by
  intro names
  refine ⟨fun _ _ => rfl, ?_, ?_⟩
  · rw [listFiles_eq_survey, survey_twoFiles]
    rfl
  · have hname : Files.Path.ofText "b.swift" = ⟨false, ["b.swift"]⟩ := by decide
    have hgone : (twoFiles.erase ["home", "root", "b.swift"]).find "b.swift" = .error .notFound :=
      Machine.find_of_get?_none (by decide) hname (by decide) (by decide) (by decide)
    rw [checkFiles, checkFile_removing]
    dsimp only
    rw [checkFiles, checkFile, Machine.openPath, hgone]
    exact ⟨_, rfl⟩

end ShaderLiterals
