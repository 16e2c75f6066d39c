import ShaderLiterals.Proofs.Check.BrokenSink
import ShaderLiterals.Proofs.Check.NumberedFiles
import ShaderLiterals.Proofs.Check.Passing
import ShaderLiterals.Proofs.Check.TemporaryFile
import ShaderLiterals.Proofs.Check.Turns

/-!
# What a program gets, and what it leaves

A check with another program starts it once for each shader (`External.prepare`), while the shader
lies in a temporary file of its own (`External.IsHanded`), unless it cannot be put into one
(`External.IsRefused`).  As long as the program lets the directory for temporary files alone
(`External.LeavesTemp`), each turn leaves that directory as it was (`External.sameTemp_validator`),
and so does the check, however it ends (`checkLines_external`).
-/

namespace ShaderLiterals

open Files

/-- A start of a program on a temporary file. -/
structure Spawn where
  file : TemporaryFile
  arguments : List String
  /-- The machine that the program starts on. -/
  machine : Machine
deriving DecidableEq, Repr

/-- What the program did, apart from what it wrote to stderr. -/
def Outcome.withoutErrors (outcome : Outcome) : Outcome :=
  { outcome with errors := [] }

/-- Two programs do the same, apart from what they write to stderr. -/
def AgreeButErrors (one other : Except SpawnFault (Outcome × Machine)) : Prop :=
  one.map (Prod.map Outcome.withoutErrors id) = other.map (Prod.map Outcome.withoutErrors id)

namespace External

variable {files : TemporaryFiles} {programs others : Programs} {external : External}
  {machine other left : Machine} {shader : Shader} {shaders : List Shader} {spawn : Spawn}
  {directory : Location} {fault : ValidatorFault}

/-- Puts a shader into a temporary file, for the program to be started on, or tells why it cannot,
and what machine is left then. -/
def prepare (files : TemporaryFiles) (external : External) (machine : Machine) (shader : Shader) :
    Except (ValidatorFault × Machine) Spawn :=
  match TemporaryFile.create files shader.stage machine with
  | .error fault => .error (fault, machine)
  | .ok (file, fresh) =>
      let path := Path.join machine.temp file.name
      match file.write files (Utf8.encode shader.source.toList) fresh with
      | (some cause, written) => .error (.cannotWrite shader.name path cause, file.remove written)
      | (none, written) => .ok ⟨file, external.args ++ [path], written⟩

/-- What comes of a start of the program. -/
def run (programs : Programs) (external : External) (spawn : Spawn) :
    Except SpawnFault (Outcome × Machine) :=
  programs external.program spawn.arguments spawn.machine

/-- The program lets the directory for temporary files alone. -/
def LeavesTemp (programs : Programs) (external : External) : Prop :=
  ∀ arguments machine outcome after,
    programs external.program arguments machine = .ok (outcome, after) → machine.SameTemp after

/-- The program is started while the directory for temporary files holds one file more, whose name
tells the stage and whose bytes are the shader, and gets the path of that file behind its own
arguments. -/
structure IsHanded (external : External) (machine : Machine) (shader : Shader) (spawn : Spawn)
    (directory : Location) : Prop where
  locate : machine.locate machine.temp = .ok directory
  holdsOneMore : machine.HoldsOneMore spawn.machine directory spawn.file.name
    (Utf8.encode shader.source.toList)
  lists : (spawn.machine.tree.namesIn directory).Perm
    (spawn.file.name :: machine.tree.namesIn directory)
  extension : ∃ stem, spawn.file.name = stem ++ "." ++ shader.stage.extension
  arguments : spawn.arguments = external.args ++ [Path.join machine.temp spawn.file.name]
  leads : spawn.machine.locate (Path.join machine.temp spawn.file.name) =
    .ok (directory ++ [spawn.file.name])
  reads : spawn.machine.read (Path.join machine.temp spawn.file.name) =
    .ok (Utf8.encode shader.source.toList)

/-- Why a shader cannot be put into a temporary file. -/
inductive IsRefused (files : TemporaryFiles) (machine : Machine) (shader : Shader) :
    ValidatorFault → Prop where
  | noName {cause : Fault} (h : files.letters machine shader.stage = .error cause) :
      IsRefused files machine shader (.noTemporaryFile machine.temp cause)
  /-- There is no directory for the file, or its name or its path is too long. -/
  | noFile {letters : String} {cause : Fault}
      (hletters : files.letters machine shader.stage = .ok letters)
      (hlong : machine.find machine.temp = .ok .directory →
        Path.isTooLong (Path.join machine.temp (TemporaryFile.nameOf shader.stage letters)) = true ∨
          Path.maxNameBytes < (TemporaryFile.nameOf shader.stage letters).utf8ByteSize) :
      IsRefused files machine shader
        (.noTemporaryFile (Path.join machine.temp (TemporaryFile.nameOf shader.stage letters))
          cause)
  | notWritten {file : TemporaryFile} {fresh : Machine} {count : Nat} {cause : Fault}
      (hcreate : TemporaryFile.create files shader.stage machine = .ok (file, fresh))
      (h : files.interruption fresh file.name (Utf8.encode shader.source.toList) =
        some (count, cause)) :
      IsRefused files machine shader
        (.cannotWrite shader.name (Path.join machine.temp file.name) cause)

/-! ## One turn -/

/-- If the shader was put into a temporary file, then the program is started on it, and the file is
taken away afterwards. -/
theorem validator_eq (files : TemporaryFiles) (programs : Programs) (external : External)
    (shader : Shader) (machine : Machine) :
    external.validator files programs shader machine =
      match external.prepare files machine shader with
      | .error (fault, left) => (.error fault, left)
      | .ok spawn =>
          match external.run programs spawn with
          | .error cause =>
              (.error (.cannotRun external.program cause), spawn.file.remove spawn.machine)
          | .ok (outcome, after) => (.ok (verdict outcome), spawn.file.remove after) := by
  unfold validator External.prepare run
  rcases TemporaryFile.create files shader.stage machine with fault | ⟨file, fresh⟩
  · rfl
  · dsimp only
    rcases file.write files (Utf8.encode shader.source.toList) fresh with ⟨_ | cause, written⟩
    · rfl
    · rfl

theorem validator_of_prepare_error
    (h : external.prepare files machine shader = .error (fault, left)) :
    external.validator files programs shader machine = (.error fault, left) := by
  rw [validator_eq, h]

theorem validator_of_prepare (h : external.prepare files machine shader = .ok spawn) :
    external.validator files programs shader machine =
      match external.run programs spawn with
      | .error cause =>
          (.error (.cannotRun external.program cause), spawn.file.remove spawn.machine)
      | .ok (outcome, after) => (.ok (verdict outcome), spawn.file.remove after) := by
  rw [validator_eq, h]

theorem prepare_of_error
    (hcreate : TemporaryFile.create files shader.stage machine = .error fault) :
    external.prepare files machine shader = .error (fault, machine) := by
  rw [External.prepare, hcreate]

theorem prepare_of_written {file : TemporaryFile} {fresh : Machine}
    (hcreate : TemporaryFile.create files shader.stage machine = .ok (file, fresh))
    (hwrite : files.interruption fresh file.name (Utf8.encode shader.source.toList) = none) :
    external.prepare files machine shader =
      .ok ⟨file, external.args ++ [Path.join machine.temp file.name],
        fresh.setBytes file.id (Utf8.encode shader.source.toList)⟩ := by
  unfold External.prepare TemporaryFile.write
  rw [hcreate]
  dsimp only
  rw [hwrite]

theorem prepare_of_interrupted {file : TemporaryFile} {fresh : Machine} {count : Nat}
    {cause : Fault}
    (hcreate : TemporaryFile.create files shader.stage machine = .ok (file, fresh))
    (hwrite : files.interruption fresh file.name (Utf8.encode shader.source.toList) =
      some (count, cause)) :
    external.prepare files machine shader =
      .error (.cannotWrite shader.name (Path.join machine.temp file.name) cause,
        file.remove (fresh.setBytes file.id
          ((Utf8.encode shader.source.toList).take count))) := by
  unfold External.prepare TemporaryFile.write
  rw [hcreate]
  dsimp only
  rw [hwrite]

theorem exists_isCreated_of_prepare (hfiles : files.Lawful)
    (h : external.prepare files machine shader = .ok spawn) :
    ∃ directory, TemporaryFile.IsCreated machine shader.stage (Utf8.encode shader.source.toList)
      spawn.file spawn.machine directory ∧
        spawn.arguments = external.args ++ [Path.join machine.temp spawn.file.name] := by
  rcases hcreate : TemporaryFile.create files shader.stage machine with fault | ⟨file, fresh⟩
  · rw [prepare_of_error hcreate] at h
    cases h
  · rcases hwrite : files.interruption fresh file.name (Utf8.encode shader.source.toList) with
      _ | ⟨count, cause⟩
    · rw [prepare_of_written hcreate hwrite] at h
      cases h
      obtain ⟨directory, hcreated⟩ := TemporaryFile.exists_isCreated hfiles hcreate
      exact ⟨directory, hcreated.setBytes _, rfl⟩
    · rw [prepare_of_interrupted hcreate hwrite] at h
      cases h

/-- A shader that cannot be put into a file leaves none behind, and there is a reason for it. -/
theorem sameTemp_of_prepare_error (hfiles : files.Lawful)
    (h : external.prepare files machine shader = .error (fault, left)) :
    machine.SameTemp left ∧ IsRefused files machine shader fault := by
  rcases hcreate : TemporaryFile.create files shader.stage machine with fault' | ⟨file, fresh⟩
  · rw [prepare_of_error hcreate] at h
    cases h
    refine ⟨.refl machine, ?_⟩
    rcases TemporaryFile.create_eq_error_iff.1 hcreate with
      ⟨cause, hletters, rfl⟩ | ⟨letters, cause, hletters, hcreateAs, rfl⟩
    · exact .noName hletters
    · refine .noFile hletters ?_
      exact TemporaryFile.isTooLong_or_of_createAs (hfiles.isAlphanum _ _ _ hletters) hcreateAs
  · rcases hwrite : files.interruption fresh file.name (Utf8.encode shader.source.toList) with
      _ | ⟨count, cause⟩
    · rw [prepare_of_written hcreate hwrite] at h
      cases h
    · rw [prepare_of_interrupted hcreate hwrite] at h
      cases h
      obtain ⟨directory, hcreated⟩ := TemporaryFile.exists_isCreated hfiles hcreate
      exact ⟨(hcreated.setBytes _).sameTemp_remove (.refl _), .notWritten hcreate hwrite⟩

theorem exists_isHanded (hfiles : files.Lawful)
    (h : external.prepare files machine shader = .ok spawn) :
    ∃ directory, external.IsHanded machine shader spawn directory := by
  obtain ⟨directory, hcreated, harguments⟩ := exists_isCreated_of_prepare hfiles h
  have hleads := hcreated.locate_file
  rw [hcreated.temp_eq] at hleads
  have hholds := hcreated.holdsOneMore
  exact ⟨directory, hcreated.locate, hholds, hholds.perm_namesIn, hcreated.exists_stem, harguments,
    hleads, hholds.read_eq hleads⟩

theorem IsHanded.of_sameTemp (hsame : machine.SameTemp other)
    (h : external.IsHanded other shader spawn directory) :
    external.IsHanded machine shader spawn directory := by
  have hlocate := hsame.locate.symm.trans h.locate
  have hholds := h.holdsOneMore.of_sameTemp hsame hlocate
  obtain ⟨-, -, -, hextension, harguments, hleads, hreads⟩ := h
  rw [hsame.temp] at harguments hleads hreads
  exact ⟨hlocate, hholds, hholds.perm_namesIn, hextension, harguments, hleads, hreads⟩

/-- However a turn ends, the temporary file is gone. -/
theorem sameTemp_validator (hfiles : files.Lawful)
    (hprograms : ∀ spawn outcome after, external.prepare files machine shader = .ok spawn →
      external.run programs spawn = .ok (outcome, after) → spawn.machine.SameTemp after) :
    machine.SameTemp (external.validator files programs shader machine).2 := by
  rcases hprepare : external.prepare files machine shader with ⟨fault, left⟩ | spawn
  · rw [validator_of_prepare_error hprepare]
    exact (sameTemp_of_prepare_error hfiles hprepare).1
  · obtain ⟨directory, hcreated, -⟩ := exists_isCreated_of_prepare hfiles hprepare
    rw [validator_of_prepare hprepare]
    rcases hrun : external.run programs spawn with cause | ⟨outcome, after⟩
    · exact hcreated.sameTemp_remove (.refl spawn.machine)
    · exact hcreated.sameTemp_remove (hprograms _ _ _ hprepare hrun)

theorem sameTemp_after (hfiles : files.Lawful) (hprograms : external.LeavesTemp programs)
    (shaders : List Shader) (machine : Machine) :
    machine.SameTemp ((external.validator files programs).after machine shaders) := by
  induction shaders generalizing machine with
  | nil => exact .refl machine
  | cons shader rest ih =>
      have hturn : machine.SameTemp (external.validator files programs shader machine).2 :=
        sameTemp_validator hfiles fun _ _ _ _ hrun => hprograms _ _ _ _ hrun
      exact hturn.trans (ih _)

/-- What a program writes to stderr has no say. -/
theorem validator_congr
    (h : ∀ spawn, external.prepare files machine shader = .ok spawn →
      AgreeButErrors (external.run others spawn) (external.run programs spawn)) :
    external.validator files others shader machine =
      external.validator files programs shader machine := by
  cases hprepare : external.prepare files machine shader with
  | error left => rw [validator_of_prepare_error hprepare, validator_of_prepare_error hprepare]
  | ok spawn =>
      rw [validator_of_prepare hprepare, validator_of_prepare hprepare]
      have hagree := h spawn hprepare
      unfold AgreeButErrors at hagree
      generalize external.run others spawn = answer at hagree ⊢
      generalize external.run programs spawn = answer' at hagree ⊢
      rcases answer with cause | ⟨outcome, after⟩ <;>
        rcases answer' with cause' | ⟨outcome', after'⟩
      · cases hagree
        rfl
      · cases hagree
      · cases hagree
      · obtain ⟨houtcome, rfl⟩ := Prod.mk.inj (Except.ok.inj hagree)
        obtain ⟨ending, output, errors⟩ := outcome
        obtain ⟨ending', output', errors'⟩ := outcome'
        cases houtcome
        rfl

/-- What becomes of a shader that was put into a temporary file hangs on how the program ends: it
passes if that is a success, and otherwise the output is what is said against it. -/
theorem answer_of_run {outcome : Outcome} {after : Machine}
    (hprepare : external.prepare files machine shader = .ok spawn)
    (hrun : external.run programs spawn = .ok (outcome, after)) :
    ((external.validator files programs shader machine).1 = .ok .passed ↔
        outcome.ending = .exited 0) ∧
      (outcome.ending ≠ .exited 0 → (external.validator files programs shader machine).1 =
        .ok (.failed (String.ofList (Utf8.decodeLossy outcome.output)))) := by
  rw [validator_of_prepare hprepare, hrun]
  dsimp only
  constructor
  · rw [Except.ok.injEq]
    exact verdict_eq_passed_iff
  · intro hending
    rw [verdict_of_ne_success hending]

end External

/-! ## Programs that look at one file -/

/-- The programs that answer by their arguments, and by what is in the file that the last of these
leads to.  They change nothing. -/
def Programs.ofFunction
    (answer : String → List String → List UInt8 → Except SpawnFault Outcome) : Programs :=
  fun program arguments machine =>
    let path := arguments.getLast?.getD ""
    let content := (machine.read path).toOption.getD []
    (answer program arguments content).map (·, machine)

theorem External.leavesTemp_ofFunction
    (answer : String → List String → List UInt8 → Except SpawnFault Outcome)
    (external : External) : external.LeavesTemp (.ofFunction answer) := by
  intro arguments machine outcome after h
  unfold Programs.ofFunction at h
  dsimp only at h
  generalize answer external.program arguments _ = answered at h
  cases answered with
  | error cause => cases h
  | ok outcome =>
      cases h
      exact .refl machine

/-! ## Whole checks -/

/-- A check with a program that lets the directory for temporary files alone leaves that directory
as it was, however the check ends.  Each time the program is started there is exactly one file more
in it, that of the shader whose turn it is, and the program gets the path of this file behind its
own arguments.  The shader passes if the program exits with success; otherwise its output is the
diagnostic.  A program that cannot be started, or a file that cannot be made or written, ends the
check.  All the check knows of the program is what it did at these starts, except for what it wrote
to stderr. -/
theorem checkLines_external {files : TemporaryFiles} {programs : Programs} {external : External}
    (hfiles : files.Lawful) (hprograms : external.LeavesTemp programs) (names : Escape.Names)
    (path : String) (lines : List SourceLine) (machine : Machine) (sink : Sink) :
    let validator := external.validator files programs
    let result := checkLines names validator path lines (.start machine sink)
    let turns := validator.turns machine result.2.seen
    machine.SameTemp result.2.machine ∧
      result.2.seen <+: (extract names lines).shaders ∧
      (∀ turn ∈ turns, ∀ spawn, external.prepare files turn.2 turn.1 = .ok spawn →
        (∃ directory, external.IsHanded machine turn.1 spawn directory) ∧
          (∀ cause, external.run programs spawn = .error cause → result.1 =
            .error (.cannotValidate turn.1.name (.cannotRun external.program cause))) ∧
          ∀ outcome after, external.run programs spawn = .ok (outcome, after) →
            ((validator turn.1 turn.2).1 = .ok .passed ↔ outcome.ending = .exited 0) ∧
              (outcome.ending ≠ .exited 0 → (validator turn.1 turn.2).1 =
                .ok (.failed (String.ofList (Utf8.decodeLossy outcome.output))))) ∧
      (∀ turn ∈ turns, ∀ fault left,
        external.prepare files turn.2 turn.1 = .error (fault, left) →
          result.1 = .error (.cannotValidate turn.1.name fault) ∧ machine.SameTemp turn.2 ∧
            External.IsRefused files turn.2 turn.1 fault) ∧
      (∀ report, result.1 = .ok report →
        result.2.seen = (extract names lines).shaders ∧
          report.checked = result.2.seen.length ∧
          report.failures = validator.failures machine result.2.seen) ∧
      ∀ others : Programs,
        (∀ turn ∈ turns, ∀ spawn, external.prepare files turn.2 turn.1 = .ok spawn →
          AgreeButErrors (external.run others spawn) (external.run programs spawn)) →
        checkLines names (external.validator files others) path lines (.start machine sink) =
          result := by
  intro validator result
  obtain ⟨seen, hextract, hands⟩ := exists_handsOver validator (.start path)
    (extract names lines).fault (extract names lines).shaders (.start machine sink)
  have hresult : result = checkExtracted validator (.start path) (extract names lines).fault
      (extract names lines).shaders (.start machine sink) :=
    checkLines_eq_checkExtracted names _ _ _ _
  have hseen : result.2.seen = seen := by
    rw [hresult, hands.seen_eq]
    exact List.nil_append seen
  rw [hseen]
  intro turns
  have hreached : ∀ turn ∈ turns, machine.SameTemp turn.2 := by
    intro turn hturn
    obtain ⟨before, rest, -, hmachine⟩ := Validator.exists_of_mem_turns hturn
    rw [hmachine]
    exact External.sameTemp_after hfiles hprograms before machine
  refine ⟨?_, hextract, ?_, ?_, ?_, ?_⟩
  · rw [hresult, hands.machine_eq]
    exact External.sameTemp_after hfiles hprograms seen machine
  · intro turn hturn spawn hprepare
    refine ⟨?_, ?_, ?_⟩
    · obtain ⟨directory, hhanded⟩ := External.exists_isHanded hfiles hprepare
      exact ⟨directory, hhanded.of_sameTemp (hreached turn hturn)⟩
    · intro cause hrun
      have hanswer : validator turn.1 turn.2 = _ := External.validator_of_prepare hprepare
      rw [hresult]
      apply hands.refused turn hturn
      rw [hanswer, hrun]
    · intro outcome after hrun
      exact External.answer_of_run hprepare hrun
  · intro turn hturn fault left hprepare
    refine ⟨?_, hreached turn hturn, (External.sameTemp_of_prepare_error hfiles hprepare).2⟩
    have hanswer : validator turn.1 turn.2 = _ := External.validator_of_prepare_error hprepare
    rw [hresult]
    apply hands.refused turn hturn
    rw [hanswer]
  · intro report hreport
    rw [hresult] at hreport
    obtain ⟨hall, hchecked, hfailures⟩ := hands.reported report hreport
    rw [hchecked, hfailures]
    exact ⟨hall, Nat.zero_add _, List.nil_append _⟩
  · intro others hothers
    rw [checkLines_eq_checkExtracted, hresult]
    apply hands.congr
    intro turn hturn
    exact External.validator_congr (hothers turn hturn)

/-- The shader does not compile and the sink is broken, so the check ends there. -/
theorem checkLines_external_brokenSink :
    let external : External := ⟨"glslangValidator", ["-l"]⟩
    let programs := Programs.ofFunction fun _ _ _ => .ok ⟨.exited 2, [98, 97, 100], []⟩
    let validator := external.validator NumberedFiles.files programs
    let names : Escape.Names := fun _ => none
    let shader : Shader := ⟨"aFragmentSource", .fragment, "void", 1⟩
    let lines := ["let aFragmentSource = \"\"\"", "void", "\"\"\""].map .ok
    let result := checkLines names validator "a.swift" lines (.start .empty .broken)
    NumberedFiles.files.Lawful ∧ external.LeavesTemp programs ∧
      (∃ spawn directory, external.prepare NumberedFiles.files .empty shader = .ok spawn ∧
        external.IsHanded .empty shader spawn directory) ∧
      result.1 = .error .brokenSink ∧ Machine.empty.SameTemp result.2.machine := by
  intro external programs validator names shader lines result
  have hprograms : external.LeavesTemp programs := External.leavesTemp_ofFunction _ external
  have hplace : Machine.empty.locate Machine.empty.temp = .ok ["tmp", "shaders"] := by
    refine Machine.locate_eq_ok_iff.2 ⟨by decide, ?_⟩
    exact Tree.follow_of_get? (by decide) rfl nofun
  have hletters : NumberedFiles.files.letters .empty .fragment = .ok "000000" := by
    unfold NumberedFiles.files NumberedFiles.letters
    dsimp only
    rw [hplace]
    decide +kernel
  have hcreate := TemporaryFile.create_eq_ok_iff.2 ⟨_, hletters,
    TemporaryFile.createAs_of_short hplace rfl (by decide) (by decide)⟩
  obtain ⟨spawn, hprepare⟩ : ∃ spawn,
      external.prepare NumberedFiles.files .empty shader = .ok spawn :=
    ⟨_, External.prepare_of_written hcreate rfl⟩
  have hrun : external.run programs spawn = .ok (⟨.exited 2, [98, 97, 100], []⟩, spawn.machine) :=
    rfl
  have hanswer : (validator shader .empty).1 = .ok (.failed "bad") := by
    have hverdict : External.verdict ⟨.exited 2, [98, 97, 100], []⟩ = .failed "bad" := by
      decide +kernel
    have hvalidator : validator shader .empty = _ := External.validator_of_prepare hprepare
    rw [hvalidator, hrun]
    exact congrArg Except.ok hverdict
  have hextract : extract names lines = ⟨[shader], none⟩ := by decide +kernel
  have hresult : result =
      (.error .brokenSink, ⟨(validator shader .empty).2, .broken, [shader]⟩) := by
    refine (checkLines_eq_checkExtracted _ _ _ _ _).trans ?_
    rw [hextract, checkExtracted, Session.start, checkShader_broken_of_failed _ hanswer]
    rfl
  have hseen : result.2.seen = [shader] := congrArg (·.2.seen) hresult
  obtain ⟨hsame, -, hturns, -⟩ := checkLines_external NumberedFiles.files_lawful hprograms names
    "a.swift" lines .empty .broken
  have hturn : (shader, Machine.empty) ∈ validator.turns .empty result.2.seen := by
    rw [hseen]
    exact List.mem_cons_self
  obtain ⟨⟨directory, hhanded⟩, -⟩ := hturns _ hturn _ hprepare
  exact ⟨NumberedFiles.files_lawful, hprograms, ⟨spawn, directory, hprepare, hhanded⟩,
    congrArg Prod.fst hresult, hsame⟩

end ShaderLiterals
