import ShaderLiterals.Check.Listing
import ShaderLiterals.Proofs.Check.Course
import ShaderLiterals.Proofs.Files.Directory

/-!
# Checking and listing what paths stand for

A fault can say of a path that it leads nowhere, or to a directory (`CheckFault.lookup?`), and then
that is true of one of the paths (`listFilesFrom_lookup?`, `checkFiles_lookup?`).  No path that
others stand for leads to a directory, and those that were found lead to files, so no check or
listing of them reads a directory, or fails to open what was found unless its path is too long.
-/

namespace ShaderLiterals

variable {names : Escape.Names}

/-! ## Faults of extraction -/

/-- A line that cannot be read is reported only if it is there. -/
theorem error_mem_of_fault_extractFrom {cursor : Cursor} {lines : List SourceLine} {n : Nat}
    {cause : ReadFault} (h : (extractFrom names cursor lines).fault = some (.unreadable n cause)) :
    .error cause ∈ lines := by
  fun_induction extractFrom names cursor lines with
  | case1 => cases h
  | case2 =>
      cases h
      exact List.mem_cons_self
  | case3 cursor line rest literal next hnext shader hshader ih =>
      exact List.mem_cons_of_mem _ (ih h)
  | case4 cursor line rest literal next hnext fault hfault =>
      -- the fault of a literal is that it cannot be decoded
      cases h
      rw [Literal.extract] at hfault
      cases hshader : literal.shader names <;> rw [hshader] at hfault <;> cases hfault
  | case5 cursor line rest role next hrole hnext ih => exact List.mem_cons_of_mem _ (ih h)

/-- So it is when shaders are pulled one by one. -/
theorem error_mem_of_pull {extraction : Extraction} {lines : List SourceLine} {n : Nat}
    {cause : ReadFault}
    (h : (extraction.pull names lines).result = some (.error (.unreadable n cause))) :
    .error cause ∈ lines := by
  obtain ⟨cursor, failed⟩ := extraction
  cases failed with
  | true => cases h
  | false =>
      have hextract := extractFrom_eq_pullFrom names cursor lines
      change (Extraction.pullFrom names cursor lines).result = _ at h
      rcases hpull : Extraction.pullFrom names cursor lines with ⟨result, next, unread⟩
      rw [hpull] at h hextract
      obtain rfl : result = some (.error (.unreadable n cause)) := h
      exact error_mem_of_fault_extractFrom (congrArg Extracted.fault hextract)

/-- A listing of lines fails by its sink, or as the extraction does. -/
theorem listFrom_eq_error {path : String} {count : Nat} {cursor : Cursor}
    {lines : List SourceLine} {sink : Sink} {fault : CheckFault}
    (h : (listFrom names path count ⟨cursor, false⟩ lines sink).1 = .error fault) :
    fault = .brokenSink ∨
      ∃ cause, (extractFrom names cursor lines).fault = some cause ∧
        fault = .cannotExtract path cause := by
  induction cursor, lines using Extraction.pull_induction generalizing count sink with
  | nothing cursor lines next unread hpull hextract =>
      rw [listFrom, hpull] at h
      cases h
  | fault cursor lines cause next unread hpull hextract =>
      rw [listFrom, hpull] at h
      cases h
      exact .inr ⟨cause, by rw [hextract], rfl⟩
  | shader cursor lines shader next unread hpull hextract ih =>
      rw [listFrom, hpull] at h
      rw [hextract]
      dsimp only at h
      split at h
      · cases h
        exact .inl rfl
      · exact ih h

/-! ## What is read of a directory -/

theorem isDirectory_notMem_linesOfBytes (bytes : List UInt8) :
    .error (.files .isDirectory) ∉ linesOfBytes bytes := by
  intro hmem
  obtain ⟨line, -, hline⟩ := List.mem_map.1 hmem
  rw [SourceLine.ofBytes] at hline
  split at hline <;> cases hline

namespace Reading

/-- Whether the reading is of something else than a directory. -/
def LacksDirectory : Reading → Prop
  | fixed lines => .error (.files .isDirectory) ∉ lines
  | file _ => True

variable {reading : Reading}

theorem LacksDirectory.notMem (h : reading.LacksDirectory) (machine : Machine) :
    .error (.files .isDirectory) ∉ reading.lines machine := by
  cases reading with
  | fixed lines => exact h
  | file f => exact isDirectory_notMem_linesOfBytes _

theorem LacksDirectory.advance (h : reading.LacksDirectory) (machine : Machine) (n : Nat) :
    (reading.advance machine n).LacksDirectory := by
  cases reading with
  | fixed lines => exact fun hmem => h (List.mem_of_mem_drop hmem)
  | file f => trivial

theorem lacksDirectory_of_openPath {machine : Machine} {path : String}
    (h : machine.openPath path = .ok reading) (hfind : machine.find path ≠ .ok .directory) :
    reading.LacksDirectory := by
  unfold Machine.openPath at h
  split at h
  · cases h
  · cases h
    trivial
  · next hdirectory => exact absurd hdirectory hfind
  · cases h
    exact isDirectory_notMem_linesOfBytes _

end Reading

/-! ## What faults say of paths -/

/-- What a fault says of where a path leads: nowhere, or to a directory. -/
def CheckFault.lookup? : CheckFault → Option (String × Except Files.Fault Files.Node)
  | cannotOpen path cause => some (path, .error cause)
  | cannotExtract path (.unreadable _ (.files .isDirectory)) => some (path, .ok .directory)
  | cannotExtract .. | cannotValidate .. | brokenSink => none

theorem lookup?_cannotExtract {path other : String} {cause : ExtractFault}
    {found : Except Files.Fault Files.Node}
    (h : (CheckFault.cannotExtract path cause).lookup? = some (other, found)) :
    other = path ∧ found = .ok .directory ∧
      ∃ n, cause = .unreadable n (.files .isDirectory) := by
  unfold CheckFault.lookup? at h
  split at h
  · next hfault => cases hfault
  · next n hfault =>
    cases hfault
    cases h
    exact ⟨rfl, rfl, n, rfl⟩
  · cases h
  · cases h
  · cases h

/-- The check of a shader goes on with the same file, or fails by its validator or its sink. -/
theorem checkShader_result (validator : Validator) (report : FileReport) (shader : Shader)
    (session : Session) :
    (∀ next, (checkShader validator report shader session).1 = .ok next →
        next.path = report.path) ∧
      ∀ fault, (checkShader validator report shader session).1 = .error fault →
        fault.lookup? = none := by
  unfold checkShader Session.validate
  rcases validator shader session.machine with ⟨cause | (_ | diagnostic), machine⟩
  · exact ⟨fun _ h => (by cases h), fun _ h => (by cases h; rfl)⟩
  · exact ⟨fun _ h => (by cases h; rfl), fun _ h => (by cases h)⟩
  · dsimp only
    split
    · exact ⟨fun _ h => (by cases h), fun _ h => (by cases h; rfl)⟩
    · exact ⟨fun _ h => (by cases h; rfl), fun _ h => (by cases h)⟩

section Lookup

variable {machine : Machine} {path other : String} {paths : List String}
  {found : Except Files.Fault Files.Node} {fault : CheckFault} {reading : Reading}

theorem find_eq_of_openPath_error {cause : Files.Fault}
    (h : machine.openPath path = .error cause) : machine.find path = .error cause := by
  unfold Machine.openPath at h
  split at h
  · next hfind =>
    cases h
    exact hfind
  · cases h
  · cases h
  · cases h

/-! ## Listing -/

/-- What the fault of a listing says of a path is true of one of the paths. -/
theorem listFilesFrom_lookup? {count : Nat} {sink : Sink}
    (h : (listFilesFrom names machine count paths sink).1 = .error fault)
    (hlookup : fault.lookup? = some (path, found)) :
    path ∈ paths ∧ machine.find path = found := by
  induction paths generalizing count sink with
  | nil => cases h
  | cons first paths ih =>
      rw [listFilesFrom, Machine.lines] at h
      cases hopen : machine.openPath first with
      | error cause =>
          rw [hopen] at h
          cases h
          cases hlookup
          exact ⟨List.mem_cons_self, find_eq_of_openPath_error hopen⟩
      | ok reading =>
          rw [hopen] at h
          dsimp only [Except.map] at h
          rcases hlist : listFrom names first count .start (reading.lines machine) sink with
            ⟨failure | count', sink'⟩
          · rw [hlist] at h
            cases h
            rcases listFrom_eq_error (congrArg Prod.fst hlist) with rfl | ⟨cause, hcause, rfl⟩
            · cases hlookup
            · obtain ⟨rfl, rfl, n, rfl⟩ := lookup?_cannotExtract hlookup
              refine ⟨List.mem_cons_self, ?_⟩
              by_contra hfind
              exact (Reading.lacksDirectory_of_openPath hopen hfind).notMem machine
                (error_mem_of_fault_extractFrom hcause)
          · rw [hlist] at h
            obtain ⟨hmem, hfind⟩ := ih h
            exact ⟨List.mem_cons_of_mem _ hmem, hfind⟩

/-! ## Checking -/

variable {validator : Validator}

/-- Goes on with the check of a file: it leaves what the validator leaves that was handed some
shaders, and fails by its validator or its sink, or as a pull does that reads no directory. -/
theorem checkReading_result {report : FileReport} {extraction : Extraction} {session : Session}
    {outcome : Except CheckFault FileReport × Session}
    (h : checkReading names validator report extraction reading session = some outcome) :
    (∃ judged, outcome.2.machine = validator.after session.machine judged) ∧
      ∀ fault, outcome.1 = .error fault →
        fault.lookup? = none ∨
          ∃ cause, fault = .cannotExtract report.path cause ∧
            (reading.LacksDirectory → ∀ n, cause ≠ .unreadable n (.files .isDirectory)) := by
  -- The induction is on the course of the check; each shader is handed on and may change the file.
  refine checkReading_induction (motive := fun report _ reading session outcome =>
    (∃ judged, outcome.2.machine = validator.after session.machine judged) ∧
      ∀ fault, outcome.1 = .error fault →
        fault.lookup? = none ∨
          ∃ cause, fault = .cannotExtract report.path cause ∧
            (reading.LacksDirectory → ∀ n, cause ≠ .unreadable n (.files .isDirectory)))
    ?_ ?_ ?_ ?_ h
  · intro report extraction reading session _
    exact ⟨⟨[], rfl⟩, fun fault h => by cases h⟩
  · intro report extraction reading session cause hresult
    refine ⟨⟨[], rfl⟩, fun fault h => .inr ⟨cause, ?_, ?_⟩⟩
    · cases h
      rfl
    · rintro hreading n rfl
      exact hreading.notMem session.machine (error_mem_of_pull hresult)
  · intro report extraction reading session shader fault next _ hcheck
    have hmachine := machine_checkShader validator report shader session
    obtain ⟨-, hfault⟩ := checkShader_result validator report shader session
    rw [hcheck] at hmachine hfault
    exact ⟨⟨[shader], hmachine⟩, fun fault h => .inl (hfault fault h)⟩
  · intro report extraction reading session shader report' next outcome _ hcheck ih
    have hmachine := machine_checkShader validator report shader session
    obtain ⟨hpath, -⟩ := checkShader_result validator report shader session
    rw [hcheck] at hmachine hpath
    obtain ⟨⟨judged, hjudged⟩, hrest⟩ := ih
    refine ⟨⟨shader :: judged, ?_⟩, fun fault h => ?_⟩
    · rw [Validator.after_cons, ← hmachine]
      exact hjudged
    · rcases hrest fault h with hnone | ⟨cause, hcause, hreads⟩
      · exact .inl hnone
      · exact .inr ⟨cause, hpath report' rfl ▸ hcause,
          fun hreading => hreads (hreading.advance session.machine _)⟩

/-- The check of a file leaves what the validator leaves, and what its fault says of a path is true
of the file. -/
theorem checkFile_result {session : Session} {outcome : Except CheckFault FileReport × Session}
    (hcheck : checkFile names validator path session = some outcome) :
    (∃ judged, outcome.2.machine = validator.after session.machine judged) ∧
      ∀ fault other found, outcome.1 = .error fault →
        fault.lookup? = some (other, found) →
        other = path ∧ session.machine.find path = found := by
  rw [checkFile] at hcheck
  cases hopen : session.machine.openPath path with
  | error cause =>
      rw [hopen] at hcheck
      cases hcheck
      refine ⟨⟨[], rfl⟩, fun fault other found h hlookup => ?_⟩
      cases h
      cases hlookup
      exact ⟨rfl, find_eq_of_openPath_error hopen⟩
  | ok reading =>
      rw [hopen] at hcheck
      obtain ⟨hmachine, hresult⟩ := checkReading_result hcheck
      refine ⟨hmachine, fun fault other found h hlookup => ?_⟩
      rcases hresult fault h with hnone | ⟨cause, rfl, hreads⟩
      · cases hnone.symm.trans hlookup
      · obtain ⟨rfl, rfl, n, rfl⟩ := lookup?_cannotExtract hlookup
        refine ⟨rfl, ?_⟩
        by_contra hfind
        exact hreads (Reading.lacksDirectory_of_openPath hopen hfind) n rfl

/-- What the fault of a check says of a path is true of one of the paths, as the validator has left
the machine by then. -/
theorem checkFiles_lookup? {session last : Session}
    (h : checkFiles names validator paths session = some (.error fault, last))
    (hlookup : fault.lookup? = some (path, found)) :
    path ∈ paths ∧ ∃ judged, (validator.after session.machine judged).find path = found := by
  induction paths generalizing session last with
  | nil => cases h
  | cons first paths ih =>
      rw [checkFiles] at h
      rcases hcheck : checkFile names validator first session with _ | ⟨failure | report, next⟩
      · rw [hcheck] at h
        cases h
      · rw [hcheck] at h
        cases h
        obtain ⟨-, hresult⟩ := checkFile_result hcheck
        obtain ⟨rfl, hfind⟩ := hresult fault path found rfl hlookup
        exact ⟨List.mem_cons_self, [], hfind⟩
      · -- what the first file left is where the check of the others begins
        obtain ⟨⟨judged, hjudged⟩, -⟩ := checkFile_result hcheck
        rw [hcheck] at h
        obtain ⟨⟨result, reached⟩, hrest, hlast⟩ := Option.map_eq_some_iff.1 h
        cases result with
        | ok hasErrors => cases hlast
        | error failure =>
            cases hlast
            obtain ⟨hmem, more, hfind⟩ := ih hrest
            rw [show next.machine = _ from hjudged, ← Validator.after_append] at hfind
            exact ⟨List.mem_cons_of_mem _ hmem, _, hfind⟩

end Lookup

/-! ## What paths stand for -/

/-- Expanding paths goes path by path: what leads to no directory stays in its place, and what leads
to one gives way to the files below it, each under a path that leads to it unless it is too long.
It fails only if below one of the paths there is a directory whose own path is too long.  If it does
not, none of the paths leads to a directory, so expanding them again changes nothing; and neither a
listing nor a check, as long as where they lead stays as it is, reads a directory or fails to open
any of them but one that was given or is too long. -/
theorem expandAll_resolves {machine : Machine} (hnamed : machine.tree.WellNamed)
    (extensions paths : List String) :
    (∀ more, machine.expandAll extensions (paths ++ more) = do
        let files ← machine.expandAll extensions paths
        let others ← machine.expandAll extensions more
        return files ++ others) ∧
      (∀ before path after, paths = before ++ path :: after → machine.isDirectory path = false →
        machine.expandAll extensions paths = do
          let files ← machine.expandAll extensions before
          let others ← machine.expandAll extensions after
          return files ++ path :: others) ∧
      (∀ fault, machine.expandAll extensions paths = .error fault →
        ∃ path ∈ paths, ∃ top way, machine.locate path = .ok top ∧
          machine.tree.Below top way .directory ∧
          Files.Path.isTooLong (Files.Path.joinAll path way) = true ∧
          fault = ⟨path, Files.Path.joinAll path way, .nameTooLong⟩) ∧
      ∀ files, machine.expandAll extensions paths = .ok files →
        (∀ file ∈ files, machine.isDirectory file = false) ∧
        (∀ path ∈ paths, machine.isDirectory path = true →
          ∃ (top : Files.Location) (ways : List Files.Location), machine.locate path = .ok top ∧
            machine.expandAll extensions [path] = .ok (ways.map (Files.Path.joinAll path)) ∧
            ∀ way ∈ ways, ∃ id, machine.tree.Below top way (.file id) ∧
              machine.find (Files.Path.joinAll path way) =
                if Files.Path.isTooLong (Files.Path.joinAll path way) then .error .nameTooLong
                else .ok (.file id)) ∧
        (∀ others, machine.expandAll others files = .ok files) ∧
        ∀ (names : Escape.Names) fault,
          ((∃ sink, (listFiles names machine files sink).1 = .error fault) ∨
            ∃ validator sink seen last,
              (∀ file ∈ files, ∀ shaders,
                (Validator.after validator machine shaders).find file = machine.find file) ∧
              checkFiles names validator files ⟨machine, sink, seen⟩ =
                some (.error fault, last)) →
          (∀ path cause, fault = .cannotOpen path cause →
            path ∈ paths ∨ Files.Path.isTooLong path = true) ∧
          ∀ path n, fault ≠ .cannotExtract path (.unreadable n (.files .isDirectory)) := by
  refine ⟨machine.expandAll_append extensions paths, ?_,
    fun fault h => Machine.exists_of_expandAll_eq_error hnamed h, fun files hexpand => ?_⟩
  · rintro before path after rfl hpath
    rw [Machine.expandAll_append, Machine.expandAll_cons,
      Machine.expand_of_not_isDirectory extensions hpath]
    simp only [bind_assoc, pure_bind]
    rfl
  have hfiles : ∀ file ∈ files, machine.isDirectory file = false := fun _ h =>
    Machine.isDirectory_of_mem_expandAll hnamed hexpand h
  refine ⟨hfiles, ?_, Machine.expandAll_expandAll hnamed hexpand, ?_⟩
  · intro path hmem hpath
    obtain ⟨top, hlocate, htop⟩ := Machine.isDirectory_iff.1 hpath
    obtain ⟨first, hfirst⟩ := Machine.exists_expand_of_mem hexpand hmem
    obtain ⟨-, rfl⟩ := (Machine.expand_eq_ok_iff hlocate htop).1 hfirst
    rw [Machine.expandAll_singleton]
    refine ⟨top, _, hlocate, hfirst, fun way hway => ?_⟩
    obtain ⟨id, hbelow⟩ := Files.Tree.mem_filesBelow_iff.1 (List.mem_filter.1 hway).1
    exact ⟨id, hbelow, Machine.find_joinAll hlocate hbelow nofun hnamed⟩
  · intro names fault hfault
    have hlookup : ∀ path found, fault.lookup? = some (path, found) →
        path ∈ files ∧ machine.find path = found := by
      intro path found hlookup
      rcases hfault with ⟨sink, h⟩ | ⟨validator, sink, seen, last, hsame, h⟩
      · exact listFilesFrom_lookup? h hlookup
      · obtain ⟨hmem, judged, hfind⟩ := checkFiles_lookup? h hlookup
        exact ⟨hmem, (hsame path hmem judged).symm.trans hfind⟩
    refine ⟨?_, ?_⟩
    · rintro path cause rfl
      obtain ⟨hmem, hfind⟩ := hlookup path _ rfl
      exact Machine.mem_or_isTooLong_of_find_error hnamed hexpand hmem hfind
    · rintro path n rfl
      obtain ⟨hmem, hfind⟩ := hlookup path _ rfl
      have hdirectory := hfiles path hmem
      rw [Machine.isDirectory, hfind] at hdirectory
      cases hdirectory

/-- A link to a directory, and a path that leads nowhere. -/
theorem expandAll_resolves_linked :
    Machine.linked.tree.WellNamed ∧
      ∃ files, Machine.linked.expandAll ["swift"] ["way", "gone"] = .ok files ∧
        Machine.linked.expandAll ["glsl"] files = .ok files := by
  have hnamed : Machine.linked.tree.WellNamed := by decide
  obtain ⟨ways, hway⟩ : ∃ ways, Machine.linked.expand ["swift"] "way" = .ok ways :=
    ⟨_, (Machine.expand_eq_ok_iff Machine.locate_linked (by decide)).2
      ⟨fun way hbelow => Machine.checkPath_linked hbelow, rfl⟩⟩
  have hgone : Machine.linked.isDirectory "gone" = false := by
    have hname : Files.Path.ofText "gone" = ⟨false, ["gone"]⟩ := by decide
    rw [Machine.isDirectory, Machine.find_of_get?_none (by decide) hname (by decide) (by decide)
      (by decide)]
  have hexpand := Machine.expandAll_cons_eq_ok_iff.2 ⟨_, _, hway,
    (Machine.expandAll_singleton _ _ _).trans
      (Machine.expand_of_not_isDirectory ["swift"] hgone), rfl⟩
  obtain ⟨-, -, -, hok⟩ := expandAll_resolves hnamed ["swift"] ["way", "gone"]
  obtain ⟨-, -, hagain, -⟩ := hok _ hexpand
  exact ⟨hnamed, _, hexpand, hagain ["glsl"]⟩

/-! ## A found path that is too long -/

/-- A machine with a file in a directory. -/
def oneFile : Machine :=
  { Machine.empty with
    tree := ⟨(["home", "root", "d"], .directory) ::
      (["home", "root", "d", "x.swift"], .file 0) :: Machine.empty.tree.entries⟩
    store := ⟨[⟨[], 0o644, 0⟩]⟩ }

section Overlong

open Files Machine

theorem below_oneFile : oneFile.tree.Below ["home", "root", "d"] ["x.swift"] (.file 0) :=
  .child (by decide)

theorem filesBelow_oneFile : oneFile.tree.filesBelow ["home", "root", "d"] = [["x.swift"]] := by
  refine Tree.eq_of_pairwise_lt (Tree.pairwise_filesBelow _ _) (List.pairwise_singleton _ _)
    fun way => ?_
  rw [Tree.mem_filesBelow_iff, List.mem_singleton]
  constructor
  · rintro ⟨id, hbelow⟩
    have hne := hbelow.ne_nil
    have hmem := hbelow.mem_map_fst
    simpa [oneFile, Machine.empty, hne] using hmem
  · rintro rfl
    exact ⟨0, below_oneFile⟩

/-- What leads nowhere cannot be opened. -/
theorem listFiles_of_find_error {machine : Machine} {path : String} {cause : Fault}
    (h : machine.find path = .error cause) (paths : List String) (sink : Sink) :
    (listFiles names machine (path :: paths) sink).1 = .error (.cannotOpen path cause) := by
  have hlines : machine.lines path = .error cause := by
    rw [Machine.lines, Machine.openPath, h]
    rfl
  rw [listFiles, listFilesFrom, hlines]

/-- The walk finds the file, but its path then has more bytes than a path may have: it leads
nowhere, and a listing cannot open it, although it was not given. -/
theorem listFiles_overlong :
    let names : Escape.Names := fun _ => none
    let path := slashes 4089
    let found := Path.joinAll path ["x.swift"]
    oneFile.tree.WellNamed ∧ oneFile.locate path = .ok ["home", "root", "d"] ∧
      oneFile.tree.Below ["home", "root", "d"] ["x.swift"] (.file 0) ∧
      oneFile.expandAll ["swift"] [path] = .ok [found] ∧ found ∉ [path] ∧
      oneFile.find found = .error .nameTooLong ∧
      (listFiles names oneFile [found] .working).1 = .error (.cannotOpen found .nameTooLong) := by
  intro names path found
  have hnamed : oneFile.tree.WellNamed := by decide
  have hshort : Path.isTooLong path = false := isTooLong_slashes 4089
  have htop : oneFile.tree.get? ["home", "root", "d"] = some .directory := by decide
  have hlocate : oneFile.locate path = .ok ["home", "root", "d"] :=
    locate_slashes hshort (by decide) htop
  have hlong : Path.isTooLong found = true := by
    have hname : (String.intercalate "/" ["x.swift"]).utf8ByteSize = 7 := by decide
    have hsize : found.utf8ByteSize = 4098 := by
      rw [show found = _ from joinAll_slashes 4089 ["x.swift"], String.utf8ByteSize_append,
        utf8ByteSize_slashes, hname]
    rw [Path.isTooLong, hsize]
    rfl
  have hexpand : oneFile.expand ["swift"] path = .ok [found] := by
    rw [expand_eq_ok_iff hlocate htop, filesBelow_oneFile]
    refine ⟨fun way hbelow => ?_, rfl⟩
    -- there is no directory in this one
    have hway : way = ["x.swift"] := by
      have hne := hbelow.ne_nil
      have hmem := hbelow.mem_map_fst
      simpa [oneFile, Machine.empty, hne] using hmem
    subst hway
    exact absurd hbelow.get?_eq (by decide)
  have hfile : ∀ target, Node.file 0 ≠ .link target := by
    intro target h
    cases h
  have hfind : oneFile.find found = .error .nameTooLong := by
    rw [find_joinAll hlocate below_oneFile hfile hnamed, if_pos hlong]
  refine ⟨hnamed, hlocate, below_oneFile, ?_, ?_, hfind, listFiles_of_find_error hfind [] .working⟩
  · rw [expandAll_singleton, hexpand]
  · intro hmem
    rw [List.mem_singleton.1 hmem] at hlong
    cases hshort.symm.trans hlong

end Overlong

end ShaderLiterals
