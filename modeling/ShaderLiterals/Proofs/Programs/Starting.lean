import ShaderLiterals.Programs.Installed
import ShaderLiterals.Proofs.Text.Utf8

/-!
# Starting programs

A file is run by the program that it belongs to, or by the one that its first line names, and so on
from script to script (`Leads`).  A start either runs one of the installed programs, as a process of
its own, or fails and leaves the world alone (`startWithin_runsOne`); whatever the program is, the
process that started it goes on where it was (`startWithin_sameProcess`).
-/

namespace ShaderLiterals.Programs

open Files (Fault)

variable {installation : Installation} {call call' : Call} {world after : World}
  {path interpreter : Raw} {executable : Executable} {program : Program} {depth : Nat}
  {fault : Fault}

/-! ## Raw text -/

theorem Raw.toBytes_ofBytes (bytes : List UInt8) : (Raw.ofBytes bytes).toBytes = bytes := by
  unfold Raw.ofBytes Raw.toBytes
  rw [List.map_map]
  refine (List.map_congr_left fun b _ => ?_).trans (List.map_id bytes)
  have hvalid : b.toNat.isValidChar := .inl (by have := b.toNat_lt; omega)
  rw [Function.comp_apply, Char.ofNat, dif_pos hvalid]
  exact UInt8.ofNat_toNat

theorem Raw.toText_ofText (text : String) : Raw.toText (Raw.ofText text) = text := by
  rw [Raw.toText, Raw.ofText, Raw.toBytes_ofBytes, Utf8.decodeLossy_encode, String.ofList_toList]

/-! ## Jobs -/

/-- What is done after a job goes on from what it gave. -/
theorem Job.run_bind_of_run {α β : Type} {job : Job α} {next : α → Job β} {value : α}
    (h : job.run world = (value, after)) : (job >>= next).run world = (next value).run after := by
  rw [StateT.run_bind, h]
  rfl

/-! ## Files of programs -/

theorem executable_of_file {id : Nat} {content : Files.Content}
    (hfind : world.machine.find (Raw.toText path) = .ok (.file id))
    (hget : world.machine.store.get? id = some content) (hmode : content.mode &&& 0o111 ≠ 0) :
    world.executable installation path = .ok (.ofBytes installation content.bytes) := by
  rw [World.executable, hfind]
  dsimp only
  rw [hget]
  exact if_neg hmode

/-- A mark and a name in a file stand for the program of that name. -/
theorem ofBytes_of_lookup {name : String} (h : installation.lookup name = some program) :
    Executable.ofBytes installation (programMark ++ Utf8.encode name.toList) =
      .installed program := by
  have hname : Raw.toText (Raw.ofBytes (Utf8.encode name.toList)) = name := Raw.toText_ofText name
  unfold Executable.ofBytes
  rw [if_pos (List.isPrefixOf_iff_prefix.2 (List.prefix_append _ _)), List.drop_left, hname]
  dsimp only
  rw [h]

/-- A file that is run by an installed program. -/
def Executable.IsInstalled (installation : Installation) : Executable → Prop
  | .installed program => ∃ name, installation.lookup name = some program
  | .script .. | .other => True

theorem isInstalled_ofBytes (installation : Installation) (bytes : List UInt8) :
    (Executable.ofBytes installation bytes).IsInstalled installation := by
  unfold Executable.ofBytes
  split
  · dsimp only
    split
    · next program hlookup => exact ⟨_, hlookup⟩
    · trivial
  · split
    · dsimp only
      split <;> trivial
    · trivial

theorem isInstalled_of_executable (h : world.executable installation path = .ok executable) :
    executable.IsInstalled installation := by
  unfold World.executable at h
  split at h
  · cases h
  · split at h
    · split at h
      · cases h
      · cases h
        exact isInstalled_ofBytes _ _
    · cases h
  · cases h

/-! ## Searching -/

theorem search_of_mem_slash (h : '/' ∈ call.name) :
    world.search installation call =
      (world.executable installation call.name).map (call.name, ·) := by
  have hname : call.name.isEmpty = false := List.isEmpty_eq_false_iff.2 (List.ne_nil_of_mem h)
  rw [World.search, hname]
  simp [h]

/-- Why a path is passed by in a search. -/
inductive Passed : Fault → Prop where
  | notPermitted : Passed .notPermitted
  | notFound : Passed .notFound
  | notDirectory : Passed .notDirectory

theorem tryAll_cons_of_passed (fault : Fault) (rest : List Raw) {cause : Fault}
    (hcause : Passed cause) (h : world.executable installation path = .error cause) :
    ∃ fault', World.search.tryAll world installation fault (path :: rest) =
      World.search.tryAll world installation fault' rest := by
  rw [World.search.tryAll, h]
  cases hcause <;> exact ⟨_, rfl⟩

theorem tryAll_cons_of_not_passed (fault : Fault) (rest : List Raw) {cause : Fault}
    (hcause : ¬Passed cause) (h : world.executable installation path = .error cause) :
    World.search.tryAll world installation fault (path :: rest) = .error cause := by
  rw [World.search.tryAll, h]
  cases cause with
  | notPermitted => exact absurd .notPermitted hcause
  | notFound => exact absurd .notFound hcause
  | notDirectory => exact absurd .notDirectory hcause
  | _ => rfl

/-- A search finds the first path that can be run; all before it are passed by. -/
theorem tryAll_eq_ok_iff {paths : List Raw} :
    World.search.tryAll world installation fault paths = .ok (path, executable) ↔
      ∃ before behind, paths = before ++ path :: behind ∧
        world.executable installation path = .ok executable ∧
        ∀ other ∈ before, ∃ cause, Passed cause ∧
          world.executable installation other = .error cause := by
  induction paths generalizing fault with
  | nil => simp [World.search.tryAll]
  | cons first rest ih =>
      constructor
      · intro h
        rcases hfirst : world.executable installation first with cause | found
        · by_cases hcause : Passed cause
          · obtain ⟨fault', hrest⟩ := tryAll_cons_of_passed fault rest hcause hfirst
            obtain ⟨before, behind, rfl, hpath, hbefore⟩ := ih.1 (hrest.symm.trans h)
            exact ⟨first :: before, behind, rfl, hpath,
              List.forall_mem_cons.2 ⟨⟨cause, hcause, hfirst⟩, hbefore⟩⟩
          · rw [tryAll_cons_of_not_passed fault rest hcause hfirst] at h
            cases h
        · rw [World.search.tryAll, hfirst] at h
          cases h
          exact ⟨[], rest, rfl, hfirst, nofun⟩
      · rintro ⟨before, behind, hpaths, hpath, hbefore⟩
        rcases before with _ | ⟨other, before⟩
        · obtain ⟨rfl, rfl⟩ := List.cons.inj hpaths
          rw [World.search.tryAll, hpath]
        · obtain ⟨rfl, rfl⟩ := List.cons.inj hpaths
          obtain ⟨⟨cause, hcause, hfirst⟩, hbefore⟩ := List.forall_mem_cons.1 hbefore
          obtain ⟨fault', hrest⟩ := tryAll_cons_of_passed fault _ hcause hfirst
          exact hrest.trans (ih.2 ⟨before, behind, rfl, hpath, hbefore⟩)

/-- A program without a slash in its name is the first that can be run of those which the variable
`PATH` tells. -/
theorem search_eq_ok_iff (hname : call.name ≠ []) (hslash : '/' ∉ call.name) :
    world.search installation call = .ok (path, executable) ↔
      ∃ before behind,
        Search.candidates ((call.lookup "PATH").getD "/bin:/usr/bin".toList) call.name =
          before ++ path :: behind ∧
        world.executable installation path = .ok executable ∧
        ∀ other ∈ before, ∃ cause, Passed cause ∧
          world.executable installation other = .error cause := by
  have hempty : call.name.isEmpty = false := List.isEmpty_eq_false_iff.2 hname
  have hcontains : call.name.contains '/' = false := by simpa using hslash
  rw [World.search, hempty, hcontains]
  exact tryAll_eq_ok_iff

theorem isInstalled_of_search (h : world.search installation call = .ok (path, executable)) :
    executable.IsInstalled installation := by
  by_cases hname : call.name = []
  · rw [World.search, hname] at h
    cases h
  · by_cases hslash : '/' ∈ call.name
    · rw [search_of_mem_slash hslash] at h
      rcases hfound : world.executable installation call.name with fault | found
      · rw [hfound] at h
        cases h
      · rw [hfound] at h
        cases h
        exact isInstalled_of_executable hfound
    · obtain ⟨before, behind, -, hfound, -⟩ := (search_eq_ok_iff hname hslash).1 h
      exact isInstalled_of_executable hfound

/-! ## Processes -/

/-- What a process finds unchanged when one that it started has ended. -/
structure SameProcess (world after : World) : Prop where
  here : after.machine.here = world.machine.here
  umask : after.umask = world.umask
  ignored : after.ignored = world.ignored
  niceness : after.niceness = world.niceness
  process : after.process = world.process
  parent : after.parent = world.parent

theorem SameProcess.refl (world : World) : SameProcess world world :=
  ⟨rfl, rfl, rfl, rfl, rfl, rfl⟩

theorem sameProcess_asProcess (program : Program) (start : Starter) (call : Call) (world : World) :
    SameProcess world ((program.asProcess start call).run world).2 :=
  ⟨rfl, rfl, rfl, rfl, rfl, rfl⟩

/-! ## Scripts -/

/-- A file is run by a program, which gets a call, with at most `depth` scripts on the way. -/
inductive Leads (installation : Installation) (world : World) :
    (depth : Nat) → Call → Raw → Executable → Program → Call → Prop where
  | installed {depth : Nat} {call : Call} {path : Raw} {program : Program} :
      Leads installation world depth call path (.installed program) program call
  /-- The program that runs a script gets the path of the script in front of the arguments. -/
  | script {depth : Nat} {call call' : Call} {path interpreter : Raw} {argument : Option Raw}
      {executable : Executable} {program : Program}
      (h : world.executable installation interpreter = .ok executable)
      (hleads : Leads installation world depth
        { call with name := interpreter, args := argument.toList ++ path :: call.args }
        interpreter executable program call') :
      Leads installation world (depth + 1) call path (.script interpreter argument) program call'

theorem Leads.exists_lookup
    (h : Leads installation world depth call path executable program call')
    (hexecutable : executable.IsInstalled installation) :
    ∃ name, installation.lookup name = some program := by
  induction h with
  | installed => exact hexecutable
  | script h _ ih => exact ih (isInstalled_of_executable h)

theorem run_launch_installed (installation : Installation) (start : Starter) (depth : Nat)
    (call : Call) (path : Raw) (program : Program) (world : World) :
    (launch installation start depth call path (.installed program)).run world =
      ((program.asProcess start call).run world).map .ok id := by
  cases depth <;> rfl

theorem run_launch_script (start : Starter) (depth : Nat) (call : Call) (path : Raw)
    (argument : Option Raw) (h : world.executable installation interpreter = .ok executable) :
    (launch installation start (depth + 1) call path (.script interpreter argument)).run world =
      (launch installation start depth
        { call with name := interpreter, args := argument.toList ++ path :: call.args }
        interpreter executable).run world := by
  simp only [launch, StateT.run_bind, StateT.run_get, pure_bind, h]

theorem launch_of_leads (start : Starter)
    (h : Leads installation world depth call path executable program call') :
    (launch installation start depth call path executable).run world =
      ((program.asProcess start call').run world).map .ok id := by
  induction h with
  | installed => exact run_launch_installed ..
  | script h _ ih => exact (run_launch_script start _ _ _ _ h).trans ih

/-- A file is run by one program, or there is none and nothing happens. -/
theorem launch_cases (installation : Installation) (start : Starter) (depth : Nat) (call : Call)
    (path : Raw) (executable : Executable) (world : World) :
    (∃ program call', Leads installation world depth call path executable program call' ∧
      (launch installation start depth call path executable).run world =
        ((program.asProcess start call').run world).map .ok id) ∨
    (∃ fault, (launch installation start depth call path executable).run world =
      (.error fault, world)) := by
  induction depth generalizing call path executable with
  | zero =>
      cases executable with
      | installed program => exact .inl ⟨program, call, .installed, run_launch_installed ..⟩
      | script interpreter argument => exact .inr ⟨_, rfl⟩
      | other => exact .inr ⟨_, rfl⟩
  | succ depth ih =>
      cases executable with
      | installed program => exact .inl ⟨program, call, .installed, run_launch_installed ..⟩
      | other => exact .inr ⟨_, rfl⟩
      | script interpreter argument =>
          rcases h : world.executable installation interpreter with fault | executable
          · refine .inr ⟨fault, ?_⟩
            simp only [launch, StateT.run_bind, StateT.run_get, pure_bind, h]
            rfl
          · rw [run_launch_script start depth call path argument h]
            rcases ih _ interpreter executable with ⟨program, call', hleads, hrun⟩ | hrefused
            · exact .inl ⟨program, call', .script h hleads, hrun⟩
            · exact .inr hrefused

/-! ## Starts -/

/-- An installed program runs as a process of its own, or there is a fault and nothing happens. -/
def RunsOne (installation : Installation) (job : Job (Except Fault Ending)) (world : World) :
    Prop :=
  (∃ name program, installation.lookup name = some program ∧
    ∃ start call, job.run world = ((Program.asProcess program start call).run world).map .ok id) ∨
  ∃ fault, job.run world = (.error fault, world)

theorem launch_runsOne (start : Starter) (depth : Nat) (call : Call) (path : Raw) (world : World)
    (h : executable.IsInstalled installation) :
    RunsOne installation (launch installation start depth call path executable) world := by
  rcases launch_cases installation start depth call path executable world with
    ⟨program, call', hleads, hrun⟩ | hrefused
  · obtain ⟨name, hlookup⟩ := hleads.exists_lookup h
    exact .inl ⟨name, program, hlookup, start, call', hrun⟩
  · exact .inr hrefused

theorem startWithin_runsOne (installation : Installation) (depth : Nat) (asScripts : Bool)
    (call : Call) (world : World) :
    RunsOne installation (startWithin installation depth asScripts call) world := by
  cases depth with
  | zero => exact .inr ⟨_, rfl⟩
  | succ depth =>
      unfold RunsOne
      rw [startWithin, StateT.run_bind, StateT.run_get, pure_bind]
      dsimp only
      rcases hsearch : world.search installation call with fault | ⟨path, executable⟩
      · exact .inr ⟨fault, rfl⟩
      · rcases launch_runsOne (startWithin installation depth true) scriptDepth call path world
          (isInstalled_of_search hsearch) with
          ⟨name, program, hlookup, start, call', hrun⟩ | ⟨fault, hrun⟩
        · exact .inl ⟨name, program, hlookup, start, call', Job.run_bind_of_run hrun⟩
        · rw [Job.run_bind_of_run hrun]
          split
          · -- a file that is no program may still be a script of a shell
            cases asScripts with
            | false => exact .inr ⟨_, rfl⟩
            | true =>
                simp only [Bool.not_true, Bool.false_eq_true, if_false, StateT.run_bind,
                  StateT.run_get, pure_bind]
                rcases hshell : world.executable installation "/bin/sh".toList with
                  fault | executable
                · exact .inr ⟨fault, rfl⟩
                · exact launch_runsOne _ _ _ _ world (isInstalled_of_executable hshell)
          · exact .inr ⟨fault, rfl⟩

/-- However a start goes, the process goes on where it was. -/
theorem startWithin_sameProcess (installation : Installation) (depth : Nat) (asScripts : Bool)
    (call : Call) (world : World) :
    SameProcess world ((startWithin installation depth asScripts call).run world).2 := by
  rcases startWithin_runsOne installation depth asScripts call world with
    ⟨-, program, -, start, call', hrun⟩ | ⟨fault, hrun⟩
  · rw [hrun]
    exact sameProcess_asProcess program start call' world
  · rw [hrun]
    exact .refl world

/-- Unless it may be a script of a shell, a file is searched and launched, and that is all. -/
theorem startWithin_eq_launch (installation : Installation) (depth : Nat) (call : Call)
    (world : World) :
    (startWithin installation (depth + 1) false call).run world =
      match world.search installation call with
      | .error fault => (.error fault, world)
      | .ok (path, executable) =>
          (launch installation (startWithin installation depth true) scriptDepth call path
            executable).run world := by
  rw [startWithin, StateT.run_bind, StateT.run_get, pure_bind]
  dsimp only
  rcases world.search installation call with fault | ⟨path, executable⟩
  · rfl
  · rcases hrun : (launch installation (startWithin installation depth true) scriptDepth call path
      executable).run world with ⟨result, after⟩
    refine (Job.run_bind_of_run hrun).trans ?_
    dsimp only
    rw [hrun]
    split
    · rfl
    · rfl

end ShaderLiterals.Programs
