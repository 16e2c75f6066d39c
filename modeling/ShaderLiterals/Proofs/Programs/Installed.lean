import ShaderLiterals.Proofs.Check.Spawn
import ShaderLiterals.Proofs.Programs.Keeping
import ShaderLiterals.Proofs.Programs.Starting

/-!
# What comes of a start

A program that the machine is asked to run reads nothing, and what it writes goes to two pipes
(`World.ofStart`).  It is searched first (`Finds`), and if it changes no file, then the machine is
left as it was (`exists_installed_of_keeps`).  So a validator of this kind leaves no temporary file
behind (`External.sameTemp_validator_installed`).
-/

namespace ShaderLiterals.Programs

open Files (Fault)

variable {machine : Machine} {program : String} {args : List String} {found : Program}
  {call : Call} {after : World} {ending : Ending} {fault : Fault}

/-- The call of a program that the machine is asked to run. -/
def Call.ofStart (program : String) (args : List String) (machine : Machine) : Call :=
  { name := Raw.ofText program, args := args.map Raw.ofText
    environment := (machine.environment ++ [("TMPDIR", machine.temp)]).map fun (name, value) =>
      (Raw.ofText name, Raw.ofText value)
    streams := [] }

/-- The call with the first three channels as its streams. -/
def Call.piped (call : Call) : Call := { call with streams := [(0, 0), (1, 1), (2, 2)] }

/-- The world in which the program runs: no input, and two pipes. -/
def World.ofStart (machine : Machine) : World :=
  { World.start machine with
    channels := #[⟨.device .null, true, false⟩, ⟨.sink [] World.pipeLimit, false, true⟩,
      ⟨.sink [] World.pipeLimit, false, true⟩] }

/-- What was written to a pipe and not taken out yet. -/
def Channel.written : Channel → List UInt8
  | .sink pieces _ => Raw.toBytes pieces.reverse.flatten
  | _ => []

def World.written (world : World) (handle : Nat) : List UInt8 :=
  ((world.channel? handle).map (·.channel.written)).getD []

theorem isApart_ofStart (machine : Machine) : World.IsApart machine (.ofStart machine) := by
  refine ⟨rfl, fun handle channel h => ?_⟩
  have hmem : channel ∈ (World.ofStart machine).channels := Array.mem_of_getElem? h
  simp only [World.ofStart, List.mem_toArray, List.mem_cons, List.not_mem_nil, or_false] at hmem
  rcases hmem with rfl | rfl | rfl <;> trivial

/-- What is taken out of a pipe is what was written to it, and the other pipes are left alone. -/
theorem exists_run_drain (world : World) (handle : Nat) :
    ∃ text after, (World.drain handle).run world = (text, after) ∧
      Raw.toBytes text = world.written handle ∧ after.machine = world.machine ∧
      ∀ other, handle ≠ other → after.written other = world.written other := by
  unfold World.drain
  simp only [StateT.run_bind, StateT.run_get, pure_bind]
  split
  · next pieces room reads writes hchannel =>
    refine ⟨_, _, rfl, by rw [World.written, hchannel]; rfl, rfl, fun other hother => ?_⟩
    have hother : (world.channels.modify handle
        ({ · with channel := .sink [] room }))[other]? = world.channels[other]? := by
      rw [Array.getElem?_modify, if_neg hother]
    exact congrArg (fun found : Option OpenChannel =>
      (found.map (·.channel.written)).getD []) hother
  · next hchannel =>
    refine ⟨_, _, rfl, ?_, rfl, fun _ _ => rfl⟩
    rcases hfound : world.channel? handle with _ | ⟨channel, reads, writes⟩
    · rw [World.written, hfound]
      rfl
    · rw [World.written, hfound]
      cases channel with
      | sink pieces room => exact (hchannel _ _ _ _ hfound).elim
      | _ => rfl

/-! ## Runs with two pipes -/

/-- The job of `runApart` goes on in the world that a program starts in. -/
theorem run_ofStart_bind {α : Type} (machine : Machine) (next : Nat → Nat → Nat → Job α) :
    (do
      let input ← World.push ⟨.device .null, true, false⟩
      let output ← World.newSink
      let errors ← World.newSink
      next input output errors : Job α).run (.start machine) =
        (next 0 1 2).run (.ofStart machine) := rfl

theorem runApart_of_error
    (hrun : (startWithin installation processDepth false call.piped).run (.ofStart machine) =
      (.error fault, after)) : runApart call machine = .error fault := by
  unfold Call.piped at hrun
  unfold runApart
  dsimp only
  rw [run_ofStart_bind, Job.run_bind_of_run hrun]
  rfl

theorem runApart_of_ok
    (hrun : (startWithin installation processDepth false call.piped).run (.ofStart machine) =
      (.ok ending, after)) :
    runApart call machine = .ok (⟨ending, after.written 1, after.written 2⟩,
      { after.machine with here := machine.here }) := by
  obtain ⟨output, middle, houtput, hwritten, hmachine, hothers⟩ := exists_run_drain after 1
  obtain ⟨errors, last, herrors, hwritten', hmachine', -⟩ := exists_run_drain middle 2
  unfold Call.piped at hrun
  unfold runApart
  dsimp only
  rw [run_ofStart_bind, Job.run_bind_of_run hrun]
  dsimp only
  rw [Job.run_bind_of_run houtput, Job.run_bind_of_run herrors, ← hwritten,
    ← hothers 2 (by decide), ← hwritten', ← hmachine, ← hmachine']
  rfl

theorem installed_eq (hargs : ∀ text ∈ program :: args, '\x00' ∉ text.toList) :
    installed program args machine =
      (runApart (.ofStart program args machine) machine).mapError .files := by
  obtain ⟨hprogram, hargs⟩ := List.forall_mem_cons.1 hargs
  have hnull : ¬(program.toList.contains '\x00' ||
      args.any (·.toList.contains '\x00')) = true := by
    simpa using ⟨hprogram, hargs⟩
  rw [installed, if_neg hnull]
  rfl

/-! ## Programs that are found -/

/-- What a start on a machine comes to: a program, and the call that it gets. -/
structure Finds (machine : Machine) (program : String) (args : List String) (found : Program)
    (call : Call) : Prop where
  plain : ∀ text ∈ program :: args, '\x00' ∉ text.toList
  leads : ∃ path executable,
    (World.ofStart machine).search installation (.ofStart program args machine) =
      .ok (path, executable) ∧
    Leads installation (.ofStart machine) scriptDepth (Call.ofStart program args machine).piped path
      executable found call

theorem Raw.slash_mem_ofText {text : String} (h : '/' ∈ text.toList) :
    '/' ∈ Raw.ofText text := by
  have hbyte : (47 : UInt8) ∈ Utf8.encode text.toList :=
    List.mem_flatMap.2 ⟨'/', h, List.mem_singleton.2 rfl⟩
  exact List.mem_map.2 ⟨47, hbyte, rfl⟩

/-- The file of an installed program is found by its path. -/
theorem finds_of_file {name : String} {id : Nat} {content : Files.Content}
    (hplain : ∀ text ∈ program :: args, '\x00' ∉ text.toList) (hslash : '/' ∈ program.toList)
    (hfind : machine.find program = .ok (.file id))
    (hget : machine.store.get? id = some content) (hmode : content.mode &&& 0o111 ≠ 0)
    (hbytes : content.bytes = programMark ++ Utf8.encode name.toList)
    (hlookup : installation.lookup name = some found) :
    Finds machine program args found (Call.ofStart program args machine).piped := by
  have hexecutable : (World.ofStart machine).executable installation (Raw.ofText program) =
      .ok (.installed found) := by
    rw [executable_of_file (by rw [Raw.toText_ofText]; exact hfind) hget hmode, hbytes,
      ofBytes_of_lookup hlookup]
  refine ⟨hplain, Raw.ofText program, _, ?_, .installed⟩
  have hsearch : (World.ofStart machine).search installation (.ofStart program args machine) =
      _ := search_of_mem_slash (Raw.slash_mem_ofText hslash)
  exact hsearch.trans (congrArg (Except.map (Raw.ofText program, ·)) hexecutable)

example : installation.lookup "false" = some (.ofTool fun _ => return 1) := rfl

/-- A program that is not found is not run. -/
theorem installed_of_search_error
    (hplain : ∀ text ∈ program :: args, '\x00' ∉ text.toList)
    (h : (World.ofStart machine).search installation (.ofStart program args machine) =
      .error fault) :
    installed program args machine = .error (.files fault) := by
  have hsearch : (World.ofStart machine).search installation
    (Call.ofStart program args machine).piped = .error fault := h
  have hstart : (startWithin installation processDepth false
      (Call.ofStart program args machine).piped).run (.ofStart machine) =
        (.error fault, .ofStart machine) := by
    refine (startWithin_eq_launch installation (processDepth - 1) _ _).trans ?_
    rw [hsearch]
  rw [installed_eq hplain, runApart_of_error hstart]
  rfl

/-- A program that is found runs as a process of its own, without any input. -/
theorem installed_of_finds (h : Finds machine program args found call)
    (hrun : (found.asProcess (startWithin installation (processDepth - 1) true) call).run
      (.ofStart machine) = (ending, after)) :
    installed program args machine = .ok (⟨ending, after.written 1, after.written 2⟩,
      { after.machine with here := machine.here }) := by
  obtain ⟨path, executable, hsearch, hleads⟩ := h.leads
  have hsearch : (World.ofStart machine).search installation
    (Call.ofStart program args machine).piped = .ok (path, executable) := hsearch
  have hstart : (startWithin installation processDepth false
      (Call.ofStart program args machine).piped).run (.ofStart machine) = (.ok ending, after) := by
    refine (startWithin_eq_launch installation (processDepth - 1) _ _).trans ?_
    rw [hsearch]
    dsimp only
    rw [launch_of_leads _ hleads, hrun]
    rfl
  rw [installed_eq h.plain, runApart_of_ok hstart]
  rfl

/-- A program that changes no file comes to an end, and leaves the machine as it was. -/
theorem exists_installed_of_keeps (h : Finds machine program args found call)
    (hkeeps : found.Keeps machine) :
    ∃ outcome, installed program args machine = .ok (outcome, machine) := by
  have hafter := hkeeps.asProcess (startWithin installation (processDepth - 1) true) call
    (.ofStart machine) (isApart_ofStart machine)
  rcases hrun : (found.asProcess (startWithin installation (processDepth - 1) true) call).run
    (.ofStart machine) with ⟨ending, after⟩
  rw [hrun] at hafter
  rw [installed_of_finds h hrun, hafter.machine_eq]
  exact ⟨_, rfl⟩

/-- A program that does nothing ends with its status, and has written nothing. -/
theorem installed_of_idle {status : Nat}
    (h : Finds machine program args (.ofTool fun _ => return status) call) :
    installed program args machine = .ok (⟨.exited status, [], []⟩, machine) :=
  installed_of_finds h rfl

/-! ## Tools that print -/

/-- Tools that only print what they make of their arguments. -/
def printingTools : List (String × Tool) :=
  [("echo", echo), ("printf", printf), ("basename", basename), ("dirname", dirname)]

theorem keeps_of_mem_printingTools {name : String} {tool : Tool}
    (h : (name, tool) ∈ printingTools) (machine : Machine) :
    (Program.ofTool tool).Keeps machine := by
  refine .ofTool fun call => ?_
  simp only [printingTools, List.mem_cons, List.not_mem_nil, or_false, Prod.mk.injEq] at h
  rcases h with ⟨-, rfl⟩ | ⟨-, rfl⟩ | ⟨-, rfl⟩ | ⟨-, rfl⟩
  · exact echo_keeps machine call
  · exact printf_keeps machine call
  · exact basename_keeps machine call
  · exact dirname_keeps machine call

theorem lookup_of_mem_printingTools {name : String} {tool : Tool}
    (h : (name, tool) ∈ printingTools) :
    installation.lookup name = some (Program.ofTool tool) := by
  simp only [printingTools, List.mem_cons, List.not_mem_nil, or_false, Prod.mk.injEq] at h
  rcases h with ⟨rfl, rfl⟩ | ⟨rfl, rfl⟩ | ⟨rfl, rfl⟩ | ⟨rfl, rfl⟩
  · rfl
  · rfl
  · rfl
  · rfl

/-- A file of a tool that only prints runs to an end, and leaves the machine as it was. -/
theorem exists_installed_of_printing {name : String} {tool : Tool} {id : Nat}
    {content : Files.Content} (htool : (name, tool) ∈ printingTools)
    (hplain : ∀ text ∈ program :: args, '\x00' ∉ text.toList) (hslash : '/' ∈ program.toList)
    (hfind : machine.find program = .ok (.file id))
    (hget : machine.store.get? id = some content) (hmode : content.mode &&& 0o111 ≠ 0)
    (hbytes : content.bytes = programMark ++ Utf8.encode name.toList) :
    ∃ outcome, installed program args machine = .ok (outcome, machine) :=
  exists_installed_of_keeps
    (finds_of_file hplain hslash hfind hget hmode hbytes (lookup_of_mem_printingTools htool))
    (keeps_of_mem_printingTools htool machine)

end ShaderLiterals.Programs

/-! ## Installed programs that validate -/

namespace ShaderLiterals.External

open Programs

variable {files : TemporaryFiles} {external : External} {machine : Machine} {shader : Shader}
  {spawn : Spawn} {found : Program} {call : Call}

/-- No temporary file is left behind by an installed program that changes no file. -/
theorem sameTemp_validator_installed (hfiles : files.Lawful)
    (h : ∀ spawn, external.prepare files machine shader = .ok spawn →
      ∃ found call, Finds spawn.machine external.program spawn.arguments found call ∧
        found.Keeps spawn.machine) :
    machine.SameTemp (external.validator files installed shader machine).2 := by
  refine sameTemp_validator hfiles fun spawn outcome after hprepare hrun => ?_
  obtain ⟨found, call, hfinds, hkeeps⟩ := h spawn hprepare
  obtain ⟨outcome', hinstalled⟩ := exists_installed_of_keeps hfinds hkeeps
  obtain ⟨-, rfl⟩ := Prod.mk.inj (Except.ok.inj (hrun.symm.trans hinstalled))
  exact .refl spawn.machine

/-- An installed program that does nothing accepts a shader if its status is a success, and has
nothing to say against it otherwise. -/
theorem validator_installed_of_idle {status : Nat}
    (hprepare : external.prepare files machine shader = .ok spawn)
    (h : Finds spawn.machine external.program spawn.arguments (.ofTool fun _ => return status)
      call) :
    external.validator files installed shader machine =
      (.ok (if status = 0 then .passed else .failed ""), spawn.file.remove spawn.machine) := by
  have hrun : external.run installed spawn = .ok (⟨.exited status, [], []⟩, spawn.machine) :=
    installed_of_idle h
  rw [validator_of_prepare hprepare, hrun]
  dsimp only
  split
  · next hstatus =>
    rw [verdict_eq_passed_iff.2 (congrArg Ending.exited hstatus)]
  · next hstatus =>
    rw [verdict_of_ne_success fun h => hstatus (Ending.exited.inj h), Utf8.decodeLossy,
      Utf8.pieces_nil]
    rfl

end ShaderLiterals.External
