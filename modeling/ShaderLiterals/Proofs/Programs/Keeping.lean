import ShaderLiterals.Programs.Installed

/-!
# Programs that change no file

What a program writes to a pipe changes nothing but the pipe.  So a program that only prints leaves
the machine as it was, as long as none of its channels leads to a file (`World.IsApart`).
`Job.Keeps` says that this goes on, and it is closed under what programs are put together from.
-/

namespace ShaderLiterals.Programs

variable {α β : Type} {machine : Machine} {world : World} {call : Call}

/-- The channel does not lead to a place in the tree. -/
def Channel.IsHarmless : Channel → Prop
  | .file .. | .pipe _ => False
  | _ => True

/-- The machine of a world, and what is open in it. -/
structure World.IsApart (machine : Machine) (world : World) : Prop where
  machine_eq : world.machine = machine
  harmless : ∀ handle channel, world.channel? handle = some channel → channel.channel.IsHarmless

/-- The machine stays as it is, and no channel comes to lead to a file. -/
def Job.Keeps (machine : Machine) (job : Job α) : Prop :=
  ∀ world, World.IsApart machine world → World.IsApart machine (job.run world).2

namespace Job.Keeps

theorem pure (value : α) : Keeps machine (pure value : Job α) := fun _ h => h

theorem bind {job : Job α} {next : α → Job β} (h : Keeps machine job)
    (hnext : ∀ value, Keeps machine (next value)) : Keeps machine (job >>= next) :=
  fun world hworld => hnext _ _ (h world hworld)

/-- What is done next may hang on the world. -/
theorem get_bind {next : World → Job β}
    (hnext : ∀ world, World.IsApart machine world → Keeps machine (next world)) :
    Keeps machine (get >>= next) :=
  fun world hworld => hnext world hworld world hworld

theorem get_bind_run {next : World → Job β}
    (hnext : ∀ world, World.IsApart machine world →
      World.IsApart machine ((next world).run world).2) : Keeps machine (get >>= next) :=
  hnext

theorem set {after : World} (h : World.IsApart machine after) :
    Keeps machine (set after : Job PUnit) :=
  fun _ _ => h

theorem modify {change : World → World}
    (h : ∀ world, World.IsApart machine world → World.IsApart machine (change world)) :
    Keeps machine (modify change : Job PUnit) := h

theorem forIn {list : List α} {init : β} {body : α → β → Job (ForInStep β)}
    (h : ∀ a b, Keeps machine (body a b)) : Keeps machine (forIn list init body) := by
  induction list generalizing init with
  | nil => exact pure init
  | cons a rest ih =>
      rw [List.forIn_cons]
      refine bind (h a init) fun step => ?_
      cases step with
      | done b => exact pure b
      | yield b => exact ih

end Job.Keeps

/-! ## Channels -/

namespace World

theorem IsApart.replace (h : IsApart machine world) {handle : Nat} {channel : Channel}
    (hchannel : channel.IsHarmless) :
    IsApart machine ((World.replace handle channel).run world).2 := by
  refine ⟨h.machine_eq, fun place other hother => ?_⟩
  have hother : (world.channels.modify handle ({ · with channel := channel }))[place]? =
    some other := hother
  rw [Array.getElem?_modify] at hother
  split at hother
  · obtain ⟨old, -, rfl⟩ := Option.map_eq_some_iff.1 hother
    exact hchannel
  · exact h.harmless place other hother

theorem write_keeps (machine : Machine) (handle : Nat) (text : Raw) :
    (write handle text).Keeps machine := by
  refine .get_bind_run fun world h => ?_
  split
  · next hchannel => exact (h.harmless _ _ hchannel).elim
  · exact h
  · exact h.replace trivial
  · next hchannel => exact (h.harmless _ _ hchannel).elim
  · exact h
  · exact h
  · exact h

end World

/-! ## Printing -/

namespace Call

theorem write_keeps (machine : Machine) (call : Call) (number : Nat) (text : Raw) :
    (call.write number text).Keeps machine := by
  unfold write
  dsimp only
  split
  · refine .bind (World.write_keeps machine _ text) fun result => ?_
    cases result with
    | error fault => exact .modify fun _ h => ⟨h.machine_eq, h.harmless⟩
    | ok => exact .pure _
  · refine .bind (.pure _) fun result => ?_
    cases result with
    | error fault => exact .modify fun _ h => ⟨h.machine_eq, h.harmless⟩
    | ok => exact .pure _

theorem print_keeps (machine : Machine) (call : Call) (text : Raw) :
    (call.print text).Keeps machine :=
  write_keeps machine call 1 text

theorem warn_keeps (machine : Machine) (call : Call) (text : Raw) :
    (call.warn text).Keeps machine :=
  .get_bind fun _ _ => .bind (write_keeps machine call 2 text) fun _ =>
    .modify fun _ h => ⟨h.machine_eq, h.harmless⟩

theorem complain_keeps (machine : Machine) (call : Call) (text : Raw) :
    (call.complain text).Keeps machine :=
  warn_keeps machine call _

theorem refuseUsage_keeps (machine : Machine) (call : Call) (status : Nat) (text : Raw) :
    (call.refuseUsage status text).Keeps machine :=
  .bind (complain_keeps machine call text) fun _ => .bind (warn_keeps machine call _) fun _ =>
    .pure _

theorem withOptions_keeps (call : Call) (description : String) (status : Nat)
    {action : Options → Job Nat} (h : ∀ options, (action options).Keeps machine) :
    (call.withOptions description status action).Keeps machine := by
  unfold withOptions
  split
  · exact h _
  · exact refuseUsage_keeps machine call status _

theorem withFirstOptions_keeps (call : Call) (description : String) (status : Nat)
    {action : Options → Job Nat} (h : ∀ options, (action options).Keeps machine) :
    (call.withFirstOptions description status action).Keeps machine := by
  unfold withFirstOptions
  split
  · exact h _
  · exact refuseUsage_keeps machine call status _

end Call

/-! ## Tools that print -/

theorem echo_keeps (machine : Machine) (call : Call) : (echo call).Keeps machine :=
  .bind (Call.print_keeps machine call _) fun _ => .pure _

theorem printf_keeps (machine : Machine) (call : Call) : (printf call).Keeps machine := by
  unfold printf
  dsimp only
  split
  · exact Call.refuseUsage_keeps machine call 1 _
  · refine .bind (.forIn fun complaint _ => ?_) fun _ =>
      .bind (Call.print_keeps machine call _) fun _ => .pure _
    split <;> exact .bind (Call.complain_keeps machine call _) fun _ => .pure _

theorem basename_keeps (machine : Machine) (call : Call) : (basename call).Keeps machine := by
  refine Call.withFirstOptions_keeps call _ 1 fun options => ?_
  dsimp only
  split
  · exact Call.refuseUsage_keeps machine call 1 _
  · split
    · exact .bind (.forIn fun path _ => .bind (Call.print_keeps machine call _) fun _ => .pure _)
        fun _ => .pure _
    · split
      · exact .bind (Call.print_keeps machine call _) fun _ => .pure _
      · exact .bind (Call.print_keeps machine call _) fun _ => .pure _
      · exact Call.refuseUsage_keeps machine call 1 _

theorem dirname_keeps (machine : Machine) (call : Call) : (dirname call).Keeps machine := by
  refine Call.withOptions_keeps call _ 1 fun options => ?_
  split
  · exact Call.refuseUsage_keeps machine call 1 _
  · exact .bind (.forIn fun path _ => .bind (Call.print_keeps machine call _) fun _ => .pure _)
      fun _ => .pure _

/-! ## Processes -/

/-- The program keeps a machine, whatever it is called with. -/
def Program.Keeps (machine : Machine) (program : Program) : Prop :=
  ∀ start call, Job.Keeps machine (program start call)

theorem Program.Keeps.ofTool {tool : Tool} (h : ∀ call, (tool call).Keeps machine) :
    (Program.ofTool tool).Keeps machine := by
  intro start call
  refine .get_bind fun before _ => ?_
  refine .bind (.modify fun _ hworld => ⟨hworld.machine_eq, hworld.harmless⟩) fun _ => ?_
  refine .bind (.bind (h call) fun _ => .pure _) fun ending => ?_
  refine .get_bind fun after hafter => ?_
  refine .bind (.set ⟨hafter.machine_eq, hafter.harmless⟩) fun _ => ?_
  split
  · exact .pure _
  · exact .pure _
  · exact .bind (Call.complain_keeps machine call _) fun _ => .pure _

theorem Program.Keeps.asProcess {program : Program} (h : program.Keeps machine) (start : Starter)
    (call : Call) : Job.Keeps machine (program.asProcess start call) := by
  refine .get_bind_run fun before hbefore => ?_
  have hafter := h start call _ (⟨hbefore.machine_eq, hbefore.harmless⟩ :
    World.IsApart machine { before with
      process := before.nextProcess, parent := before.process
      nextProcess := before.nextProcess + 1 })
  refine ⟨?_, hafter.harmless⟩
  obtain rfl := hbefore.machine_eq
  exact congrArg (fun after : Machine => { after with here := before.machine.here })
    hafter.machine_eq

end ShaderLiterals.Programs
