import ShaderLiterals.Programs.Shell.Builtin
import ShaderLiterals.Programs.Shell.Redirect

/-!
# Running commands apart from the script

A subshell, a part of a pipeline, a command whose output is put in a word and a command in the
background all work on a copy of what the script has for itself.  Only the world is shared.
-/

namespace ShaderLiterals.Programs.Shell

/-- How commands are run, and other programs started. -/
structure Runner where
  /-- Runs a command; if it is tested, its failure does not end the script. -/
  run : (tested : Bool) → Command → Session Unit
  start : Starter

/-- Does something, and changes the state afterwards however it goes on. -/
def Session.afterwards {α : Type} (body : Session α) (change : State → State) : Session α :=
  ExceptT.mk do
    let result ← body.run
    modify change
    return result

/-- The status that tells how a program came to its end. -/
def statusOf : Ending → Nat
  | .exited status => status % 256
  | .killed signal => 128 + signal

/-- Takes note of how a program came to its end. -/
def Session.report (ending : Ending) : Session Unit := do
  setStatus (statusOf ending)
  if let .killed signal := ending then
    let text := Signal.description signal
    unless text.isEmpty || (← get).world.expired do warnLine (Raw.ofText text)

/-- The traps that a copy of a script keeps: the signals that it does not care about. -/
def keptTraps (traps : List (Nat × Raw)) : List (Nat × Raw) :=
  traps.filter fun trap => trap.1 != 0 && trap.2.isEmpty

/-- The world as it is after another process changed it, seen from where the first one was. -/
def World.backFrom (before after : World) : World :=
  { after with
    machine := { after.machine with here := before.machine.here }
    umask := before.umask, ignored := before.ignored }

namespace Runner

/-- Runs the commands of a script, at most `fuel` of them; if there are none, the status is 0. -/
def runScript (runner : Runner) (tested : Bool) : (fuel : Nat) → (empty : Bool) → Script →
    Session Unit
  | 0, _, _ => return
  | fuel + 1, empty, script => do
      let aliases := (← get).aliases
      match Script.next { script with aliases := aliases } with
      | .error fault => do
          modify ({ · with line := fault.line })
          Session.abort (Raw.ofText "Syntax error: " ++ fault.text)
      | .ok (none, _) => if empty then Session.setStatus 0
      | .ok (some .nothing, script) => runScript runner tested fuel empty script
      | .ok (some command, script) => do
          runner.run tested command
          runScript runner tested fuel false script

/-- Runs the commands of a text. -/
def runText (runner : Runner) (tested : Bool) (text : Raw) : Session Unit :=
  runner.runScript tested (text.length + 2) true (.ofRaw [] (text.filter (· != '\x00')))

/-- Handles the signals that have come. -/
def handleSignals (runner : Runner) : Session Unit := do
  let s ← get
  if s.pending.isEmpty && s.world.signals.isEmpty && !s.world.expired then return
  if s.world.expired then throw (.killed 15)
  let (own, others) := s.world.signals.partition (·.1 = s.process)
  set { s with world := { s.world with signals := others } }
  for (_, signal) in own do Builtin.deliver signal
  let pending := (← get).pending
  modify ({ · with pending := [] })
  for signal in pending do
    match (← get).traps.lookup signal with
    | none | some [] => pure ()
    | some text => do
        let status := (← get).status
        runner.runText false text
        Session.setStatus status

/-! ## Ends -/

/-- What comes of a script whose commands went on in some way, apart from its jobs: what is to be
done at the end is done. -/
def farewell (runner : Runner) : Except Flow Unit → StateM State Ending
  | .error (.killed signal) => return .killed signal
  | _ => do
      let s ← get
      match s.traps.lookup 0 with
      | none | some [] => return .exited s.status
      | some text => do
          set { s with traps := s.traps.filter (·.1 != 0), loops := 0 }
          let last : Session Unit := do
            runner.handleSignals
            runner.runText false text
            runner.handleSignals
          match ← last.run with
          | .error (.killed signal) => return .killed signal
          | .error _ => return .exited (← get).status
          | .ok () => return .exited s.status

/-! ## Jobs

How a job ends is known by a function, since the jobs that it leaves behind are run then. -/

/-- What comes of a script whose commands went on in some way. -/
abbrev Conclusion := Except Flow Unit → StateM State Ending

/-- Runs a job that was not waited for. -/
def runJob (runner : Runner) (conclude : Conclusion) (process : Nat) (body : Command)
    (scope : Scope) (here : Files.Location) (umask : Nat) : StateM State Ending := do
  let s ← get
  let (null, world) := (World.push ⟨.device .null, true, false⟩).run s.world
  let child : State :=
    { scope with
      world := { world with machine := { world.machine with here := here }, umask := umask }
      streams := (0, null) :: scope.streams.filter (·.1 != 0)
      traps := keptTraps scope.traps
      process := process, jobs := [], pending := [] }
  let (result, after) := (runner.run false body).run.run child
  let (ending, after) := (conclude result).run after
  set { s with
    world := World.backFrom s.world after.world
    jobs := s.jobs.map fun (other, job) => (other, if other = process then .ended ending else job) }
  return ending

/-- How long each job takes that was not waited for. -/
def jobTimes (runner : Runner) (conclude : Conclusion) (s : State) : List (Nat × Nat) :=
  s.jobs.filterMap fun (process, job) =>
    match job with
    | .ended _ => none
    | .waiting body scope here umask =>
        let (_, after) := (runner.runJob conclude process body scope here umask).run s
        some (process, after.world.machine.clock - s.world.machine.clock)

/-- Sets the time. -/
def State.atTime (clock : Nat) (s : State) : State :=
  { s with world := { s.world with machine := { s.world.machine with clock := clock } } }

/-- Runs the jobs that were not waited for and whose number and time are wanted, from a time on, the
quick ones first. -/
def runSomeJobs (runner : Runner) (conclude : Conclusion) (start : Nat)
    (wanted : Nat → Nat → Bool) : StateM State Unit := do
  let s ← get
  if s.jobs.isEmpty then return
  let times := (runner.jobTimes conclude s).filter fun t => wanted t.1 t.2
  for (process, _) in times.mergeSort fun a b => a.2 ≤ b.2 do
    let s ← get
    if let some (.waiting body scope here umask) := s.jobs.lookup process then
      set (State.atTime start s)
      discard <| runner.runJob conclude process body scope here umask
  let last := start + ((times.map Prod.snd).max?).getD 0
  modify (State.atTime (max last s.world.machine.clock))

/-- Ends a script whose commands went on in some way.  Its jobs run on until they end; they may have
jobs in turn, at most so deep. -/
def concludeWithin (runner : Runner) : (depth : Nat) → Conclusion
  | 0, result => runner.farewell result
  | depth + 1, result => do
      let ending ← runner.farewell result
      runner.runSomeJobs (runner.concludeWithin depth) (← get).world.machine.clock fun _ _ => true
      return ending

/-- How deep jobs may be nested. -/
def jobDepth : Nat := 20

def conclude (runner : Runner) : Conclusion := runner.concludeWithin jobDepth

/-- Runs jobs as long as a time that has passed since the given one. -/
def catchUp (runner : Runner) (start : Nat) : Session Unit := do
  let s ← get
  let passed := s.world.machine.clock - start
  if !s.jobs.isEmpty && 5000000 ≤ passed then
    ExceptT.lift (runner.runSomeJobs runner.conclude start fun _ time => time ≤ passed)

/-- Waits for all jobs. -/
def waitForAll (runner : Runner) : Session Nat := do
  let start := (← get).world.machine.clock
  ExceptT.lift (runner.runSomeJobs runner.conclude start fun _ _ => true)
  return 0

/-- Waits for a job, and those that end before it. -/
def waitFor (runner : Runner) (process : Nat) : Session Nat := do
  let s ← get
  let times := runner.jobTimes runner.conclude s
  if let some limit := times.lookup process then
    ExceptT.lift (runner.runSomeJobs runner.conclude s.world.machine.clock fun other time =>
      time < limit || other = process)
  match (← get).jobs.lookup process with
  | some (.ended ending) => do
      Session.report ending
      return statusOf ending
  | _ => return 127

def wait (runner : Runner) (args : List Raw) : Session Nat := do
  if args.isEmpty then return ← runner.waitForAll
  let mut status := 0
  for arg in args do
    status ← runner.waitFor (← Builtin.number (if arg.head? = some '%' then arg.drop 1 else arg))
  return status

/-! ## Apart from the script -/

/-- Does something on a copy of what the script has for itself. -/
def apart (runner : Runner) (change : State → State) (body : Session Unit) : Session Ending :=
  ExceptT.lift do
    let before ← get
    let process := before.world.nextProcess
    let child := change { before with
      world := { before.world with nextProcess := process + 1 }
      traps := keptTraps before.traps
      process := process, jobs := [], pending := [] }
    let (result, after) := body.run.run child
    let (ending, after) := (runner.conclude result).run after
    set { before with world := World.backFrom before.world after.world }
    return ending

/-- Lets a stream go to a channel. -/
def attached (stream handle : Nat) (s : State) : State :=
  { s with streams := (stream, handle) :: s.streams.filter (·.1 != stream) }

/-- The output of a command. -/
def capture (runner : Runner) (command : Command) : Session Raw := do
  let sink ← Session.inWorld World.newSink
  let ending ← runner.apart (attached 1 sink) (runner.run false command)
  let text ← Session.inWorld (World.drain sink)
  let status := (← get).status
  Session.report ending
  modify ({ · with status := status, substituted := some (statusOf ending) })
  return text

/-- Runs commands of which each reads what the one before it wrote. -/
def runPiped (runner : Runner) (tested : Bool) (input : Option Nat) : List Command → Session Unit
  | [] => return
  | [last] => do
      let ending ← runner.apart (withInput input) (runner.run tested last)
      Session.report ending
  | command :: rest => do
      let sink ← Session.inWorld World.newSink
      let ending ← runner.apart (attached 1 sink ∘ withInput input) (runner.run tested command)
      Session.report ending
      let source ← Session.inWorld do World.newSource (← World.drain sink)
      runPiped runner tested (some source) rest
where
  withInput (input : Option Nat) (s : State) : State :=
    match input with
    | some handle => attached 0 handle s
    | none => s

end Runner

end ShaderLiterals.Programs.Shell
