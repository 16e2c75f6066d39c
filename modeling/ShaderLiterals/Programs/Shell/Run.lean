import ShaderLiterals.Programs.Shell.Runner

/-! # Running commands -/

namespace ShaderLiterals.Programs.Shell

open Files (Fault)

/-! ## Simple commands -/

/-- What runs a simple command. -/
inductive Target where
  | nothing
  | function (body : Command)
  | builtin (name : String)
  | program

/-- A simple command whose words are fields. -/
structure Invocation where
  target : Target
  /-- Whether a fault ends the script. -/
  isSpecial : Bool
  name : Raw
  args : List Raw

/-- What follows `command` and its options, if that is to be run. -/
def afterCommand : List Raw → Option (List Raw)
  | ['-', '-'] :: rest => if rest.isEmpty then none else some rest
  | ('-' :: c :: letters) :: rest =>
      if (c :: letters).all (· == 'p') then afterCommand rest else none
  | [] => none
  | rest => some rest

/-- What runs a simple command; `first` tells whether no builtin command stands before it, and
`fuel` bounds how many may. -/
def resolve (state : State) : (fuel : Nat) → (first : Bool) → List Raw → Invocation
  | _, _, [] => ⟨.nothing, false, [], []⟩
  | fuel, first, name :: args =>
      if isSpecialBuiltin name then ⟨.builtin (String.ofList name), first, name, args⟩
      else
        match if first then state.functions.lookup name else none with
        | some body => ⟨.function body, false, name, args⟩
        | none =>
            if name = "command".toList then
              match afterCommand args, fuel with
              | some rest, fuel + 1 => resolve state fuel false rest
              | _, _ => ⟨.builtin "command", false, name, args⟩
            else if isPlainBuiltin name then ⟨.builtin (String.ofList name), false, name, args⟩
            else ⟨.program, false, name, args⟩

/-- The builtin commands whose arguments may be assignments. -/
def declaring : List String := ["export", "readonly", "local"]

/-- The fields of words after those that were found. -/
def expandCommand (capture : Command → Session Raw) : List Raw → List Word → Session (List Raw)
  | found, [] => return found
  | found, word :: rest => do
      let head := (found.dropWhile (· = "command".toList)).head?
      let declares := head.any fun name => declaring.any (·.toList = name)
      match if declares then Word.assignment? word else none with
      | some (name, value) => do
          let value ← expandText capture true value
          expandCommand capture (found ++ [name ++ '=' :: value]) rest
      | none => do
          let fields ← expandFields capture word
          expandCommand capture (found ++ fields) rest

/-- Sets the variables of a command, which may be its own. -/
def assignAll (capture : Command → Session Raw) (own exports : Bool) :
    List (Raw × Word) → Session (List Raw)
  | [] => return []
  | (name, word) :: rest => do
      let value ← expandText capture true word
      if own then modify fun s => s.hide name
      Session.assign name value
      if own || exports then
        modify fun s =>
          match s.find? name with
          | some v => s.put { v with exported := true }
          | none => s
      return (name ++ '=' :: value) :: (← assignAll capture own exports rest)

/-- Shows a command before it is run, if that is asked for. -/
def trace (capture : Command → Session Raw) (streams : Streams) (words : List Raw) :
    Session Unit := do
  let s ← get
  if s.flags.has 'x' then
    let mark := (s.valueOf "PS4".toList).getD []
    modify fun s => { s with streams := streams, flags := s.flags.turn false 'x' }
    let mark ← expandText capture false (Script.document mark)
    Session.warnLine (mark ++ [' '].intercalate words)
    modify ({ · with
      streams := s.streams, flags := s.flags, status := s.status, substituted := s.substituted })

namespace Runner

/-- Runs a function. -/
def runFunction (runner : Runner) (tested : Bool) (body : Command) (args : List Raw) :
    Session Unit := do
  let s ← get
  set { s with args := args, loops := 0, optionIndex := 1, optionOffset := 0 }
  let call : Session Unit := ExceptT.mk do
    match ← (runner.run tested body).run with
    | .error .back => return .ok ()
    | result => return result
  call.afterwards fun after =>
    { after with
      args := s.args, loops := s.loops, optionIndex := s.optionIndex
      optionOffset := s.optionOffset }

/-- Starts a program and waits for its end.  Without a search path only paths lead to programs. -/
def startProgram (runner : Runner) (name : Raw) (args : List Raw) :
    Session (Except Fault Ending) := do
  let s ← get
  if !name.contains '/' && (s.valueOf "PATH".toList).isNone then return .error .notFound
  let ignored := s.world.ignored ++ (keptTraps s.traps).map Prod.fst
  set { s with world := { s.world with ignored := ignored } }
  let result ← Session.inWorld (runner.start (Builtin.call s name args))
  modify fun after =>
    { after with world := { after.world with ignored := s.world.ignored } }
  return result

/-- Complains that a program cannot be started. -/
def refuseProgram (name : Raw) (fault : Fault) : Session Unit := do
  let isMissing := [Fault.notFound, .notDirectory, .nameTooLong, .tooManyLinks].contains fault
  let text :=
    match fault with
    | .notFound | .notDirectory => "not found"
    | fault => fault.text
  Session.complain (name ++ Raw.ofText (": " ++ text))
  Session.setStatus (if isMissing then 127 else 126)

def runProgram (runner : Runner) (name : Raw) (args : List Raw) : Session Unit := do
  let s ← get
  if !name.contains '/' && (s.programPath? name).isSome then Builtin.remember name
  match ← runner.startProgram name args with
  | .ok ending => do
      Session.report ending
      runner.catchUp s.world.machine.clock
  | .error fault => refuseProgram name fault

/-- Lets a program take the place of the script. -/
def exec (runner : Runner) (args : List Raw) : Session Nat := do
  match (← Builtin.letters "" args).2 with
  | [] => return 0
  | name :: args => do
      let result ← runner.startProgram name args
      match result with
      | .ok (.killed signal) => throw (.killed signal)
      | .ok ending => Session.setStatus (statusOf ending)
      | .error fault => refuseProgram name fault
      modify fun s => { s with traps := [] }
      throw .exit

/-- Runs the commands of a file. -/
def source (runner : Runner) (args : List Raw) : Session Nat := do
  match (← Builtin.letters "" args).2 with
  | [] => return 0
  | name :: _ => do
      let s ← get
      let path :=
        if name.contains '/' then some name
        else Search.find? s.world.machine ((s.valueOf "PATH".toList).getD []) name
      match path with
      | none => Session.abort (name ++ Raw.ofText ": not found")
      | some path => do
          let content ← Session.inWorld do
            match ← World.openPath s.streams .read path with
            | .ok handle => World.takeAll handle
            | .error fault => return .error fault
          match content with
          | .error .isDirectory => return 0
          | .error fault =>
              Session.abort (Raw.ofText "cannot open " ++ path ++ ':' :: ' ' ::
                Session.faultText fault false)
          | .ok text => do
              modify ({ · with command := some path })
              ExceptT.mk do
                match ← (runner.runText false text).run with
                | .error .back | .ok () => return .ok (← get).status
                | .error flow => return .error flow

/-- Runs a builtin command. -/
def callBuiltin (runner : Runner) (tested : Bool) (name : String) (args : List Raw) : Session Nat :=
  match name with
  | "eval" => do
      runner.runText tested ([' '].intercalate args)
      return (← get).status
  | "." => runner.source args
  | "exec" => runner.exec args
  | "wait" => runner.wait args
  | "command" => Builtin.commandQuery args
  | name =>
      match Builtin.table.lookup name with
      | some builtin => builtin args
      | none => return 127

/-- Runs a builtin command and complains if its output could not be written. -/
def runBuiltin (runner : Runner) (tested : Bool) (call : Invocation) (name : String) :
    Session Unit := do
  let before := (← get).command
  modify ({ · with command := some call.name })
  let body : Session Unit := do
    let status ← runner.callBuiltin tested name call.args
    let failed := (← get).world.writeFault.isSome
    if failed then
      Session.inWorld (modify ({ · with writeFault := none }))
      modify ({ · with command := some call.name })
      Session.complain (call.name ++ Raw.ofText ": I/O error")
    Session.setStatus (if failed then status ||| 1 else status)
  let body := body.afterwards ({ · with command := before })
  ExceptT.mk do
    match ← body.run with
    | .error .fault => return if call.isSpecial then .error .fault else .ok ()
    | result => return result

/-- Runs a simple command. -/
def runSimple (runner : Runner) (tested : Bool) (assignments : List (Raw × Word))
    (words : List Word) (redirections : List Redirection) : Session Unit := do
  modify ({ · with substituted := none })
  let fields ← expandCommand runner.capture [] words
  let before ← get
  let call := resolve before (fields.length + 1) true fields
  let (own, keeps, exports) :=
    match call.target with
    | .nothing => (false, false, false)
    | .function _ | .program => (true, false, false)
    | .builtin name =>
        (!call.isSpecial && !assignments.isEmpty, name = "exec" && call.args.isEmpty,
          name = "exec" && !call.args.isEmpty)
  let body : Session Unit := do
    if !(← Session.redirect runner.capture redirections) then
      if call.isSpecial then throw .fault
      return
    let assigned ← assignAll runner.capture own exports assignments
    unless assigned.isEmpty && fields.isEmpty do
      trace runner.capture before.streams (assigned ++ fields)
    match call.target with
    | .nothing => Session.setStatus ((← get).substituted.getD 0)
    | .function body => runner.runFunction tested body call.args
    | .program => runner.runProgram call.name call.args
    | .builtin name => runner.runBuiltin tested call name
  if own then modify fun s => { s with hidden := [] :: s.hidden }
  body.afterwards fun after =>
    let after := if own then after.reveal else after
    if keeps then after else { after with streams := before.streams }

/-! ## Loops -/

/-- How a round of a loop came to its end. -/
inductive Round where
  | done
  | again
  | left

/-- Runs a round of a loop. -/
def round (body : Session Unit) : Session Round :=
  ExceptT.mk do
    match ← body.run with
    | .ok () => return .ok .done
    | .error (.leave 0) => return .ok .left
    | .error (.again 0) => return .ok .again
    | .error (.leave (n + 1)) => return .error (.leave n)
    | .error (.again (n + 1)) => return .error (.again n)
    | .error flow => return .error flow

/-- Repeats a command as long as a condition has the wanted value, at most `limit` times.  The last
round ended with a status. -/
def repeatRounds (runner : Runner) (tested wanted : Bool) (condition body : Command) :
    (limit : Nat) → (status : Nat) → Session Unit
  | 0, _ => throw (.killed 15)
  | limit + 1, status => do
      match ← round (runner.run true condition) with
      | .left => Session.setStatus status
      | .again => repeatRounds runner tested wanted condition body limit status
      | .done => do
          if ((← get).status == 0) != wanted then
            Session.setStatus status
            return
          match ← round (runner.run tested body) with
          | .left => Session.setStatus 0
          | .again => repeatRounds runner tested wanted condition body limit 0
          | .done => do
              repeatRounds runner tested wanted condition body limit (← get).status

/-- Runs a command for each of some values of a variable.  The last round ended with a status. -/
def runRounds (runner : Runner) (tested : Bool) (name : Raw) (body : Command) :
    List Raw → (status : Nat) → Session Unit
  | [], status => Session.setStatus status
  | value :: rest, _ => do
      Session.assign name value
      match ← round (runner.run tested body) with
      | .left => Session.setStatus 0
      | .again => runRounds runner tested name body rest 0
      | .done => do runRounds runner tested name body rest (← get).status

/-- Runs a loop. -/
def inLoop (body : Session Unit) : Session Unit := do
  let loops := (← get).loops
  modify ({ · with loops := loops + 1 })
  body.afterwards ({ · with loops := loops })

/-- How often a loop may go round. -/
def roundLimit : Nat := 1000000

/-! ## Choices -/

/-- The command of the first case whose patterns match a text. -/
def findCase (runner : Runner) (text : Raw) : List (List Word × Command) → Session (Option Command)
  | [] => return none
  | (patterns, body) :: rest => do
      if ← anyMatches patterns then return some body
      findCase runner text rest
where
  anyMatches : List Word → Session Bool
    | [] => return false
    | word :: rest => do
        if Glob.isMatch (← expandPattern runner.capture word) text then return true
        anyMatches rest

end Runner

/-- Ends the script if the last command failed and that is to end it. -/
def checkFailure (tested : Bool) : Session Unit := do
  let s ← get
  if !tested && s.status != 0 && s.flags.has 'e' then throw .exit

/-- Runs a command; `fuel` bounds how deep commands nest. -/
def run (start : Starter) : (fuel : Nat) → (tested : Bool) → Command → Session Unit
  | 0, _, _ => throw (.killed 11)
  | fuel + 1, tested, command => do
      let runner : Runner := ⟨run start fuel, start⟩
      if (← get).flags.has 'n' then return
      match command with
      | .nothing => return
      | .simple line assignments words redirections => do
          modify ({ · with line := line })
          runner.runSimple tested assignments words redirections
          checkFailure tested
          runner.handleSignals
      | .pipeline commands => do
          let clock := (← get).world.machine.clock
          runner.runPiped tested none commands
          checkFailure tested
          runner.catchUp clock
          runner.handleSignals
      | .not body => do
          run start fuel true body
          let status := (← get).status
          Session.setStatus (if status = 0 then 1 else 0)
      | .join joint first second => do
          run start fuel true first
          if ((← get).status == 0) == (joint = .and) then run start fuel tested second
      | .sequence first second => do
          run start fuel tested first
          run start fuel tested second
      | .branch condition yes no => do
          run start fuel true condition
          if (← get).status = 0 then run start fuel tested yes
          else
            match no with
            | .nothing => Session.setStatus 0
            | no => run start fuel tested no
      | .loop line name words body => do
          modify ({ · with line := line })
          let values ←
            match words with
            | some words => expandAllFields runner.capture words
            | none => pure (← get).args
          Runner.inLoop (runner.runRounds tested name body values 0)
      | .repeatWhile wanted condition body =>
          Runner.inLoop (runner.repeatRounds tested wanted condition body Runner.roundLimit 0)
      | .choose line word cases => do
          modify ({ · with line := line })
          let text ← expandText runner.capture false word
          match ← runner.findCase text cases with
          | none | some .nothing => Session.setStatus 0
          | some body => run start fuel tested body
      | .subshell line body => do
          modify ({ · with line := line })
          let clock := (← get).world.machine.clock
          let ending ← runner.apart id (run start fuel tested body)
          Session.report ending
          checkFailure tested
          runner.catchUp clock
          runner.handleSignals
      | .background line body => do
          modify ({ · with line := line })
          let s ← get
          let process := s.world.nextProcess
          let job := BackgroundJob.waiting body s.toScope s.world.machine.here s.world.umask
          set { s with
            world := { s.world with nextProcess := process + 1 }
            jobs := s.jobs ++ [(process, job)]
            lastJob := some process
            status := 0 }
      | .define name body =>
          modify fun s =>
            { s with
              functions := (name, body) :: s.functions.filter (·.1 != name)
              status := 0 }
      | .redirected line body redirections => do
          modify ({ · with line := line })
          let streams := (← get).streams
          let redirected : Session Unit := do
            if ← Session.redirect runner.capture redirections then run start fuel tested body
          redirected.afterwards ({ · with streams := streams })
          checkFailure tested

end ShaderLiterals.Programs.Shell
