import ShaderLiterals.Programs.Decimal
import ShaderLiterals.Programs.Execution
import ShaderLiterals.Programs.Signal
import ShaderLiterals.Programs.Tool.Text

/-! # Tools that start other programs -/

namespace ShaderLiterals.Programs

open Files (Fault)

/-- Goes on with the options of the call that come before its operands, or ends with a status if
there is something wrong. -/
def Call.startWith (call : Call) (description : String) (status : Nat)
    (action : Options → Job Ending) : Job Ending :=
  match Options.read description false call.args with
  | .ok options => action options
  | .error complaint => return .exited (← call.refuseUsage status complaint)

/-- The status that tells that a program could not be started. -/
def startStatus : Fault → Nat
  | .notFound | .notDirectory => 127
  | _ => 126

/-- Runs another program with the streams of the call and ends as it does. -/
def Call.handOver (call : Call) (start : Starter) (environment : List (Raw × Raw)) (before : Raw)
    (name : Raw) (args : List Raw) : Job Ending := do
  match ← start { call with name := name, args := args, environment := environment } with
  | .ok ending => return ending
  | .error fault => do
      call.complain (before ++ Quote.always name ++ Raw.ofText (": " ++ fault.text))
      return .exited (startStatus fault)

/-! ## Variables -/

namespace Environment

/-- An assignment and whether there is one. -/
def assignment? (arg : Raw) : Option (Raw × Raw) :=
  let name := arg.takeWhile (· != '=')
  if name.length < arg.length then some (name, arg.drop (name.length + 1)) else none

/-- Variables with another value of one of them. -/
def set (environment : List (Raw × Raw)) (name value : Raw) : List (Raw × Raw) :=
  if (environment.lookup name).isSome then
    environment.map fun v => if v.1 = name then (name, value) else v
  else environment ++ [(name, value)]

/-- The pieces of a text as a shell would split it, which knows quotes and escapes; `piece` holds
what was read of a piece, if there is one. -/
def split (quote : Option Char) (piece : Option Raw) : Raw → List Raw
  | [] => piece.toList
  | '\\' :: c :: rest =>
      if quote = some '\'' && c != '\'' && c != '\\' then
        split quote (some (piece.getD [] ++ ['\\', c])) rest
      else if c = '_' && quote = none then piece.toList ++ split quote none rest
      else
        let plain := if c = '_' then ' ' else (Raw.control? c).getD c
        split quote (some (piece.getD [] ++ [plain])) rest
  | c :: rest =>
      match quote with
      | some q =>
          if c = q then split none (some (piece.getD [])) rest
          else split quote (some (piece.getD [] ++ [c])) rest
      | none =>
          if c = '\'' || c = '"' then split (some c) (some (piece.getD [])) rest
          else if Raw.isSpace c then piece.toList ++ split none none rest
          else split none (some (piece.getD [] ++ [c])) rest

/-- The arguments in which a text that is to be split was replaced by its pieces. -/
def splitArgs : List Raw → List Raw
  | [] => []
  | ('-' :: 'S' :: c :: text) :: rest => split none none (c :: text) ++ rest
  | ['-', 'S'] :: text :: rest => split none none text ++ rest
  | arg :: rest =>
      match "--split-string=".toList.isPrefixOf? arg, arg with
      | some text, _ => split none none text ++ rest
      | none, '-' :: _ => arg :: splitArgs rest
      | none, _ => arg :: rest

end Environment

/-- Runs a program with other variables, or shows them. -/
def env (start : Starter) (call : Call) : Job Ending := do
  let call := { call with args := Environment.splitArgs call.args }
  call.startWith ("i/ignore-environment 0/null u/unset= C/chdir= v/debug /block-signal== " ++
    "/default-signal== /ignore-signal== /list-signal-handling S/split-string=") 125
    fun options => do
  let (clears, operands) :=
    match options.operands with
    | ['-'] :: rest => (true, rest)
    | operands => (options.has "ignore-environment", operands)
  let unset := options.values "unset"
  if let some name := unset.find? fun name => name.isEmpty || name.contains '=' then
    call.complain (Raw.ofText "cannot unset " ++ Quote.always name ++
      Raw.ofText ": Invalid argument")
    return .exited 125
  let given := if clears then [] else call.environment.filter fun v => !unset.contains v.1
  let assignments := (operands.takeWhile (·.contains '=')).filterMap Environment.assignment?
  let environment := assignments.foldl (fun all v => Environment.set all v.1 v.2) given
  match operands.drop assignments.length, options.value? "chdir" with
  | [], some _ =>
      return .exited (← call.refuseUsage 125
        (Raw.ofText "must specify command with --chdir (-C)"))
  | [], none => do
      let ending := if options.has "null" then '\x00' else '\n'
      call.print (Raw.joinRecords ending (environment.map fun v => v.1 ++ '=' :: v.2))
      return .exited 0
  | name :: args, directory? => do
      if options.has "null" then
        return .exited (← call.refuseUsage 125
          (Raw.ofText "cannot specify --null (-0) with command"))
      if let some directory := directory? then
        let machine := (← get).machine
        let entered : Except Fault Files.Location :=
          match ← call.find directory, machine.locate (Raw.toText directory) with
          | .ok .directory, .ok location => .ok location
          | .ok _, _ => .error .notDirectory
          | .error fault, _ => .error fault
        match entered with
        | .ok location => World.modifyMachine fun machine => { machine with here := location }
        | .error fault =>
            call.complain (Raw.ofText "cannot change directory to " ++ Quote.always directory ++
              Raw.ofText (": " ++ fault.text))
            return .exited 125
      call.handOver start environment [] name args

/-- Shows variables. -/
def printenv : Tool := fun call =>
  call.withFirstOptions "0/null" 2 fun options => do
  let ending := if options.has "null" then '\x00' else '\n'
  if options.operands.isEmpty then
    call.print (Raw.joinRecords ending (call.environment.map fun v => v.1 ++ '=' :: v.2))
    return 0
  let values := options.operands.map fun name => call.environment.lookup name
  call.print (Raw.joinRecords ending (values.filterMap id))
  return if values.all Option.isSome then 0 else 1

/-! ## Conditions of a run -/

namespace Nice

/-- The arguments with old spellings of an adjustment in the new one. -/
def spelled : List Raw → List Raw
  | ('-' :: c :: digits) :: rest =>
      if c.isDigit || (c = '-' || c = '+') && digits.head?.any Char.isDigit then
        ['-', 'n'] :: (c :: digits) :: rest
      else
        match rest with
        | value :: rest =>
            if (c :: digits) = ['n'] then ('-' :: c :: digits) :: value :: spelled rest
            else ('-' :: c :: digits) :: value :: rest
        | [] => [ '-' :: c :: digits]
  | args => args

end Nice

/-- Runs a program that others go before, or shows how much they do. -/
def nice (start : Starter) (call : Call) : Job Ending := do
  let call := { call with args := Nice.spelled call.args }
  call.startWith "n/adjustment=" 125 fun options => do
  let adjustment := options.value? "adjustment"
  match adjustment.filter fun text => (Raw.int? text).isNone, options.operands with
  | some text, _ => do
      call.complain (Raw.ofText "invalid adjustment " ++ Quote.always text)
      return .exited 125
  | none, [] =>
      if adjustment.isSome then
        return .exited (← call.refuseUsage 125
          (Raw.ofText "a command must be given with an adjustment"))
      else do
        call.printLine (Raw.ofText (toString (← get).niceness))
        return .exited 0
  | none, name :: args => do
      let more := (adjustment.bind Raw.int?).getD 10
      modify fun world =>
        { world with niceness := max (-20) (min 19 (world.niceness + more)) }
      call.handOver start call.environment [] name args

/-- Runs a program that does not end when a terminal is closed. -/
def nohup (start : Starter) (call : Call) : Job Ending :=
  call.startWith "" 125 fun options => do
  match options.operands with
  | [] => return .exited (← call.refuseMissing 125)
  | name :: args => do
      modify fun world => { world with ignored := 1 :: world.ignored }
      call.handOver start call.environment (Raw.ofText "failed to run command ") name args

/-- Runs a program whose output is not held back. -/
def stdbuf (start : Starter) (call : Call) : Job Ending :=
  call.startWith "i/input= o/output= e/error=" 125 fun options => do
  match options.operands with
  | [] => return .exited (← call.refuseMissing 125)
  | name :: args =>
      if options.given.isEmpty then
        return .exited (← call.refuseUsage 125
          (Raw.ofText "you must specify a buffering mode option"))
      call.handOver start call.environment (Raw.ofText "failed to run command ") name args

/-! ## Time -/

namespace Time

/-- How many seconds the unit after a number has. -/
def unit? : Raw → Option Float
  | [] | ['s'] => some 1
  | ['m'] => some 60
  | ['h'] => some 3600
  | ['d'] => some 86400
  | _ => none

/-- The time, in nanoseconds, that a number with a unit spells. -/
def duration? (text : Raw) : Option Nat :=
  match Decimal.read? text with
  | some (n, rest) =>
      match unit? rest with
      | some unit => if n < 0 || n.isNaN then none else some (n * unit * 1e9).toUInt64.toNat
      | none => none
  | none => none

/-- Lets time pass, until programs are to be ended at most. -/
def pass (nanoseconds : Nat) : Job Unit :=
  modify fun world =>
    let clock := world.machine.clock + nanoseconds
    match world.deadline with
    | some deadline =>
        if deadline ≤ clock then
          { world with
            machine := { world.machine with clock := max deadline world.machine.clock }
            expired := true }
        else { world with machine := { world.machine with clock := clock } }
    | none => { world with machine := { world.machine with clock := clock } }

end Time

/-- Lets time pass. -/
def sleep : Tool := fun call =>
  call.withOptions "" 1 fun options => do
  if options.operands.isEmpty then return ← call.refuseMissing 1
  let faults := options.operands.filter fun text => (Time.duration? text).isNone
  match faults.getLast? with
  | some last => do
      for text in faults.dropLast do
        call.complain (Raw.ofText "invalid time interval " ++ Quote.always text)
      call.refuseUsage 1 (Raw.ofText "invalid time interval " ++ Quote.always last)
  | none => do
      Time.pass ((options.operands.filterMap Time.duration?).foldl (· + ·) 0)
      return 0

/-- Runs a program that is ended after some time. -/
def timeout (start : Starter) (call : Call) : Job Ending :=
  call.startWith "s/signal= k/kill-after= /foreground /preserve-status v/verbose" 125
    fun options => do
  let refuse := fun (text : Raw) => do return Ending.exited (← call.refuseUsage 125 text)
  let interval := fun (text : Raw) => Raw.ofText "invalid time interval " ++ Quote.always text
  let signal? := ((options.value? "signal").map Signal.number?).getD (some 15)
  match (options.value? "kill-after").filter fun text => (Time.duration? text).isNone, signal?,
      options.operands with
  | some text, _, _ => refuse (interval text)
  | none, none, _ =>
      refuse (Quote.always ((options.value? "signal").getD []) ++ Raw.ofText ": invalid signal")
  | none, some signal, text :: name :: args => do
      match Time.duration? text with
      | none => refuse (interval text)
      | some duration => do
          let before ← get
          let own := if duration = 0 then none else some (before.machine.clock + duration)
          let deadline :=
            match own, before.deadline with
            | some a, some b => some (min a b)
            | own, outer => own.or outer
          set { before with deadline := deadline }
          let ending ←
            call.handOver start call.environment (Raw.ofText "failed to run command ") name args
          let after ← get
          if !after.expired || own != deadline then
            set { after with deadline := before.deadline }
            return ending
          set { after with deadline := before.deadline, expired := false }
          if options.has "verbose" then
            call.complain (Raw.ofText s!"sending signal {Signal.name signal} to command " ++
              Quote.always name)
          if signal = 9 then return .killed 9
          return .exited (if options.has "preserve-status" then 128 + signal else 124)
  | none, some _, _ => do
      call.warn (Raw.ofText "Try '" ++ call.name ++
        Raw.ofText " --help' for more information.\n")
      return .exited 125

end ShaderLiterals.Programs
