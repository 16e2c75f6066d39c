import ShaderLiterals.Programs.Shell.Run

/-! # Starting a shell -/

namespace ShaderLiterals.Programs.Shell

open Files (Fault)

/-- What a shell is asked to do. -/
structure Request where
  flags : Flags
  /-- Whether the first operand is the script itself. -/
  takesText : Bool
  /-- Whether the script is read from the input. -/
  takesInput : Bool
  operands : List Raw

namespace Request

/-- Reads the letters of one argument; of the arguments after it those of the letter `o` are
names. -/
def readLetters (on : Bool) : Raw → List Raw → Request → Except Raw (List Raw × Request)
  | [], rest, request => .ok (rest, request)
  | letter :: letters, rest, request =>
      if letter = 'c' then readLetters on letters rest { request with takesText := true }
      else if letter = 'l' then readLetters on letters rest request
      else if letter = 'o' then
        match rest with
        | [] => readLetters on letters [] request
        | name :: rest =>
            match Flags.names.find? fun flag => flag.1.toList = name with
            | some (_, letter) =>
                readLetters on letters rest { request with flags := request.flags.turn on letter }
            | none => .error (Raw.ofText "Illegal option -o " ++ name)
      else if letter != '-' && (Flags.names.map Prod.snd).contains letter then
        readLetters on letters rest { request with flags := request.flags.turn on letter }
      else .error (Raw.ofText "Illegal option -" ++ [letter])

/-- Reads the arguments, at most `fuel` of which are options. -/
def readArgs : (fuel : Nat) → List Raw → Request → Except Raw Request
  | 0, args, request => .ok { request with operands := args }
  | _ + 1, ['-'] :: rest, request | _ + 1, ['-', '-'] :: rest, request =>
      .ok { request with operands := rest }
  | fuel + 1, ('-' :: letters) :: rest, request =>
      match readLetters true letters rest request with
      | .error complaint => .error complaint
      | .ok (rest, request) => readArgs fuel rest request
  | fuel + 1, ('+' :: letters) :: rest, request =>
      match readLetters false letters rest request with
      | .error complaint => .error complaint
      | .ok (rest, request) => readArgs fuel rest request
  | _ + 1, args, request => .ok { request with operands := args }

/-- What the arguments of a shell ask for. -/
def ofArgs (args : List Raw) : Except Raw Request := do
  let request ← readArgs (args.length + 1) args ⟨.none, false, false, []⟩
  if request.takesText then
    if request.operands.isEmpty then .error (Raw.ofText "-c requires an argument")
    else .ok request
  else if request.operands.isEmpty || request.flags.has 's' then
    .ok { request with takesInput := true, flags := request.flags.turn true 's' }
  else .ok request

end Request

/-- The script that is asked for: its text, its name and its arguments. -/
def Request.script (request : Request) (call : Call) : Job (Except Raw (Raw × Raw × List Raw)) := do
  match request.takesText, request.takesInput, request.operands with
  | true, _, text :: name :: args => return .ok (text, name, args)
  | true, _, [text] => return .ok (text, call.name, [])
  | _, true, args => do
      match ← call.takeAll 0 with
      | .ok text => return .ok (text, call.name, args)
      | .error _ => return .ok ([], call.name, args)
  | _, _, name :: args => do
      match ← call.openRead name with
      | .error fault =>
          return .error (Raw.ofText "cannot open " ++ name ++ ':' :: ' ' ::
            Session.faultText fault false)
      | .ok handle =>
          match ← World.takeAll handle with
          | .ok text => return .ok (text, name, args)
          | .error _ => return .ok ([], name, args)
  | _, _, [] => return .ok ([], call.name, [])

/-- The variables that a shell begins with. -/
def startVariables (environment : List (Raw × Raw)) (directory : Raw) (parent : Nat) :
    List Variable :=
  let given := environment.filter fun v =>
    Word.isName v.1 && v.1 != "IFS".toList && v.1 != "PWD".toList && v.1 != "OPTIND".toList
      && v.1 != "PPID".toList
  let own : List (String × Raw) :=
    [("IFS", [' ', '\t', '\n']), ("OPTIND", ['1']), ("PATH", Search.defaultPath),
      ("PPID", Raw.ofNat parent), ("PS1", ['#', ' ']), ("PS2", ['>', ' ']), ("PS4", ['+', ' '])]
  let isGiven := fun (name : String) => given.any fun v => v.1 = name.toList
  { name := "PWD".toList, value := some directory, exported := true, readOnly := false } ::
    given.map (fun v => { name := v.1, value := some v.2, exported := true, readOnly := false }) ++
    (own.filter fun v => !isGiven v.1).map fun v =>
      { name := v.1.toList, value := some v.2, exported := false, readOnly := false }

/-- The path of the directory where a shell starts: the one that it is told, if it leads there. -/
def startDirectory (machine : Machine) (environment : List (Raw × Raw)) : Raw :=
  let here := Raw.ofText machine.herePath
  match environment.lookup "PWD".toList with
  | some path =>
      if path.head? = some '/' &&
          (machine.locate (Raw.toText path)).toOption = some machine.here then
        path
      else here
  | none => here

/-- The state that a shell begins with. -/
def startState (world : World) (call : Call) (flags : Flags) (name : Raw) (args : List Raw) :
    State :=
  let directory := startDirectory world.machine call.environment
  { name := name, args := args
    vars := startVariables call.environment directory world.parent
    hidden := [], functions := [], aliases := [], flags := flags, status := 0
    streams := call.streams, traps := [], mainProcess := world.process
    parentProcess := world.parent, lastJob := none, directory := directory, known := [], line := 1
    command := none, loops := 0, optionIndex := 1, optionOffset := 0, substituted := none
    world := world, process := world.process, jobs := [], pending := [] }

/-- How deep commands may nest. -/
def depthLimit : Nat := 2000

/-- Runs a shell. -/
def shell (start : Starter) (call : Call) : Job Ending := do
  let refuse := fun (complaint : Raw) => do
    call.warn (call.name ++ Raw.ofText ": 0: " ++ complaint ++ ['\n'])
    return Ending.exited 2
  match Request.ofArgs call.args with
  | .error complaint => refuse complaint
  | .ok request =>
      match ← request.script call with
      | .error complaint => refuse complaint
      | .ok (text, name, args) => do
          let runner : Runner := ⟨run start depthLimit, start⟩
          let body : Session Unit := runner.runText false text
          let (result, state) := body.run.run (startState (← get) call request.flags name args)
          let (ending, state) := (runner.conclude result).run state
          set state.world
          match ending with
          | .exited status => return .exited (status % 256)
          | killed => return killed

end ShaderLiterals.Programs.Shell
