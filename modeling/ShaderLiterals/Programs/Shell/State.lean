import ShaderLiterals.Programs.Call
import ShaderLiterals.Programs.Shell.Command

/-! # The state of a script that runs -/

namespace ShaderLiterals.Programs.Shell

open Files (Fault)

structure Variable where
  name : Raw
  /-- A variable may be known for being exported without having a value. -/
  value : Option Raw
  exported : Bool
  readOnly : Bool

/-- The options of a shell, each with a letter. -/
structure Flags where
  /-- Those that are on. -/
  letters : Raw

/-- What a script has for itself, and what the scripts that it starts begin with. -/
structure Scope where
  /-- The name of the script. -/
  name : Raw
  args : List Raw
  vars : List Variable
  /-- For each command that has variables of its own, those that they hide. -/
  hidden : List (List (Raw × Option Variable))
  functions : List (Raw × Command)
  /-- The names that stand for other text, the last one that was set first. -/
  aliases : List (Raw × Raw)
  flags : Flags
  /-- The status of the last command. -/
  status : Nat
  streams : Streams
  /-- What is run when the script ends, under number 0, or gets a signal. -/
  traps : List (Nat × Raw)
  /-- The number of the process of the whole script, and of the one that started it. -/
  mainProcess : Nat
  parentProcess : Nat
  /-- The last command that was put into the background. -/
  lastJob : Option Nat
  /-- The path of the directory that the script went to. -/
  directory : Raw
  /-- The programs that were found. -/
  known : List Raw
  /-- The line of the command that runs. -/
  line : Nat
  /-- The builtin command that runs. -/
  command : Option Raw
  /-- How many loops are open. -/
  loops : Nat
  /-- The next argument to be read as an option, and how far into the one before it the reading has
  come. -/
  optionIndex : Nat
  optionOffset : Nat
  /-- The status of the last command that put its output in a word. -/
  substituted : Option Nat

/-- A command that runs beside the script. -/
inductive BackgroundJob where
  /-- It was not waited for, and starts with what the script had for itself and where it was. -/
  | waiting (body : Command) (scope : Scope) (here : Files.Location) (umask : Nat)
  | ended (ending : Ending)

structure State extends Scope where
  world : World
  /-- The number of the process. -/
  process : Nat
  jobs : List (Nat × BackgroundJob)
  /-- The signals that the script got and has not handled. -/
  pending : List Nat

/-- How it goes on when it does not go on with the next command. -/
inductive Flow where
  /-- Out of a loop, and as many more around it. -/
  | leave (loops : Nat)
  /-- To the next round of a loop, after leaving as many inside of it. -/
  | again (loops : Nat)
  /-- Out of a function. -/
  | back
  | exit
  /-- Out of the script, or of a command that may fail. -/
  | fault
  | killed (signal : Nat)

/-- What a shell does. -/
abbrev Session := ExceptT Flow (StateM State)

namespace Flags

def none : Flags := ⟨[]⟩

/-- The options with names, in the order in which they are shown. -/
def names : List (String × Char) :=
  [("errexit", 'e'), ("noglob", 'f'), ("ignoreeof", 'I'), ("interactive", 'i'), ("monitor", 'm'),
    ("noexec", 'n'), ("stdin", 's'), ("xtrace", 'x'), ("verbose", 'v'), ("vi", 'V'),
    ("emacs", 'E'), ("noclobber", 'C'), ("allexport", 'a'), ("notify", 'b'), ("nounset", 'u'),
    ("privileged", 'p'), ("nolog", '-'), ("debug", '-')]

def has (flags : Flags) (letter : Char) : Bool := flags.letters.contains letter

def turn (flags : Flags) (on : Bool) (letter : Char) : Flags :=
  let others := flags.letters.filter (· != letter)
  ⟨if on then letter :: others else others⟩

/-- The letters of the options that are on. -/
def shown (flags : Flags) : Raw :=
  (names.map Prod.snd).filter fun c => c != '-' && flags.has c

end Flags

namespace State

def find? (state : State) (name : Raw) : Option Variable :=
  state.vars.find? (·.name = name)

/-- The value of a variable. -/
def valueOf (state : State) (name : Raw) : Option Raw :=
  (state.find? name).bind Variable.value

/-- The characters at which fields are split. -/
def separators (state : State) : Raw :=
  (state.valueOf ['I', 'F', 'S']).getD [' ', '\t', '\n']

def put (state : State) (v : Variable) : State :=
  { state with vars := v :: state.vars.filter (·.name != v.name) }

/-- Sets a variable, which stays exported if it is. -/
def setVariable (state : State) (name value : Raw) : State :=
  let old := state.find? name
  let state :=
    if name = "OPTIND".toList then
      { state with optionIndex := max 1 ((Raw.nat? value).getD 1), optionOffset := 0 }
    else state
  state.put
    { name := name, value := some value
      exported := (old.map Variable.exported).getD false || state.flags.has 'a'
      readOnly := (old.map Variable.readOnly).getD false }

def forget (state : State) (name : Raw) : State :=
  { state with vars := state.vars.filter (·.name != name) }

/-- Remembers a variable that is going to be hidden. -/
def hide (state : State) (name : Raw) : State :=
  match state.hidden with
  | [] => state
  | frame :: frames =>
      if (frame.lookup name).isSome then state
      else { state with hidden := ((name, state.find? name) :: frame) :: frames }

/-- Lets the variables that were hidden last be seen again. -/
def reveal (state : State) : State :=
  match state.hidden with
  | [] => state
  | frame :: frames =>
      frame.foldl
        (fun state v =>
          match v.2 with
          | some old => state.put old
          | none => state.forget v.1)
        { state with hidden := frames }

/-- The variables that programs get to see. -/
def environment (state : State) : List (Raw × Raw) :=
  state.vars.filterMap fun v => if v.exported then v.value.map (v.name, ·) else none

/-- The value of a variable or a special parameter, fields of arguments apart. -/
def parameter? (state : State) (name : Raw) : Option Raw :=
  match name with
  | ['?'] => some (Raw.ofNat state.status)
  | ['#'] => some (Raw.ofNat state.args.length)
  | ['$'] => some (Raw.ofNat state.mainProcess)
  | ['!'] => state.lastJob.map Raw.ofNat
  | ['-'] => some state.flags.shown
  | ['@'] | ['*'] =>
      if state.args.isEmpty then none
      else some ((state.separators.take 1).intercalate state.args)
  | _ =>
      match Raw.nat? name with
      | some 0 => some state.name
      | some n => state.args[n - 1]?
      | none => state.valueOf name

end State

namespace Session

/-- Does something in the world. -/
def inWorld {α : Type} (job : Job α) : Session α := do
  let state ← get
  let (result, world) := job state.world
  set { state with world := world }
  return result

def setStatus (status : Nat) : Session Unit :=
  modify ({ · with status := status })

/-- Writes text to a stream of the script; a pipe that nobody reads ends it. -/
def write (number : Nat) (text : Raw) : Session (Except Fault Unit) := do
  match (← get).streams.lookup number with
  | none => return if text.isEmpty then .ok () else .error .badDescriptor
  | some handle =>
      match ← inWorld (World.write handle text) with
      | .error .brokenPipe => throw (.killed 13)
      | result => return result

/-- Writes a line to where complaints go. -/
def warnLine (text : Raw) : Session Unit := do
  discard <| write 2 (text ++ ['\n'])

/-- Complains, and says where. -/
def complain (text : Raw) : Session Unit := do
  let s ← get
  let place := s.name ++ Raw.ofText ": " ++ Raw.ofNat s.line ++ Raw.ofText ": "
  let command := (s.command.map (· ++ Raw.ofText ": ")).getD []
  warnLine (place ++ command ++ text)

/-- Complains and gives up. -/
def abort {α : Type} (text : Raw) : Session α := do
  complain text
  setStatus 2
  throw .fault

/-- Sets a variable, unless it is read only. -/
def assign (name value : Raw) : Session Unit := do
  if ((← get).find? name).any Variable.readOnly then
    abort (name ++ Raw.ofText ": is read only")
  modify fun s => s.setVariable name value

/-- The fault of a path that a shell cannot use, in its words. -/
def faultText (fault : Fault) (forNew : Bool) : Raw :=
  Raw.ofText <|
    match fault with
    | .notFound | .notDirectory => if forNew then "Directory nonexistent" else "No such file"
    | fault => fault.text

end Session

end ShaderLiterals.Programs.Shell
