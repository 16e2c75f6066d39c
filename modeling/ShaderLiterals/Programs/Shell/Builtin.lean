import ShaderLiterals.Programs.Condition
import ShaderLiterals.Programs.Mode
import ShaderLiterals.Programs.Print
import ShaderLiterals.Programs.Shell.Input
import ShaderLiterals.Programs.Shell.Listing

/-! # Builtin commands that run no other commands -/

namespace ShaderLiterals.Programs.Shell

/-- What a builtin command makes of its arguments: a status. -/
abbrev Builtin := List Raw → Session Nat

namespace Builtin

/-- Writes text to the output; it is noted if that fails. -/
def print (text : Raw) : Session Nat := do
  if let .error fault ← Session.write 1 text then
    Session.inWorld (modify fun world => { world with writeFault := some fault })
  return 0

def printLine (line : Raw) : Session Nat := print (line ++ ['\n'])

def abortText {α : Type} (text : String) : Session α := Session.abort (Raw.ofText text)

/-- The number that an argument spells, perhaps between blanks; it has to fit in 31 bits. -/
def number (text : Raw) : Session Nat :=
  let bare := Raw.trim Raw.isSpace text
  match Raw.nat? (if bare.head? = some '+' then bare.drop 1 else bare) with
  | some n =>
      if n < Nat.pow 2 31 then return n else Session.abort (Raw.ofText "Illegal number: " ++ text)
  | none => Session.abort (Raw.ofText "Illegal number: " ++ text)

/-- Takes the options off some arguments: letters, those before a colon with a value. -/
def options (known : Raw) : (fuel : Nat) → List Raw → Session (List (Char × Raw) × List Raw)
  | 0, args => return ([], args)
  | _, [] => return ([], [])
  | _ + 1, ['-', '-'] :: rest => return ([], rest)
  | fuel + 1, ('-' :: letter :: letters) :: rest =>
      match Session.findOption letter known with
      | none => Session.abort (Raw.ofText "Illegal option -" ++ [letter])
      | some false => do
          let more := if letters.isEmpty then rest else ('-' :: letters) :: rest
          let (given, rest) ← options known fuel more
          return ((letter, []) :: given, rest)
      | some true => do
          match if letters.isEmpty then rest else letters :: rest with
          | [] => Session.abort (Raw.ofText "No arg for -" ++ letter :: Raw.ofText " option")
          | value :: rest => do
              let (given, rest) ← options known fuel rest
              return ((letter, value) :: given, rest)
  | _, args => return ([], args)

/-- Takes the options off some arguments. -/
def letters (known : String) (args : List Raw) : Session (List (Char × Raw) × List Raw) :=
  options known.toList (args.length + args.flatten.length + 1) args

/-! ## How it goes on -/

def leave : Builtin := fun args => do
  let n ← number (args.headD ['1'])
  if n = 0 then Session.abort (Raw.ofText "Illegal number: " ++ args.headD [])
  let loops := (← get).loops
  if loops = 0 then return 0
  throw (.leave (min n loops - 1))

def again : Builtin := fun args => do
  let n ← number (args.headD ['1'])
  if n = 0 then Session.abort (Raw.ofText "Illegal number: " ++ args.headD [])
  let loops := (← get).loops
  if loops = 0 then return 0
  throw (.again (min n loops - 1))

/-- Ends something with the status that is given or the last one. -/
def endWith (flow : Flow) : Builtin := fun args => do
  if let arg :: _ := args then
    Session.setStatus (← number arg)
  throw flow

/-! ## Variables -/

/-- Makes variables exported or read only, and gives values to them. -/
def declare (command : String) (change : Variable → Variable) (isSo : Variable → Bool) :
    Builtin := fun args => do
  let (given, names) ← letters "p" args
  if names.isEmpty || given.any (·.1 = 'p') then
    return ← print (Listing.variableLines command.toList ((← get).vars.filter isSo))
  for arg in names do
    let name := arg.takeWhile (· != '=')
    if name.length < arg.length then
      Session.assignChecked name (arg.drop (name.length + 1))
    else unless Word.isName name do Session.abort (name ++ Raw.ofText ": bad variable name")
    modify fun s =>
      s.put (change ((s.find? name).getD
        { name := name, value := none, exported := false, readOnly := false }))
  return 0

def makeLocal : Builtin := fun args => do
  if (← get).hidden.isEmpty then abortText "not in a function"
  for arg in args do
    let name := arg.takeWhile (· != '=')
    unless Word.isName name do Session.abort (name ++ Raw.ofText ": bad variable name")
    modify fun s => s.hide name
    if name.length < arg.length then Session.assign name (arg.drop (name.length + 1))
  return 0

def unset : Builtin := fun args => do
  let (given, names) ← letters "vf" args
  for name in names do
    if (given.getLast?.map Prod.fst) = some 'f' then
      modify fun s => { s with functions := s.functions.filter (·.1 != name) }
    else
      unless Word.isName name do Session.abort (name ++ Raw.ofText ": bad variable name")
      if ((← get).find? name).any Variable.readOnly then
        Session.abort (name ++ Raw.ofText ": is read only")
      modify (·.forget name)
  return 0

def shift : Builtin := fun args => do
  let n ← number (args.headD ['1'])
  if (← get).args.length < n then abortText "can't shift that many"
  modify fun s => { s with args := s.args.drop n }
  return 0

/-- Turns an option with a name on or off, or shows them all. -/
def turnNamed (on : Bool) : List Raw → Session (List Raw)
  | [] => do
      discard <| print (Listing.flagLines (← get).flags on)
      return []
  | name :: rest =>
      match Flags.names.find? fun flag => flag.1.toList = name with
      | some (_, letter) => do
          modify fun s => { s with flags := s.flags.turn on letter }
          return rest
      | none => Session.abort (Raw.ofText "Illegal option -o " ++ name)

/-- Turns options on or off, as far as the arguments say so. -/
def turnFlags : (fuel : Nat) → List Raw → Session (List Raw × Bool)
  | 0, args => return (args, false)
  | _, [] => return ([], false)
  | _ + 1, ['-', '-'] :: rest => return (rest, true)
  | _ + 1, ['-'] :: rest => do
      modify fun s => { s with flags := (s.flags.turn false 'x').turn false 'v' }
      return (rest, false)
  | fuel + 1, (sign :: letters) :: rest =>
      if sign = '-' || sign = '+' then do
        let mut rest := rest
        for letter in letters do
          if letter = 'o' then rest ← turnNamed (sign = '-') rest
          else if letter != '-' && (Flags.names.map Prod.snd).contains letter then
            modify fun s => { s with flags := s.flags.turn (sign = '-') letter }
          else Session.abort (Raw.ofText "Illegal option -" ++ [letter])
        turnFlags fuel rest
      else return ((sign :: letters) :: rest, false)
  | _ + 1, args => return (args, false)

def setFlags : Builtin := fun args => do
  if args.isEmpty then
    return ← print (Listing.variableLines [] ((← get).vars.filter (·.value.isSome)))
  let (rest, replaces) ← turnFlags (args.length + 1) args
  if replaces || !rest.isEmpty then modify fun s => { s with args := rest }
  return 0

/-! ## Places -/

/-- The path of a directory, seen from another one, without dots in it. -/
def resolvePath (directory path : Raw) : Raw :=
  let start := if path.head? = some '/' then [] else (directory.splitOn '/').filter (!·.isEmpty)
  let names := (path.splitOn '/').foldl
    (fun names name =>
      if name.isEmpty || name = ['.'] then names
      else if name = ['.', '.'] then names.dropLast
      else names ++ [name])
    start
  '/' :: ['/'].intercalate names

/-- Goes to a directory; tells whether it is there. -/
def goTo (physical : Bool) (path : Raw) : Session Bool := do
  let s ← get
  let machine := s.world.machine
  let target := if physical then path else resolvePath s.directory path
  match machine.locate (Raw.toText target) with
  | .error _ => return false
  | .ok location =>
      if machine.tree.get? location != some .directory then return false
      let machine := { machine with here := location }
      let directory := if physical then Raw.ofText machine.herePath else target
      let old := s.directory
      modify fun s =>
        { s with world := { s.world with machine := machine }, directory := directory }
      for (name, value) in [("OLDPWD", old), ("PWD", directory)] do
        Session.assign name.toList value
        modify fun s =>
          s.put { name := name.toList, value := some value, exported := true, readOnly := false }
      return true

/-- The paths to try for a directory, and whether the one that is found is to be shown. -/
def directoryPaths (state : State) (path : Raw) : List (Raw × Bool) :=
  let first := path.takeWhile (· != '/')
  if path.isEmpty || first = [] || first = ['.'] || first = ['.', '.'] then [(path, false)]
  else
    match state.valueOf "CDPATH".toList with
    | none => [(path, false)]
    | some places =>
        (places.splitOn ':').map (fun place =>
          if place.isEmpty then (path, false) else (place ++ '/' :: path, true)) ++ [(path, false)]

def cd : Builtin := fun args => do
  let (given, rest) ← letters "LP" args
  let physical := (given.getLast?.map Prod.fst) = some 'P'
  let s ← get
  let (path, shows) :=
    match rest with
    | [] => ((s.valueOf "HOME".toList).getD [], false)
    | ['-'] :: _ => ((s.valueOf "OLDPWD".toList).getD [], true)
    | path :: _ => (path, false)
  let path := if path.isEmpty then ['.'] else path
  for (candidate, shown) in directoryPaths s path do
    if ← goTo physical candidate then
      if shows || shown then discard <| printLine (← get).directory
      return 0
  Session.abort (Raw.ofText "can't cd to " ++ path)

def pwd : Builtin := fun args => do
  let (given, _) ← letters "LP" args
  let s ← get
  printLine <|
    if (given.getLast?.map Prod.fst) = some 'P' then Raw.ofText s.world.machine.herePath
    else s.directory

def umask : Builtin := fun args => do
  let (given, rest) ← letters "S" args
  let mask := (← get).world.umask
  match rest with
  | [] =>
      if given.isEmpty then
        let digits := Nat.toDigits 8 mask
        printLine (List.replicate (4 - digits.length) '0' ++ digits)
      else
        let mode := 0o777 - mask
        printLine (Raw.ofText "u=" ++ Mode.rights (mode >>> 6 &&& 7) ++ Raw.ofText ",g=" ++
          Mode.rights (mode >>> 3 &&& 7) ++ Raw.ofText ",o=" ++ Mode.rights (mode &&& 7))
  | text :: _ => do
      let isNumber := text.head?.any Char.isDigit
      match Mode.change? 0 false text (if isNumber then 0 else 0o777 - mask) with
      | none =>
          let what := if isNumber then "number" else "mode"
          Session.abort (Raw.ofText s!"Illegal {what}: " ++ text)
      | some mode => do
          let mask := (if isNumber then mode else 0o777 - (mode &&& 0o777)) &&& 0o777
          Session.inWorld (modify fun world => { world with umask := mask })
          return 0

/-! ## Text -/

def echo : Builtin := fun args => print (Print.echoText args)

/-- What is said of a complaint about printing. -/
def printComplaint : Print.Complaint → Raw
  | .argument text lack =>
      text ++ Raw.ofText
        (match lack with
        | .nothing => ""
        | .number => ": expected numeric value"
        | .finish => ": not completely converted"
        | .range => ": Numerical result out of range")
  | .directive text => text ++ Raw.ofText ": invalid directive"
  | .unfinished _ => Raw.ofText "missing format character"

def printf : Builtin := fun args => do
  match (← letters "" args).2 with
  | [] => abortText "usage: printf format [arg ...]"
  | format :: rest => do
      let filling := Print.fill [] format rest
      for complaint in filling.complaints do
        Session.complain (printComplaint complaint)
      discard <| print filling.text
      return filling.status

/-- A call of a program in the name of a script. -/
def call (state : State) (name : Raw) (args : List Raw) : Call :=
  { name := name, args := args, environment := state.environment, streams := state.streams }

def test (brackets : Bool) : Builtin := fun args => do
  match ← Session.inWorld (Condition.ofCall (call (← get) [] args) brackets) with
  | .ok value => return if value then 0 else 1
  | .error complaint => Session.abort complaint

def read : Builtin := fun args => do
  let (given, names) ← letters "p:r" args
  if names.isEmpty then abortText "arg count"
  Session.readLine (given.any (·.1 = 'r')) names

def getopts : Builtin
  | known :: name :: args => do
      let own := (← get).args
      Session.readOption known name (if args.isEmpty then own else args)
  | _ => abortText "Usage: getopts optstring var [arg...]"

/-! ## Names of commands -/

def aliasName : Builtin := fun args => do
  if args.isEmpty then return ← print (Listing.aliasLines (← get).aliases)
  let mut status := 0
  for arg in args do
    let name := arg.takeWhile (· != '=')
    if 0 < name.length && name.length < arg.length then
      let value := arg.drop (name.length + 1)
      modify fun s =>
        { s with
          aliases :=
            if (s.aliases.lookup name).isSome then
              s.aliases.map fun entry => if entry.1 = name then (name, value) else entry
            else (name, value) :: s.aliases }
    else
      match (← get).aliases.lookup arg with
      | some value => discard <| printLine (Listing.aliasLine (arg, value))
      | none => do
          Session.warnLine (Raw.ofText "alias: " ++ arg ++ Raw.ofText " not found")
          status := 1
  return status

def unalias : Builtin := fun args => do
  let (given, names) ← letters "a" args
  if !given.isEmpty then
    modify fun s => { s with aliases := [] }
    return 0
  let mut status := 0
  for name in names do
    if ((← get).aliases.lookup name).isNone then
      Session.warnLine (Raw.ofText "unalias: " ++ name ++ Raw.ofText " not found")
      status := 1
    modify fun s => { s with aliases := s.aliases.filter (·.1 != name) }
  return status

/-- Remembers that a program was found. -/
def remember (name : Raw) : Session Unit :=
  modify fun s =>
    if name.contains '/' || s.known.contains name then s else { s with known := s.known ++ [name] }

/-- Tells what the names of commands stand for. -/
def type : Builtin := fun args => do
  let mut status := 0
  for name in args do
    let s ← get
    let (text, found) := s.describe name
    discard <| print text
    if !found then status := 127
    if let .program _ _ := s.meaning name then remember name
  return status

/-- Tells how the first name could be written, or what it stands for. -/
def commandQuery : Builtin := fun args => do
  let (given, rest) ← letters "pvV" args
  match rest, given.any (·.1 = 'V'), given.any (·.1 = 'v') with
  | name :: _, true, _ => type [name]
  | name :: _, false, true => do
      let s ← get
      match s.spell? name with
      | some text =>
          if let .program _ _ := s.meaning name then remember name
          print text
      | none => return 127
  | _, _, _ => return 0

def hash : Builtin := fun args => do
  let (given, names) ← letters "r" args
  if !given.isEmpty then
    modify fun s => { s with known := [] }
    return 0
  let s ← get
  if names.isEmpty then
    for name in Listing.inRows 31 id s.known do
      discard <| printLine ((s.programPath? name).getD name)
    return 0
  let mut status := 0
  for name in names do
    if isSpecialBuiltin name || isPlainBuiltin name || (s.functions.lookup name).isSome then
      pure ()
    else if (s.programPath? name).isSome then remember name
    else
      Session.complain (name ++ Raw.ofText ": not found")
      status := 1
  return status

/-! ## Signals and processes -/

/-- Lets a signal come to the script. -/
def deliver (signal : Nat) : Session Unit := do
  let s ← get
  match s.traps.lookup signal with
  | some [] => return
  | some _ => set { s with pending := s.pending ++ [signal] }
  | none =>
      if Signal.isFatal signal && !s.world.ignored.contains signal then throw (.killed signal)

/-- Sends a signal to a process; tells whether there is such a process. -/
def send (signal process : Nat) : Session Bool := do
  let s ← get
  if process = s.process then
    deliver signal
    return true
  match s.jobs.lookup process with
  | some (.waiting ..) => do
      if Signal.isFatal signal then
        modify fun s =>
          { s with
            jobs := s.jobs.map fun job =>
              if job.1 = process then (process, .ended (.killed signal)) else job }
      return true
  | some (.ended _) => return false
  | none => do
      if process != s.mainProcess && process != s.parentProcess then return false
      Session.inWorld (modify fun world =>
        { world with signals := world.signals ++ [(process, signal)] })
      return true

/-- Sends a signal to processes. -/
def killAll (signal : Nat) (processes : List Raw) : Session Nat := do
  let mut status := 0
  for text in processes do
    let isMarked := text.head? = some '-' || text.head? = some '%'
    let process ← number (if isMarked then text.drop 1 else text)
    unless ← send signal process do
      Session.complain (Raw.ofText "No such process\n")
      status := 1
  return status

/-- Names signals. -/
def signalNames : Builtin := fun args => do
  match args with
  | [] => print (Raw.unlines (['0'] :: (List.range Signal.last).map fun n =>
      Raw.ofText (Signal.name (n + 1))))
  | text :: _ => do
      let n ← number text
      let signal := if 128 < n then n - 128 else n
      if signal = 0 || Signal.last < signal then
        Session.abort (Raw.ofText "invalid signal number or exit status: " ++ text)
      printLine (Raw.ofText (Signal.name signal))

def kill : Builtin := fun args => do
  let usage : Session Nat :=
    abortText <|
      "Usage: kill [-s sigspec | -signum | -sigspec] [pid | job]... or\nkill -l [exitstatus]"
  match args with
  | [] => usage
  | ('-' :: text) :: rest =>
      match Signal.number? text with
      | some signal => if rest.isEmpty then usage else killAll signal rest
      | none => do
          let (given, rest) ← letters "ls:" args
          if given.any (·.1 = 'l') then return ← signalNames rest
          let signal ←
            match given.reverse.lookup 's' with
            | none => pure 15
            | some text =>
                match Signal.number? text with
                | some signal => pure signal
                | none => Session.abort (Raw.ofText "invalid signal number or name: " ++ text)
          if rest.isEmpty then usage else killAll signal rest
  | processes => killAll 15 processes

/-- Sets what is done on a signal; `none` is what is done anyway. -/
def setTrap (action : Option Raw) (signal : Nat) : Session Unit :=
  modify fun s =>
    let others := s.traps.filter (·.1 != signal)
    { s with
      traps :=
        match action with
        | none | some ['-'] => others
        | some text => (signal, text) :: others }

def trap : Builtin := fun args => do
  match (← letters "" args).2 with
  | [] => print (Listing.trapLines (← get).traps)
  | first :: rest => do
      let (action, names) :=
        if rest.isEmpty || (Signal.number? first).isSome then (none, first :: rest)
        else (some first, rest)
      for name in names do
        match Signal.number? name with
        | some signal => setTrap action signal
        | none => do
            Session.warnLine (Raw.ofText "trap: " ++ name ++ Raw.ofText ": bad trap")
            return 1
      return 0

def times : Builtin := fun _ =>
  print (Raw.ofText "0m0.000000s 0m0.000000s\n0m0.000000s 0m0.000000s\n")

def ulimit : Builtin := fun args => do
  let (given, rest) ← letters "HSatfdsmcpnvwrl" args
  if !rest.isEmpty then return 0
  printLine <| Raw.ofText <|
    match (given.filter fun g => g.1 != 'H' && g.1 != 'S').getLast?.map Prod.fst with
    | some 's' => "8192"
    | some 'n' => "1048576"
    | some 'c' | some 'r' => "0"
    | _ => "unlimited"

/-- The builtin commands by their names. -/
def table : List (String × Builtin) :=
  [(":", fun _ => return 0), ("true", fun _ => return 0), ("false", fun _ => return 1),
    ("break", leave), ("continue", again), ("exit", endWith .exit), ("return", endWith .back),
    ("export", declare "export" ({ · with exported := true }) Variable.exported),
    ("readonly", declare "readonly" ({ · with readOnly := true }) Variable.readOnly),
    ("local", makeLocal), ("unset", unset), ("shift", shift), ("set", setFlags), ("cd", cd),
    ("chdir", cd), ("pwd", pwd), ("umask", umask), ("echo", echo), ("printf", printf),
    ("test", test false), ("[", test true), ("read", read), ("getopts", getopts),
    ("alias", aliasName), ("unalias", unalias), ("type", type), ("hash", hash), ("kill", kill),
    ("trap", trap), ("times", times), ("ulimit", ulimit), ("jobs", fun _ => return 0),
    ("fg", fun _ => abortText "No current job"), ("bg", fun _ => abortText "No current job")]

end Builtin

end ShaderLiterals.Programs.Shell
