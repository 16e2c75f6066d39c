import ShaderLiterals.Programs.Calendar
import ShaderLiterals.Programs.Search
import ShaderLiterals.Programs.Status
import ShaderLiterals.Programs.Tool.Names

/-!
# What there is to know of the machine

The machine has one user, no terminal, and a clock that goes by the time of Greenwich.
-/

namespace ShaderLiterals.Programs

open Files (Fault)

/-! ## Dates -/

namespace Calendar

/-- The format of a moment that an option asks for. -/
def formatOf? (option value : Raw) : Option (Except Raw String) :=
  let upTo := fun (mark point zone : String) =>
    match String.ofList value with
    | "" | "date" => some (.ok "%Y-%m-%d")
    | "hours" => some (.ok s!"%Y-%m-%d{mark}%H{zone}")
    | "minutes" => some (.ok s!"%Y-%m-%d{mark}%H:%M{zone}")
    | "seconds" => some (.ok s!"%Y-%m-%d{mark}%H:%M:%S{zone}")
    | "ns" => some (.ok s!"%Y-%m-%d{mark}%H:%M:%S{point}%N{zone}")
    | _ => some (.error value)
  match String.ofList option with
  | "iso-8601" => upTo "T" "," "+00:00"
  | "rfc-3339" => upTo " " "." "+00:00"
  | "rfc-email" => some (.ok "%a, %d %b %Y %H:%M:%S +0000")
  | _ => none

/-- The format in which moments are shown if nothing else is said. -/
def usualFormat : String := "%a %b %e %H:%M:%S %Z %Y"

/-- The fraction of a second that a text of an exact moment has, in nanoseconds. -/
def fraction (text : Raw) : Nat :=
  match text.dropWhile (· != '.') with
  | '.' :: digits =>
      if text.head? = some '@' then
        (Raw.nat? ((digits ++ List.replicate 9 '0').take 9)).getD 0
      else 0
  | _ => 0

/-- The lines that tell moments. -/
inductive Source where
  | now
  | text (text : Raw)
  | file (path : Raw)
  | lines (path : Raw)

/-- The moments to be shown are told by the last option that tells any. -/
def Source.ofOptions (options : Options) : Source :=
  (options.given.reverse.findSome? fun (given : Raw × Raw) =>
    match String.ofList given.1 with
    | "date" => some (Source.text given.2)
    | "reference" => some (.file given.2)
    | "file" => some (.lines given.2)
    | _ => none).getD .now

/-- Shows the moment that a text spells. -/
def showText (call : Call) (format text : Raw) : Job Bool := do
  let now : Int := ((← get).machine.clock / 1000000000 : Nat)
  match read? now text with
  | some seconds => do
      call.printLine (Calendar.format seconds (fraction text) format)
      return true
  | none => do
      call.complain (Raw.ofText "invalid date " ++ Quote.always text)
      return false

end Calendar

open Calendar in
/-- Shows moments. -/
def date : Tool := fun call =>
  call.withOptions ("d/date= f/file= I/iso-8601== R/rfc-email,rfc-2822 r/reference= s/set= " ++
    "u/utc,universal,uct /rfc-3339= /debug") 1 fun options => do
  match options.given.findSome? fun (given : Raw × Raw) => formatOf? given.1 given.2 with
  | some (.error value) =>
      let (name, precisions) :=
        if options.has "iso-8601" then ("iso-8601", ["hours", "minutes", "date", "seconds", "ns"])
        else ("rfc-3339", ["date", "seconds", "ns"])
      call.complain (Raw.ofText "invalid argument " ++ Quote.always value ++
        Raw.ofText s!" for '--{name}'")
      call.warn (Raw.unlines ("Valid arguments are:".toList :: precisions.map fun precision =>
        Raw.ofText "  - " ++ Quote.always precision.toList))
      call.warn (Raw.ofText "Try 'date --help' for more information.\n")
      return 1
  | chosen => do
      let chosen := match chosen with
        | some (.ok format) => some format.toList
        | _ => none
      let operand := options.operands.head?
      if let some extra := options.operands[1]? then return ← call.refuseExtra 1 extra
      match operand with
      | some text@(c :: format) =>
          if c != '+' then
            return ← call.refuse 1 (Raw.ofText "invalid date " ++ Quote.always text)
          if chosen.isSome then
            return ← call.refuse 1 "multiple output formats specified".toList
          showAll options format call
      | some [] => call.refuse 1 "invalid date ''".toList
      | none => showAll options (chosen.getD usualFormat.toList) call
where
  /-- Shows all moments that the options tell. -/
  showAll (options : Options) (format : Raw) : Tool := fun call => do
    match Source.ofOptions options with
    | .now => do
        let clock := (← get).machine.clock
        call.printLine (Calendar.format (clock / 1000000000 : Nat) (clock % 1000000000) format)
        return 0
    | .text text => return if ← showText call format text then 0 else 1
    | .file path =>
        match ← call.status path with
        | .error fault => do
            call.complainPath path fault
            return 1
        | .ok status => do
            call.printLine (Calendar.format status.seconds status.nanoseconds format)
            return 0
    | .lines path =>
        match ← call.readOperand path with
        | .error fault => do
            call.complainPath path fault
            return 1
        | .ok text => do
            let mut status := 0
            for line in Raw.lines text do
              unless ← showText call format line do status := 1
            return status

/-! ## The user -/

/-- The name of the user. -/
def userName : String := "root"

/-- Shows who somebody is, by names and numbers. -/
def identity : Tool := fun call =>
  call.withOptions "a/ Z/context g/group G/groups n/name r/real u/user z/zero" 1 fun options => do
  let choices := ["user", "group", "groups"].filter options.has
  if 1 < choices.length then
    return ← call.refuse 1 "cannot print \"only\" of more than one choice".toList
  if choices.isEmpty && (options.has "name" || options.has "real") then
    return ← call.refuse 1 "cannot print only names or real IDs in default format".toList
  let mut status := 0
  for operand in if options.operands.isEmpty then [userName.toList] else options.operands do
    if operand = userName.toList || operand = ['0'] then
      let text :=
        if choices.isEmpty then "uid=0(root) gid=0(root) groups=0(root)"
        else if options.has "name" then userName
        else "0"
      call.print (text.toList ++ [if options.has "zero" then '\x00' else '\n'])
    else
      call.complain (Quote.always operand ++ Raw.ofText ": no such user")
      status := 1
  return status

/-- Shows the name of the user. -/
def whoami : Tool := fun call =>
  call.withOptions "" 1 fun options => do
  if let some extra := options.operands.head? then return ← call.refuseExtra 1 extra
  call.printLine userName.toList
  return 0

/-- Shows the groups of users. -/
def groups : Tool := fun call =>
  call.withOptions "" 1 fun options => do
  if options.operands.isEmpty then
    call.printLine userName.toList
    return 0
  let mut status := 0
  for operand in options.operands do
    if operand = userName.toList then call.printLine (operand ++ " : root".toList)
    else
      call.complain (Quote.always operand ++ Raw.ofText ": no such user")
      status := 1
  return status

/-- Nobody has logged in. -/
def logname : Tool := fun call =>
  call.withOptions "" 1 fun options => do
  if let some extra := options.operands.head? then return ← call.refuseExtra 1 extra
  call.refuse 1 "no login name".toList

/-- The input is no terminal. -/
def tty : Tool := fun call =>
  call.withOptions "s/silent,quiet" 2 fun options => do
  if let some extra := options.operands.head? then return ← call.refuseExtra 2 extra
  unless options.has "silent" do call.printLine "not a tty".toList
  return 1

/-! ## The machine -/

/-- Shows what kind of machine this is. -/
def arch : Tool := fun call =>
  call.withOptions "" 1 fun options => do
  if let some extra := options.operands.head? then return ← call.refuseExtra 1 extra
  call.printLine "x86_64".toList
  return 0

/-- Shows what kind of system runs the machine. -/
def uname : Tool := fun call =>
  call.withOptions ("a/all s/kernel-name,sysname n/nodename r/kernel-release,release " ++
    "v/kernel-version m/machine p/processor i/hardware-platform o/operating-system") 1
    fun options => do
  if let some extra := options.operands.head? then return ← call.refuseExtra 1 extra
  let all := options.has "all"
  let fields :=
    (if all || options.has "kernel-name" || options.given.isEmpty then ["Linux"] else []) ++
    (if all || options.has "nodename" then ["localhost"] else []) ++
    (if all || options.has "kernel-release" then ["6.1.0"] else []) ++
    (if all || options.has "kernel-version" then ["#1 SMP"] else []) ++
    (if all || options.has "machine" then ["x86_64"] else []) ++
    (if options.has "processor" then ["unknown"] else []) ++
    (if options.has "hardware-platform" then ["unknown"] else []) ++
    (if all || options.has "operating-system" then ["GNU/Linux"] else [])
  call.printLine (" ".intercalate fields).toList
  return 0

/-- Shows how many processors there are. -/
def nproc : Tool := fun call =>
  call.withOptions "/all /ignore=" 1 fun options => do
  if let some extra := options.operands.head? then return ← call.refuseExtra 1 extra
  call.printLine ['1']
  return 0

/-- Waits until files are safe, which they always are. -/
def sync : Tool := fun call =>
  call.withOptions "d/data f/file-system" 1 fun options => do
  let mut status := 0
  for path in options.operands do
    if let .error fault ← call.status path then
      call.complain (Raw.ofText "error opening " ++ Quote.always path ++
        Raw.ofText (": " ++ fault.text))
      status := 1
  return status

/-- Shows the paths of programs. -/
def which : Tool := fun call => do
  let machine := (← get).machine
  let isProgram := fun (path : Raw) =>
    match machine.find (Raw.toText path) with
    | .ok (.file id) => ((machine.store.get? id).map Files.Content.mode).any (· &&& 0o111 != 0)
    | _ => false
  let (letters, names) := call.args.span fun arg =>
    match arg with
    | '-' :: _ :: _ => true
    | _ => false
  let showsAll := letters.contains "-a".toList
  let isSilent := letters.contains "-s".toList
  let known := ["-a".toList, "-s".toList, "-as".toList]
  if let some bad := letters.find? fun arg => !known.contains arg then
    call.warn (Raw.ofText "Illegal option " ++ bad ++ ['\n'])
    call.printLine (Raw.ofText "Usage: /usr/bin/which [-as] args")
    return 2
  let mut status := if names.isEmpty then 1 else 0
  for name in names do
    let paths :=
      if name.contains '/' then [name]
      else Search.candidates ((call.lookup "PATH").getD []) name
    let found := paths.filter isProgram
    unless isSilent do
      for path in if showsAll then found else found.take 1 do call.printLine path
    if found.isEmpty then status := 1
  return status

end ShaderLiterals.Programs
