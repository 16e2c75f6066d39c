import ShaderLiterals.Programs.Search
import ShaderLiterals.Programs.Status

/-!
# Running programs by name

The file of an installed program holds a mark and the name that the program is known by, so that a
copy of it does the same.  A file that begins with `#!` names another program that runs it.
-/

namespace ShaderLiterals.Programs

open Files (Fault)

/-- What a program does, given how others are started. -/
abbrev Program := Starter → Call → Job Ending

/-- The programs of a machine by their names. -/
abbrev Installation := List (String × Program)

/-! ## Tools as programs -/

/-- Runs a tool to its end.  If not all of its output could be written, it ends with `trouble`. -/
def Program.finish (trouble : Nat) (body : Call → Job Ending) (call : Call) : Job Ending := do
  let before := (← get).writeFault
  modify ({ · with writeFault := none })
  let ending ← body call
  let after ← get
  set { after with writeFault := before }
  match after.writeFault with
  | none => return if after.expired then .killed 15 else ending
  | some .brokenPipe => return .killed 13
  | some fault => do
      call.complain (Raw.ofText s!"write error: {fault.text}")
      return .exited trouble

/-- The program that is a tool which ends with a status of its own when it cannot write. -/
def Program.ofToolWith (trouble : Nat) (tool : Tool) : Program := fun _ =>
  Program.finish trouble fun call => do return .exited (← tool call)

/-- The program that is a tool. -/
def Program.ofTool (tool : Tool) : Program := Program.ofToolWith 1 tool

/-- The program that is a tool which starts other programs. -/
def Program.ofStarter (tool : Starter → Call → Job Ending) : Program := fun start =>
  Program.finish 1 (tool start)

/-! ## Files of programs -/

/-- What the files of installed programs begin with. -/
def programMark : List UInt8 := [0x7f, 0x45, 0x4c, 0x46]

/-- What a file is run by. -/
inductive Executable where
  | installed (program : Program)
  /-- Another program, with one argument more if there is one. -/
  | script (interpreter : Raw) (argument : Option Raw)
  | other

/-- The first line of a script, up to the length that counts. -/
def scriptLine (text : Raw) : Raw :=
  Raw.trim Raw.isBlank (((text.drop 2).take 253).takeWhile (· != '\n'))

/-- What the bytes of a file are run by. -/
def Executable.ofBytes (installation : Installation) (bytes : List UInt8) : Executable :=
  if programMark.isPrefixOf bytes then
    let name := Raw.toText (Raw.ofBytes (bytes.drop programMark.length))
    match installation.lookup name with
    | some program => .installed program
    | none => .other
  else
    match Raw.ofBytes (bytes.take 256) with
    | '#' :: '!' :: rest =>
        let line := scriptLine ('#' :: '!' :: rest)
        let interpreter := line.takeWhile fun c => c != ' ' && c != '\t'
        let after := (line.drop interpreter.length).dropWhile fun c => c == ' ' || c == '\t'
        if interpreter.isEmpty then .other
        else .script interpreter (if after.isEmpty then none else some after)
    | _ => .other

/-- What the file at a path is run by. -/
def World.executable (world : World) (installation : Installation) (path : Raw) :
    Except Fault Executable :=
  match world.machine.find (Raw.toText path) with
  | .error fault => .error fault
  | .ok (.file id) =>
      match world.machine.store.get? id with
      | some content =>
          if content.mode &&& 0o111 = 0 then .error .notPermitted
          else .ok (.ofBytes installation content.bytes)
      | none => .error .notFound
  | .ok _ => .error .notPermitted

/-- The path of the program with a name, and what it is run by. -/
def World.search (world : World) (installation : Installation) (call : Call) :
    Except Fault (Raw × Executable) :=
  let name := call.name
  if name.isEmpty then .error .notFound
  else if name.contains '/' then (world.executable installation name).map (name, ·)
  else
    let path := (call.lookup "PATH").getD "/bin:/usr/bin".toList
    tryAll .notFound (Search.candidates path name)
where
  /-- Tries paths one after the other; that one may not be run is remembered. -/
  tryAll (fault : Fault) : List Raw → Except Fault (Raw × Executable)
    | [] => .error fault
    | path :: rest =>
        match world.executable installation path with
        | .ok found => .ok (path, found)
        | .error .notPermitted => tryAll .notPermitted rest
        | .error .notFound | .error .notDirectory => tryAll fault rest
        | .error other => .error other

/-! ## Processes -/

/-- Runs a program as a process of its own. -/
def Program.asProcess (program : Program) (start : Starter) (call : Call) : Job Ending := do
  let before ← get
  set { before with
    process := before.nextProcess, parent := before.process, nextProcess := before.nextProcess + 1 }
  let ending ← program start call
  modify fun after =>
    { after with
      machine := { after.machine with here := before.machine.here }
      umask := before.umask, ignored := before.ignored, niceness := before.niceness
      process := before.process, parent := before.parent }
  return ending

/-- How often a script may be run by another script. -/
def scriptDepth : Nat := 4

/-- Starts the program that runs a file. -/
def launch (installation : Installation) (start : Starter) :
    (depth : Nat) → Call → Raw → Executable → Job (Except Fault Ending)
  | _, call, _, .installed program => do return .ok (← program.asProcess start call)
  | _, _, _, .other => return .error .notProgram
  | 0, _, _, .script .. => return .error .tooManyLinks
  | depth + 1, call, path, .script interpreter argument => do
      match (← get).executable installation interpreter with
      | .error fault => return .error fault
      | .ok executable =>
          let call := { call with
            name := interpreter, args := argument.toList ++ path :: call.args }
          launch installation start depth call interpreter executable

/-- Starts programs, which may start others, at most `depth` deep.  A file that may be run and is no
program is taken as a script of a shell if `asScripts` says so. -/
def startWithin (installation : Installation) : (depth : Nat) → (asScripts : Bool) → Starter
  | 0, _, _ => return .error .tooManyProcesses
  | depth + 1, asScripts, call => do
      let start := startWithin installation depth true
      match (← get).search installation call with
      | .error fault => return .error fault
      | .ok (path, executable) => do
          match ← launch installation start scriptDepth call path executable with
          | .error .notProgram =>
              if !asScripts then return .error .notProgram
              let call := { call with name := "/bin/sh".toList, args := path :: call.args }
              match (← get).executable installation call.name with
              | .ok executable => launch installation start scriptDepth call call.name executable
              | .error fault => return .error fault
          | result => return result

end ShaderLiterals.Programs
