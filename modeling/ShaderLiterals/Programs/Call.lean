import ShaderLiterals.Programs.World

/-! # Calls of programs -/

namespace ShaderLiterals.Programs

open Files (Fault)

/-- What a program is called with. -/
structure Call where
  /-- The name that the program is called by. -/
  name : Raw
  args : List Raw
  environment : List (Raw × Raw)
  streams : Streams

/-- Calls of other programs that a program may make. -/
abbrev Starter := Call → Job (Except Fault Ending)

/-- A program that runs through and ends with a status. -/
abbrev Tool := Call → Job Nat

namespace Call

/-- The place of the channel that the call has under a stream number. -/
def handle? (call : Call) (number : Nat) : Option Nat :=
  call.streams.lookup number

/-- Writes text to a stream of the call. -/
def write (call : Call) (number : Nat) (text : Raw) : Job Unit := do
  let result ←
    match call.handle? number with
    | some handle => World.write handle text
    | none => pure (if text.isEmpty then .ok () else .error .badDescriptor)
  if let .error fault := result then
    modify fun world => { world with writeFault := world.writeFault.or (some fault) }

/-- Writes text to the output. -/
def print (call : Call) (text : Raw) : Job Unit := call.write 1 text

/-- Writes a line to the output. -/
def printLine (call : Call) (line : Raw) : Job Unit := call.print (line ++ ['\n'])

/-- Writes text to where complaints go.  That it cannot be written does not matter. -/
def warn (call : Call) (text : Raw) : Job Unit := do
  let before := (← get).writeFault
  call.write 2 text
  modify ({ · with writeFault := before })

/-- Complains in the name of the program. -/
def complain (call : Call) (text : Raw) : Job Unit :=
  call.warn (call.name ++ ':' :: ' ' :: text ++ ['\n'])

/-- Complains and ends with a status. -/
def refuse (call : Call) (status : Nat) (text : Raw) : Job Nat := do
  call.complain text
  return status

/-- Reads all of a stream. -/
def takeAll (call : Call) (number : Nat) : Job (Except Fault Raw) :=
  match call.handle? number with
  | some handle => World.takeAll handle
  | none => return .error .badDescriptor

/-- Opens a path for reading. -/
def openRead (call : Call) (path : Raw) : Job (Except Fault Nat) :=
  World.openPath call.streams .read path

/-- The channel that an operand names, a hyphen being the input. -/
def openOperand (call : Call) (operand : Raw) : Job (Except Fault Nat) :=
  if operand = ['-'] then
    return match call.handle? 0 with
      | some handle => .ok handle
      | none => .error .badDescriptor
  else call.openRead operand

/-- The content that an operand names. -/
def readOperand (call : Call) (operand : Raw) : Job (Except Fault Raw) := do
  match ← call.openOperand operand with
  | .ok handle => World.takeAll handle
  | .error fault => return .error fault

/-- Writes a file, or its end. -/
def writeFile (call : Call) (mode : World.Mode) (path text : Raw) : Job (Except Fault Unit) := do
  match ← World.openPath call.streams mode path with
  | .ok handle => World.write handle text
  | .error fault => return .error fault

def lookup (call : Call) (name : String) : Option Raw :=
  call.environment.lookup name.toList

/-- What stands at a path, seen by the program. -/
def find (call : Call) (path : Raw) : Job (Except Fault Files.Node) := do
  let world ← get
  match world.machine.find (Raw.toText path) with
  | .ok (.device (.stream number)) =>
      match (call.handle? number).bind world.channel? with
      | some ⟨.file id .., _, _⟩ => return .ok (.file id)
      | some ⟨.device device, _, _⟩ => return .ok (.device device)
      | some ⟨.directory, _, _⟩ => return .ok .directory
      | some ⟨.source _, _, _⟩ | some ⟨.sink .., _, _⟩ => return .ok (.pipe 0)
      | some ⟨.pipe id, _, _⟩ => return .ok (.pipe id)
      | none => return .error .notFound
  | found => return found

end Call

end ShaderLiterals.Programs
