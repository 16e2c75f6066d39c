import ShaderLiterals.Programs
import ShaderLiterals.Programs.Raw

/-!
# What running programs share

Programs run one after the other on one machine.  What they have opened is listed once, so that a
program and those that it starts read on where the other one stopped.
-/

namespace ShaderLiterals.Programs

open Files (Device Fault Location Node)

/-- What something open leads to. -/
inductive Channel where
  /-- A regular file, how far reading and writing have come, and whether writes go to its end. -/
  | file (id offset : Nat) (appends : Bool)
  | device (device : Device)
  | directory
  /-- The end of a pipe from which text is read. -/
  | source (text : Raw)
  /-- The end of a pipe to which text is written: the pieces, the last one first, and how many
  more it takes. -/
  | sink (pieces : List Raw) (room : Nat)
  /-- A pipe with a name. -/
  | pipe (id : Nat)

structure OpenChannel where
  channel : Channel
  reads : Bool
  writes : Bool

/-- The channels that a program has under its stream numbers. -/
abbrev Streams := List (Nat × Nat)

structure World where
  machine : Machine
  /-- All that was ever opened; a channel is known by its place. -/
  channels : Array OpenChannel
  /-- The rights that new files do not give. -/
  umask : Nat
  /-- Why text could not be written, if some could not. -/
  writeFault : Option Fault
  /-- The number of the process that runs, and that of the one that started it. -/
  process : Nat
  parent : Nat
  /-- The number of the next process. -/
  nextProcess : Nat
  /-- The signals that were sent to processes and not yet handled. -/
  signals : List (Nat × Nat)
  /-- The signals that the running program and those that it starts do not get. -/
  ignored : List Nat
  /-- How much others go before the running program. -/
  niceness : Int
  /-- When the running programs are to be ended. -/
  deadline : Option Nat
  /-- Whether that time has come. -/
  expired : Bool

/-- What is done in a world. -/
abbrev Job := StateM World

namespace World

def start (machine : Machine) : World :=
  { machine := machine, channels := #[], umask := 0o022, writeFault := none, process := 1
    parent := 0, nextProcess := 2, signals := [], ignored := [], niceness := 0
    deadline := none, expired := false }

def channel? (world : World) (handle : Nat) : Option OpenChannel :=
  world.channels[handle]?

/-- The world with one more channel, and the place of it. -/
def push (channel : OpenChannel) : Job Nat := do
  let world ← get
  set { world with channels := world.channels.push channel }
  return world.channels.size

/-- Replaces what an open channel leads to. -/
def replace (handle : Nat) (channel : Channel) : Job Unit :=
  modify fun world =>
    { world with channels := world.channels.modify handle ({ · with channel := channel }) }

def modifyMachine (change : Machine → Machine) : Job Unit :=
  modify fun world => { world with machine := change world.machine }

/-- Does something to the machine that may fail. -/
def attempt (action : Machine → Except Fault Machine) : Job (Except Fault Unit) := do
  match action (← get).machine with
  | .ok machine => modifyMachine fun _ => machine; return .ok ()
  | .error fault => return .error fault

/-! ## Reading -/

/-- How many bytes a device without end gives to those who want all. -/
def endlessSize : Nat := 1048576

/-- The text still to be read from a channel. -/
def rest (world : World) (handle : Nat) : Except Fault Raw :=
  match world.channel? handle with
  | none => .error .badDescriptor
  | some ⟨_, false, _⟩ => .error .badDescriptor
  | some ⟨.file id offset _, _, _⟩ =>
      .ok (Raw.ofBytes ((world.machine.store.bytes id).drop offset))
  | some ⟨.pipe id, _, _⟩ => .ok (Raw.ofBytes (world.machine.store.bytes id))
  | some ⟨.device .zero, _, _⟩ | some ⟨.device .full, _, _⟩ =>
      .ok (List.replicate endlessSize '\x00')
  | some ⟨.device _, _, _⟩ => .ok []
  | some ⟨.directory, _, _⟩ => .error .isDirectory
  | some ⟨.source text, _, _⟩ => .ok text
  | some ⟨.sink .., _, _⟩ => .error .badDescriptor

/-- Reads past the next bytes of a channel. -/
def skip (handle : Nat) (count : Nat) : Job Unit := do
  match (← get).channel? handle with
  | some ⟨.file id offset appends, _, _⟩ => replace handle (.file id (offset + count) appends)
  | some ⟨.source text, _, _⟩ => replace handle (.source (text.drop count))
  | some ⟨.pipe id, _, _⟩ =>
      modifyMachine fun machine => machine.setBytes id ((machine.store.bytes id).drop count)
  | _ => pure ()

/-- Reads all that is left. -/
def takeAll (handle : Nat) : Job (Except Fault Raw) := do
  let text := (← get).rest handle
  if let .ok text := text then skip handle text.length
  return text

/-- Reads at most so many bytes. -/
def takeSome (handle : Nat) (count : Nat) : Job (Except Fault Raw) := do
  match (← get).channel? handle with
  | some ⟨.device .zero, true, _⟩ | some ⟨.device .full, true, _⟩ =>
      return .ok (List.replicate count '\x00')
  | _ =>
      match (← get).rest handle with
      | .error fault => return .error fault
      | .ok text =>
          let text := text.take count
          skip handle text.length
          return .ok text

/-- Whether reading can go back. -/
def isSeekable (world : World) (handle : Nat) : Bool :=
  match world.channel? handle with
  | some ⟨.file .., _, _⟩ => true
  | _ => false

/-! ## Writing -/

/-- The bytes of a file after some were written over it from a place on. -/
def overwrite (old new : List UInt8) (offset : Nat) : List UInt8 :=
  let front := old.take offset
  front ++ List.replicate (offset - front.length) 0 ++ new ++ old.drop (offset + new.length)

/-- Writes text to a channel. -/
def write (handle : Nat) (text : Raw) : Job (Except Fault Unit) := do
  match (← get).channel? handle with
  | some ⟨.file id offset appends, _, true⟩ =>
      if text.isEmpty then return .ok ()
      let old := (← get).machine.store.bytes id
      let offset := if appends then old.length else offset
      modifyMachine fun machine =>
        (machine.setBytes id
          (if offset = old.length then old ++ text.toBytes
          else overwrite old text.toBytes offset)).tick
      replace handle (.file id (offset + text.length) appends)
      return .ok ()
  | some ⟨.sink _ 0, _, true⟩ => return .error .brokenPipe
  | some ⟨.sink pieces (room + 1), _, true⟩ =>
      replace handle (.sink (text :: pieces) room)
      return .ok ()
  | some ⟨.pipe id, _, true⟩ =>
      modifyMachine fun machine =>
        machine.setBytes id (machine.store.bytes id ++ text.toBytes)
      return .ok ()
  | some ⟨.device .full, _, true⟩ => return if text.isEmpty then .ok () else .error .noSpace
  | some ⟨.device _, _, true⟩ => return .ok ()
  | _ => return .error .badDescriptor

/-- How many pieces a pipe takes before those who read it have certainly had enough. -/
def pipeLimit : Nat := 100000

/-- Makes a pipe to which text can be written. -/
def newSink : Job Nat :=
  push ⟨.sink [] pipeLimit, false, true⟩

/-- Makes the end of a pipe from which text is read. -/
def newSource (text : Raw) : Job Nat :=
  push ⟨.source text, true, false⟩

/-- All that was written to a pipe, which is empty then. -/
def drain (handle : Nat) : Job Raw := do
  match (← get).channel? handle with
  | some ⟨.sink pieces room, _, _⟩ =>
      replace handle (.sink [] room)
      return pieces.reverse.flatten
  | _ => return []

/-! ## Opening -/

/-- How a path is opened. -/
inductive Mode where
  | read
  /-- A file loses what it holds. -/
  | write
  | append
  | readWrite
deriving DecidableEq

/-- The channel of a stream of one's own that is opened again under a path. -/
def reopened (world : World) (streams : Streams) (number : Nat) : Except Fault OpenChannel :=
  match (streams.lookup number).bind world.channel? with
  | some ⟨.file id _ _, reads, writes⟩ => .ok ⟨.file id 0 false, reads, writes⟩
  | some channel => .ok channel
  | none => .error .notFound

/-- Opens something that is no regular file. -/
def openSpecial (world : World) (streams : Streams) (mode : Mode) : Node →
    Except Fault (OpenChannel × Option Nat)
  | .device .terminal => .error .noDevice
  | .device (.stream number) =>
      match world.reopened streams number with
      | .ok ⟨.file id offset appends, reads, writes⟩ =>
          .ok (⟨.file id offset appends, reads, writes⟩, none)
      | .ok channel => .ok (channel, streams.lookup number)
      | .error fault => .error fault
  | .device device => .ok (⟨.device device, true, true⟩, none)
  | .pipe id => .ok (⟨.pipe id, true, true⟩, none)
  | .directory =>
      if mode = .read then .ok (⟨.directory, true, false⟩, none) else .error .isDirectory
  | .file _ | .link _ => .error .notFound

/-- Opens a path for a program that has some streams. -/
def openPath (streams : Streams) (mode : Mode) (path : Raw) : Job (Except Fault Nat) := do
  let world ← get
  let text := Raw.toText path
  let found :=
    match mode with
    | .read => world.machine.find text
    | _ =>
        match world.machine.target text with
        | .error fault => .error fault
        | .ok location => .ok ((world.machine.tree.get? location).getD (.link ""))
  match found with
  | .error fault => return .error fault
  | .ok (.file id) =>
      if mode = .write then
        unless (world.machine.store.bytes id).isEmpty do
          modifyMachine fun machine => (machine.setBytes id []).tick
      return .ok (← push
        ⟨.file id 0 (mode = .append), mode = .read || mode = .readWrite, mode != .read⟩)
  | .ok (.link _) =>
      match world.machine.target text with
      | .error fault => return .error fault
      | .ok location =>
          let id := world.machine.store.nextId
          modifyMachine fun machine =>
            (machine.putFile location [] (0o666 &&& (0o777 - world.umask))).tick
          return .ok (← push ⟨.file id 0 (mode = .append), mode = .readWrite, true⟩)
  | .ok node =>
      match world.openSpecial streams mode node with
      | .error fault => return .error fault
      | .ok (_, some handle) => return .ok handle
      | .ok (channel, none) => return .ok (← push channel)

end World

end ShaderLiterals.Programs
