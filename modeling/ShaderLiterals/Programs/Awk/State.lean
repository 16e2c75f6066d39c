import Std.Data.HashMap
import ShaderLiterals.Programs.Awk.Rule
import ShaderLiterals.Programs.Awk.Value
import ShaderLiterals.Programs.Call

/-! # The state of a record script that runs -/

namespace ShaderLiterals.Programs.Awk

open Files (Fault)

/-! ## Arrays -/

/-- Values by their keys, each with the number of the step in which it came. -/
structure Table where
  items : Std.HashMap String (Nat × Value)
  steps : Nat

namespace Table

def empty : Table := ⟨∅, 0⟩

def get? (table : Table) (key : Raw) : Option Value :=
  (table.items[String.ofList key]?).map Prod.snd

def put (table : Table) (key : Raw) (v : Value) : Table :=
  let name := String.ofList key
  let step := ((table.items[name]?).map Prod.fst).getD table.steps
  ⟨table.items.insert name (step, v), table.steps + 1⟩

def erase (table : Table) (key : Raw) : Table :=
  { table with items := table.items.erase (String.ofList key) }

def size (table : Table) : Nat := table.items.size

/-- A number that spreads keys evenly. -/
def spread (key : Raw) : UInt32 :=
  key.foldl (fun h c => (h ^^^ c.val) * 16777619) 2166136261

/-- How many groups keys are in, the fewest being 64. -/
def groups : (fuel : Nat) → (size count : Nat) → Nat
  | 0, _, count => count
  | fuel + 1, size, count => if size ≤ 12 * count then count else groups fuel size (2 * count)

/-- The keys, in groups by their numbers; in a group the last one that came is the first. -/
def keys (table : Table) : List Raw :=
  let count := groups 20 table.size 64
  let entries := table.items.toList.map fun (name, step, _) =>
    ((spread name.toList).toNat % count, step, name.toList)
  (entries.mergeSort fun a b => a.1 < b.1 || a.1 = b.1 && b.2.1 ≤ a.2.1).map fun e => e.2.2

/-- The table of some values under the numbers from 1 on. -/
def ofList (values : List Value) : Table :=
  (values.zipIdx 1).foldl (fun table (v, i) => table.put (Raw.ofNat i) v) empty

end Table

/-- What stands under the name of a variable. -/
inductive Slot where
  | scalar (v : Value)
  /-- A table, which other names may stand for too, or nothing as long as it is empty. -/
  | shared (number : Nat)

/-! ## Channels -/

/-- Something that text is written to, and what was written and has not got there, the last piece
first. -/
structure OpenOutlet where
  /-- The file, or none for a command. -/
  handle : Option Nat
  pieces : List Raw

/-- Something that records are read from. -/
structure OpenSupply where
  rest : Raw
  /-- How the command ended, if it is one. -/
  ending : Option Ending

structure State where
  world : World
  call : Call
  start : Starter
  functions : List Function
  globals : Std.HashMap String Slot
  /-- The variables of the function that runs. -/
  locals : List (Raw × Slot)
  tables : Array Table
  record : Raw
  fields : List Value
  /-- What was printed and not yet written, the last piece first. -/
  printed : List Raw
  /-- The outlets by their names, the last one that was opened first. -/
  outlets : List (Raw × OpenOutlet)
  supplies : List (Raw × OpenSupply)
  /-- What is left of the operand that is read, and the number of the next one. -/
  current : Option Raw
  operand : Nat
  /-- Whether any operand was read. -/
  hasRead : Bool
  status : Nat
  /-- The numbers of the rules of which the first condition held and the last one did not. -/
  spans : List Nat
  seed : Nat

/-- How it goes on when it does not go on with the next action. -/
inductive Flow where
  | leave
  | again
  | next
  | nextFile
  | exit
  | back (value : Value)
  | fault (text : Raw)

/-- What is done for a script. -/
abbrev Work := ExceptT Flow (StateM State)

def inWorld {α : Type} (job : Job α) : Work α := do
  let s ← get
  let (result, world) := job s.world
  set { s with world := world }
  return result

/-- Ends the script with a complaint. -/
def fail {α : Type} (text : Raw) : Work α := throw (.fault text)

/-! ## Variables -/

namespace State

def slot? (s : State) (name : Raw) : Option Slot :=
  (s.locals.lookup name).or s.globals[String.ofList name]?

def setSlot (s : State) (name : Raw) (slot : Slot) : State :=
  if (s.locals.lookup name).isSome then
    { s with locals := s.locals.map fun v => if v.1 = name then (name, slot) else v }
  else { s with globals := s.globals.insert (String.ofList name) slot }

def scalar (s : State) (name : Raw) : Value :=
  match s.slot? name with
  | some (.scalar v) => v
  | _ => .unset

/-- The text of a variable that has an ordinary name. -/
def textOf (s : State) (name : String) : Raw :=
  (s.scalar name.toList).toRaw "%.6g".toList

/-- The format in which numbers become texts. -/
def format (s : State) : Raw := s.textOf "CONVFMT"

end State

/-- A value as text. -/
def toRaw (v : Value) : Work Raw := return v.toRaw (← get).format

/-- The number of the table under a name, which may be new. -/
def tableNumber (name : Raw) : Work Nat := do
  let s ← get
  match s.slot? name with
  | some (.shared number) => return number
  | some (.scalar .unset) | none => do
      let number := s.tables.size
      set ({ s with tables := s.tables.push .empty }.setSlot name (.shared number))
      return number
  | some (.scalar _) =>
      fail (Raw.ofText "line 1: illegal reference to variable " ++ name)

def table (name : Raw) : Work Table := do
  let number ← tableNumber name
  return (← get).tables.getD number .empty

def modifyTable (name : Raw) (change : Table → Table) : Work Unit := do
  let number ← tableNumber name
  modify fun s => { s with tables := s.tables.modify number change }

/-! ## Records -/

/-- Ends the script with a complaint that tells which record is read. -/
def failHere {α : Type} (text : Raw) : Work α := do
  let s ← get
  fail (Raw.ofText "run time error: " ++ text ++ Raw.ofText "\n\tFILENAME=\"" ++
    s.textOf "FILENAME" ++ Raw.ofText "\" FNR=" ++ s.textOf "FNR" ++ Raw.ofText " NR=" ++
    s.textOf "NR")

/-- The regular expression that a text spells. -/
def pattern (text : Raw) : Work Pattern := do
  if let some fault := regexFault? text then failHere fault
  match Regex.read .scripted text with
  | .ok (pattern, _) => return pattern
  | .error fault => failHere (Raw.ofText fault)

/-- The pieces of a text between matches of a pattern. -/
def splitAt (pattern : Pattern) (text : Raw) : List Raw :=
  let placed := pattern.on text
  let found := (placed.findAll (text.length + 2) 0 none).filter fun m => m.start < m.stop
  let (pieces, last) := found.foldl
    (fun (pieces, from_) m => (placed.slice from_ m.start :: pieces, m.stop)) ([], 0)
  (text.drop last :: pieces).reverse

/-- The fields of a text between separators. -/
def split (separator text : Raw) : Work (List Raw) := do
  match separator with
  | [' '] => return Raw.words text
  | [] => return text.map ([·])
  | [c] => return if text.isEmpty then [] else text.splitOn c
  | separator => do
      if text.isEmpty then return []
      return splitAt (← pattern separator) text

/-- Sets the record. -/
def setRecord (text : Raw) : Work Unit := do
  let fields ← split ((← get).textOf "FS") text
  modify fun s => { s with record := text, fields := fields.map .input }

/-- Sets the fields, and makes the record of them. -/
def setFields (fields : List Value) : Work Unit :=
  modify fun s =>
    let record := (s.textOf "OFS").intercalate (fields.map (·.toRaw s.format))
    { s with record := record, fields := fields }

def getVariable (name : Raw) : Work Value := do
  let s ← get
  if name = ['N', 'F'] && (s.locals.lookup name).isNone then return .ofNat s.fields.length
  match s.slot? name with
  | some (.scalar v) => return v
  | some (.shared number) =>
      if 0 < (s.tables.getD number .empty).size then
        fail (Raw.ofText "line 1: illegal reference to array " ++ name)
      return .unset
  | none => return .unset

def setVariable (name : Raw) (v : Value) : Work Unit := do
  let s ← get
  if name = ['N', 'F'] && (s.locals.lookup name).isNone then
    let n := v.toInt
    if n < 0 then failHere (Raw.ofText "negative value assigned to NF")
    let missing := n.toNat - s.fields.length
    setFields (s.fields.take n.toNat ++ List.replicate missing (.text []))
  else set (s.setSlot name (.scalar v))

def getField (n : Int) : Work Value := do
  let s ← get
  if n < 0 then failHere (Raw.ofText s!"negative field index ${n}")
  if n = 0 then return .input s.record
  return s.fields.getD (n.toNat - 1) (.input [])

def setField (n : Int) (v : Value) : Work Unit := do
  if n < 0 then failHere (Raw.ofText s!"negative field index ${n}")
  if n = 0 then setRecord (← toRaw v)
  else
    let fields := (← get).fields
    let fields := fields ++ List.replicate (n.toNat - fields.length) (.text [])
    setFields (fields.set (n.toNat - 1) v)

/-! ## Writing -/

/-- Writes what was printed. -/
def flush : Work Unit := do
  let s ← get
  set { s with printed := [] }
  inWorld (s.call.print s.printed.reverse.flatten)
  for (name, outlet) in s.outlets do
    if let some handle := outlet.handle then
      discard <| inWorld (World.write handle outlet.pieces.reverse.flatten)
      modify fun s => { s with
        outlets := s.outlets.map fun e =>
          if e.1 = name then (name, { e.2 with pieces := [] }) else e }

/-- Runs a command of a shell. -/
def runCommand (command : Raw) (streams : Streams) : Work Ending := do
  let s ← get
  let call := { s.call with
    name := "sh".toList, args := [['-', 'c'], command], streams := streams }
  match ← inWorld (s.start call) with
  | .ok ending => return ending
  | .error _ => return .exited 127

/-- Puts another channel in the place of a stream. -/
def withStream (streams : Streams) (number handle : Nat) : Streams :=
  (number, handle) :: streams.filter (·.1 != number)

/-- The outlet with a name, which may be opened now. -/
def outlet (kind : Outlet) (name : Raw) : Work OpenOutlet := do
  let s ← get
  match s.outlets.lookup name with
  | some outlet => return outlet
  | none => do
      let opened ←
        match kind with
        | .command => do
            flush
            pure ⟨none, []⟩
        | kind => do
            let mode : World.Mode :=
              match kind with
              | .fileEnd => .append
              | _ => .write
            match ← inWorld (World.openPath s.call.streams mode name) with
            | .ok handle => pure ⟨some handle, []⟩
            | .error fault =>
                fail (Raw.ofText "cannot open \"" ++ name ++
                  Raw.ofText ("\" for output (" ++ fault.text ++ ")"))
      modify fun s => { s with outlets := (name, opened) :: s.outlets }
      return opened

/-- Prints text. -/
def emit (text : Raw) : Work Unit :=
  modify fun s => { s with printed := text :: s.printed }

/-- Writes text to an outlet. -/
def emitTo (kind : Outlet) (name text : Raw) : Work Unit := do
  match kind, String.ofList name with
  | .file, "/dev/stdout" | .fileEnd, "/dev/stdout" | .file, "-" | .fileEnd, "-" => emit text
  | .file, "/dev/stderr" | .fileEnd, "/dev/stderr" => do inWorld ((← get).call.warn text)
  | kind, _ => do
      let opened ← outlet kind name
      modify fun s => { s with
        outlets := s.outlets.map fun e =>
          if e.1 = name then (name, { opened with pieces := text :: e.2.pieces }) else e }

/-- Closes an outlet; a command reads what was written to it now. -/
def closeOutlet (name : Raw) (outlet : OpenOutlet) : Work Nat := do
  match outlet.handle with
  | some handle =>
      match ← inWorld (World.write handle outlet.pieces.reverse.flatten) with
      | .ok () => return 0
      | .error fault =>
          fail (Raw.ofText "close failed on file \"" ++ name ++
            Raw.ofText ("\" (" ++ fault.text ++ ")"))
  | none => do
      let source ← inWorld (World.newSource outlet.pieces.reverse.flatten)
      match ← runCommand name (withStream (← get).call.streams 0 source) with
      | .exited status => return status
      | .killed signal => return 256 + signal

/-- Closes all outlets, the commands first. -/
def closeAll : Work Unit := do
  let outlets := (← get).outlets
  modify ({ · with outlets := [] })
  for (name, outlet) in outlets.filter fun e => e.2.handle.isNone do
    discard <| closeOutlet name outlet
  flush
  for (name, outlet) in outlets.filter fun e => e.2.handle.isSome do
    discard <| closeOutlet name outlet

/-! ## Reading -/

/-- The first record of a text, and the rest. -/
def firstRecord (text : Raw) : Work (Option (Raw × Raw)) := do
  if text.isEmpty then return none
  match (← get).textOf "RS" with
  | [c] =>
      let record := text.takeWhile (· != c)
      return some (record, text.drop (record.length + 1))
  | [] => return paragraph (text.dropWhile (· = '\n'))
  | separator => do
      let placed := (← pattern separator).on text
      match placed.find? 0 with
      | some m =>
          if m.start < m.stop then return some (text.take m.start, text.drop m.stop)
          else return some (text, [])
      | none => return some (text, [])
where
  /-- The lines up to an empty one. -/
  paragraph (text : Raw) : Option (Raw × Raw) :=
    if text.isEmpty then none
    else
      let lines := (Raw.lines text).takeWhile (!·.isEmpty)
      let record := ['\n'].intercalate lines
      some (record, (text.drop (record.length + 1)).dropWhile (· = '\n'))

/-- The variable and the value of an operand that is an assignment. -/
def assignment? (operand : Raw) : Option (Raw × Raw) :=
  let name := operand.takeWhile fun c => c.isAlphanum || c = '_'
  if name.head?.any (fun c => !c.isDigit) && operand[name.length]? = some '=' then
    some (name, operand.drop (name.length + 1))
  else none

/-- A value given from outside, with its escapes resolved. -/
def resolved : (fuel : Nat) → Raw → Raw
  | 0, rest => rest
  | _, [] => []
  | fuel + 1, '\\' :: c :: rest =>
      if c = '\\' || c = '"' then c :: resolved fuel rest
      else
        match Raw.control? c with
        | some control => control :: resolved fuel rest
        | none => '\\' :: c :: resolved fuel rest
  | fuel + 1, c :: rest => c :: resolved fuel rest

/-- Assigns a value that is given from outside. -/
def assignGiven (name value : Raw) : Work Unit :=
  setVariable name (.input (resolved value.length value))

/-- Begins to read an operand. -/
def openOperand (operand : Raw) : Work Unit := do
  let s ← get
  match ← inWorld (s.call.openOperand operand) with
  | .error fault =>
      fail (Raw.ofText "cannot open \"" ++ operand ++ Raw.ofText ("\" (" ++ fault.text ++ ")"))
  | .ok handle => do
      match ← inWorld (World.takeAll handle) with
      | .error fault => fail (Raw.ofText ("read error (" ++ fault.text ++ ")"))
      | .ok text =>
          modify ({ · with current := some text, hasRead := true })
          setVariable "FILENAME".toList (.text operand)
          setVariable "FNR".toList (.number 0)

/-- Begins to read the next operand, and tells whether there was one; at most `fuel` operands are
passed. -/
def nextOperand : (fuel : Nat) → Work Bool
  | 0 => return false
  | fuel + 1 => do
      let s ← get
      if (s.scalar "ARGC".toList).toInt ≤ s.operand then
        if s.hasRead then return false
        openOperand ['-']
        return true
      set { s with operand := s.operand + 1 }
      let operand ← toRaw (((← table "ARGV".toList).get? (Raw.ofNat s.operand)).getD .unset)
      match assignment? operand with
      | some (name, value) => do
          assignGiven name value
          nextOperand fuel
      | none => do
          if operand.isEmpty then return ← nextOperand fuel
          openOperand operand
          return true

/-- The next record of the operands; at most `fuel` of them are gone through. -/
def nextRecord : (fuel : Nat) → Work (Option Raw)
  | 0 => return none
  | fuel + 1 => do
      match (← get).current with
      | none => if ← nextOperand 10000 then nextRecord fuel else return none
      | some text =>
          match ← firstRecord text with
          | none => do
              modify ({ · with current := none })
              nextRecord fuel
          | some (record, rest) => do
              modify ({ · with current := some rest })
              for name in ["NR", "FNR"] do
                let n := ((← get).scalar name.toList).toFloat
                setVariable name.toList (.number (n + 1))
              return some record

/-- The next record of the operands, if there is one. -/
def takeRecord : Work (Option Raw) := nextRecord 10000

/-- The next record of a file or a command: none at its end, and `error` if there is no such
file. -/
def supplied (isCommand : Bool) (name : Raw) : Work (Except Unit (Option Raw)) := do
  let s ← get
  let found : Except Unit OpenSupply ←
    match s.supplies.lookup name, isCommand with
    | some supply, _ => pure (.ok supply)
    | none, true => do
        flush
        let sink ← inWorld World.newSink
        let ending ← runCommand name (withStream s.call.streams 1 sink)
        let text ← inWorld (World.drain sink)
        pure (.ok ⟨text, some ending⟩)
    | none, false => do
        match ← inWorld (s.call.openOperand name) with
        | .error _ => pure (.error ())
        | .ok handle => do
            match ← inWorld (World.takeAll handle) with
            | .error fault => fail (Raw.ofText ("read error (" ++ fault.text ++ ")"))
            | .ok text => pure (.ok ⟨text, none⟩)
  match found with
  | .error () => return .error ()
  | .ok supply => do
      let next ← firstRecord supply.rest
      let rest := (next.map Prod.snd).getD []
      modify fun s => { s with
        supplies := (name, { supply with rest := rest }) :: s.supplies.filter (·.1 != name) }
      return .ok (next.map Prod.fst)

/-- Closes what was opened under a name, and gives how that ended. -/
def close (name : Raw) : Work Int := do
  let s ← get
  set { s with
    outlets := s.outlets.filter (·.1 != name), supplies := s.supplies.filter (·.1 != name) }
  match s.outlets.lookup name, s.supplies.lookup name with
  | some outlet, _ => return (← closeOutlet name outlet : Nat)
  | none, some supply =>
      return match supply.ending with
        | some (.exited status) => (status : Int)
        | some (.killed signal) => 256 + signal
        | none => 0
  | none, none => return -1

end ShaderLiterals.Programs.Awk
