import ShaderLiterals.Programs.Status
import ShaderLiterals.Programs.Tool.Edit.Script

/-!
# Editing streams

A script runs once for each line of the input.  What it prints is gathered and written at the end.
-/

namespace ShaderLiterals.Programs

open Files (Fault)

namespace Edit

/-- How an editor was called. -/
structure Setup where
  call : Call
  script : Script
  quiet : Bool
  /-- Whether each operand is a text of its own. -/
  apart : Bool
  /-- What is added to the names of old files, if files are edited in place. -/
  inPlace : Option Raw
  delimiter : Char
  width : Nat

/-- What is printed after a line. -/
inductive Later where
  | text (text : Raw)
  | file (path : Raw)

/-- The place of a stream that text is printed to; the output itself has none. -/
abbrev Target := Option Raw

structure State where
  pattern : Raw
  hold : Raw
  /-- Whether what stands in the pattern, or is held, had a newline when it was read. -/
  isEnded : Bool
  isHoldEnded : Bool
  number : Nat
  /-- The lines of the present operand that were not read, and its name. -/
  lines : List Raw
  name : Raw
  /-- Where the present operand is read from, if reading can go back there. -/
  source : Option Nat
  waiting : List Raw
  later : List Later
  /-- Whether something was replaced since the last line was read. -/
  replaced : Bool
  /-- The ranges that have begun: the places of their instructions, and the lines where they end if
  those are known. -/
  ranges : List (Nat × Option Nat)
  search : Option Search
  /-- What was printed, the last piece first. -/
  printed : List Raw
  /-- The targets whose last line has no newline. -/
  unended : List Target
  /-- The files that are written to, and where those are that are read from. -/
  written : List (Raw × Nat)
  read : List (Raw × List Raw)
  status : Nat

/-- What is done while editing; it may come to an end with a status. -/
abbrev Editing := ExceptT Nat (StateT State Job)

/-! ## Printing -/

/-- Prints a text to a target as it is. -/
def put (target : Target) (text : Raw) : Editing Unit := do
  match target with
  | none => modify fun state => { state with printed := text :: state.printed }
  | some path =>
      match (← get).written.lookup path with
      | some handle => discard (World.write handle text : Job _)
      | none => pure ()

/-- Prints a newline if the last line of a target has none. -/
def finishLine (target : Target) : Editing Unit := do
  if (← get).unended.contains target then
    put target ['\n']
    modify fun state => { state with unended := state.unended.filter (· != target) }

/-- Prints a text that ends itself. -/
def putText (target : Target) (text : Raw) : Editing Unit := do
  finishLine target
  put target text

/-- Prints a line, with a newline if the line that was read had one. -/
def putLine (setup : Setup) (target : Target) (line : Raw) : Editing Unit := do
  finishLine target
  if (← get).isEnded then put target (line ++ [setup.delimiter])
  else
    put target line
    modify fun state => { state with unended := target :: state.unended }

/-- Prints what was left for after the line. -/
def putLater (setup : Setup) : Editing Unit := do
  for item in (← get).later do
    match item with
    | .text text => putText none text
    | .file path => do
        finishLine none
        match ← (setup.call.readOperand path : Job _) with
        | .ok text => put none text
        | .error _ => pure ()
  modify ({ · with later := [] })

/-- Writes what was printed. -/
def flush (call : Call) : Editing Unit := do
  let text := (← get).printed.reverse.flatten
  modify fun state =>
    { state with printed := [], unended := state.unended.filter (· != none) }
  (call.print text : Job _)

/-! ## Reading -/

/-- Puts what was printed in place of the file that was read. -/
def replaceFile (suffix : Raw) : Editing Unit := do
  let state ← get
  let text := state.printed.reverse.flatten
  set { state with printed := [], unended := state.unended.filter (· != none) }
  let path := Raw.toText state.name
  let machine := (← (getThe World : Job _)).machine
  if let .ok (location, node) := machine.findLast path then
    let mode := (Status.ofNode machine (some location) node).mode
    (World.modifyMachine fun machine =>
      let kept :=
        if suffix.isEmpty then machine
        else
          let base := (location.getLast?.getD "")
          let name :=
            if suffix.contains '*' then
              Raw.toText (suffix.flatMap fun c => if c = '*' then Raw.ofText base else [c])
            else base ++ Raw.toText suffix
          machine.put (location.dropLast ++ [name]) node
      (kept.putFile location (Raw.toBytes text) mode).tick : Job _)

/-- Ends reading the present operand. -/
def finishOperand (setup : Setup) : Editing Unit := do
  if let some suffix := setup.inPlace then
    if !(← get).name.isEmpty then replaceFile suffix
  modify ({ · with name := [], source := none })

/-- Begins reading an operand. -/
def openOperand (setup : Setup) (operand : Raw) : Editing Unit := do
  let call := setup.call
  if setup.inPlace.isSome then
    match ← (call.find operand : Job _) with
    | .ok (.file _) | .error _ => pure ()
    | .ok _ => do
        (call.complain (Raw.ofText "couldn't edit " ++ operand ++
          Raw.ofText ": not a regular file") : Job _)
        throw 4
  match ← (call.openOperand operand : Job _) with
  | .error fault => do
      (call.complain (Raw.ofText "can't read " ++ operand ++
        Raw.ofText (": " ++ fault.text)) : Job _)
      modify ({ · with status := 2 })
  | .ok handle =>
      match ← (World.takeAll handle : Job _) with
      | .error fault => do
          (call.complain (Raw.ofText "read error on " ++ operand ++
            Raw.ofText (": " ++ fault.text)) : Job _)
          throw 4
      | .ok text => do
          let seeks := (← (getThe World : Job _)).isSeekable handle
          modify fun state =>
            { state with
              lines := Raw.wholeRecords setup.delimiter text, name := operand
              source := if seeks then some handle else none
              number := if setup.apart then 0 else state.number
              ranges := if setup.apart then [] else state.ranges }

/-- Reads the next line of the input; each of at most `fuel` steps goes to the next operand. -/
def nextLine? (setup : Setup) : (fuel : Nat) → Editing (Option Raw)
  | 0 => return none
  | fuel + 1 => do
      match (← get).lines with
      | line :: rest =>
          let isEnded := line.getLast? = some setup.delimiter
          modify fun state =>
            { state with lines := rest, number := state.number + 1, isEnded := isEnded }
          return some (if isEnded then line.dropLast else line)
      | [] => do
          finishOperand setup
          match (← get).waiting with
          | [] => return none
          | operand :: rest => do
              modify ({ · with waiting := rest })
              openOperand setup operand
              nextLine? setup fuel

/-- Reads a line, with which `use` goes on; tells whether there was one. -/
def advance (setup : Setup) (use : State → Raw → State) : Editing Bool := do
  putLater setup
  modify ({ · with replaced := false })
  match ← nextLine? setup ((← get).waiting.length + 2) with
  | none => return false
  | some line => do
      modify fun state => use state line
      return true

/-- Whether there is something to read from an operand. -/
def holdsText (setup : Setup) (operand : Raw) : Editing Bool := do
  match ← (setup.call.openOperand operand : Job _) with
  | .error _ => return false
  | .ok handle =>
      match (← (getThe World : Job _)).rest handle with
      | .ok text => return !text.isEmpty
      | .error _ => return false

/-- Whether the line that was read last is the last one. -/
def isLast (setup : Setup) : Editing Bool := do
  let state ← get
  if !state.lines.isEmpty then return false
  if setup.apart then return true
  for operand in state.waiting do
    if ← holdsText setup operand then return false
  return true

/-! ## Selecting -/

/-- Lays what is searched for over the line. -/
def placed (setup : Setup) (search : Option Search) : Editing Placed := do
  match search.or (← get).search with
  | some search => do
      modify ({ · with search := some search })
      return search.pattern.on (← get).pattern
  | none => do
      (setup.call.complain
        (Raw.ofText "-e expression #1, char 0: no previous regular expression") : Job _)
      throw 1

def meets (setup : Setup) : Address → Editing Bool
  | .line n => return (← get).number = n
  | .every first step => do
      let n := (← get).number
      return first ≤ n && (n - first) % step = 0
  | .last => isLast setup
  | .matching search => return (← placed setup search).hasMatch

/-- Sets whether the range of an instruction has begun, and where it ends. -/
def setRange (place : Nat) (range : Option (Option Nat)) : Editing Unit :=
  modify fun state =>
    { state with
      ranges := (range.map (place, ·)).toList ++ state.ranges.filter (·.1 != place) }

/-- Whether a range that may not have begun holds the line. -/
def inRange (setup : Setup) (place : Nat) (first : Address) (last : RangeEnd) : Editing Bool := do
  let number := (← get).number
  match (← get).ranges.lookup place with
  | some (some stop) => do
      if stop ≤ number then setRange place none
      return number ≤ stop
  | some none => do
      if let .address address := last then
        if ← meets setup address then setRange place none
      return true
  | none => do
      if !(← meets setup first) then return false
      match last with
      | .address (.line n) => if number < n then setRange place (some (some n))
      | .address _ => setRange place (some none)
      | .following n => if n != 0 then setRange place (some (some (number + n)))
      | .multiple n =>
          if n != 0 then setRange place (some (some (number / n * n + n)))
      return true

/-- Whether an instruction is for the line. -/
def isSelected (setup : Setup) (place : Nat) (selection : Selection) : Editing Bool := do
  let found ←
    match selection.first, selection.last with
    | none, _ => pure true
    | some first, none => meets setup first
    | some first, some last => inRange setup place first last
  return found != selection.negated

/-! ## Replacing -/

/-- How letters are changed: all of them, and the next one. -/
structure Letters where
  all : Option Casing
  next : Option Casing

def Letters.set (letters : Letters) : Casing → Letters
  | .plain => ⟨none, none⟩
  | .upper => { letters with all := some .upper }
  | .lower => { letters with all := some .lower }
  | casing => { letters with next := some casing }

def Letters.apply (letters : Letters) (text : Raw) : Raw :=
  let changed :=
    match letters.all with
    | some .upper => text.map Char.toUpper
    | some .lower => text.map Char.toLower
    | _ => text
  match letters.next, changed with
  | some .upperNext, c :: rest => c.toUpper :: rest
  | some .lowerNext, c :: rest => c.toLower :: rest
  | _, _ => changed

/-- The text that replaces a match. -/
def replacementFor (placed : Placed) (m : Match) (pieces : List Piece) : Raw :=
  let step := fun (state : Letters × List Raw) (piece : Piece) =>
    let (letters, texts) := state
    let add := fun (text : Raw) =>
      ({ letters with next := if text.isEmpty then letters.next else none },
        letters.apply text :: texts)
    match piece with
    | .text text => add text
    | .group n =>
        match m.group? n with
        | some (start, stop) => add (placed.slice start stop)
        | none => (letters, texts)
    | .casing casing => (letters.set casing, texts)
  (pieces.foldl step (⟨none, none⟩, [])).2.reverse.flatten

/-- A text with matches replaced, read from a position on. -/
def replaceMatches (placed : Placed) (pieces : List Piece) (position : Nat) : List Match → Raw
  | [] => placed.text.drop position
  | m :: rest =>
      placed.slice position m.start ++ replacementFor placed m pieces ++
        replaceMatches placed pieces m.stop rest

/-- The matches that a substitution replaces. -/
def chosenMatches (placed : Placed) (substitution : Substitution) : List Match :=
  if substitution.number = 1 && !substitution.all then (placed.find? 0).toList
  else
    let found := (placed.findAll (placed.text.length + 2) 0 none).drop (substitution.number - 1)
    if substitution.all then found else found.take 1

/-- A path as a target. -/
def targetOf (path : Raw) : Target :=
  if path = "/dev/stdout".toList then none else some path

def substitute (setup : Setup) (substitution : Substitution) : Editing Unit := do
  let placed ← placed setup substitution.search
  match chosenMatches placed substitution with
  | [] => pure ()
  | found => do
      modify ({ · with
        pattern := replaceMatches placed substitution.pieces 0 found, replaced := true })
      if substitution.prints then putLine setup none (← get).pattern
      if let some path := substitution.path then putLine setup (targetOf path) (← get).pattern

/-! ## Spelling -/

/-- The characters of a text, each spelled so that it can be seen. -/
def spellings (text : Raw) : List Raw :=
  text.map fun c =>
    match [('\\', '\\'), ('\x07', 'a'), ('\x08', 'b'), ('\x0C', 'f'), ('\n', 'n'), ('\r', 'r'),
        ('\t', 't'), ('\x0B', 'v')].lookup c with
    | some letter => ['\\', letter]
    | none =>
        if ' ' ≤ c && c ≤ '~' then [c]
        else '\\' :: Raw.padLeft '0' 3 (Nat.toDigits 8 c.toNat)

/-- Spelled characters in lines of a width. -/
def spelledLines (width : Nat) (column : Nat) : List Raw → Raw
  | [] => ['$', '\n']
  | spelling :: rest =>
      if 0 < width && width - 1 < column + spelling.length then
        '\\' :: '\n' :: spelling ++ spelledLines width spelling.length rest
      else spelling ++ spelledLines width (column + spelling.length) rest

/-! ## Running -/

/-- What comes after an instruction. -/
inductive Step where
  | goOn (place : Nat)
  /-- The script is over for this line, which is printed or not. -/
  | finish (prints : Bool)
  /-- The script begins again without another line. -/
  | again
  | quit (prints : Bool) (status : Nat)

/-- The first row of a text, and what follows it, if it has several. -/
def splitRow (delimiter : Char) (text : Raw) : Raw × Option Raw :=
  let front := text.takeWhile (· != delimiter)
  (front, if front.length < text.length then some (text.drop (front.length + 1)) else none)

/-- The next row of a file that is read row by row. -/
def nextRow? (setup : Setup) (path : Raw) : Editing (Option Raw) := do
  let rows ←
    match (← get).read.lookup path with
    | some rows => pure rows
    | none =>
        match ← (setup.call.readOperand path : Job _) with
        | .ok text => pure (Raw.records '\n' text)
        | .error _ => pure []
  modify fun state => { state with read := (path, rows.drop 1) :: state.read }
  return rows.head?

/-- Does what an instruction says; the next one is at `next`. -/
def perform (setup : Setup) (place : Nat) (selection : Selection) (action : Action) :
    Editing Step := do
  let next := Step.goOn (place + 1)
  let state ← get
  match action with
  | .opens => return next
  | .jump condition label => do
      let target :=
        Step.goOn <|
          if label.isEmpty then setup.script.instructions.size
          else (setup.script.labels.lookup label).getD 0
      match condition with
      | .always => return target
      | .ifReplaced => do
          set { state with replaced := false }
          return if state.replaced then target else next
      | .unlessReplaced => do
          set { state with replaced := false }
          return if state.replaced then next else target
  | .append text => do
      set { state with later := state.later ++ [Later.text text] }
      return next
  | .insert text => do
      putText none text
      return next
  | .change text => do
      if selection.last.isNone || selection.negated || (state.ranges.lookup place).isNone then
        putText none text
      return .finish false
  | .delete => return .finish false
  | .deleteRow =>
      match splitRow setup.delimiter state.pattern with
      | (_, none) => return .finish false
      | (_, some rest) => do
          set { state with pattern := rest }
          return .again
  | .showName => do
      putText none (state.name ++ ['\n'])
      return next
  | .recall => do
      set { state with pattern := state.hold, isEnded := state.isHoldEnded }
      return next
  | .recallMore => do
      set { state with
        pattern := state.pattern ++ setup.delimiter :: state.hold, isEnded := state.isHoldEnded }
      return next
  | .keep => do
      set { state with hold := state.pattern, isHoldEnded := state.isEnded }
      return next
  | .keepMore => do
      set { state with
        hold := state.hold ++ setup.delimiter :: state.pattern, isHoldEnded := state.isEnded }
      return next
  | .exchange => do
      set { state with
        hold := state.pattern, isHoldEnded := state.isEnded
        pattern := state.hold, isEnded := state.isHoldEnded }
      return next
  | .spell width => do
      putText none (spelledLines (width.getD setup.width) 0 (spellings state.pattern))
      return next
  | .next => do
      unless setup.quiet do putLine setup none state.pattern
      if ← isLast setup then return .finish false
      if ← advance setup fun state line => { state with pattern := line } then return next
      return .finish false
  | .nextMore => do
      if ← isLast setup then return .finish true
      let joined := fun (state : State) line =>
        { state with pattern := state.pattern ++ setup.delimiter :: line }
      return if ← advance setup joined then next else .finish true
  | .print => do
      putLine setup none state.pattern
      return next
  | .printRow => do
      putText none ((splitRow setup.delimiter state.pattern).1 ++ [setup.delimiter])
      return next
  | .quit prints status => return .quit prints status
  | .readFile path => do
      set { state with later := state.later ++ [Later.file path] }
      return next
  | .readRow path => do
      if let some row ← nextRow? setup path then
        modify fun state => { state with later := state.later ++ [Later.text (row ++ ['\n'])] }
      return next
  | .write path => do
      putLine setup (targetOf path) state.pattern
      return next
  | .writeRow path => do
      putText (targetOf path) ((splitRow setup.delimiter state.pattern).1 ++ ['\n'])
      return next
  | .substitute substitution => do
      substitute setup substitution
      return next
  | .transliterate pairs => do
      set { state with pattern := state.pattern.map fun c => (pairs.lookup c).getD c }
      return next
  | .clear => do
      set { state with pattern := [] }
      return next
  | .showNumber => do
      putText none (Raw.ofNat state.number ++ ['\n'])
      return next

/-- Runs the instructions from a place on; at most `fuel` of them. -/
def runFrom (setup : Setup) : (fuel : Nat) → Nat → Editing Step
  | 0, _ => return .finish true
  | fuel + 1, place => do
      match setup.script.instructions[place]? with
      | none => return .finish true
      | some ⟨selection, action⟩ => do
          let selected ← isSelected setup place selection
          match selected, action with
          | false, .opens =>
              runFrom setup fuel ((setup.script.stops.lookup place).getD (place + 1))
          | false, _ => runFrom setup fuel (place + 1)
          | true, action =>
              match ← perform setup place selection action with
              | .goOn place => runFrom setup fuel place
              | step => return step

/-- How many instructions may be run for a line. -/
def lineFuel : Nat := 1000000

/-- Gives back to the source what was read of it ahead. -/
def giveBack : Editing Unit := do
  let state ← get
  if let some handle := state.source then
    let ahead := state.lines.foldl (fun n line => n + line.length) 0
    match (← (getThe World : Job _)).channel? handle with
    | some ⟨.file id offset appends, _, _⟩ =>
        (World.replace handle (.file id (offset - ahead) appends) : Job _)
    | _ => pure ()

/-- Runs the script for line after line; at most `fuel` times.  If `reads`, another line is
needed. -/
def runAll (setup : Setup) : (fuel : Nat) → (reads : Bool) → Editing Unit
  | 0, _ => return
  | fuel + 1, reads => do
      if reads then
        unless ← advance setup fun state line => { state with pattern := line } do return
      match ← runFrom setup lineFuel 0 with
      | .goOn _ => return
      | .finish prints => do
          if prints && !setup.quiet then putLine setup none (← get).pattern
          runAll setup fuel true
      | .again => do
          putLater setup
          runAll setup fuel false
      | .quit prints status => do
          if prints then
            unless setup.quiet do putLine setup none (← get).pattern
            putLater setup
          if setup.inPlace.isSome then finishOperand setup else giveBack
          modify fun state =>
            { state with status := if state.status = 0 then status else state.status }

/-- How often a script may be run. -/
def runFuel : Nat := 10000000

/-- The paths that a script writes to. -/
def Script.paths (script : Script) : List Raw :=
  script.instructions.toList.filterMap fun instruction =>
    match instruction.action with
    | .write path | .writeRow path => some path
    | .substitute substitution => substitution.path
    | _ => none

/-- Opens the files that a script writes to. -/
def openWritten (call : Call) : List Raw → Job (Except Raw (List (Raw × Nat)))
  | [] => return .ok []
  | path :: rest => do
      if path = "/dev/stdout".toList then return ← openWritten call rest
      match ← World.openPath call.streams .write path with
      | .error fault =>
          return .error (Raw.ofText "couldn't open file " ++ path ++
            Raw.ofText (": " ++ fault.text))
      | .ok handle => return (← openWritten call rest).map ((path, handle) :: ·)

/-- Edits the operands. -/
def run (setup : Setup) (operands : List Raw) : Job Nat := do
  match ← openWritten setup.call setup.script.paths.eraseDups with
  | .error complaint => setup.call.refuse 4 complaint
  | .ok written => do
      let ranges := setup.script.instructions.toList.zipIdx.filterMap fun (instruction, place) =>
        match instruction.selection.first with
        | some (.line 0) => some (place, none)
        | _ => none
      let start : State :=
        { pattern := [], hold := [], isEnded := true, isHoldEnded := true, number := 0
          lines := [], name := []
          source := none, waiting := operands, later := [], replaced := false, ranges := ranges
          search := none, printed := [], unended := [], written := written, read := []
          status := 0 }
      let body : Editing Unit := do
        try
          runAll setup runFuel true
          putLater setup
        catch status => modify ({ · with status := status })
        flush setup.call
      return (← body.run.run start).2.status

end Edit

/-- Edits its operands line by line. -/
def sed : Tool := fun call => do
  let description :=
    "n/quiet,silent e/expression= f/file= E/regexp-extended r/ i/in-place== s/separate " ++
      "z/null-data l/line-length= u/unbuffered b/binary /posix /debug /sandbox /follow-symlinks"
  let usage :=
    "Usage: sed [OPTION]... \x7bscript-only-if-no-other-script\x7d [input-file]...\n\n"
  match Options.read description true call.args with
  | .error complaint => do
      call.complain complaint
      call.warn (Raw.ofText usage)
      return 1
  | .ok options => do
      let mut parts : List Edit.Part := []
      for (key, value) in options.given do
        if key = "expression".toList then parts := parts ++ [⟨none, value⟩]
        if key = "file".toList then
          match ← call.readOperand value with
          | .ok text =>
              let text := if text.getLast? = some '\n' then text.dropLast else text
              parts := parts ++ [⟨some value, text⟩]
          | .error fault =>
              return ← call.refuse 4 (Raw.ofText "couldn't open file " ++ value ++
                Raw.ofText (": " ++ fault.text))
      let mut operands := options.operands
      if parts.isEmpty then
        match operands with
        | [] => do
            call.warn (Raw.ofText usage)
            return 1
        | script :: rest => do
            parts := [⟨none, script⟩]
            operands := rest
      let extended := options.has "regexp-extended" || options.has "r"
      match Edit.Script.read extended parts with
      | .error (status, complaint) => call.refuse status complaint
      | .ok script => do
          let inPlace := options.value? "in-place"
          if inPlace.isSome && operands.isEmpty then
            return ← call.refuse 4 (Raw.ofText "no input files")
          Edit.run
            { call := call, script := script
              quiet := options.has "quiet" || Edit.isQuiet parts
              apart := options.has "separate" || inPlace.isSome
              inPlace := inPlace
              delimiter := if options.has "null-data" then '\x00' else '\n'
              width := ((options.value? "line-length").bind Raw.nat?).getD 70 }
            (if operands.isEmpty then [['-']] else operands)

end ShaderLiterals.Programs
