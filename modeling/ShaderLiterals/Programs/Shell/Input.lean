import ShaderLiterals.Programs.Shell.Expansion

/-! # Reading lines and options into variables -/

namespace ShaderLiterals.Programs.Shell

/-! ## Lines -/

/-- How far a line has been split into fields. -/
structure Splitting where
  /-- How many fields may still be ended. -/
  left : Nat
  /-- The fields that were ended, the last one first. -/
  done : List Raw
  /-- The field that is open, its last character first. -/
  field : Raw
  /-- The part of the last field that counts as long as only separators follow. -/
  cut : Option Nat
  /-- Whether a blank has just ended a field. -/
  afterBlank : Bool

namespace Splitting

def start (count : Nat) : Splitting := ⟨count, [], [], none, false⟩

/-- The splitting after one more character, which separates nothing if it was quoted. -/
def add (separators : Raw) (s : Splitting) (c : Char) (quoted : Bool) : Splitting :=
  let separates := separators.contains c
  let isBlank := separates && Element.isBlank c
  if quoted then { s with field := c :: s.field, afterBlank := false }
  else if s.left = 0 then
    if isBlank then { s with cut := s.cut.or (some s.field.length), field := c :: s.field }
    else
      { s with
        cut := if separates && s.afterBlank then s.cut else none
        field := c :: s.field
        afterBlank := false }
  else if s.afterBlank then
    if isBlank then s
    else if separates then { s with afterBlank := false }
    else { s with field := [c], afterBlank := false }
  else if separates then
    if isBlank && s.field.isEmpty then s
    else if s.left = 1 then
      { s with left := 0, cut := some s.field.length, field := c :: s.field, afterBlank := isBlank }
    else
      { s with
        left := s.left - 1, done := s.field.reverse :: s.done, field := [], afterBlank := isBlank }
  else { s with field := c :: s.field }

def fields (s : Splitting) : List Raw :=
  let last := s.field.reverse
  (((s.cut.map last.take).getD last) :: s.done).reverse

end Splitting

/-- Reads a line, with a backslash before a newline going on in the next one: the fields, how many
characters were read, and whether the line was ended. -/
def splitLine (separators : Raw) (keepsBackslashes : Bool) :
    Splitting → Raw → Splitting × Nat × Bool
  | s, [] => (s, 0, false)
  | s, '\n' :: _ => (s, 1, true)
  | s, ['\\'] =>
      if keepsBackslashes then (s.add separators '\\' false, 1, false) else (s, 1, false)
  | s, '\\' :: c :: rest =>
      if keepsBackslashes then
        let (s, count, ended) :=
          splitLine separators keepsBackslashes (s.add separators '\\' false) (c :: rest)
        (s, count + 1, ended)
      else
        let s := if c = '\n' then s else s.add separators c true
        let (s, count, ended) := splitLine separators keepsBackslashes s rest
        (s, count + 2, ended)
  | s, c :: rest =>
      let s := if c = '\x00' then s else s.add separators c false
      let (s, count, ended) := splitLine separators keepsBackslashes s rest
      (s, count + 1, ended)
termination_by _ text => text.length
decreasing_by
  all_goals simp only [List.length_cons]
  all_goals omega

namespace Session

/-- Sets variables to fields; those that are left over get no text. -/
def assignFields : List Raw → List Raw → Session Unit
  | [], _ => return
  | name :: names, fields => do
      assignChecked name (fields.headD [])
      assignFields names (fields.drop 1)

/-- Reads a line of the input into variables. -/
def readLine (keepsBackslashes : Bool) (names : List Raw) : Session Nat := do
  let state ← get
  match state.streams.lookup 0 with
  | none => do
      assignFields names []
      return 1
  | some handle =>
      match state.world.rest handle with
      | .error _ => do
          assignFields names []
          return 1
      | .ok text => do
          let (s, count, ended) :=
            splitLine state.separators keepsBackslashes (.start names.length) text
          inWorld (World.skip handle count)
          assignFields names s.fields
          return if ended then 0 else 1

/-! ## Options -/

/-- Whether a letter is an option, and whether it takes a value. -/
def findOption (letter : Char) : Raw → Option Bool
  | [] => none
  | c :: ':' :: rest => if c = letter then some true else findOption letter rest
  | c :: rest => if c = letter then some false else findOption letter rest

def forgetUnlessProtected (name : Raw) : Session Unit :=
  modify (·.forget name)

/-- Reads the next option out of some arguments into a variable. -/
def readOption (known name : Raw) (args : List Raw) : Session Nat := do
  let state ← get
  let isQuiet := known.head? = some ':'
  let index := state.optionIndex
  let current := (args[index - 2]?).getD []
  let inWord := 1 < index && state.optionOffset != 0 && state.optionOffset < current.length
  let next := args[index - 1]?
  if !inWord && (next = some ['-', '-']) then
    finish (index + 1) none '?'
    return 1
  if !inWord && !(next.any fun word => word.head? = some '-' && 1 < word.length) then
    finish index none '?'
    return 1
  let word := if inWord then current else next.getD []
  let offset := if inWord then state.optionOffset else 1
  let index := if inWord then index else index + 1
  match word.drop offset with
  | [] => return 1
  | letter :: rest => do
      let more := if rest.isEmpty then none else some (offset + 1)
      match findOption letter (if isQuiet then known.drop 1 else known) with
      | none => do
          if isQuiet then assign "OPTARG".toList [letter]
          else
            warnLine (Raw.ofText "Illegal option -" ++ [letter])
            forgetUnlessProtected "OPTARG".toList
          finish index (some (offset + 1)) '?'
      | some false => do
          assign "OPTARG".toList []
          finish index (some (offset + 1)) letter
      | some true =>
          match more, args[index - 1]? with
          | some _, _ => do
              assign "OPTARG".toList rest
              finish index none letter
          | none, some value => do
              assign "OPTARG".toList value
              finish (index + 1) none letter
          | none, none => do
              if isQuiet then assign "OPTARG".toList [letter]
              else
                warnLine (Raw.ofText "No arg for -" ++ letter :: Raw.ofText " option")
                forgetUnlessProtected "OPTARG".toList
              finish index (some (offset + 1)) (if isQuiet then ':' else '?')
      return 0
where
  finish (index : Nat) (offset : Option Nat) (letter : Char) : Session Unit := do
    assign "OPTIND".toList (Raw.ofNat index)
    assignChecked name [letter]
    modify ({ · with optionIndex := index, optionOffset := offset.getD 0 })

end Session

end ShaderLiterals.Programs.Shell
