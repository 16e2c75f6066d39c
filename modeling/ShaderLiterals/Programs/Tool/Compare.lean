import ShaderLiterals.Programs.Calendar
import ShaderLiterals.Programs.Difference
import ShaderLiterals.Programs.Status
import ShaderLiterals.Programs.Tool.Names

/-! # Comparing files -/

namespace ShaderLiterals.Programs

open Files (Fault)

/-! ## Lines -/

namespace Compare

/-- How differences are shown. -/
inductive Form where
  | plain
  /-- With so many lines around each change, marked one by one. -/
  | unified (context : Nat)
  /-- With both versions after each other. -/
  | context (context : Nat)
  | brief
deriving DecidableEq

/-- How files are compared. -/
structure Manner where
  form : Form
  foldsCase : Bool
  /-- Whether the amount of space does not matter, or no space at all does. -/
  foldsSpace : Bool
  dropsSpace : Bool
  dropsBlankLines : Bool
  asText : Bool
  reportsSame : Bool
  newAsEmpty : Bool
  recursive : Bool
  labels : List Raw
  /-- The options of the call, as they are shown above the differences of files in directories. -/
  given : Raw

/-- Space put together to one blank, but for that at the end. -/
def foldSpace : Raw → Raw
  | [] => []
  | c :: rest =>
      if Raw.isSpace c then
        if rest.all Raw.isSpace then []
        else if rest.head?.any Raw.isSpace then foldSpace rest
        else ' ' :: foldSpace rest
      else c :: foldSpace rest

/-- What of a line counts. -/
def Manner.key (manner : Manner) (line : Raw) : Raw :=
  let line := if manner.foldsCase then line.map Char.toLower else line
  if manner.dropsSpace then line.filter fun c => !Raw.isSpace c
  else if manner.foldsSpace then foldSpace line
  else line

/-- Numbers for lines, equal ones for lines of which the same counts. -/
def numbered (manner : Manner) (a b : List Raw) : Array Nat × Array Nat :=
  let keys := ((a ++ b).map manner.key).eraseDups
  let number := fun (line : Raw) => keys.idxOf (manner.key line)
  ((a.map number).toArray, (b.map number).toArray)

/-- Lines with a mark before each. -/
def marked (mark : Raw) (lines : List Raw) : Raw :=
  lines.flatMap fun line =>
    mark ++ line ++
      if line.getLast? = some '\n' then []
      else '\n' :: Raw.ofText "\\ No newline at end of file\n"

/-- A part of a list. -/
def part (lines : List Raw) (start stop : Nat) : List Raw := (lines.drop start).take (stop - start)

/-- The numbers of the first and the last line of a range; the line before it stands for an empty
one. -/
def rangeText (start stop : Nat) : Raw :=
  if stop ≤ start + 1 then Raw.ofNat stop
  else Raw.ofNat (start + 1) ++ ',' :: Raw.ofNat stop

/-- A change in the plain form. -/
def plainText (a b : List Raw) (change : Difference.Change) : Raw :=
  let old := part a change.start change.stop
  let new := part b change.start' change.stop'
  let letter := if old.isEmpty then 'a' else if new.isEmpty then 'd' else 'c'
  rangeText change.start change.stop ++ letter :: rangeText change.start' change.stop' ++ ['\n'] ++
    marked ['<', ' '] old ++ (if letter = 'c' then ['-', '-', '-', '\n'] else []) ++
    marked ['>', ' '] new

/-- Changes put together where fewer than so many unchanged lines lie between them. -/
def grouped (gap : Nat) : List Difference.Change → List (List Difference.Change)
  | [] => []
  | change :: rest =>
      match grouped gap rest with
      | (next :: more) :: groups =>
          if next.start ≤ change.stop + gap then (change :: next :: more) :: groups
          else [change] :: (next :: more) :: groups
      | groups => [change] :: groups

/-- Where the lines around a group of changes begin and end in both texts. -/
def surroundings (context : Nat) (a b : List Raw) (group : List Difference.Change) :
    Difference.Change :=
  let first := group.head?.getD ⟨0, 0, 0, 0⟩
  let last := group.getLast?.getD first
  let before := min context (min first.start first.start')
  let after := min context (min (a.length - last.stop) (b.length - last.stop'))
  ⟨first.start - before, last.stop + after, first.start' - before, last.stop' + after⟩

/-- The start and the length of a range. -/
def spanText (start stop : Nat) : Raw :=
  if stop = start + 1 then Raw.ofNat stop
  else Raw.ofNat (if start = stop then start else start + 1) ++ ',' :: Raw.ofNat (stop - start)

/-- The lines of a group one by one, from a line of the first text on. -/
def unifiedLines (a b : List Raw) (stop : Nat) : Nat → List Difference.Change → Raw
  | position, [] => marked [' '] (part a position stop)
  | position, change :: rest =>
      marked [' '] (part a position change.start) ++
        marked ['-'] (part a change.start change.stop) ++
        marked ['+'] (part b change.start' change.stop') ++ unifiedLines a b stop change.stop rest

def unifiedText (context : Nat) (a b : List Raw) (group : List Difference.Change) : Raw :=
  let around := surroundings context a b group
  Raw.ofText "@@ -" ++ spanText around.start around.stop ++ Raw.ofText " +" ++
    spanText around.start' around.stop' ++ Raw.ofText " @@\n" ++
    unifiedLines a b around.stop around.start group

/-- One of the versions of a group; `pick` gives the range of a change in it. -/
def versionLines (lines : List Raw) (mark : Char) (pick : Difference.Change → Nat × Nat × Bool)
    (stop : Nat) : Nat → List Difference.Change → Raw
  | position, [] => marked [' ', ' '] (part lines position stop)
  | position, change :: rest =>
      let (first, last, isBoth) := pick change
      marked [' ', ' '] (part lines position first) ++
        marked [if isBoth then '!' else mark, ' '] (part lines first last) ++
        versionLines lines mark pick stop last rest

def contextText (context : Nat) (a b : List Raw) (group : List Difference.Change) : Raw :=
  let around := surroundings context a b group
  let isBoth := fun (c : Difference.Change) => c.start < c.stop && c.start' < c.stop'
  let removes := group.any fun c => c.start < c.stop
  let adds := group.any fun c => c.start' < c.stop'
  Raw.ofText "***************\n*** " ++ rangeText around.start around.stop ++
    Raw.ofText " ****\n" ++
    (if removes then
      versionLines a '-' (fun c => (c.start, c.stop, isBoth c)) around.stop around.start group
    else []) ++
    Raw.ofText "--- " ++ rangeText around.start' around.stop' ++ Raw.ofText " ----\n" ++
    if adds then
      versionLines b '+' (fun c => (c.start', c.stop', isBoth c)) around.stop' around.start' group
    else []

/-- A side of a comparison. -/
structure Side where
  name : Raw
  text : Raw
  status : Option Status

/-- A line that names a side. -/
def headLine (mark format : String) (label : Option Raw) (side : Side) : Raw :=
  Raw.ofText mark ++ label.getD (side.name ++ '\t' ::
    (match side.status with
    | some status => Calendar.format status.seconds status.nanoseconds format.toList
    | none => Calendar.format 0 0 format.toList)) ++ ['\n']

/-- The differences of two texts, or nothing if there are none. -/
def differences (manner : Manner) (first second : Side) : Option Raw :=
  if first.text = second.text then none
  else
    let isBinary := fun (text : Raw) => text.contains '\x00'
    if !manner.asText && (isBinary first.text || isBinary second.text) then
      some (Raw.ofText "Binary files " ++ first.name ++ Raw.ofText " and " ++ second.name ++
        Raw.ofText " differ\n")
    else
      let a := Raw.wholeLines first.text
      let b := Raw.wholeLines second.text
      let (x, y) := numbered manner a b
      let isBlank := fun (line : Raw) => manner.dropsBlankLines && line = ['\n']
      let changes := (Difference.changes x y).filter fun c =>
        !((part a c.start c.stop).all isBlank && (part b c.start' c.stop').all isBlank)
      if changes.isEmpty then none
      else
        match manner.form with
        | .brief =>
            some (Raw.ofText "Files " ++ first.name ++ Raw.ofText " and " ++ second.name ++
              Raw.ofText " differ\n")
        | .plain => some (changes.flatMap (plainText a b))
        | .unified n =>
            let format := "%Y-%m-%d %H:%M:%S.%N %z"
            some (headLine "--- " format manner.labels[0]? first ++
              headLine "+++ " format manner.labels[1]? second ++
              (grouped (2 * n) changes).flatMap (unifiedText n a b))
        | .context n =>
            let format := "%a %b %e %H:%M:%S %Y"
            some (headLine "*** " format manner.labels[0]? first ++
              headLine "--- " format manner.labels[1]? second ++
              (grouped (2 * n) changes).flatMap (contextText n a b))

/-- A side that an operand names. -/
def side? (call : Call) (manner : Manner) (path : Raw) : Job (Except Fault Side) := do
  match ← call.readOperand path with
  | .ok text =>
      let status ← call.status (if path = ['-'] then "/dev/stdin".toList else path)
      return .ok ⟨path, text, status.toOption⟩
  | .error .notFound =>
      return if manner.newAsEmpty then .ok ⟨path, [], none⟩ else .error .notFound
  | .error fault => return .error fault

/-- Compares two files; `isInner` says that they were found in directories. -/
def files (call : Call) (manner : Manner) (isInner : Bool) (first second : Raw) : Job Nat := do
  match ← side? call manner first, ← side? call manner second with
  | .ok a, .ok b =>
      match differences manner a b with
      | none => do
          if manner.reportsSame then
            call.print (Raw.ofText "Files " ++ first ++ Raw.ofText " and " ++ second ++
              Raw.ofText " are identical\n")
          return 0
      | some text => do
          if isInner && manner.form != .brief then
            call.print (Raw.ofText "diff" ++ manner.given ++ ' ' :: first ++ ' ' :: second ++
              ['\n'])
          call.print text
          return 1
  | a, b => do
      for (path, side) in [(first, a), (second, b)] do
        if let .error fault := side then
          call.complain (path ++ Raw.ofText (": " ++ fault.text))
      return 2

def isDirectory (call : Call) (path : Raw) : Job Bool := do
  match ← call.status path with
  | .ok status => return path != ['-'] && status.isDirectory
  | .error _ => return false

/-- The names in a directory, in order. -/
def namesIn (path : Raw) : Job (List Raw) := do
  let machine := (← get).machine
  match machine.locate (Raw.toText path) with
  | .ok location => return ((machine.tree.namesIn location).map Raw.ofText).mergeSort Raw.precedes
  | .error _ => return []

/-- Compares what stands at two paths; `fuel` bounds how deep. -/
def paths (call : Call) (manner : Manner) : (fuel : Nat) → (isInner : Bool) → (first second : Raw) →
    Job Nat
  | 0, _, _, _ => return 2
  | fuel + 1, isInner, first, second => do
      match ← isDirectory call first, ← isDirectory call second with
      | false, false => files call manner isInner first second
      | true, false =>
          if (← call.status second).isOk then
            files call manner isInner (Names.inside first (Names.last second)) second
          else files call { manner with newAsEmpty := false } isInner second second
      | false, true =>
          if (← call.status first).isOk then
            files call manner isInner first (Names.inside second (Names.last first))
          else files call { manner with newAsEmpty := false } isInner first first
      | true, true =>
          if isInner && !manner.recursive then do
            call.print (Raw.ofText "Common subdirectories: " ++ first ++ Raw.ofText " and " ++
              second ++ ['\n'])
            return 0
          else do
            let a ← namesIn first
            let b ← namesIn second
            let all := (a ++ b).eraseDups.mergeSort Raw.precedes
            let only := fun (directory name : Raw) => do
              call.print (Raw.ofText "Only in " ++ directory ++ ':' :: ' ' :: name ++ ['\n'])
              return 1
            all.foldlM
              (fun (worst : Nat) name => do
                let status ←
                  if a.contains name && b.contains name || manner.newAsEmpty then
                    paths call manner fuel true (Names.inside first name) (Names.inside second name)
                  else if a.contains name then only first name
                  else only second name
                return max worst status)
              0

end Compare

/-- Complains about the arguments of a comparison. -/
def Call.refuseComparison (call : Call) (text : Raw) : Job Nat := do
  call.complain text
  call.complain (Raw.ofText "Try '" ++ call.name ++ Raw.ofText " --help' for more information.")
  return 2

/-- Shows how files differ. -/
def diff : Tool := fun call => do
  let description :=
    "u/ U/unified== c/ C/context== q/brief s/report-identical-files i/ignore-case " ++
      "b/ignore-space-change w/ignore-all-space B/ignore-blank-lines a/text r/recursive " ++
      "N/new-file L/label= /normal /color== E/ignore-tab-expansion Z/ignore-trailing-space " ++
      "d/minimal /strip-trailing-cr p/show-c-function t/expand-tabs T/initial-tab x/exclude= " ++
      "/speed-large-files"
  match Options.read description true call.args with
  | .error complaint => call.refuseComparison complaint
  | .ok options =>
      let has := options.has
      let count := fun (key : String) => ((options.value? key).bind Raw.nat?).getD 3
      let manner : Compare.Manner :=
        { form :=
            if has "brief" then .brief
            else if has "u" || has "unified" then .unified (count "unified")
            else if has "c" || has "context" then .context (count "context")
            else .plain
          foldsCase := has "ignore-case"
          foldsSpace := has "ignore-space-change" || has "ignore-trailing-space"
          dropsSpace := has "ignore-all-space", dropsBlankLines := has "ignore-blank-lines"
          asText := has "text", reportsSame := has "report-identical-files"
          newAsEmpty := has "new-file", recursive := has "recursive"
          labels := options.values "label"
          given := (call.args.filter fun arg => arg.head? = some '-' && arg != ['-']).flatMap
            (' ' :: ·) }
      match options.operands with
      | [first, second] => Compare.paths call manner 100 false first second
      | _ :: _ :: extra :: _ =>
          call.refuseComparison (Raw.ofText "extra operand " ++ Quote.always extra)
      | operands =>
          call.refuseComparison (Raw.ofText "missing operand after " ++
            Quote.always (operands.getLastD call.name))

/-! ## Bytes -/

namespace Compare

/-- A byte as it is shown beside its number. -/
def byteText (c : Char) : Raw :=
  let n := c.toNat
  let low := if n < 128 then n else n - 128
  (if n < 128 then [] else ['M', '-']) ++
    if low < 32 then ['^', Char.ofNat (low + 64)]
    else if low = 127 then ['^', '?']
    else [Char.ofNat low]

/-- A byte in octal digits. -/
def octal (c : Char) : Raw := Raw.padLeft ' ' 3 (Nat.toDigits 8 c.toNat)

/-- Where a text that is the start of the other one ends. -/
def endText (listing : Bool) (name text : Raw) : Raw :=
  Raw.ofText "EOF on " ++ name ++
    if text.isEmpty then Raw.ofText " which is empty"
    else
      let rows := text.count '\n'
      Raw.ofText s!" after byte {text.length}" ++
        if listing then []
        else if text.getLast? = some '\n' then Raw.ofText s!", line {rows}"
        else Raw.ofText s!", in line {rows + 1}"

end Compare

/-- Tells whether files are equal byte by byte, and where they are not. -/
def cmp : Tool := fun call => do
  match Options.read ("b/print-bytes i/ignore-initial= l/verbose n/bytes= s/quiet,silent") true
      call.args with
  | .error complaint => call.refuseComparison complaint
  | .ok options => do
      let quiet := options.has "quiet"
      let listing := options.has "verbose"
      let shows := options.has "print-bytes"
      match options.operands with
      | [] => call.refuseComparison (Raw.ofText "missing operand after " ++ Quote.always call.name)
      | first :: rest => do
          let second := rest.headD ['-']
          let skips := (options.value? "ignore-initial").getD []
          let given := (skips.splitOn ':').filterMap Raw.size?
          let skip := fun (i : Nat) =>
            ((rest[i + 1]?).bind Raw.size?).getD ((given[i]?).getD (given.headD 0))
          let limit := (options.value? "bytes").bind Raw.size?
          let cut := fun (i : Nat) (text : Raw) =>
            let text := text.drop (skip i)
            match limit with
            | some n => text.take n
            | none => text
          match ← call.readOperand first, ← call.readOperand second with
          | .error fault, _ => do
              unless quiet do call.complain (first ++ Raw.ofText (": " ++ fault.text))
              return 2
          | _, .error fault => do
              unless quiet do call.complain (second ++ Raw.ofText (": " ++ fault.text))
              return 2
          | .ok a, .ok b => do
              let a := cut 0 a
              let b := cut 1 b
              if a = b then return 0
              if quiet then return 1
              let differing := ((a.zip b).zipIdx).filter fun ((x, y), _) => x != y
              let shorter := if a.length < b.length then (first, a) else (second, b)
              if a.length != b.length && (listing || differing.isEmpty) then
                call.complain (Compare.endText listing shorter.1 shorter.2)
              if listing then
                let width := (Raw.ofNat (min a.length b.length)).length
                for ((x, y), i) in differing do
                  call.printLine (Raw.right width (i + 1) ++ ' ' :: Compare.octal x ++
                    (if shows then ' ' :: Raw.padRight 4 (Compare.byteText x) else []) ++
                    ' ' :: Compare.octal y ++ if shows then ' ' :: Compare.byteText y else [])
              else
                match differing.head? with
                | none => pure ()
                | some ((x, y), i) =>
                    let row := (a.take i).count '\n' + 1
                    let unit := if shows then "byte" else "char"
                    call.printLine (first ++ ' ' :: second ++
                      Raw.ofText s!" differ: {unit} {i + 1}, line {row}" ++
                      if shows then
                        Raw.ofText " is " ++ Compare.octal x ++ ' ' :: Compare.byteText x ++
                          ' ' :: Compare.octal y ++ ' ' :: Compare.byteText y
                      else [])
              return 1

end ShaderLiterals.Programs
