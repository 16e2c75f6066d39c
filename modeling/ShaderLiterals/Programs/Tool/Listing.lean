import ShaderLiterals.Programs.Calendar
import ShaderLiterals.Programs.Mode
import ShaderLiterals.Programs.Status
import ShaderLiterals.Programs.Tool.Names
import ShaderLiterals.Programs.Tool.Sort

/-! # What there is to know of files -/

namespace ShaderLiterals.Programs

open Files (Fault Location Node)

namespace Status

/-- The letter for what kind of thing a node is. -/
def kindLetter (status : Status) : Char :=
  match status.node with
  | .file _ => '-'
  | .directory => 'd'
  | .link _ => 'l'
  | .pipe _ => 'p'
  | .device _ => 'c'

/-- The words for what kind of thing a node is. -/
def kind (status : Status) : String :=
  match status.node with
  | .file _ => if status.size = 0 then "regular empty file" else "regular file"
  | .directory => "directory"
  | .link _ => "symbolic link"
  | .pipe _ => "fifo"
  | .device _ => "character special file"

/-- The bits for what kind of thing a node is. -/
def kindBits (status : Status) : Nat :=
  match status.node with
  | .file _ => 0o100000
  | .directory => 0o040000
  | .link _ => 0o120000
  | .pipe _ => 0o010000
  | .device _ => 0o020000

/-- The kind and the mode in letters. -/
def letters (status : Status) : Raw := status.kindLetter :: Mode.letters status.mode

/-- The number of the file on its disk. -/
def serial (status : Status) (machine : Machine) : Nat :=
  match status.node with
  | .file id | .pipe id => 2 * id + 1000001
  | _ =>
      let places := machine.tree.entries.map Prod.fst
      2 * (places.length - places.idxOf (status.location.getD [])) + 1000000

/-- How many blocks of 512 bytes the file takes. -/
def blocks (status : Status) : Nat :=
  match status.node with
  | .file _ | .directory => (status.size + 4095) / 4096 * 8
  | _ => 0

end Status

/-! ## Directories -/

namespace Listing

/-- How a listing looks. -/
structure Style where
  long : Bool
  /-- Whether names are put in rows of columns, and those filled row by row. -/
  columns : Bool
  across : Bool
  commas : Bool
  indicators : Bool
  slashes : Bool
  owner : Bool
  group : Bool
  numeric : Bool
  serials : Bool
  blocks : Bool
  human : Bool
  /-- The format of times, if it does not depend on how long ago they are. -/
  time : Option Raw
  quoted : Bool
  /-- Whether characters that cannot be seen, blanks and backslashes are written as escapes. -/
  escaped : Bool

/-- What is listed. -/
structure Entry where
  name : Raw
  status : Status

/-- A size with a unit, rounded up. -/
def humanSize (n : Nat) : Raw := go 4 n 1 ['K', 'M', 'G', 'T']
where
  go : (fuel : Nat) → Nat → Nat → List Char → Raw
    | 0, n, _, _ | _, n, _, [] => Raw.ofNat n
    | fuel + 1, n, unit, letter :: rest =>
        if n < 1024 * unit then Raw.ofNat n
        else
          let unit := unit * 1024
          let tenths := (n * 10 + unit - 1) / unit
          if tenths < 100 then Raw.ofNat (tenths / 10) ++ '.' :: Raw.ofNat (tenths % 10) ++ [letter]
          else if (n + unit - 1) / unit < 1024 || rest.isEmpty then
            Raw.ofNat ((n + unit - 1) / unit) ++ [letter]
          else go fuel n unit rest

def sizeText (style : Style) (n : Nat) : Raw := if style.human then humanSize n else Raw.ofNat n

/-- The mark behind a name for what kind of thing it is. -/
def indicator (style : Style) (status : Status) : Raw :=
  match status.node with
  | .directory => if style.indicators || style.slashes then ['/'] else []
  | .link _ => if style.indicators && !style.long then ['@'] else []
  | .pipe _ => if style.indicators then ['|'] else []
  | .file _ => if style.indicators && status.mode &&& 0o111 != 0 then ['*'] else []
  | .device _ => []

/-- A character of a name as it is written in a listing with escapes. -/
def escapeText (blanks : Bool) (c : Char) : Raw :=
  if c = '\\' || (blanks && c = ' ') then ['\\', c]
  else if Quote.isHidden c then Quote.escape c
  else [c]

/-- A name as it is shown. -/
def nameText (style : Style) (entry : Entry) : Raw :=
  let name :=
    if style.quoted then
      let escape := fun (c : Char) => if c = '"' then ['\\', c] else escapeText false c
      '"' :: entry.name.flatMap escape ++ ['"']
    else if style.escaped then entry.name.flatMap (escapeText true)
    else entry.name
  name ++ indicator style entry.status

/-- A time as it is shown. -/
def timeText (style : Style) (now : Int) (status : Status) : Raw :=
  let seconds := status.seconds
  let recent := now - 15778476 < seconds && seconds ≤ now
  let format := style.time.getD (if recent then "%b %e %H:%M" else "%b %e  %Y").toList
  Calendar.format seconds status.nanoseconds format

/-- The fields of a long line before the time. -/
def fields (style : Style) (machine : Machine) (entry : Entry) : List (Bool × Raw) :=
  let status := entry.status
  let who := if style.numeric then ['0'] else "root".toList
  let size :=
    match status.node with
    | .device _ => "1, 3".toList
    | _ => sizeText style status.size
  (if style.serials then [(true, Raw.ofNat (status.serial machine))] else []) ++
    (if style.blocks then [(true, Raw.ofNat (status.blocks / 2))] else []) ++
    if style.long then
      [(true, status.letters), (true, Raw.ofNat status.links)] ++
        (if style.owner then [(false, who)] else []) ++
        (if style.group then [(false, who)] else []) ++ [(true, size)]
    else []

/-- The lines of entries, their fields under each other. -/
def lines (style : Style) (machine : Machine) (entries : List Entry) : List Raw :=
  let rows := entries.map (fields style machine)
  let count := (rows.map List.length).foldl max 0
  let widths := (List.range count).map fun i =>
    (rows.map fun row => (row.getD i (true, [])).2.length).foldl max 0
  let now : Int := (machine.clock / 1000000000 : Nat)
  (entries.zip rows).map fun (entry, row) =>
    let shown := (row.zip widths).flatMap fun ((toRight, text), width) =>
      (if toRight then Raw.padLeft ' ' width text else Raw.padRight width text) ++ [' ']
    let name := nameText style entry
    if style.long then
      shown ++ timeText style now entry.status ++ ' ' :: name ++
        match entry.status.target? with
        | some target => Raw.ofText " -> " ++ target
        | none => []
    else shown ++ name

/-- Blanks and tabs from one column to another. -/
def gap : (fuel : Nat) → (start stop : Nat) → Raw
  | 0, _, _ => []
  | fuel + 1, start, stop =>
      if stop ≤ start then []
      else if (start + 1) / 8 < stop / 8 then '\t' :: gap fuel ((start / 8 + 1) * 8) stop
      else ' ' :: gap fuel (start + 1) stop

/-- How wide rows of columns may be. -/
def screenWidth : Nat := 80

/-- The names in so many columns: the place of the name in each column of each row, and the widths
of the columns. -/
def arrange (across : Bool) (names : Array Raw) (columns : Nat) : List (List Nat) × List Nat :=
  let rows := (names.size + columns - 1) / columns
  let place := fun (row column : Nat) =>
    if across then row * columns + column else column * rows + row
  let table := (List.range rows).map fun row =>
    ((List.range columns).map (place row)).filter (· < names.size)
  let widths := (List.range columns).map fun column =>
    (table.filterMap fun row => row[column]?).foldl
      (fun most i => max most (names[i]?.getD []).length) 0
  (table, widths)

/-- Rows of names in as many columns as there is room for. -/
def inColumns (across : Bool) (names : List Raw) : List Raw :=
  let array := names.toArray
  let fits := fun (columns : Nat) =>
    let widths := (arrange across array columns).2.filter (· != 0)
    widths.foldl (· + ·) 0 + 2 * (widths.length - 1) < screenWidth
  let columns := (((List.range (min names.length 27)).map (· + 1)).reverse.find? fits).getD 1
  let (table, widths) := arrange across array columns
  table.map fun row =>
    let step := fun (state : Raw × Nat × Nat) (pair : Nat × Nat) =>
      let (text, at_, start) := state
      let name := array[pair.1]?.getD []
      (text ++ gap (start - at_) at_ start ++ name, start + name.length, start + pair.2 + 2)
    ((row.zip widths).foldl step ([], 0, 0)).1

/-- Names between commas, in lines of the width of the screen. -/
def withCommas (names : List Raw) : List Raw :=
  let step := fun (state : List Raw × Raw) (name : Raw) =>
    let (done, line) := state
    if line.isEmpty then (done, name)
    else if line.length + name.length + 2 < screenWidth then
      (done, line ++ ',' :: ' ' :: name)
    else ((line ++ [',']) :: done, name)
  let (done, line) := names.foldl step ([], [])
  (if line.isEmpty then done else line :: done).reverse

/-- Entries as they are listed. -/
def shown (style : Style) (machine : Machine) (entries : List Entry) : Raw :=
  let all := lines style machine entries
  Raw.unlines <|
    if style.long then all
    else if style.commas then withCommas all
    else if style.columns then inColumns style.across all
    else all

/-! ### Order -/

/-- What entries are ordered by. -/
inductive Key where
  | name
  | time
  | size
  | ending
  | version
  | nothing

/-- What follows the last dot of a name. -/
def ending (name : Raw) : Raw :=
  if name.contains '.' then (name.reverse.takeWhile (· != '.')).reverse else []

/-- Whether one entry comes no later than another one. -/
def precedes (key : Key) (a b : Entry) : Bool :=
  let byName := Raw.precedes a.name b.name
  match key with
  | .name | .nothing => byName
  | .time => if a.status.time = b.status.time then byName else b.status.time < a.status.time
  | .size => if a.status.size = b.status.size then byName else b.status.size < a.status.size
  | .ending =>
      if ending a.name = ending b.name then byName else Raw.precedes (ending a.name) (ending b.name)
  | .version => (Sorting.compareVersions (a.name.length + b.name.length + 1) a.name b.name).isLE

def order (key : Key) (reversed directoriesFirst : Bool) (entries : List Entry) : List Entry :=
  let sorted :=
    match key with
    | .nothing => entries
    | key => entries.mergeSort (precedes key)
  let sorted := if reversed then sorted.reverse else sorted
  if directoriesFirst then
    sorted.filter (·.status.isDirectory) ++ sorted.filter fun e => !e.status.isDirectory
  else sorted

/-- How directories are gone through. -/
structure Plan where
  style : Style
  /-- Whether names that begin with a dot are shown, and those of the directory itself too. -/
  hidden : Bool
  everything : Bool
  noBackups : Bool
  follows : Bool
  recursive : Bool
  titled : Bool
  sorted : List Entry → List Entry

/-- Whether a name is shown. -/
def Plan.lists (plan : Plan) (name : Raw) : Bool :=
  (plan.everything || plan.hidden || name.head? != some '.') &&
    !(plan.noBackups && name.getLast? = some '~')

/-- What is known of the file at a path. -/
def Plan.status (plan : Plan) (call : Call) (path : Raw) : Job (Except Fault Status) :=
  if plan.follows then call.status path else World.statusOfLast path

/-- The entries of a directory. -/
def Plan.entries (plan : Plan) (call : Call) (path : Raw) (location : Location) :
    Job (List Entry) := do
  let machine := (← get).machine
  let own : List Entry :=
    if plan.everything then
      [⟨['.'], .ofNode machine (some location) .directory⟩,
        ⟨['.', '.'], .ofNode machine (some location.dropLast) .directory⟩]
    else []
  let mut found := own
  for name in (machine.tree.namesIn location).map Raw.ofText do
    if plan.lists name then
      if let .ok status ← plan.status call (Names.inside path name) then
        found := found ++ [⟨name, status⟩]
  return plan.sorted found

/-- Shows a directory, and those in it if that is wanted; `fuel` bounds how deep. -/
def showDirectory (plan : Plan) (call : Call) : (fuel : Nat) → (isFirst : Bool) → (path : Raw) →
    Job Unit
  | 0, _, _ => return
  | fuel + 1, isFirst, path => do
      let machine := (← get).machine
      match machine.locate (Raw.toText path) with
      | .error _ => return
      | .ok location => do
          let entries ← plan.entries call path location
          if plan.titled then
            call.print ((if isFirst then [] else ['\n']) ++ path ++ [':', '\n'])
          if plan.style.long || plan.style.blocks then
            let blocks := entries.foldl (fun n e => n + e.status.blocks) 0 / 2
            call.print (Raw.ofText "total " ++
              (if plan.style.human then humanSize (blocks * 1024) else Raw.ofNat blocks) ++ ['\n'])
          call.print (shown plan.style machine entries)
          if plan.recursive then
            for inner in entries do
              if inner.status.isDirectory && inner.name != ['.'] && inner.name != ['.', '.'] then
                showDirectory plan call fuel false (Names.inside path inner.name)

/-- How deep directories are shown. -/
def depth : Nat := 100

end Listing

open Listing in
/-- Lists directories and other operands. -/
def ls : Tool := fun call =>
  call.withOptions ("a/all A/almost-all l/ C/ x/ m/ 1/ d/directory F/classify== p/ R/recursive " ++
    "r/reverse t/ S/ X/ U/ f/ v/ h/human-readable n/numeric-uid-gid o/ g/ G/no-group i/inode " ++
    "s/size k/kibibytes c/ u/ Q/quote-name N/literal q/hide-control-chars b/escape " ++
    "L/dereference H/dereference-command-line B/ignore-backups I/ignore= w/width= T/tabsize= " ++
    "/color== /sort= /time= /time-style= /full-time /group-directories-first /format= " ++
    "/indicator-style= /file-type /si D/dired Z/context /quoting-style= /show-control-chars " ++
    "/author") 2 fun options => do
  let has := options.has
  let chosen := options.given.reverse.findSome? fun (g : Raw × Raw) =>
    match String.ofList g.1 with
    | "l" | "n" | "numeric-uid-gid" | "o" | "g" | "full-time" => some 'l'
    | "C" => some 'C'
    | "x" => some 'x'
    | "m" => some 'm'
    | "1" => some '1'
    | _ => none
  let isLong := has "l" || has "numeric-uid-gid" || has "o" || has "g" || has "full-time"
  let long := chosen = some 'l' || (chosen = some '1' && isLong)
  let timeStyle := (options.value? "time-style").map String.ofList
  let style : Style :=
    { long := long, columns := chosen = some 'C' || chosen = some 'x', across := chosen = some 'x'
      commas := chosen = some 'm', indicators := has "classify"
      slashes := has "p" || has "file-type"
      owner := !has "g", group := !(has "o" || has "no-group"), numeric := has "numeric-uid-gid"
      serials := has "inode", blocks := has "size", human := has "human-readable"
      time :=
        if has "full-time" || timeStyle = some "full-iso" then
          some "%Y-%m-%d %H:%M:%S.%N %z".toList
        else if timeStyle = some "long-iso" then some "%Y-%m-%d %H:%M".toList
        else if timeStyle = some "iso" then some "%m-%d %H:%M".toList
        else
          match timeStyle.map String.toList with
          | some ('+' :: format) => some format
          | _ => none
      quoted := has "quote-name", escaped := has "escape" }
  let key := (options.given.reverse.findSome? fun (g : Raw × Raw) =>
    match String.ofList g.1, String.ofList g.2 with
    | "t", _ | "sort", "time" => some Key.time
    | "S", _ | "sort", "size" => some .size
    | "X", _ | "sort", "extension" => some .ending
    | "v", _ | "sort", "version" => some .version
    | "U", _ | "f", _ | "sort", "none" => some .nothing
    | _, _ => none).getD .name
  let sorted := order key (has "reverse") (has "group-directories-first")
  let follows := has "dereference"
  let statusOf := fun (followed : Bool) (path : Raw) =>
    if followed then call.status path else World.statusOfLast path
  let operands := if options.operands.isEmpty then [['.']] else options.operands
  let mut status := 0
  let mut given : List Entry := []
  for operand in operands do
    let followsFirst := follows || has "dereference-command-line" ||
      !(long || has "directory" || has "classify")
    let found ←
      match ← statusOf followsFirst operand with
      | .error fault =>
          match ← World.statusOfLast operand with
          | .ok found => pure (.ok found)
          | .error _ => pure (.error fault)
      | found => pure found
    match found with
    | .error fault => do
        call.complainCannot "access" operand fault
        status := 2
    | .ok found => given := given ++ [⟨operand, found⟩]
  let isOpened := fun (e : Entry) => e.status.isDirectory && !has "directory"
  let files := sorted (given.filter fun e => !isOpened e)
  unless files.isEmpty do call.print (shown style (← get).machine files)
  let directories := sorted (given.filter isOpened)
  let plan : Plan :=
    { style, hidden := has "almost-all", everything := has "all" || has "f"
      noBackups := has "ignore-backups", follows, recursive := has "recursive"
      titled := 1 < operands.length || has "recursive", sorted }
  let mut isFirst := files.isEmpty
  for entry in directories do
    showDirectory plan call depth isFirst entry.name
    isFirst := false
  return status

/-- Lists directories in columns, with escapes in names. -/
def dir : Tool := fun call => ls { call with args := "-C".toList :: "-b".toList :: call.args }

/-- Lists directories at length, with escapes in names. -/
def vdir : Tool := fun call => ls { call with args := "-l".toList :: "-b".toList :: call.args }

/-! ## Single files -/

namespace Stat

/-- A time in full. -/
def timeText (status : Status) : Raw :=
  Calendar.format status.seconds status.nanoseconds "%Y-%m-%d %H:%M:%S.%N %z".toList

/-- The name of a file between quotes, with where it leads to if it is a link. -/
def quotedName (name : Raw) (status : Status) : Raw :=
  Quote.always name ++
    match status.target? with
    | some target => Raw.ofText " -> " ++ Quote.always target
    | none => []

/-- What a letter after a percent sign stands for. -/
def field (machine : Machine) (name : Raw) (status : Status) : Char → Option Raw
  | 'a' => some (Nat.toDigits 8 status.mode)
  | 'A' => some status.letters
  | 'b' => some (Raw.ofNat status.blocks)
  | 'B' => some (Raw.ofNat 512)
  | 'd' => some (Raw.ofNat 50)
  | 'D' => some (Raw.ofText "32")
  | 'f' => some (Nat.toDigits 16 (status.kindBits ||| status.mode))
  | 'F' => some (Raw.ofText status.kind)
  | 'g' | 'u' | 't' | 'T' | 'W' => some ['0']
  | 'G' | 'U' => some (Raw.ofText "root")
  | 'h' => some (Raw.ofNat status.links)
  | 'i' => some (Raw.ofNat (status.serial machine))
  | 'm' => some ['/']
  | 'n' => some name
  | 'N' => some (quotedName name status)
  | 'o' => some (Raw.ofNat 4096)
  | 's' => some (Raw.ofNat status.size)
  | 'w' => some ['-']
  | 'x' | 'y' | 'z' => some (timeText status)
  | 'X' | 'Y' | 'Z' => some (Raw.ofText (toString status.seconds))
  | _ => none

/-- A format filled in; `escapes` says whether backslashes have a meaning. -/
def format (machine : Machine) (name : Raw) (status : Status) (escapes : Bool) :
    (fuel : Nat) → Raw → Raw
  | 0, _ | _, [] => []
  | fuel + 1, '\\' :: c :: rest =>
      if escapes then
        ((Raw.control? c).getD c) :: format machine name status escapes fuel rest
      else '\\' :: format machine name status escapes fuel (c :: rest)
  | fuel + 1, '%' :: rest =>
      let isFlag := fun (c : Char) => "-+ #0'".toList.contains c
      let flags := rest.takeWhile isFlag
      let after := rest.drop flags.length
      let width := after.takeWhile Char.isDigit
      let after := after.drop width.length
      match after with
      | [] => '%' :: rest
      | '%' :: after => '%' :: format machine name status escapes fuel after
      | c :: after =>
          let text := (field machine name status c).getD ['?']
          let n := (Raw.nat? width).getD 0
          let padded :=
            if flags.contains '-' then Raw.padRight n text
            else Raw.padLeft (if flags.contains '0' then '0' else ' ') n text
          padded ++ format machine name status escapes fuel after
  | fuel + 1, c :: rest => c :: format machine name status escapes fuel rest

/-- All that is shown if nothing is asked for. -/
def whole (status : Status) : Raw :=
  let name := if status.target?.isSome then "%N" else "%n"
  let device := match status.node with
    | .device _ => "     Device type: 1,3"
    | _ => ""
  Raw.ofText <|
    s!"  File: {name}\n  Size: %-10s\tBlocks: %-10b IO Block: %-6o %F\n" ++
    s!"Device: 0,50\tInode: %-11i Links: %h{device}\n" ++
    "Access: (%04a/%A)  Uid: (%5u/%8U)   Gid: (%5g/%8G)\n" ++
    "Access: %x\nModify: %y\nChange: %z\n Birth: %w\n"

end Stat

/-- Shows what is known of its operands. -/
def stat : Tool := fun call =>
  call.withOptions "c/format= /printf= L/dereference f/file-system t/terse /cached=" 1
    fun options => do
  if options.operands.isEmpty then return ← call.refuseMissing 1
  let mut result := 0
  for operand in options.operands do
    let found ←
      if operand = ['-'] then call.status "/dev/stdin".toList
      else if options.has "dereference" then call.status operand
      else World.statusOfLast operand
    match found with
    | .error fault => do
        call.complainCannot "statx" operand fault
        result := 1
    | .ok status => do
        let machine := (← get).machine
        let (escapes, format) :=
          match options.value? "printf", options.value? "format" with
          | some text, _ => (true, text)
          | none, some text => (false, text ++ ['\n'])
          | none, none => (false, Stat.whole status)
        call.print (Stat.format machine operand status escapes (format.length + 1) format)
  return result

end ShaderLiterals.Programs
