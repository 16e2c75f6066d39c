import ShaderLiterals.Programs.Regex.Read
import ShaderLiterals.Programs.Tool.Text

/-! # Showing text with marks and numbers -/

namespace ShaderLiterals.Programs

namespace Show

/-- A character in letters that can be seen; tabs are left alone. -/
def visible (c : Char) : Raw :=
  let low := fun (n : Nat) =>
    if n < 32 then ['^', Char.ofNat (n + 64)] else if n = 127 then ['^', '?'] else [Char.ofNat n]
  if c = '\t' then [c]
  else if c.toNat < 128 then low c.toNat
  else ['M', '-'] ++ low (c.toNat - 128)

/-- How the lines of a text are shown. -/
structure Style where
  numbersAll : Bool
  numbersFilled : Bool
  squeezes : Bool
  marksEnds : Bool
  marksTabs : Bool
  marksOthers : Bool

namespace Style

def isPlain (style : Style) : Bool :=
  !(style.numbersAll || style.numbersFilled || style.squeezes || style.marksEnds || style.marksTabs
    || style.marksOthers)

/-- The characters of a line, without the newline at its end. -/
def body (style : Style) (line : Raw) : Raw :=
  line.flatMap fun c =>
    if c = '\t' then if style.marksTabs then ['^', 'I'] else [c]
    else if style.marksOthers then visible c
    else [c]

/-- A line with its end, if it has one. -/
def line (style : Style) (line : Raw) : Raw :=
  if line.getLast? = some '\n' then
    let inner := line.dropLast
    let inner :=
      if style.marksEnds && !style.marksOthers && inner.getLast? = some '\r' then
        style.body inner.dropLast ++ ['^', 'M']
      else style.body inner
    inner ++ (if style.marksEnds then ['$', '\n'] else ['\n'])
  else style.body line

/-- Lines, numbered from `n` on; `empty` tells whether the line before was empty. -/
def lines (style : Style) (n : Nat) (empty : Bool) : List Raw → Raw
  | [] => []
  | line :: rest =>
      let isEmpty := line = ['\n']
      if style.squeezes && isEmpty && empty then style.lines n true rest
      else if style.numbersFilled && !isEmpty || style.numbersAll && !style.numbersFilled then
        Raw.right 6 n ++ '\t' :: style.line line ++ style.lines (n + 1) isEmpty rest
      else style.line line ++ style.lines n isEmpty rest

end Style

/-- The number of the file that a channel leads to, and how far the channel has come. -/
def filePlace (world : World) (handle : Nat) : Option (Nat × Nat) :=
  match world.channel? handle with
  | some ⟨.file id offset appends, _, _⟩ =>
      some (id, if appends then (world.machine.store.bytes id).length else offset)
  | _ => none

/-- Whether a text that is read would be written behind itself. -/
def feedsItself (world : World) (input output : Nat) : Bool :=
  match filePlace world input, filePlace world output with
  | some (a, start), some (b, stop) => a = b && start < stop
  | _, _ => false

end Show

/-- Prints its operands one after the other. -/
def cat : Tool := fun call =>
  call.withOptions ("A/show-all b/number-nonblank e/ E/show-ends n/number s/squeeze-blank t/ " ++
    "T/show-tabs u/ v/show-nonprinting") 1 fun options => do
  let style : Show.Style :=
    { numbersAll := options.has "number", numbersFilled := options.has "number-nonblank"
      squeezes := options.has "squeeze-blank"
      marksEnds := options.has "show-all" || options.has "e" || options.has "show-ends"
      marksTabs := options.has "show-all" || options.has "t" || options.has "show-tabs"
      marksOthers := options.has "show-all" || options.has "e" || options.has "t"
        || options.has "show-nonprinting" }
  let mut status := 0
  let mut gathered : List Raw := []
  for operand in if options.operands.isEmpty then [['-']] else options.operands do
    match ← call.openOperand operand with
    | .error fault =>
        call.complainPath operand fault
        status := 1
    | .ok handle =>
        if Show.feedsItself (← get) handle ((call.handle? 1).getD handle) then
          call.complain (Quote.ifNeeded operand ++ Raw.ofText ": input file is output file")
          status := 1
        else
          match ← World.takeAll handle with
          | .error fault =>
              call.complainPath operand fault
              status := 1
          | .ok text => if style.isPlain then call.print text else gathered := text :: gathered
  unless style.isPlain do
    call.print (style.lines 1 false (Raw.wholeLines gathered.reverse.flatten))
  return status

/-- Prints its operands with the last line first. -/
def tac : Tool := fun call =>
  call.withOptions "b/before r/regex s/separator=" 1 fun options => do
  let delimiter := (((options.value? "separator").getD ['\n']).head?).getD '\n'
  let mut status := 0
  for operand in if options.operands.isEmpty then [['-']] else options.operands do
    match ← call.openOperand operand with
    | .error fault =>
        call.complain (Raw.ofText "failed to open " ++ Quote.always operand ++
          Raw.ofText (" for reading: " ++ fault.text))
        status := 1
    | .ok handle =>
        match ← World.takeAll handle with
        | .error fault =>
            call.complain (Quote.ifNeeded operand ++ Raw.ofText (": read error: " ++ fault.text))
            status := 1
        | .ok text => call.print (Raw.wholeRecords delimiter text).reverse.flatten
  return status

/-- Prints each line of its operands backwards. -/
def rev : Tool := fun call =>
  call.withOptions "0/zero V/version h/help" 1 fun options => do
  let mut status := 0
  for operand in if options.operands.isEmpty then [['-']] else options.operands do
    match ← call.readOperand operand with
    | .error fault =>
        call.complain (Raw.ofText "cannot open " ++ operand ++ Raw.ofText (": " ++ fault.text))
        status := 1
    | .ok text =>
        call.print ((Raw.wholeLines text).flatMap fun line =>
          if line.getLast? = some '\n' then line.dropLast.reverse ++ ['\n'] else line.reverse)
  return status

/-! ## Numbers before lines -/

namespace Numbering

/-- Which lines get numbers. -/
inductive Choice where
  | all
  | filled
  | none
  | matching (pattern : Pattern)

def Choice.wants (line : Raw) : Choice → Bool
  | all => true
  | filled => !line.isEmpty
  | none => false
  | matching pattern => (pattern.on line).hasMatch

def Choice.ofRaw? : Raw → Option Choice
  | 'a' :: _ => some all
  | 't' :: _ => some filled
  | 'n' :: _ => some none
  | 'p' :: text =>
      match Regex.read .basic text with
      | .ok (pattern, _) => some (matching pattern)
      | .error _ => Option.none
  | _ => Option.none

structure Style where
  header : Choice
  body : Choice
  footer : Choice
  width : Nat
  separator : Raw
  start : Nat
  increment : Nat
  /-- How a number is put into its width. -/
  place : Raw → Raw
  /-- Whether numbers start again on each page. -/
  renumbers : Bool
  /-- The two characters that pages are divided by. -/
  delimiter : Raw
  /-- Of so many empty lines one gets a number. -/
  joined : Nat

/-- The lines of a text with numbers from `n` on; `empty` counts the empty lines just before. -/
def number (style : Style) (choice : Choice) (n empty : Nat) : List Raw → Raw
  | [] => []
  | line :: rest =>
      let newPage := if style.renumbers then style.start else n
      if line = style.delimiter ++ style.delimiter ++ style.delimiter then
        '\n' :: number style style.header newPage 0 rest
      else if line = style.delimiter ++ style.delimiter then
        '\n' :: number style style.body newPage 0 rest
      else if line = style.delimiter then '\n' :: number style style.footer newPage 0 rest
      else
        let isJoined := line.isEmpty && empty + 1 < style.joined
        if choice.wants line && !isJoined then
          style.place (Raw.ofNat n) ++ style.separator ++ line ++
            '\n' :: number style choice (n + style.increment) 0 rest
        else
          List.replicate (style.width + style.separator.length) ' ' ++ line ++
            '\n' :: number style choice n (if line.isEmpty then empty + 1 else 0) rest

end Numbering

/-- Prints its operands with numbers before the lines. -/
def nl : Tool := fun call =>
  call.withOptions ("b/body-numbering= d/section-delimiter= f/footer-numbering= " ++
    "h/header-numbering= i/line-increment= l/join-blank-lines= n/number-format= p/no-renumber " ++
    "s/number-separator= v/starting-line-number= w/number-width=") 1 fun options => do
  let choice := fun (key : String) (usual : Numbering.Choice) =>
    ((options.value? key).bind Numbering.Choice.ofRaw?).getD usual
  let count := fun (key : String) (usual : Nat) =>
    ((options.value? key).bind Raw.nat?).getD usual
  let width := count "number-width" 6
  let format := (options.value? "number-format").getD "rn".toList
  let delimiter := (options.value? "section-delimiter").getD ['\\', ':']
  let style : Numbering.Style :=
    { header := choice "header-numbering" .none, body := choice "body-numbering" .filled
      footer := choice "footer-numbering" .none, width := width
      separator := (options.value? "number-separator").getD ['\t']
      start := count "starting-line-number" 1, increment := count "line-increment" 1
      place := fun digits =>
        if format = "ln".toList then Raw.padRight width digits
        else Raw.padLeft (if format = "rz".toList then '0' else ' ') width digits
      renumbers := !options.has "no-renumber"
      delimiter := if delimiter.length = 1 then delimiter ++ [':'] else delimiter
      joined := count "join-blank-lines" 1 }
  let mut texts : List Raw := []
  let mut status := 0
  for operand in if options.operands.isEmpty then [['-']] else options.operands do
    match ← call.readOperand operand with
    | .ok text => texts := text :: texts
    | .error fault =>
        call.complainPath operand fault
        status := 1
  call.print (Numbering.number style style.body style.start 0 (Raw.lines texts.reverse.flatten))
  return status

/-! ## Columns -/

namespace Columns

/-- The column after a character. -/
def after (byBytes : Bool) (column : Nat) (c : Char) : Nat :=
  if byBytes then column + 1
  else if c = '\x08' then column - 1
  else if c = '\r' then 0
  else if c = '\t' then column + 8 - column % 8
  else column + 1

/-- The column after a text. -/
def afterAll (byBytes : Bool) (text : Raw) : Nat := text.foldl (after byBytes) 0

/-- Cuts a line without its newline into lines of a width.  The current piece is kept with its last
character first; each of at most `fuel` steps takes a character or ends a piece. -/
def fold (byBytes atBlanks : Bool) (width : Nat) : (fuel : Nat) → (piece : Raw) → Raw → Raw
  | 0, piece, rest => piece.reverse ++ rest
  | _, piece, [] => piece.reverse
  | fuel + 1, piece, c :: rest =>
      let column := after byBytes (afterAll byBytes piece.reverse) c
      if column ≤ width then fold byBytes atBlanks width fuel (c :: piece) rest
      else
        let tail := piece.takeWhile (!Raw.isBlank ·)
        if atBlanks && tail.length < piece.length then
          (piece.drop tail.length).reverse ++
            '\n' :: fold byBytes atBlanks width fuel tail (c :: rest)
        else if piece.isEmpty then fold byBytes atBlanks width fuel [c] rest
        else piece.reverse ++ '\n' :: fold byBytes atBlanks width fuel [] (c :: rest)

/-- Where tabs lead to. -/
inductive Stops where
  | every (n : Nat)
  | list (columns : List Nat)

/-- The next stop behind a column, if there is one. -/
def Stops.next? (column : Nat) : Stops → Option Nat
  | every n => some (column + n - column % n)
  | list columns => columns.find? (column < ·)

/-- The stops that an option lists. -/
def Stops.ofRaw? (text : Raw) : Option Stops :=
  let numbers := ((text.splitOnP fun c => c == ',' || c == ' ').filter (!·.isEmpty)).mapM Raw.nat?
  match numbers with
  | none | some [] => none
  | some [n] => if n = 0 then none else some (every n)
  | some columns => some (list columns)

/-- A line with blanks in place of tabs, from a column on; `convert` tells whether this goes on. -/
def expand (stops : Stops) (onlyInitial : Bool) : (column : Nat) → (convert : Bool) → Raw → Raw
  | _, _, [] => []
  | column, convert, c :: rest =>
      if c = '\t' && convert then
        let target := (stops.next? column).getD (column + 1)
        List.replicate (target - column) ' ' ++ expand stops onlyInitial target convert rest
      else if c = '\x08' then c :: expand stops onlyInitial (column - 1) convert rest
      else
        c :: expand stops onlyInitial (column + 1) (convert && (!onlyInitial || Raw.isBlank c)) rest

/-- How far the replacing of blanks by tabs has come. -/
structure Gathering where
  column : Nat
  converts : Bool
  /-- The blanks that were not written yet, the last one first. -/
  pending : Raw
  afterBlank : Bool
  /-- Whether a single blank stands just before a stop. -/
  oneBefore : Bool

/-- The text of the blanks that were not written, some of which may be a tab. -/
def Gathering.flush (g : Gathering) : Raw :=
  let pending := g.pending.reverse
  if 1 < pending.length && g.oneBefore then '\t' :: pending.drop 1 else pending

/-- A line with tabs in place of blanks. -/
def unexpand (stops : Stops) (everywhere : Bool) (g : Gathering) : Raw → Raw
  | [] => g.flush
  | c :: rest =>
      if !g.converts then c :: unexpand stops everywhere g rest
      else if c = '\t' || c = ' ' then
        match stops.next? g.column with
        | none =>
            g.flush ++ c ::
              unexpand stops everywhere { g with converts := false, pending := [] } rest
        | some target =>
            if c = ' ' && !(g.afterBlank && g.column + 1 = target) then
              unexpand stops everywhere
                { g with
                  column := g.column + 1, pending := c :: g.pending, afterBlank := true
                  oneBefore := g.oneBefore || g.column + 1 = target }
                rest
            else
              let kept := if g.oneBefore then ['\t'] else []
              kept ++ '\t' :: unexpand stops everywhere
                { g with
                  column := target, pending := [], afterBlank := true, oneBefore := false } rest
      else
        g.flush ++ c :: unexpand stops everywhere
          { column := if c = '\x08' then g.column - 1 else g.column + 1, converts := everywhere
            pending := [], afterBlank := false, oneBefore := false } rest

end Columns

/-- A tool that changes each line of its operands. -/
def lineTool (change : Raw → Raw) (call : Call) (operands : List Raw) : Job Nat :=
  call.forOperands operands fun _ text =>
    call.print ((Raw.wholeLines text).flatMap fun line =>
      if line.getLast? = some '\n' then change line.dropLast ++ ['\n'] else change line)

/-- Prints its operands with long lines cut. -/
def foldTool : Tool := fun call =>
  let spell := fun (arg : Raw) =>
    match arg with
    | '-' :: d :: rest => if d.isDigit then '-' :: 'w' :: d :: rest else arg
    | _ => arg
  let call := { call with args := call.args.map spell }
  call.withOptions "b/bytes s/spaces w/width=" 1 fun options => do
  let text := (options.value? "width").getD "80".toList
  match Raw.nat? text with
  | none | some 0 => call.refuse 1 (Raw.ofText "invalid number of columns: " ++ Quote.always text)
  | some width =>
      lineTool (fun line =>
        let fuel := 3 * line.length + 3
        Columns.fold (options.has "bytes") (options.has "spaces") width fuel [] line)
        call options.operands

/-- Prints its operands with blanks in place of tabs. -/
def expandTool : Tool := fun call =>
  call.withOptions "i/initial t/tabs=" 1 fun options => do
  let text := (options.value? "tabs").getD ['8']
  match Columns.Stops.ofRaw? text with
  | none =>
      call.refuse 1 (Raw.ofText "tab size contains invalid character(s): " ++ Quote.always text)
  | some stops =>
      lineTool (Columns.expand stops (options.has "initial") 0 true) call options.operands

/-- Prints its operands with tabs in place of blanks. -/
def unexpandTool : Tool := fun call =>
  call.withOptions "a/all t/tabs= /first-only" 1 fun options => do
  let text := (options.value? "tabs").getD ['8']
  let everywhere := (options.has "all" || options.has "tabs") && !options.has "first-only"
  match Columns.Stops.ofRaw? text with
  | none =>
      call.refuse 1 (Raw.ofText "tab size contains invalid character(s): " ++ Quote.always text)
  | some stops =>
      lineTool (Columns.unexpand stops everywhere ⟨0, true, [], true, false⟩) call options.operands

end ShaderLiterals.Programs
