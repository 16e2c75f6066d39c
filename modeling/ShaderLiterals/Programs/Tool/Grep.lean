import ShaderLiterals.Programs.Glob
import ShaderLiterals.Programs.Regex.Read
import ShaderLiterals.Programs.Status
import ShaderLiterals.Programs.Tool.Portion

/-! # Searching lines -/

namespace ShaderLiterals.Programs

open Files (Fault)

namespace Grep

/-- What is searched for, and what is shown of it. -/
structure Plan where
  pattern : Pattern
  inverted : Bool
  onlyMatches : Bool
  counts : Bool
  listsMatching : Bool
  listsOthers : Bool
  quiet : Bool
  silent : Bool
  numbers : Bool
  offsets : Bool
  names : Bool
  /-- Whether bytes that are no text are shown as they are. -/
  asText : Bool
  limit : Option Nat
  before : Nat
  after : Nat
  /-- Whether lines nearby were asked for, be it none. -/
  asksNearby : Bool
  delimiter : Char
  label : Raw
  /-- Whether files that hold bytes that are no text count as files without a match. -/
  skipsBinary : Bool
  /-- What stands after the name of a file, in lists and before lines. -/
  nameEnd : Option Char
  /-- Whether matches, names, numbers and the marks between them are coloured. -/
  colored : Bool

/-- A line with its number, the place of its first character, and its matches. -/
structure Line where
  number : Nat
  offset : Nat
  text : Raw
  isSelected : Bool

/-- The lines of a text. -/
def lines (plan : Plan) (number offset : Nat) : List Raw → List Line
  | [] => []
  | text :: rest =>
      ⟨number, offset, text, (plan.pattern.on text).hasMatch != plan.inverted⟩ ::
        lines plan (number + 1) (offset + text.length + 1) rest

/-- A text with the codes for a colour around it, if there is to be colour. -/
def paint (plan : Plan) (color : String) (text : Raw) : Raw :=
  if plan.colored then
    '\x1B' :: '[' :: color.toList ++ "m\x1B[K".toList ++ text ++ "\x1B[m\x1B[K".toList
  else text

def matchColor : String := "01;31"
def nameColor : String := "35"
def numberColor : String := "32"
def markColor : String := "36"

/-- The name of a file and the mark behind it. -/
def nameLead (plan : Plan) (name : Raw) (mark : Char) : Raw :=
  paint plan nameColor name ++
    match plan.nameEnd with
    | some c => [c]
    | none => paint plan markColor [mark]

/-- What stands before a shown text. -/
def lead (plan : Plan) (name : Raw) (mark : Char) (number offset : Nat) : Raw :=
  let numbered := fun (n : Nat) =>
    paint plan numberColor (Raw.ofNat n) ++ paint plan markColor [mark]
  (if plan.names then nameLead plan name mark else []) ++
    (if plan.numbers then numbered number else []) ++
    if plan.offsets then numbered offset else []

/-- The matches in a line. -/
def matchesIn (plan : Plan) (line : Line) : List Match :=
  ((plan.pattern.on line.text).findAll (line.text.length + 2) 0 none).filter fun m =>
    m.start != m.stop

/-- The text of a line with its matches in colour. -/
def painted (plan : Plan) (line : Line) : Raw :=
  if !plan.colored then line.text
  else
    let placed := plan.pattern.on line.text
    let (text, place) := (matchesIn plan line).foldl
      (fun (text, place) m =>
        (text ++ placed.slice place m.start ++ paint plan matchColor (placed.slice m.start m.stop),
          m.stop))
      (([] : Raw), 0)
    text ++ line.text.drop place

/-- A selected line as it is shown. -/
def shown (plan : Plan) (name : Raw) (line : Line) : Raw :=
  if plan.onlyMatches then
    if plan.inverted then []
    else
      (matchesIn plan line).flatMap fun m =>
        lead plan name ':' line.number (line.offset + m.start) ++
          paint plan matchColor ((plan.pattern.on line.text).slice m.start m.stop) ++
          [plan.delimiter]
  else lead plan name ':' line.number line.offset ++ painted plan line ++ [plan.delimiter]

/-- A line near a selected one as it is shown. -/
def nearby (plan : Plan) (name : Raw) (line : Line) : Raw :=
  if plan.onlyMatches then []
  else lead plan name '-' line.number line.offset ++ painted plan line ++ [plan.delimiter]

/-- Shows selected lines and those near them.  `held` are the lines before the next one that were
not shown, the last one first; `following` says how many lines after a selected one are left, and
`last` which line was shown last. -/
def showLines (plan : Plan) (name : Raw) (held : List Line) (following : Nat) (last : Option Nat) :
    List Line → Raw
  | [] => []
  | line :: rest =>
      if line.isSelected then
        let context := (held.take plan.before).reverse
        let first := (context.head?.getD line).number
        let gap := plan.asksNearby && last.any (· + 1 < first)
        (if gap && !plan.onlyMatches then paint plan markColor ['-', '-'] ++ ['\n'] else []) ++
          context.flatMap (nearby plan name) ++ shown plan name line ++
          showLines plan name [] plan.after (some line.number) rest
      else if 0 < following then
        nearby plan name line ++ showLines plan name [] (following - 1) (some line.number) rest
      else showLines plan name (line :: held) 0 last rest

/-- The lines up to the last one that counts, and those after it that may be near it. -/
def limited (limit : Nat) : List Line → List Line × List Line
  | [] => ([], [])
  | line :: rest =>
      if line.isSelected && limit ≤ 1 then ([line], rest)
      else
        let (front, back) := limited (if line.isSelected then limit - 1 else limit) rest
        (line :: front, back)

/-- Searches a text; tells whether something was selected, and how much of the text was used. -/
def searchText (plan : Plan) (call : Call) (name text : Raw) : Job (Bool × Nat) := do
  let all := lines plan 1 0 (Raw.records plan.delimiter text)
  let (front, back) :=
    match plan.limit with
    | some 0 => ([], all)
    | some n => limited n all
    | none => (all, [])
  let selected := front.filter Line.isSelected
  let found := !selected.isEmpty
  let used :=
    match back with
    | [] => text.length
    | line :: _ => line.offset
  if plan.quiet then return (found, used)
  let isBinary := !plan.asText && plan.delimiter = '\n' && text.contains '\x00'
  if isBinary && plan.skipsBinary then return (false, text.length)
  if plan.listsMatching || plan.listsOthers then
    if found = plan.listsMatching then
      call.print (paint plan nameColor name ++ [plan.nameEnd.getD '\n'])
  else if plan.counts then
    call.print ((if plan.names then nameLead plan name ':' else []) ++
      Raw.ofNat selected.length ++ ['\n'])
  else if isBinary && found then call.complain (name ++ Raw.ofText ": binary file matches")
  else
    let near := back.take plan.after |>.map ({ · with isSelected := false })
    call.print (showLines plan name [] 0 none (front ++ near))
  return (found, used)

/-- The files below a directory, with the paths that lead to them. -/
def below (machine : Machine) (accepts : Raw → Bool) : (fuel : Nat) → Raw → List Raw
  | 0, path => [path]
  | fuel + 1, path =>
      match machine.locate (Raw.toText path) with
      | .error _ => [path]
      | .ok location =>
          if machine.tree.get? location = some .directory then
            let names := ((machine.tree.namesIn location).map Raw.ofText).mergeSort Raw.precedes
            names.flatMap fun name =>
              let inner := if path.getLast? = some '/' then path ++ name else path ++ '/' :: name
              match machine.findLast (Raw.toText inner) with
              | .ok (_, .directory) => below machine accepts fuel inner
              | .ok (_, .file _) => if accepts name then [inner] else []
              | _ => []
          else [path]

/-- Searches operands one after the other; tells whether something was selected, and whether
something could not be read. -/
def searchAll (plan : Plan) (call : Call) : List Raw → Job (Bool × Bool)
  | [] => return (false, false)
  | operand :: rest => do
      let name := if operand = ['-'] then plan.label else operand
      let (found, failed) ←
        match ← call.openOperand operand with
        | .error fault => refuse name fault
        | .ok handle =>
            match (← get).rest handle with
            | .error fault => refuse name fault
            | .ok text => do
                let (found, used) ← searchText plan call name text
                if used < text.length then Portion.passUsed handle used text.length
                else World.skip handle text.length
                pure (found, false)
      if plan.quiet && found then return (true, false)
      let (more, failures) ← searchAll plan call rest
      return (found || more, failed || failures)
where
  refuse (name : Raw) (fault : Fault) : Job (Bool × Bool) := do
    unless plan.silent do call.complain (name ++ Raw.ofText (": " ++ fault.text))
    return (false, true)

/-- The ways to read patterns. -/
inductive Style where
  | basic
  | extended
  | fixed
  | rich
deriving DecidableEq

def Style.read (style : Style) (folded : Bool) (text : Raw) : Except String Pattern :=
  match style with
  | .fixed => .ok (Regex.literal folded text)
  | .basic => (Regex.read (.searching false folded) text).map Prod.fst
  | .extended => (Regex.read (.searching true folded) text).map Prod.fst
  | .rich => (Regex.read (.abbreviated folded) text).map Prod.fst

/-- What stands behind the first of some characters, but for so many at the start. -/
def after (count : Nat) (mark : Char) (text : Raw) : Raw :=
  ((text.drop count).dropWhile (· != mark)).drop 1

theorem length_after (count : Nat) (mark : Char) (text : Raw) :
    (after count mark text).length ≤ text.length := by
  have h := (List.dropWhile_sublist (l := text.drop count) (· != mark)).length_le
  simp only [after, List.length_drop] at h ⊢
  omega

/-- The repetitions at the start of an extended expression, or of a part of one, which have nothing
to repeat; `isStart` tells whether the text is such a start. -/
def vainRepetitions (isStart : Bool) : Raw → List String
  | [] => []
  | '\\' :: c :: rest => vainRepetitions (isStart && "\x60'<>bB".contains c) rest
  | '(' :: rest | '|' :: rest => vainRepetitions true rest
  | '^' :: rest | '$' :: rest => vainRepetitions isStart rest
  | '[' :: '^' :: rest => vainRepetitions false (after 1 ']' rest)
  | '[' :: rest => vainRepetitions false (after 1 ']' rest)
  | c :: rest =>
      if c = '*' || c = '+' || c = '?' then
        (if isStart then [String.singleton c] else []) ++ vainRepetitions isStart rest
      else if c = '\x7b' && (Regex.bounds? true rest).isSome then
        (if isStart then ["\x7b...\x7d"] else []) ++ vainRepetitions isStart (after 0 '\x7d' rest)
      else vainRepetitions false rest
termination_by text => text.length
decreasing_by
  all_goals
    have := length_after 1 ']' rest
    have := length_after 0 '\x7d' rest
    simp only [List.length_cons]
    omega

/-- The pattern that matches what one of several patterns does. -/
def union : List Pattern → Pattern
  | [] => .both (.here .lineStart) (.both (.here .lineEnd) (.one ⟨false, [], false⟩))
  | [p] => p
  | p :: rest => .either p (union rest)

def description : String :=
  "E/extended-regexp F/fixed-strings G/basic-regexp P/perl-regexp e/regexp= f/file= " ++
    "i/ignore-case y/ /no-ignore-case v/invert-match w/word-regexp x/line-regexp c/count " ++
    "/color,colour== L/files-without-match l/files-with-matches m/max-count= o/only-matching " ++
    "q/quiet,silent s/no-messages b/byte-offset H/with-filename h/no-filename /label= " ++
    "n/line-number T/initial-tab Z/null A/after-context= B/before-context= C/context= a/text " ++
    "/binary-files= D/devices= d/directories= I/ /exclude= /exclude-dir= /include= r/recursive " ++
    "R/dereference-recursive /line-buffered U/binary z/null-data u/"

/-- The style that the last option for one asks for. -/
def styleOf (options : Options) (usual : Style) : Style :=
  let asked := options.given.reverse.findSome? fun g =>
    [("extended-regexp", Style.extended), ("fixed-strings", .fixed), ("basic-regexp", .basic),
      ("perl-regexp", .rich)].findSome? fun entry =>
        if entry.1.toList = g.1 then some entry.2 else none
  asked.getD usual

/-- Arguments with a number after a hyphen in place of an option for lines nearby. -/
def spelledOut (args : List Raw) : List Raw :=
  args.map fun arg =>
    match arg with
    | '-' :: d :: rest => if (d :: rest).all Char.isDigit then '-' :: 'C' :: d :: rest else arg
    | _ => arg

/-- Tells how the arguments should be. -/
def refuseUsage (call : Call) : Job Nat := do
  call.warn (Raw.ofText ("Usage: grep [OPTION]... PATTERNS [FILE]...\n" ++
    "Try 'grep --help' for more information.\n"))
  return 2

/-- Searches with the options of a call, as the style of patterns is usual. -/
def run (usual : Style) : Tool := fun call =>
  match Options.read description true (spelledOut call.args) with
  | .error complaint => do
      call.complain complaint
      refuseUsage call
  | .ok options => do
  let given := options.values "regexp"
  let mut texts : List Raw := given
  for path in options.values "file" do
    match ← call.readOperand path with
    | .ok text => texts := texts ++ (if text.isEmpty then [] else
        [['\n'].intercalate (Raw.lines text)])
    | .error fault => return ← call.refuse 2 (path ++ Raw.ofText (": " ++ fault.text))
  let fromOptions := !given.isEmpty || options.has "file"
  let operands := if fromOptions then options.operands else options.operands.drop 1
  if !fromOptions && options.operands.isEmpty then return ← refuseUsage call
  if !fromOptions then texts := [options.operands.headD []]
  let style := styleOf options usual
  let folded := (options.has "ignore-case" || options.has "y") && !options.has "no-ignore-case"
  let mut patterns := []
  for text in texts.flatMap fun (text : Raw) => text.splitOn '\n' do
    match style.read folded text with
    | .ok pattern =>
        patterns := pattern :: patterns
        if style = .extended then
          for sign in vainRepetitions true text do
            call.complain (Raw.ofText s!"warning: {sign} at start of expression")
    | .error complaint => return ← call.refuse 2 (Raw.ofText complaint)
  let pattern := union patterns.reverse
  let pattern : Pattern :=
    if options.has "line-regexp" then .both (.here .lineStart) (.both pattern (.here .lineEnd))
    else if options.has "word-regexp" then
      .both (.here .noWordBefore) (.both pattern (.here .noWordAfter))
    else pattern
  let count := fun (key : String) => (options.value? key).bind Raw.nat?
  for key in ["after-context", "before-context", "context"] do
    if let some text := options.value? key then
      if (Raw.nat? text).isNone then
        return ← call.refuse 2 (text ++ Raw.ofText ": invalid context length argument")
  if let some text := options.value? "max-count" then
    if (Raw.int? text).isNone then return ← call.refuse 2 (Raw.ofText "invalid max count")
  let recursive := options.has "recursive" || options.has "dereference-recursive"
  let accepts := fun (name : Raw) =>
    let isMatch := fun (glob : Raw) => Glob.isMatch (Glob.ofMarked (glob.map (·, false))) name
    let included := options.values "include"
    (included.isEmpty || included.any isMatch) && !(options.values "exclude").any isMatch
  let machine := (← get).machine
  let files :=
    if recursive then
      if operands.isEmpty then (below machine accepts 50 ['.']).map (List.drop 2)
      else operands.flatMap fun operand =>
        if operand = ['-'] then [operand] else below machine accepts 50 operand
    else if operands.isEmpty then [['-']]
    else operands
  let nameOption := options.given.reverse.findSome? fun (g : Raw × Raw) =>
    if g.1 = "with-filename".toList then some true
    else if g.1 = "no-filename".toList then some false
    else none
  let plan : Plan :=
    { pattern := pattern
      inverted := options.has "invert-match", onlyMatches := options.has "only-matching"
      counts := options.has "count", listsMatching := options.has "files-with-matches"
      listsOthers := options.has "files-without-match", quiet := options.has "quiet"
      silent := options.has "no-messages", numbers := options.has "line-number"
      offsets := options.has "byte-offset"
      names := nameOption.getD (1 < operands.length || recursive)
      asText := options.has "text" || options.value? "binary-files" = some "text".toList
      limit := ((options.value? "max-count").bind Raw.int?).bind fun n =>
        if n < 0 then none else some n.toNat
      before := ((count "before-context").or (count "context")).getD 0
      after := ((count "after-context").or (count "context")).getD 0
      asksNearby := ["after-context", "before-context", "context"].any options.has
      delimiter := if options.has "null-data" then '\x00' else '\n'
      label := (options.value? "label").getD "(standard input)".toList
      skipsBinary := options.has "I" ||
        options.value? "binary-files" = some "without-match".toList
      nameEnd := if options.has "null" then some '\x00' else none
      colored := options.value? "color" = some "always".toList }
  let matchesNothing := texts.all (·.isEmpty) && plan.inverted && !options.has "line-regexp" &&
    !options.has "word-regexp"
  if (plan.limit = some 0 || matchesNothing) && !plan.listsOthers then return 1
  let (found, failed) ← searchAll plan call files
  return if failed then 2 else if found then 0 else 1

end Grep

/-- Prints the lines of its operands that a pattern matches. -/
def grep : Tool := Grep.run .basic

/-- Searches for extended expressions. -/
def egrep : Tool := fun call => Grep.run .extended { call with name := "grep".toList }

/-- Searches for texts. -/
def fgrep : Tool := fun call => Grep.run .fixed { call with name := "grep".toList }

end ShaderLiterals.Programs
