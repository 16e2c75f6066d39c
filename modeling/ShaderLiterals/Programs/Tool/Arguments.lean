import ShaderLiterals.Programs.Tool.Start

/-! # Commands whose arguments are read from the input -/

namespace ShaderLiterals.Programs

open Files (Fault)

namespace Arguments

/-- A text of the input that becomes an argument, or a part of one. -/
structure Item where
  text : Raw
  /-- Whether a newline follows at once. -/
  endsLine : Bool

/-- What stands in the input. -/
structure Items where
  items : List Item
  /-- The kind of quote that is not closed, if there is one. -/
  open? : Option Char

def Items.add (item : Item) (rest : Items) : Items := { rest with items := item :: rest.items }

/-- Items between blanks, or between newlines if `wholeLines`; `item` holds what was read of one,
the last character first, if there is one. -/
def read (wholeLines : Bool) (quote : Option Char) (item : Option Raw) : Raw → Items
  | [] =>
      match quote, item with
      | some q, _ => ⟨[], some q⟩
      | none, some text => ⟨[⟨text.reverse, false⟩], none⟩
      | none, none => ⟨[], none⟩
  | '\\' :: c :: rest =>
      match quote with
      | none => read wholeLines none (some (c :: item.getD [])) rest
      | some _ => read wholeLines quote (some ('\\' :: item.getD [])) (c :: rest)
  | c :: rest =>
      match quote with
      | some q =>
          if c = '\n' then ⟨[], some q⟩
          else if c = q then read wholeLines none (some (item.getD [])) rest
          else read wholeLines quote (some (c :: item.getD [])) rest
      | none =>
          if c = '\'' || c = '"' then read wholeLines (some c) (some (item.getD [])) rest
          else
            match item with
            | some text =>
                if c = '\n' then (read wholeLines none none rest).add ⟨text.reverse, true⟩
                else if Raw.isSpace c && !wholeLines then
                  (read wholeLines none none rest).add ⟨text.reverse, false⟩
                else read wholeLines none (some (c :: text)) rest
            | none =>
                if Raw.isSpace c then read wholeLines none none rest
                else read wholeLines none (some [c]) rest
termination_by text => text.length

/-- The items up to one that marks the end. -/
def Items.upTo (mark : Option Raw) (all : Items) : Items :=
  match mark with
  | none => all
  | some mark =>
      let front := all.items.takeWhile (·.text != mark)
      if front.length < all.items.length then ⟨front, none⟩ else all

/-- What the arguments of one command may amount to. -/
structure Limits where
  /-- How many items, and how many lines of them. -/
  items : Option Nat
  lines : Option Nat
  /-- How many characters, each argument with one more. -/
  size : Nat

/-- How many items go into the next command, or `none` if not even one fits. -/
def count? (limits : Limits) (room : Nat) (lines taken : Nat) : List Item → Option Nat
  | [] => some taken
  | item :: rest =>
      if limits.items = some taken || limits.lines = some lines then some taken
      else if room < item.text.length + 1 then if taken = 0 then none else some taken
      else
        count? limits (room - item.text.length - 1) (if item.endsLine then lines + 1 else lines)
          (taken + 1) rest

/-- A text in which a mark was replaced by another text; at most `fuel` characters are looked
at. -/
def replaceAll (mark text : Raw) : (fuel : Nat) → Raw → Raw
  | 0, rest => rest
  | _, [] => []
  | fuel + 1, c :: rest =>
      match if mark.isEmpty then none else mark.isPrefixOf? (c :: rest) with
      | some rest => text ++ replaceAll mark text fuel rest
      | none => c :: replaceAll mark text fuel rest

/-- How commands are made and run. -/
structure Plan where
  name : Raw
  args : List Raw
  limits : Limits
  /-- What is replaced by an item, if the items are not just added. -/
  mark : Option Raw
  /-- Whether each command is shown. -/
  shows : Bool

/-- The status that a command leaves, and whether it is the last one. -/
inductive Next where
  | goOn (status : Nat)
  | stop (status : Nat)

/-- Runs one command. -/
def runOne (start : Starter) (call : Call) (plan : Plan) (args : List Raw) (status : Nat) :
    Job Next := do
  if plan.shows then
    call.warn ([' '].intercalate ((plan.name :: args).map Quote.ifNeeded) ++ ['\n'])
  match ← start { call with name := plan.name, args := args } with
  | .ok (.exited 0) => return .goOn status
  | .ok (.exited 255) => do
      call.complain (plan.name ++ Raw.ofText ": exited with status 255; aborting")
      return .stop 124
  | .ok (.exited _) => return .goOn 123
  | .ok (.killed signal) => do
      call.complain (plan.name ++ Raw.ofText s!": terminated by signal {signal}")
      return .stop 125
  | .error fault => do
      call.complain (plan.name ++ Raw.ofText (": " ++ fault.text))
      return .stop (startStatus fault)

/-- Runs a command for each item. -/
def runEach (start : Starter) (call : Call) (plan : Plan) (mark : Raw) (status : Nat) :
    List Item → Job Next
  | [] => return .goOn status
  | item :: rest => do
      let args := plan.args.map fun arg => replaceAll mark item.text arg.length arg
      match ← runOne start call plan args status with
      | .goOn status => runEach start call plan mark status rest
      | .stop status => return .stop status

/-- Runs commands until all items are used; at most `fuel` of them.  Not all items are there if the
input is at `fault`: those that a next command could still take are left. -/
def runGroups (start : Starter) (call : Call) (plan : Plan) (faulty : Bool) :
    (fuel : Nat) → (status : Nat) → List Item → Job Next
  | 0, status, _ | _, status, [] => return .goOn status
  | fuel + 1, status, items => do
      let fixed := (plan.name :: plan.args).foldl (fun n arg => n + arg.length + 1) 0
      let room := plan.limits.size - fixed
      match count? plan.limits room 0 0 items with
      | none => do
          call.complain (Raw.ofText "argument line too long")
          return .stop 1
      | some 0 => return .goOn status
      | some n => do
          let isWhole := plan.limits.items = some n ||
            plan.limits.lines = some ((items.take n).filter (·.endsLine)).length
          if faulty && n = items.length && !isWhole then return .goOn status
          let args := plan.args ++ (items.take n).map Item.text
          match ← runOne start call plan args status with
          | .goOn status => runGroups start call plan faulty fuel status (items.drop n)
          | .stop status => return .stop status

/-- The delimiter that a text stands for. -/
def delimiter? (text : Raw) : Except Raw Char :=
  match text with
  | [c] => .ok c
  | '\\' :: c :: rest =>
      match c, rest with
      | '0', [] => .ok '\x00'
      | 'b', [] => .ok '\x08'
      | '\\', [] => .ok '\\'
      | 'x', digits =>
          match Digits.number? 16 digits with
          | some n => .ok (Raw.byte n)
          | none => .error (wrong text)
      | c, rest =>
          match if rest.isEmpty then Raw.control? c else none, Digits.number? 8 (c :: rest) with
          | some c, _ => .ok c
          | none, some n => .ok (Raw.byte n)
          | none, none => .error (wrong text)
  | text =>
      .error (Raw.ofText "Invalid input delimiter specification " ++ text ++
        Raw.ofText (": the delimiter must be either a single character or an escape sequence " ++
          "starting with \\."))
where
  wrong (text : Raw) : Raw :=
    Raw.ofText "Invalid escape sequence " ++ text ++
      Raw.ofText " in input delimiter specification."

/-! ## Options -/

def description : String :=
  "0/null a/arg-file= d/delimiter= E/= e/eof== I/= i/replace== L/= l/max-lines== n/max-args= " ++
    "o/open-tty P/max-procs= p/interactive r/no-run-if-empty s/max-chars= t/verbose x/exit " ++
    "/show-limits /process-slot-var="

/-- What options that exclude each other ask for. -/
inductive Way where
  | all
  | replacing (mark : Raw)
  | byLines (count : Nat)
  | byItems (count : Nat)

/-- What an earlier way is called when a later one is to be used. -/
def Way.word? : Way → Option String
  | all => none
  | replacing _ => some "--replace"
  | byLines _ => some "--max-lines"
  | byItems _ => some "--max-args"

/-- The way that an option asks for, and how the option is called beside another one. -/
def Way.ofOption (given : Raw × Raw) : Option (Way × String) :=
  let number := (Raw.nat? given.2).getD 1
  match String.ofList given.1 with
  | "I" | "replace" =>
      some (.replacing (if given.2.isEmpty then ['\x7b', '\x7d'] else given.2), "--replace/-I/-i")
  | "L" => some (.byLines number, "-L")
  | "max-lines" => some (.byLines number, "--max-lines/-l")
  | "max-args" => some (.byItems number, "--max-args/-n")
  | _ => none

/-- The way that the last of some options asks for, and what is said of the earlier ones. -/
def Way.choose (given : List (Raw × Raw)) : Way × List String :=
  (given.filterMap Way.ofOption).foldl
    (fun (before, texts) (way, name) =>
      match before, way with
      | .replacing mark, .byItems 1 => (.replacing mark, texts)
      | _, _ =>
          match before.word? with
          | some word =>
              if some word = way.word? then (way, texts)
              else
                (way, texts ++ [s!"warning: options {word} and {name} are mutually exclusive, " ++
                  s!"ignoring previous {word} value"])
          | none => (way, texts))
    (.all, [])

/-- What is wrong with a number that an option has. -/
def numberFault? (given : Raw × Raw) : Option Raw :=
  let least? : Option (Char × Int) :=
    match String.ofList given.1 with
    | "L" => some ('L', 1)
    | "max-args" => some ('n', 1)
    | "max-chars" => some ('s', 1)
    | "max-procs" => some ('P', 0)
    | _ => none
  match least? with
  | none => none
  | some (letter, least) =>
      match Raw.int? given.2 with
      | none =>
          some (Raw.ofText "invalid number \"" ++ given.2 ++ Raw.ofText s!"\" for -{letter} option")
      | some n =>
          if n < least then
            some (Raw.ofText s!"value {n} for -{letter} option should be >= {least}")
          else none

/-- The most characters that the arguments of a command have if nothing else is said. -/
def usualSize : Nat := 131072

/-- The items of a text. -/
def itemsOf (options : Options) (way : Way) (delimiter : Option Char) (text : Raw) : Items :=
  match delimiter with
  | some c => ⟨(Raw.records c text).map (⟨·, true⟩), none⟩
  | none =>
      let isReplacing :=
        match way with
        | .replacing _ => true
        | _ => false
      let mark := ((options.value? "E").or (options.value? "eof")).filter (!·.isEmpty)
      (read isReplacing none none text).upTo mark

/-- The plan that options and operands make. -/
def planOf (options : Options) (way : Way) : Plan :=
  let (name, args) :=
    match options.operands with
    | [] => ("echo".toList, [])
    | name :: args => (name, args)
  let size := ((options.value? "max-chars").bind Raw.nat?).getD usualSize
  { name, args, shows := options.has "verbose"
    limits :=
      match way with
      | .byItems n => ⟨some n, none, size⟩
      | .byLines n => ⟨none, some n, size⟩
      | _ => ⟨none, none, size⟩
    mark :=
      match way with
      | .replacing mark => some mark
      | _ => none }

/-- Runs the commands that some items ask for, and says how they ended. -/
def runAll (start : Starter) (call : Call) (options : Options) (plan : Plan) (found : Items) :
    Job Nat := do
  let next ←
    match plan.mark with
    | some mark => runEach start call plan mark 0 found.items
    | none =>
        if found.items.isEmpty && found.open?.isNone && !options.has "no-run-if-empty" then
          runOne start call plan plan.args 0
        else runGroups start call plan found.open?.isSome (found.items.length + 1) 0 found.items
  match next, found.open? with
  | .stop status, _ | .goOn status, none => return status
  | .goOn _, some quote => do
      let kind := if quote = '"' then "double" else "single"
      call.refuse 1 (Raw.ofText s!"unmatched {kind} quote; by default quotes are special to " ++
        call.name ++ Raw.ofText " unless you use the -0 option")

end Arguments

/-- Runs commands with arguments that are read from the input. -/
def xargs (start : Starter) (call : Call) : Job Ending :=
  call.startWith Arguments.description 1 fun options => do
  if let some text := options.given.findSome? Arguments.numberFault? then
    return .exited (← call.refuseUsage 1 text)
  let (way, warnings) := Arguments.Way.choose options.given
  for text in warnings do call.complain (Raw.ofText text)
  let delimiter : Except Raw (Option Char) :=
    if options.has "null" then .ok (some '\x00')
    else
      match options.value? "delimiter" with
      | none => .ok none
      | some text => (Arguments.delimiter? text).map some
  match delimiter with
  | .error text => return .exited (← call.refuse 1 text)
  | .ok delimiter => do
      let source := options.value? "arg-file"
      let text ←
        match source with
        | none => call.takeAll 0
        | some path => call.readOperand path
      match text with
      | .error fault => do
          call.complain (Raw.ofText "Cannot open input file " ++ Quote.always (source.getD []) ++
            Raw.ofText (": " ++ fault.text))
          return .exited 1
      | .ok text => do
          let null ← World.push ⟨.device .null, true, false⟩
          let inner :=
            if source.isSome then call
            else { call with streams := (0, null) :: call.streams.filter (·.1 != 0) }
          if delimiter.isNone && text.contains '\x00' then
            call.complain (Raw.ofText <| "WARNING: a NUL character occurred in the input.  " ++
              "It cannot be passed through in the argument list.  " ++
              "Did you mean to use the --null option?")
          let found := Arguments.itemsOf options way delimiter text
          let found := { found with
            items := found.items.map fun item =>
              { item with text := item.text.takeWhile (· != '\x00') } }
          return .exited
            (← Arguments.runAll start inner options (Arguments.planOf options way) found)

end ShaderLiterals.Programs
