import ShaderLiterals.Programs.Tool.Text

/-! # Tools that work on records and their fields -/

namespace ShaderLiterals.Programs

/-- The contents of operands, the input if there are none, and whether all could be read. -/
def Call.gather (call : Call) (operands : List Raw) : Job (List (Raw × Raw) × Nat) := do
  let mut contents := []
  let mut status := 0
  for operand in if operands.isEmpty then [['-']] else operands do
    match ← call.readOperand operand with
    | .ok text => contents := (operand, text) :: contents
    | .error fault =>
        call.complainPath operand fault
        status := 1
  return (contents.reverse, status)

/-! ## Runs of equal records -/

namespace Uniq

/-- Which part of a record counts when records are compared. -/
structure Key where
  skippedFields : Nat
  skippedChars : Nat
  width : Option Nat
  folded : Bool

/-- A record without its first fields. -/
def skipFields : Nat → Raw → Raw
  | 0, text => text
  | n + 1, text => skipFields n ((text.dropWhile Raw.isBlank).dropWhile (!Raw.isBlank ·))

def Key.of (key : Key) (record : Raw) : Raw :=
  let text := (skipFields key.skippedFields record).drop key.skippedChars
  let text := (key.width.map text.take).getD text
  if key.folded then text.map Char.toUpper else text

/-- The runs of records with equal keys. -/
def runs (key : Key) : List Raw → List (List Raw)
  | [] => []
  | record :: rest =>
      match runs key rest with
      | (next :: more) :: others =>
          if key.of record = key.of next then (record :: next :: more) :: others
          else [record] :: (next :: more) :: others
      | others => [record] :: others

end Uniq

/-- Leaves out records that are equal to the one before. -/
def uniq : Tool := fun call =>
  call.withOptions ("c/count d/repeated D/all-repeated== f/skip-fields= i/ignore-case " ++
    "s/skip-chars= u/unique w/check-chars= z/zero-terminated /group==") 1 fun options => do
  let number := fun (key : String) => (options.value? key).bind Raw.nat?
  let key : Uniq.Key :=
    { skippedFields := (number "skip-fields").getD 0, skippedChars := (number "skip-chars").getD 0
      width := number "check-chars", folded := options.has "ignore-case" }
  let delimiter := if options.has "zero-terminated" then '\x00' else '\n'
  match options.operands.drop 2 with
  | extra :: _ => call.refuseExtra 1 extra
  | [] =>
  let operand := options.operands.headD ['-']
  match ← call.readOperand operand with
  | .error .isDirectory =>
      call.refuse 1 (Raw.ofText "error reading " ++ Quote.always operand ++
        Raw.ofText ": Is a directory")
  | .error fault => call.refuse 1 (Quote.ifNeeded operand ++ Raw.ofText (": " ++ fault.text))
  | .ok text => do
      let runs := Uniq.runs key (Raw.records delimiter text)
      let text := runs.flatMap fun run =>
        let isWanted :=
          if options.has "all-repeated" || options.has "repeated" then
            1 < run.length && !options.has "unique"
          else if options.has "unique" then run.length = 1
          else true
        if !isWanted then []
        else if options.has "all-repeated" || options.has "group" then
          Raw.joinRecords delimiter run
        else
          (if options.has "count" then Raw.right 7 run.length ++ [' '] else []) ++
            run.headD [] ++ [delimiter]
      let text :=
        if options.has "group" then
          [delimiter].intercalate (runs.map (Raw.joinRecords delimiter))
        else text
      match options.operands[1]? with
      | none | some ['-'] => call.print text
      | some path =>
          if let .error fault ← call.writeFile .write path text then
            call.complainPath path fault
      return 0

/-! ## Parts of records -/

namespace Cut

/-- A range of places, `none` standing for no end. -/
abbrev Span := Nat × Option Nat

/-- The range that a part of a list spells. -/
def span? (text : Raw) : Option Span :=
  let low := text.takeWhile (· != '-')
  let rest := text.drop low.length
  match rest, Raw.nat? low with
  | [], some n => if n = 0 then none else some (n, some n)
  | ['-'], some n => if n = 0 then none else some (n, none)
  | '-' :: high, first =>
      if low.isEmpty || first.isSome then
        match Raw.nat? high with
        | some n =>
            let first := first.getD 1
            if first = 0 || n < first then none else some (first, some n)
        | none => none
      else none
  | _, _ => none

/-- The parts of a list. -/
def parts (text : Raw) : List Raw := text.splitOnP fun c => c == ',' || Raw.isBlank c

def spans? (text : Raw) : Option (List Span) := (parts text).mapM span?

/-- What is said of a part of a list that is no range. -/
def partComplaint (byFields : Bool) (part : Raw) : String :=
  let low := Raw.nat? (part.takeWhile (· != '-'))
  if part = ['-'] then "invalid range with no endpoint: -"
  else if part.isEmpty || low = some 0 then
    if byFields then "fields are numbered from 1"
    else "byte/character positions are numbered from 1"
  else if part.count '-' < 2 then "invalid decreasing range"
  else if byFields then "invalid field range"
  else "invalid byte or character range"

/-- What is said of a list that does not spell ranges. -/
def complaint (byFields : Bool) (text : Raw) : Raw :=
  match text.dropWhile fun c => c.isDigit || c == ',' || c == '-' || Raw.isBlank c with
  | [] =>
      match (parts text).find? fun part => (span? part).isNone with
      | some part => Raw.ofText (partComplaint byFields part)
      | none => []
  | bad =>
      let what := if byFields then "field value" else "byte/character position"
      Raw.ofText s!"invalid {what} " ++
        Quote.always bad

def inSpans (spans : List Span) (complements : Bool) (place : Nat) : Bool :=
  (spans.any fun s => s.1 ≤ place && s.2.all (place ≤ ·)) != complements

/-- The ranges in order, those that touch or overlap put together. -/
def merged (spans : List Span) : List Span :=
  let sorted := spans.mergeSort fun a b => a.1 ≤ b.1
  sorted.foldr
    (fun s rest =>
      match rest with
      | next :: more =>
          match s.2 with
          | none => [s]
          | some high =>
              if next.1 ≤ high then
                (s.1, next.2.map (max high ·)) :: more
              else s :: next :: more
      | [] => [s])
    []

/-- The chosen characters of a record, with a separator before each range but the first. -/
def characters (spans : List Span) (complements : Bool) (separator : Raw) (record : Raw) : Raw :=
  if separator.isEmpty then
    (record.zipIdx.filter fun (_, i) => inSpans spans complements (i + 1)).map Prod.fst
  else
    let parts := (merged spans).map fun s =>
      let rest := record.drop (s.1 - 1)
      (s.2.map fun high => rest.take (high + 1 - s.1)).getD rest
    separator.intercalate (parts.filter (!·.isEmpty))

/-- The chosen fields of a record; a record without the delimiter counts as one that has no
fields. -/
def fields (spans : List Span) (complements onlyDelimited : Bool) (delimiter : Char)
    (separator : Raw) (record : Raw) : Option Raw :=
  if !record.contains delimiter then if onlyDelimited then none else some record
  else
    let all := (record.splitOn delimiter).zipIdx
    some (separator.intercalate
      ((all.filter fun (_, i) => inSpans spans complements (i + 1)).map Prod.fst))

end Cut

/-- Prints parts of each record of its operands. -/
def cut : Tool := fun call =>
  call.withOptions ("b/bytes= c/characters= d/delimiter= f/fields= n/ /complement " ++
    "s/only-delimited /output-delimiter= z/zero-terminated") 1 fun options => do
  let lists := ["bytes", "characters", "fields"].filterMap fun key =>
    (options.value? key).map (key, ·)
  let ending := if options.has "zero-terminated" then '\x00' else '\n'
  let complements := options.has "complement"
  match lists with
  | [] => call.refuseUsage 1 (Raw.ofText "you must specify a list of bytes, characters, or fields")
  | _ :: _ :: _ => call.refuseUsage 1 (Raw.ofText "only one list may be specified")
  | [(key, list)] =>
      let byFields := key = "fields"
      if !byFields && options.has "delimiter" then
        return ← call.refuseUsage 1
          (Raw.ofText "an input delimiter may be specified only when operating on fields")
      if !byFields && options.has "only-delimited" then
        return ← call.refuseUsage 1 (Raw.ofText ("suppressing non-delimited lines makes sense\n" ++
          "\tonly when operating on fields"))
      let delimiters := (options.value? "delimiter").getD ['\t']
      if 1 < delimiters.length then
        return ← call.refuseUsage 1 (Raw.ofText "the delimiter must be a single character")
      let delimiter := delimiters.headD '\x00'
      match Cut.spans? list with
      | none | some [] =>
          call.refuseUsage 1 (Cut.complaint byFields list)
      | some spans =>
          let separator := options.value? "output-delimiter"
          call.forOperands options.operands fun _ text =>
            call.print ((Raw.records ending text).flatMap fun record =>
              let found :=
                if byFields then
                  Cut.fields spans complements (options.has "only-delimited") delimiter
                    (separator.getD [delimiter]) record
                else some (Cut.characters spans complements (separator.getD []) record)
              match found with
              | some part => part ++ [ending]
              | none => [])

/-! ## Putting records together -/

namespace Paste

/-- The characters that a list of delimiters spells; none where there is to be none. -/
def delimiters : Raw → List (Option Char)
  | [] => []
  | '\\' :: c :: rest =>
      (match c with
        | 'n' => some '\n'
        | 't' => some '\t'
        | '0' => none
        | c => some c) :: delimiters rest
  | c :: rest => some c :: delimiters rest

/-- Texts with delimiters between them, which are used over and over. -/
def join (all : List (Option Char)) (texts : List Raw) : Raw :=
  (texts.zipIdx.map fun (text, i) =>
    let delimiter := if all.isEmpty then none else all[(i - 1) % all.length]?.getD none
    (if i = 0 then [] else delimiter.toList) ++ text).flatten

/-- The rows of columns, short columns filled up with empty records. -/
def rows (columns : List (List Raw)) : List (List Raw) :=
  let height := ((columns.map List.length).max?).getD 0
  (List.range height).map fun i => columns.map fun column => column.getD i []

/-- The records for each operand; operands that are the input share its records. -/
def share (inputs : Nat) (input : List Raw) : (seen : Nat) → List (Option (List Raw)) →
    List (List Raw)
  | _, [] => []
  | seen, some column :: rest => column :: share inputs input seen rest
  | seen, none :: rest =>
      let own := (input.zipIdx.filter fun (_, i) => i % inputs = seen).map Prod.fst
      own :: share inputs input (seen + 1) rest

end Paste

/-- Prints the records of its operands side by side. -/
def paste : Tool := fun call =>
  call.withOptions "d/delimiters= s/serial z/zero-terminated" 1 fun options => do
  let ending := if options.has "zero-terminated" then '\x00' else '\n'
  let delimiters := Paste.delimiters ((options.value? "delimiters").getD ['\t'])
  let operands := if options.operands.isEmpty then [['-']] else options.operands
  if options.has "serial" then
    call.forOperands operands fun _ text =>
      call.print (Paste.join delimiters (Raw.records ending text) ++ [ending])
  else
    let mut columns := []
    for operand in operands do
      if operand = ['-'] then columns := none :: columns
      else
        match ← call.readOperand operand with
        | .ok text => columns := some (Raw.records ending text) :: columns
        | .error fault =>
            call.complainPath operand fault
            return 1
    let inputs := (columns.filter (·.isNone)).length
    let input ←
      if inputs = 0 then pure []
      else do
        match ← call.takeAll 0 with
        | .ok text => pure (Raw.records ending text)
        | .error _ => pure []
    let rows := Paste.rows (Paste.share inputs input 0 columns.reverse)
    call.print (rows.flatMap fun row => Paste.join delimiters row ++ [ending])
    return 0

/-! ## Comparing sorted records -/

namespace Merge

/-- When records are to be in order. -/
inductive Demand where
  | never
  /-- As soon as a record has had no partner. -/
  | afterUnpaired
  | always
deriving DecidableEq

/-- What comes of comparing two lists. -/
inductive Event where
  /-- A record of the first list only, of the second one only, or of both. -/
  | record (column : Nat) (text : Raw)
  /-- A list is found not to be in order. -/
  | disorder (list : Nat)

/-- One of two lists of records, and how far it has been read. -/
structure Reading where
  /-- Which list it is: 1 or 2. -/
  list : Nat
  /-- The record before those that are left. -/
  last : Option Raw
  rest : List Raw
  /-- Whether it is known not to be in order. -/
  disordered : Bool

/-- Takes a record from a list and, if that is asked for, holds it against the one that follows; the
last record is held against the one before it. -/
def Reading.advance (reading : Reading) (checks : Bool) : Reading × List Event :=
  match reading.rest with
  | [] => (reading, [])
  | record :: rest =>
      let ordered :=
        match rest, reading.last with
        | next :: _, _ => Raw.precedes record next
        | [], some last => Raw.precedes last record
        | [], none => true
      let wrong := checks && !reading.disordered && !ordered
      ({ reading with
          last := some record, rest := rest, disordered := reading.disordered || wrong },
        if wrong then [.disorder reading.list] else [])

/-- The records of two lists side by side; `fuel` bounds their number. -/
def compare (demand : Demand) : (fuel : Nat) → (unpaired : Bool) → Reading → Reading → List Event
  | 0, _, _, _ => []
  | fuel + 1, unpaired, a, b =>
      let next? : Option (Nat × Raw) :=
        match a.rest, b.rest with
        | [], [] => none
        | x :: _, [] => some (1, x)
        | [], y :: _ => some (2, y)
        | x :: _, y :: _ =>
            some (if x = y then (3, x) else if Raw.precedes x y then (1, x) else (2, y))
      match next? with
      | none => []
      | some (column, text) =>
          let unpaired := unpaired || column != 3
          let checks := demand = .always || (demand = .afterUnpaired && unpaired)
          let (a, ofA) := if column = 2 then (a, []) else a.advance checks
          let (b, ofB) := if column = 1 then (b, []) else b.advance checks
          .record column text :: ofA ++ ofB ++ compare demand fuel unpaired a b

/-- What comes of comparing two lists from their start. -/
def events (demand : Demand) (a b : List Raw) : List Event :=
  compare demand (a.length + b.length + 1) false ⟨1, none, a, false⟩ ⟨2, none, b, false⟩

/-- How many records there are of a column. -/
def count (events : List Event) (column : Nat) : Nat :=
  events.countP fun
    | .record own _ => own = column
    | .disorder _ => false

end Merge

/-- Shows which records two sorted texts have in common. -/
def comm : Tool := fun call =>
  call.withOptions
    "1/ 2/ 3/ /check-order /nocheck-order /output-delimiter= /total z/zero-terminated"
    1 fun options => do
  match options.operands with
  | [] => call.refuseMissing 1
  | [only] => call.refuseUsage 1 (Raw.ofText "missing operand after " ++ Quote.always only)
  | _ :: _ :: extra :: _ => call.refuseExtra 1 extra
  | [first, second] => do
      let ending := if options.has "zero-terminated" then '\x00' else '\n'
      let separator := (options.value? "output-delimiter").getD ['\t']
      match ← call.readOperand first, ← call.readOperand second with
      | .error fault, _ => do
          call.complainPath first fault
          return 1
      | _, .error fault => do
          call.complainPath second fault
          return 1
      | .ok a, .ok b => do
          let a := Raw.records ending a
          let b := Raw.records ending b
          let hides := fun (n : Nat) => options.has (toString n)
          let demand : Merge.Demand :=
            if options.has "check-order" then .always
            else if options.has "nocheck-order" then .never
            else .afterUnpaired
          let events := Merge.events demand a b
          let mut disordered := false
          for event in events do
            match event with
            | .record column text =>
                unless hides column do
                  let before := ((List.range column).drop 1).filter fun n => !hides n
                  call.print ((before.flatMap fun _ => separator) ++ text ++ [ending])
            | .disorder list =>
                call.complain (Raw.ofText s!"file {list} is not in sorted order")
                if demand = .always then return 1
                disordered := true
          if options.has "total" then
            let count := fun (n : Nat) => Raw.ofNat (Merge.count events n)
            call.print (separator.intercalate [count 1, count 2, count 3, "total".toList] ++
              [ending])
          if disordered then
            call.complain (Raw.ofText "input is not in sorted order")
            return 1
          return 0

namespace Join

/-- The fields of a line. -/
def fields (delimiter : Option Char) (line : Raw) : List Raw :=
  match delimiter with
  | some c => line.splitOn c
  | none => (line.splitOnP Raw.isBlank).filter (!·.isEmpty)

/-- How lines of two texts are put together. -/
structure Style where
  first : Nat
  second : Nat
  delimiter : Option Char
  folded : Bool
  /-- What stands for a field that is not there. -/
  empty : Raw
  /-- The fields that are shown: of which text, or of both, and which. -/
  format : Option (List (Nat × Nat))

def Style.key (style : Style) (n : Nat) (line : List Raw) : Raw :=
  let text := line.getD ((if n = 1 then style.first else style.second) - 1) []
  if style.folded then text.map Char.toLower else text

/-- The line for fields of either text, or of both. -/
def Style.line (style : Style) (a b : Option (List Raw)) : Raw :=
  let separator := [style.delimiter.getD ' ']
  let field := fun (line : Option (List Raw)) (n : Nat) =>
    let text := (line.getD []).getD (n - 1) []
    if text.isEmpty then style.empty else text
  let key :=
    match a with
    | some line => field (some line) style.first
    | none => field b style.second
  let parts :=
    match style.format with
    | some format => format.map fun (text, n) =>
        if text = 0 then key else field (if text = 1 then a else b) n
    | none =>
        key :: ((a.getD []).eraseIdx (style.first - 1)) ++ (b.getD []).eraseIdx (style.second - 1)
  separator.intercalate parts ++ ['\n']

/-- The lines for two sorted texts; `shows` tells which lines without a partner, and whether those
with one, are wanted. -/
def merge (style : Style) (shows : Nat → Bool) : (fuel : Nat) → List (List Raw) → List (List Raw) →
    Raw
  | 0, _, _ => []
  | _, [], bs => if shows 2 then bs.flatMap fun b => style.line none (some b) else []
  | _, as, [] => if shows 1 then as.flatMap fun a => style.line (some a) none else []
  | fuel + 1, a :: as, b :: bs =>
      let ka := style.key 1 a
      let kb := style.key 2 b
      if ka = kb then
        let sameA := (a :: as).takeWhile fun line => style.key 1 line = ka
        let sameB := (b :: bs).takeWhile fun line => style.key 2 line = ka
        (if shows 0 then
            sameA.flatMap fun a => sameB.flatMap fun b => style.line (some a) (some b)
          else []) ++
          merge style shows fuel ((a :: as).drop sameA.length) ((b :: bs).drop sameB.length)
      else if Raw.precedes ka kb then
        (if shows 1 then style.line (some a) none else []) ++ merge style shows fuel as (b :: bs)
      else (if shows 2 then style.line none (some b) else []) ++ merge style shows fuel (a :: as) bs

/-- The fields that a format lists. -/
def format (text : Raw) : List (Nat × Nat) :=
  ((text.splitOnP fun c => c == ',' || c == ' ').filter (!·.isEmpty)).filterMap fun part =>
    match part.splitOn '.' with
    | [['0']] => some (0, 0)
    | [text, field] => (Raw.nat? text).bind fun t => (Raw.nat? field).map (t, ·)
    | _ => none

end Join

/-- Puts lines of two sorted texts together that have a field in common. -/
def join : Tool := fun call =>
  call.withOptions ("a/= e/= i/ignore-case j/= o/= t/= v/= 1/= 2/= /check-order /nocheck-order " ++
    "/header z/zero-terminated") 1 fun options => do
  match options.operands with
  | [] => call.refuseMissing 1
  | [only] => call.refuseUsage 1 (Raw.ofText "missing operand after " ++ Quote.always only)
  | _ :: _ :: extra :: _ => call.refuseExtra 1 extra
  | [first, second] => do
      let number := fun (key : String) => (options.value? key).bind Raw.nat?
      let both := number "j"
      let style : Join.Style :=
        { first := ((number "1").or both).getD 1, second := ((number "2").or both).getD 1
          delimiter := (options.value? "t").bind List.head?, folded := options.has "ignore-case"
          empty := (options.value? "e").getD [], format := (options.value? "o").map Join.format }
      match ← call.readOperand first, ← call.readOperand second with
      | .error fault, _ => do
          call.complainPath first fault
          return 1
      | _, .error fault => do
          call.complainPath second fault
          return 1
      | .ok a, .ok b => do
          let a := (Raw.lines a).map (Join.fields style.delimiter)
          let b := (Raw.lines b).map (Join.fields style.delimiter)
          let alone := options.values "v"
          let extra := alone ++ options.values "a"
          let shows := fun (n : Nat) =>
            if n = 0 then alone.isEmpty else extra.contains (Raw.ofNat n)
          call.print (Join.merge style shows (a.length + b.length + 1) a b)
          return 0

end ShaderLiterals.Programs
