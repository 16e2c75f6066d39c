import ShaderLiterals.Programs.Decimal
import ShaderLiterals.Programs.Tool.Text

/-!
# Sorting lines

Lines are compared by keys, one after the other, and at last as a whole.  A key is a part of a line
between two places, each of them known by a field and a character in it.
-/

namespace ShaderLiterals.Programs

namespace Sorting

/-- How two texts are compared. -/
inductive Kind where
  | plain
  | number
  /-- Numbers with exponents. -/
  | general
  /-- Numbers with letters for thousands, millions and so on. -/
  | human
  | month
  | version
deriving DecidableEq

/-- How a key is compared. -/
structure Order where
  kind : Kind
  skipsStart : Bool
  skipsEnd : Bool
  onlyWords : Bool
  folded : Bool
  onlyPrinted : Bool
  reversed : Bool
deriving DecidableEq

def Order.plain : Order := ⟨.plain, false, false, false, false, false, false⟩

/-- The order after one more letter of an option; for a key it belongs to its start or its end. -/
def Order.letter? (order : Order) (atStart atEnd : Bool) : Char → Option Order
  | 'b' => some { order with
      skipsStart := order.skipsStart || atStart, skipsEnd := order.skipsEnd || atEnd }
  | 'd' => some { order with onlyWords := true }
  | 'f' => some { order with folded := true }
  | 'g' => some { order with kind := .general }
  | 'h' => some { order with kind := .human }
  | 'i' => some { order with onlyPrinted := true }
  | 'M' => some { order with kind := .month }
  | 'n' => some { order with kind := .number }
  | 'r' => some { order with reversed := true }
  | 'V' => some { order with kind := .version }
  | _ => none

structure Key where
  /-- The first field, counted from 0, and the first character in it. -/
  startField : Nat
  startChar : Nat
  /-- The last field, counted from 1, and its last character; 0 for all of it. -/
  finish : Option (Nat × Nat)
  order : Order

/-! ## Parts of lines -/

/-- How many characters the first fields of a text have, with what divides them. -/
def fieldsLength (delimiter : Option Char) : Nat → Raw → Nat
  | 0, _ => 0
  | n + 1, text =>
      let count :=
        match delimiter with
        | some c =>
            let field := text.takeWhile (· != c)
            min (field.length + 1) text.length
        | none =>
            let blanks := text.takeWhile Raw.isBlank
            blanks.length + ((text.drop blanks.length).takeWhile (!Raw.isBlank ·)).length
      count + fieldsLength delimiter n (text.drop count)

/-- Where a key starts in a line. -/
def Key.start (key : Key) (delimiter : Option Char) (line : Raw) : Nat :=
  let place := fieldsLength delimiter key.startField line
  let blanks := if key.order.skipsStart then ((line.drop place).takeWhile Raw.isBlank).length else 0
  min line.length (place + blanks + key.startChar)

/-- Where a key ends in a line. -/
def Key.stop (key : Key) (delimiter : Option Char) (line : Raw) : Nat :=
  match key.finish with
  | none => line.length
  | some (field, char) =>
      if char = 0 then
        let place := fieldsLength delimiter (field - 1) line
        let rest := line.drop place
        match delimiter with
        | some c => place + (rest.takeWhile (· != c)).length
        | none => place + fieldsLength none 1 rest
      else
        let place := fieldsLength delimiter (field - 1) line
        let blanks :=
          if key.order.skipsEnd then ((line.drop place).takeWhile Raw.isBlank).length else 0
        min line.length (place + blanks + char)

/-- The part of a line that a key stands for. -/
def Key.part (key : Key) (delimiter : Option Char) (line : Raw) : Raw :=
  let start := key.start delimiter line
  (line.drop start).take (key.stop delimiter line - start)

/-! ## Comparing -/

/-- The number that a text begins with: its sign, its digits, and how many of them are a
fraction. -/
def decimal (text : Raw) : Int × Nat :=
  let text := text.dropWhile Raw.isBlank
  let (negative, text) :=
    match text with
    | '-' :: rest => (true, rest)
    | _ => (false, text)
  let whole := text.takeWhile Char.isDigit
  let fraction :=
    match text.drop whole.length with
    | '.' :: rest => rest.takeWhile Char.isDigit
    | _ => []
  let n : Int := ((Raw.nat? (whole ++ fraction)).getD 0 : Nat)
  (if negative then -n else n, fraction.length)

def compareDecimals (a b : Int × Nat) : Ordering :=
  compare (a.1 * (Nat.pow 10 b.2 : Nat)) (b.1 * (Nat.pow 10 a.2 : Nat))

/-- The rank of the letter after a number. -/
def suffixRank (text : Raw) : Nat :=
  let text := text.dropWhile Raw.isBlank
  let rest := (text.dropWhile (· == '-')).dropWhile fun c => c.isDigit || c == '.'
  match rest with
  | c :: _ => (("KMGTPEZY".toList.idxOf? (if c = 'k' then 'K' else c)).map (· + 1)).getD 0
  | [] => 0

def compareHuman (a b : Raw) : Ordering :=
  let da := decimal a
  let db := decimal b
  let sign := fun (n : Int) => if n < 0 then (-1 : Int) else if n = 0 then 0 else 1
  let rank := fun (d : Int × Nat) (text : Raw) =>
    if d.1 = 0 then (0 : Int) else sign d.1 * (suffixRank text + 1 : Nat)
  match compare (rank da a) (rank db b) with
  | .eq => compareDecimals da db
  | order => order

/-- The number of the month that a text begins with the name of. -/
def month (text : Raw) : Nat :=
  let name := ((text.dropWhile Raw.isBlank).take 3).map Char.toUpper
  let names := ["JAN", "FEB", "MAR", "APR", "MAY", "JUN", "JUL", "AUG", "SEP", "OCT", "NOV", "DEC"]
  ((names.idxOf? (String.ofList name)).map (· + 1)).getD 0

def compareRaw (a b : Raw) : Ordering :=
  if a = b then .eq else if Raw.precedes a b then .lt else .gt

/-- The rank of a character of a version that is no digit. -/
def versionRank (c : Option Char) : Int :=
  match c with
  | none => 0
  | some '~' => -1
  | some c => if c.isDigit then 0 else if c.isAlpha then c.toNat else (c.toNat + 256 : Nat)

/-- Compares versions, where runs of digits count as numbers; `fuel` bounds the number of steps. -/
def compareVersions : (fuel : Nat) → Raw → Raw → Ordering
  | 0, _, _ => .eq
  | _, [], [] => .eq
  | fuel + 1, a, b =>
      let digitsA := a.takeWhile Char.isDigit
      let digitsB := b.takeWhile Char.isDigit
      if !digitsA.isEmpty && !digitsB.isEmpty then
        match compare ((Raw.nat? digitsA).getD 0) ((Raw.nat? digitsB).getD 0) with
        | .eq => compareVersions fuel (a.drop digitsA.length) (b.drop digitsB.length)
        | order => order
      else
        match compare (versionRank a.head?) (versionRank b.head?) with
        | .eq => compareVersions fuel a.tail b.tail
        | order => order

def compareFloats (a b : Raw) : Ordering :=
  let value := fun (text : Raw) => (Decimal.read? (text.dropWhile Raw.isSpace)).map Prod.fst
  match value a, value b with
  | none, none => .eq
  | none, some _ => .lt
  | some _, none => .gt
  | some x, some y => if x < y then .lt else if y < x then .gt else .eq

/-- Compares the parts of two lines. -/
def Order.compare (order : Order) (a b : Raw) : Ordering :=
  let clean := fun (text : Raw) =>
    let text := if order.onlyWords then text.filter fun c => Raw.isBlank c || c.isAlphanum else text
    let text := if order.onlyPrinted then text.filter fun c => ' ' ≤ c && c ≤ '~' else text
    if order.folded then text.map Char.toUpper else text
  let result :=
    match order.kind with
    | .plain => compareRaw (clean a) (clean b)
    | .number => compareDecimals (decimal a) (decimal b)
    | .general => compareFloats a b
    | .human => compareHuman a b
    | .month => Ord.compare (month a) (month b)
    | .version => compareVersions (a.length + b.length + 1) a b
  if order.reversed then result.swap else result

/-- How lines are sorted. -/
structure Plan where
  delimiter : Option Char
  keys : List Key
  order : Order
  /-- Whether lines that are equal in their keys are left as they come. -/
  stable : Bool

/-- Compares lines by keys. -/
def Plan.compareKeys (plan : Plan) (a b : Raw) : Ordering :=
  if plan.keys.isEmpty then plan.order.compare (trim a) (trim b)
  else
    (plan.keys.findSome? fun key =>
      match key.order.compare (key.part plan.delimiter a) (key.part plan.delimiter b) with
      | .eq => none
      | order => some order).getD .eq
where
  trim (text : Raw) : Raw :=
    if plan.order.skipsStart then text.dropWhile Raw.isBlank else text

/-- Compares lines. -/
def Plan.compare (plan : Plan) (a b : Raw) : Ordering :=
  match plan.compareKeys a b with
  | .eq =>
      if plan.stable then .eq
      else if plan.order.reversed then (compareRaw a b).swap
      else compareRaw a b
  | order => order

/-- Leaves out lines whose keys are equal to those of the line before. -/
def Plan.unique (plan : Plan) : List Raw → List Raw
  | a :: b :: rest =>
      if plan.compareKeys a b = .eq then
        match plan.unique (b :: rest) with
        | _ :: more => a :: more
        | [] => [a]
      else a :: plan.unique (b :: rest)
  | lines => lines

/-- The first line that is out of order, with its number. -/
def Plan.disorder? (plan : Plan) (strict : Bool) (n : Nat) : List Raw → Option (Nat × Raw)
  | a :: b :: rest =>
      let order := if strict then plan.compareKeys a b else plan.compare a b
      if order = .gt || (strict && order = .eq) then some (n + 1, b)
      else plan.disorder? strict (n + 1) (b :: rest)
  | _ => none

/-! ## Reading keys -/

/-- A place in a line as it is written: a field, a character, and letters of options. -/
def place? (text : Raw) : Option (Nat × Option Nat × Raw) :=
  let digits := text.takeWhile Char.isDigit
  match Raw.nat? digits, text.drop digits.length with
  | none, _ => none
  | some field, '.' :: rest =>
      let more := rest.takeWhile Char.isDigit
      (Raw.nat? more).map fun char => (field, some char, rest.drop more.length)
  | some field, rest => some (field, none, rest)

def letters (order : Order) (atStart atEnd : Bool) (text : Raw) : Option Order :=
  text.foldlM (fun order c => order.letter? atStart atEnd c) order

/-- The key that an option spells, where `usual` holds for a key without letters. -/
def key? (usual : Order) (text : Raw) : Option Key :=
  let first := text.takeWhile (· != ',')
  let second := text.drop (first.length + 1)
  match place? first with
  | none => none
  | some (field, char, options) =>
      if field = 0 || char = some 0 then none
      else
        match letters .plain true false options with
        | none => none
        | some order =>
            let build := fun (finish : Option (Nat × Nat)) (order : Order) =>
              { startField := field - 1, startChar := char.getD 1 - 1, finish := finish
                order := if order = .plain then usual else order : Key }
            if second.isEmpty then some (build none order)
            else
              match place? second with
              | none => none
              | some (lastField, lastChar, more) =>
                  (letters order false true more).map fun order =>
                    build (some (lastField, lastChar.getD 0)) order

/-- The order that options ask for all lines. -/
def orderOf (options : Options) : Order :=
  let names : List (String × Char) :=
    [("ignore-leading-blanks", 'b'), ("dictionary-order", 'd'), ("ignore-case", 'f'),
      ("general-numeric-sort", 'g'), ("human-numeric-sort", 'h'), ("ignore-nonprinting", 'i'),
      ("month-sort", 'M'), ("numeric-sort", 'n'), ("reverse", 'r'), ("version-sort", 'V')]
  let order := (names.filter fun entry => options.has entry.1).foldl
    (fun order entry => (order.letter? true true entry.2).getD order) Order.plain
  match options.value? "sort" with
  | some ('n' :: _) => { order with kind := .number }
  | some ('g' :: _) => { order with kind := .general }
  | some ('h' :: _) => { order with kind := .human }
  | some ('m' :: _) => { order with kind := .month }
  | some ('v' :: _) => { order with kind := .version }
  | _ => order

end Sorting

/-- Sorts the lines of its operands. -/
def sort : Tool := fun call =>
  call.withOptions ("b/ignore-leading-blanks d/dictionary-order f/ignore-case " ++
    "g/general-numeric-sort h/human-numeric-sort i/ignore-nonprinting M/month-sort " ++
    "n/numeric-sort R/random-sort r/reverse V/version-sort c/check== C/check-silent m/merge " ++
    "o/output= s/stable S/buffer-size= t/field-separator= T/temporary-directory= u/unique " ++
    "z/zero-terminated k/key= /sort= /parallel= /debug") 2 fun options => do
  let order := Sorting.orderOf options
  let ending := if options.has "zero-terminated" then '\x00' else '\n'
  let separator := options.value? "field-separator"
  match separator with
  | some [] => call.refuse 2 (Raw.ofText "empty tab")
  | some (a :: b :: rest) =>
      if a :: b :: rest = ['\\', '0'] then run options order ending (some '\x00') call
      else call.refuse 2 (Raw.ofText "multi-character tab " ++ Quote.always (a :: b :: rest))
  | some [c] => run options order ending (some c) call
  | none => run options order ending none call
where
  run (options : Options) (order : Sorting.Order) (ending : Char) (delimiter : Option Char) :
      Tool :=
    fun call => do
    let mut keys := []
    for text in options.values "key" do
      match Sorting.key? order text with
      | some key => keys := key :: keys
      | none =>
          if text.headD 'x' = '0' then
            return ← call.refuse 2
              (Raw.ofText "field number is zero: invalid field specification " ++ Quote.always text)
          return ← call.refuse 2 (Raw.ofText
            "invalid number at field start: invalid count at start of " ++ Quote.always text)
    let plan : Sorting.Plan :=
      { delimiter := delimiter, keys := keys.reverse, order := order
        stable := options.has "stable" || options.has "unique" }
    let mut lines := []
    for operand in if options.operands.isEmpty then [['-']] else options.operands do
      match ← call.openOperand operand with
      | .error fault =>
          return ← call.refuse 2 (Raw.ofText "cannot read: " ++ Quote.ifNeeded operand ++
            Raw.ofText (": " ++ fault.text))
      | .ok handle =>
          match ← World.takeAll handle with
          | .error fault =>
              return ← call.refuse 2 (Raw.ofText "read failed: " ++ Quote.ifNeeded operand ++
                Raw.ofText (": " ++ fault.text))
          | .ok text => lines := lines ++ Raw.records ending text
    let name := options.operands.headD ['-']
    if options.has "check" || options.has "check-silent" then
      match plan.disorder? (options.has "unique") 1 lines with
      | none => return 0
      | some (n, line) =>
          unless options.has "check-silent" ||
              ["quiet", "silent"].any fun word => options.value? "check" = some word.toList do
            call.complain (name ++ ':' :: Raw.ofNat n ++ Raw.ofText ": disorder: " ++ line)
          return 1
    let sorted := lines.mergeSort fun a b => plan.compare a b != .gt
    let sorted := if options.has "unique" then plan.unique sorted else sorted
    let text := Raw.joinRecords ending sorted
    match options.value? "output" with
    | none => call.print text
    | some path =>
        if let .error fault ← call.writeFile .write path text then
          return ← call.refuse 2 (Raw.ofText "open failed: " ++ Quote.ifNeeded path ++
            Raw.ofText (": " ++ fault.text))
    return 0

end ShaderLiterals.Programs
