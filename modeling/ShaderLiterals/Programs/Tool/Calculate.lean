import ShaderLiterals.Programs.Layout
import ShaderLiterals.Programs.Regex.Read
import ShaderLiterals.Programs.Tool.Text

/-! # Calculating with arguments -/

namespace ShaderLiterals.Programs

/-! ## Expressions -/

namespace Evaluation

/-- Where a reader stands: the arguments, and the number of the next one. -/
structure Reading where
  args : Array Raw
  place : Nat

/-- Reads and evaluates, or fails with a complaint. -/
abbrev Reader := StateT Reading (Except Raw)

def fail {α : Type} (text : String) : Reader α := throw (Raw.ofText text)

def peek? : Reader (Option Raw) := do
  let reading ← get
  return reading.args[reading.place]?

/-- The argument that was read last. -/
def last : Reader Raw := do
  let reading ← get
  return reading.args.getD (reading.place - 1) []

def advance : Reader Unit := modify fun reading => { reading with place := reading.place + 1 }

/-- Reads the next argument if it is one of some texts. -/
def accept? (texts : List String) : Reader (Option String) := do
  match ← peek? with
  | some arg =>
      match texts.find? fun text => text.toList = arg with
      | some text => do
          advance
          return some text
      | none => return none
  | none => return none

/-- Fails unless there is another argument. -/
def needMore : Reader Unit := do
  if (← peek?).isNone then
    throw (Raw.ofText "syntax error: missing argument after " ++ Quote.always (← last))

/-- The number that a value spells. -/
def number? : Raw → Option Int
  | '-' :: digits => if digits.isEmpty then none else (Raw.nat? digits).map fun n => -(n : Int)
  | digits => (Raw.nat? digits).map fun n => (n : Int)

/-- Whether a value counts as false. -/
def isNull : Raw → Bool
  | [] => true
  | '-' :: digits => !digits.isEmpty && digits.all (· == '0')
  | digits => digits.all (· == '0')

def ofInt (n : Int) : Raw := Raw.ofText (toString n)

def ofBool (value : Bool) : Raw := if value then ['1'] else ['0']

/-- What an expression matches at the start of a text. -/
def matchStart (text pattern : Raw) : Reader Raw := do
  match Regex.read .basic pattern with
  | .error complaint => throw (Raw.ofText complaint)
  | .ok (pattern, groups) =>
      let placed := (Pattern.on (.both (.here .lineStart) pattern) text)
      match placed.find? 0 with
      | none => return if groups = 0 then ['0'] else []
      | some m =>
          if groups = 0 then return Raw.ofNat (m.stop - m.start)
          else
            match m.group? 1 with
            | some (start, stop) => return placed.slice start stop
            | none => return []

/-- The place of the first character of a text that is one of others. -/
def indexOf (text others : Raw) : Nat :=
  let before := text.takeWhile fun c => !others.contains c
  if before.length < text.length then before.length + 1 else 0

/-- A part of a text. -/
def slice (text start length : Raw) : Raw :=
  match number? start, number? length with
  | some start, some length =>
      if 0 < start && 0 < length then (text.drop (start.toNat - 1)).take length.toNat else []
  | _, _ => []

def arithmetic (isNeeded : Bool) (operator : String) (a b : Raw) : Reader Raw := do
  if !isNeeded then return ['0']
  match number? a, number? b with
  | some a, some b =>
      match operator with
      | "+" => return ofInt (a + b)
      | "-" => return ofInt (a - b)
      | "*" => return ofInt (a * b)
      | operator =>
          if b = 0 then fail "division by zero"
          else return ofInt (if operator = "/" then a.tdiv b else a.tmod b)
  | _, _ => fail "non-integer argument"

def comparison (operator : String) (a b : Raw) : Raw :=
  let order :=
    match number? a, number? b with
    | some a, some b => compare a b
    | _, _ => if a = b then .eq else if Raw.precedes a b then .lt else .gt
  ofBool <|
    match operator with
    | "<" => order.isLT
    | "<=" => order.isLE
    | ">" => order.isGT
    | ">=" => order.isGE
    | "!=" => order.isNe
    | _ => order.isEq

/-- The operators on two values, those that bind less first. -/
def levels : List (List String) :=
  [["|"], ["&"], ["<", "<=", "=", "==", "!=", ">=", ">"], ["+", "-"], ["*", "/", "%"], [":"]]

/-- The value of an operator on two values. -/
def apply (isNeeded : Bool) (operator : String) (a b : Raw) : Reader Raw := do
  match operator with
  | "|" => return if !isNull a then a else if isNull b then ['0'] else b
  | "&" => return if isNull a || isNull b then ['0'] else a
  | ":" => if isNeeded then matchStart a b else return ['0']
  | operator =>
      if ["+", "-", "*", "/", "%"].contains operator then arithmetic isNeeded operator a b
      else return comparison operator a b

mutual

/-- Reads operators from a level on, and the values between them. -/
def readLevel : (fuel : Nat) → (isNeeded : Bool) → (level : List (List String)) → Reader Raw
  | 0, _, _ => fail "syntax error"
  | fuel + 1, isNeeded, [] => readCall fuel isNeeded
  | fuel + 1, isNeeded, operators :: above => do
      let first ← readLevel fuel isNeeded above
      readMore fuel isNeeded operators above first

/-- Reads further operators of one level. -/
def readMore : (fuel : Nat) → (isNeeded : Bool) → List String → List (List String) → Raw →
    Reader Raw
  | 0, _, _, _, _ => fail "syntax error"
  | fuel + 1, isNeeded, operators, above, value => do
      match ← accept? operators with
      | none => return value
      | some operator => do
          let skips := (operator = "|" && !isNull value) || (operator = "&" && isNull value)
          let other ← readLevel fuel (isNeeded && !skips) above
          readMore fuel isNeeded operators above (← apply isNeeded operator value other)

/-- Reads a function with its arguments, or a single value. -/
def readCall : (fuel : Nat) → (isNeeded : Bool) → Reader Raw
  | 0, _ => fail "syntax error"
  | fuel + 1, isNeeded => do
      match ← accept? ["+", "length", "match", "index", "substr", "("] with
      | some "+" => do
          needMore
          let value := (← peek?).getD []
          advance
          return value
      | some "length" => return Raw.ofNat (← readCall fuel isNeeded).length
      | some "match" => do
          let text ← readCall fuel isNeeded
          let pattern ← readCall fuel isNeeded
          if isNeeded then matchStart text pattern else return []
      | some "index" => do
          let text ← readCall fuel isNeeded
          return Raw.ofNat (indexOf text (← readCall fuel isNeeded))
      | some "substr" => do
          let text ← readCall fuel isNeeded
          let start ← readCall fuel isNeeded
          return slice text start (← readCall fuel isNeeded)
      | some _ => do
          let value ← readLevel fuel isNeeded levels
          match ← peek? with
          | some [')'] => do
              advance
              return value
          | some other =>
              throw (Raw.ofText "syntax error: expecting ')' instead of " ++ Quote.always other)
          | none =>
              throw (Raw.ofText "syntax error: expecting ')' after " ++ Quote.always (← last))
      | none => do
          needMore
          let value := (← peek?).getD []
          if value = [')'] then fail "syntax error: unexpected ')'"
          advance
          return value

end

/-- The value of the expression that arguments spell. -/
def evaluate (args : List Raw) : Except Raw Raw :=
  let reader : Reader Raw := do
    let value ← readLevel (20 * (args.length + 2)) true levels
    if let some extra ← peek? then
      throw (Raw.ofText "syntax error: unexpected argument " ++ Quote.always extra)
    return value
  (reader.run ⟨args.toArray, 0⟩).map Prod.fst

end Evaluation

/-- Evaluates an expression. -/
def expr : Tool := fun call => do
  let args := if call.args.head? = some ['-', '-'] then call.args.drop 1 else call.args
  if args.isEmpty then return ← call.refuseMissing 2
  match Evaluation.evaluate args with
  | .error complaint => call.refuse 2 complaint
  | .ok value => do
      call.printLine value
      return if Evaluation.isNull value then 1 else 0

/-! ## Sequences -/

namespace Sequence

/-- A decimal number with so many places. -/
structure Number where
  value : Int
  places : Nat

/-- The value in units of so many places. -/
def Number.scaled (number : Number) (places : Nat) : Int :=
  number.value * Nat.pow 10 (places - number.places)

/-- The number that a text spells; an end that is never reached is nothing. -/
def Number.ofText? (text : Raw) : Option (Option Number) :=
  let (negative, digits) :=
    match text with
    | '-' :: rest => (true, rest)
    | '+' :: rest => (false, rest)
    | rest => (false, rest)
  let signed := fun (n : Nat) => if negative then -(n : Int) else (n : Int)
  match digits with
  | '0' :: x :: hex =>
      if x = 'x' || x = 'X' then
        if hex.isEmpty then none else (Digits.number? 16 hex).map fun n => some ⟨signed n, 0⟩
      else decimal signed digits
  | digits =>
      if digits = "inf".toList || digits = "infinity".toList then some none
      else decimal signed digits
where
  decimal (signed : Nat → Int) (digits : Raw) : Option (Option Number) :=
    let whole := digits.takeWhile Char.isDigit
    let rest := digits.drop whole.length
    let places := if rest.head? = some '.' then (rest.drop 1).takeWhile Char.isDigit else []
    let rest := if rest.head? = some '.' then rest.drop (places.length + 1) else rest
    if whole.isEmpty && places.isEmpty then none
    else
      match Digits.number? 10 (whole ++ places), Decimal.read?.exponent rest with
      | some n, (e, []) =>
          let shift := e.toNat - places.length
          some (some ⟨signed n * Nat.pow 10 shift, (places.length - e).toNat⟩)
      | _, _ => none

/-- A value in units of so many places, written with them. -/
def shown (places : Nat) (value : Int) : Raw :=
  (if value < 0 then ['-'] else []) ++ Decimal.withPoint false places value.natAbs

/-- The values from one on, as long as they do not go beyond the last one; at most `fuel`
of them. -/
def values (step : Int) (last : Option Int) : (fuel : Nat) → Int → List Int
  | 0, _ => []
  | fuel + 1, value =>
      let isBeyond := last.any fun last => if 0 ≤ step then last < value else value < last
      if isBeyond then [] else value :: values step last fuel (value + step)

/-- A text filled up with zeros behind its sign. -/
def widened (width : Nat) (text : Raw) : Raw :=
  match text with
  | '-' :: digits => '-' :: Raw.padLeft '0' (width - 1) digits
  | digits => Raw.padLeft '0' width digits

/-- What is wrong with a format for numbers. -/
def formatComplaint? (format : Raw) : Option Raw :=
  let conversions := (FormatPiece.ofRaw ['L'] format).filterMap fun piece =>
    match piece with
    | .conversion _ _ _ letter _ => some letter
    | _ => none
  let of := fun (text : String) =>
    some (Raw.ofText "format " ++ Quote.always format ++ Raw.ofText text)
  match conversions with
  | [] => of " has no % directive"
  | [letter] =>
      if "aAeEfFgG".toList.contains letter then none
      else of s!" has unknown %{letter} directive"
  | _ => of " has too many % directives"

/-- A format filled with a number. -/
def formatted (format number : Raw) : Raw :=
  let x := ((Decimal.read? number).map Prod.fst).getD 0.0
  (FormatPiece.ofRaw ['L'] format).flatMap fun piece =>
    match piece with
    | .text text => text
    | .conversion layout width precision letter _ =>
        let measure := fun (m : Measure) =>
          match m with
          | .fixed n => n
          | .argument => none
        (layout.measured ((measure width).getD 0 : Nat) ((measure precision).map Int.ofNat)).float
          letter x
    | .unfinished text => text

/-- Whether an argument is a negative number. -/
def isNegative : Raw → Bool
  | '-' :: c :: _ => c.isDigit || c = '.'
  | _ => false

/-- How many values are printed at most. -/
def limit : Nat := 1000000

end Sequence

/-- Prints sequences of numbers. -/
def seq : Tool := fun call => do
  let front := call.args.takeWhile fun arg => !Sequence.isNegative arg
  let description := "f/format= s/separator= w/equal-width"
  match Options.read description false front with
  | .error complaint => call.refuseUsage 1 complaint
  | .ok options => do
      let operands := options.operands ++ call.args.drop front.length
      match operands with
      | [] => call.refuseMissing 1
      | _ :: _ :: _ :: extra :: _ => call.refuseExtra 1 extra
      | operands => do
          let read := operands.map fun text => (text, Sequence.Number.ofText? text)
          match read.find? fun entry => entry.2.isNone with
          | some (text, _) =>
              call.refuseUsage 1 (Raw.ofText
                (if text.map Char.toLower = "nan".toList then "invalid 'not-a-number' argument: "
                else "invalid floating point argument: ") ++ Quote.always text)
          | none => do
              let numbers := read.map fun entry => (entry.2.getD none)
              let one : Sequence.Number := ⟨1, 0⟩
              let first := if numbers.length = 1 then one else (numbers.headD none).getD one
              let step := if numbers.length = 3 then (numbers.getD 1 none).getD one else one
              let last := numbers.getLastD none
              if step.value = 0 then
                return ← call.refuseUsage 1 (Raw.ofText "invalid Zero increment value: " ++
                  Quote.always (operands.getD 1 []))
              if let some format := options.value? "format" then
                if let some complaint := Sequence.formatComplaint? format then
                  return ← call.refuse 1 complaint
              let places := max first.places step.places
              let all := max places ((last.map Sequence.Number.places).getD 0)
              let scale : Int := Nat.pow 10 (all - places)
              let values :=
                Sequence.values (step.scaled all) (last.map (·.scaled all)) Sequence.limit
                (first.scaled all)
              let texts := values.map fun value => Sequence.shown places (value / scale)
              let texts :=
                if options.has "equal-width" then
                  let ends := Sequence.shown places (first.scaled places) ::
                    (last.map fun n => Sequence.shown places (n.scaled all / scale)).toList
                  let width := (ends.map List.length).foldl max 0
                  texts.map (Sequence.widened width)
                else
                  match options.value? "format" with
                  | some format => texts.map (Sequence.formatted format)
                  | none => texts
              let separator := (options.value? "separator").getD ['\n']
              unless texts.isEmpty do call.print (separator.intercalate texts ++ ['\n'])
              return 0

/-! ## Factors -/

/-- The prime factors of a number from a candidate on; at most `fuel` candidates are tried. -/
def primeFactors : (fuel : Nat) → (candidate n : Nat) → List Nat
  | 0, _, n => if 1 < n then [n] else []
  | fuel + 1, candidate, n =>
      if n < candidate * candidate then if 1 < n then [n] else []
      else if n % candidate = 0 then candidate :: primeFactors fuel candidate (n / candidate)
      else primeFactors fuel (if candidate = 2 then 3 else candidate + 2) n

/-- Prints the prime factors of numbers. -/
def factor : Tool := fun call =>
  call.withOptions "h/exponents" 1 fun options => do
  let words ←
    if options.operands.isEmpty then do
      match ← call.takeAll 0 with
      | .ok text => pure (Raw.words text)
      | .error _ => pure []
    else pure options.operands
  let mut status := 0
  for word in words do
    match Raw.nat? (if word.head? = some '+' then word.drop 1 else word) with
    | some n =>
        call.printLine (Raw.ofNat n ++ ':' ::
          (primeFactors 10000000 2 n).flatMap fun p => ' ' :: Raw.ofNat p)
    | none => do
        call.complain (Quote.always word ++ Raw.ofText " is not a valid positive integer")
        status := 1
  return status

end ShaderLiterals.Programs
