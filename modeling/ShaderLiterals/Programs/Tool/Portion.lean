import ShaderLiterals.Programs.Tool.Text

/-! # The first and the last parts of texts -/

namespace ShaderLiterals.Programs

namespace Portion

/-- How large a portion is. -/
inductive Count where
  | lines (n : Nat)
  | bytes (n : Nat)

/-- Whether a count goes from the usual side, or is what is left out. -/
structure Size where
  count : Count
  /-- What is left out, for the first part; where it begins, for the last part. -/
  reversed : Bool

/-- An argument that is a number after a hyphen, as an option with its letter. -/
def spelledOut : Raw → Raw
  | '-' :: d :: rest =>
      let digits := (d :: rest).takeWhile Char.isDigit
      if digits.isEmpty then '-' :: d :: rest
      else
        match (d :: rest).drop digits.length with
        | [] => '-' :: 'n' :: digits
        | ['c'] => '-' :: 'c' :: digits
        | ['q'] => '-' :: 'q' :: 'n' :: digits
        | ['l'] => '-' :: 'n' :: digits
        | _ => '-' :: d :: rest
  | arg => arg

/-- The arguments, the first of which may be a number after a hyphen. -/
def withLetters : List Raw → List Raw
  | [] => []
  | arg :: rest => spelledOut arg :: rest

/-- The same where the first argument may also say from which line on a text is shown. -/
def withStart : List Raw → List Raw
  | ('+' :: digits) :: rest =>
      if (Raw.nat? digits).isSome && rest.length ≤ 1 then ('-' :: 'n' :: '+' :: digits) :: rest
      else ('+' :: digits) :: rest
  | args => withLetters args

/-- The size that the last option for one asks for. -/
def size? (options : Options) (reversing : Char) : Except Raw Size :=
  let given := options.given.reverse.find? fun g => g.1 = "lines".toList || g.1 = "bytes".toList
  match given with
  | none => .ok ⟨.lines 10, false⟩
  | some (key, value) =>
      let ofLines := key = "lines".toList
      let (reversed, digits) :=
        match value with
        | c :: rest =>
            if c = reversing then (true, rest)
            else if c = '-' && reversing = '+' then (false, rest)
            else if c = '+' && reversing = '-' then (false, rest)
            else (false, value)
        | [] => (false, [])
      match Raw.size? digits with
      | some n => .ok ⟨if ofLines then .lines n else .bytes n, reversed⟩
      | none =>
          .error (Raw.ofText (if ofLines then "invalid number of lines: "
            else "invalid number of bytes: ") ++ Quote.always (if reversed then digits else value))

/-- How many characters the first records of a text have. -/
def lengthOfRecords (delimiter : Char) : Nat → Raw → Nat
  | 0, _ => 0
  | n + 1, text =>
      let record := text.takeWhile (· != delimiter)
      if record.length < text.length then
        record.length + 1 + lengthOfRecords delimiter n (text.drop (record.length + 1))
      else text.length

/-- How many characters the first part of a text has. -/
def firstLength (delimiter : Char) (size : Size) (text : Raw) : Nat :=
  match size.count, size.reversed with
  | .bytes n, false => min n text.length
  | .bytes n, true => text.length - n
  | .lines n, false => lengthOfRecords delimiter n text
  | .lines n, true =>
      lengthOfRecords delimiter ((Raw.wholeRecords delimiter text).length - n) text

/-- How many characters stand before the last part of a text. -/
def lastStart (delimiter : Char) (size : Size) (text : Raw) : Nat :=
  match size.count, size.reversed with
  | .bytes n, false => text.length - n
  | .bytes n, true => min (n - 1) text.length
  | .lines n, false =>
      lengthOfRecords delimiter ((Raw.wholeRecords delimiter text).length - n) text
  | .lines n, true => lengthOfRecords delimiter (n - 1) text

/-- How much a reader takes of a pipe at once. -/
def blockSize : Nat := 8192

/-- Reads past the characters that were used.  Of a pipe whole blocks are gone. -/
def passUsed (handle used available : Nat) : Job Unit := do
  let exact := (← get).isSeekable handle
  let blocks := (used + blockSize - 1) / blockSize * blockSize
  World.skip handle (if exact then used else min blocks available)

/-- Shows the name of an operand above its part. -/
def header (call : Call) (isFirst : Bool) (operand : Raw) : Job Unit :=
  let name := if operand = ['-'] then Raw.ofText "standard input" else operand
  call.print ((if isFirst then [] else ['\n']) ++ Raw.ofText "==> " ++ name ++
    Raw.ofText " <==\n")

/-- Goes through operands with headers above their parts, if those are wanted. -/
def forAll (call : Call) (options : Options) (action : Raw → Nat → Job (Except Files.Fault Unit)) :
    Job Nat := do
  let operands := if options.operands.isEmpty then [['-']] else options.operands
  let shows := options.has "verbose" || (1 < operands.length && !options.has "quiet")
  let mut status := 0
  let mut isFirst := true
  for operand in operands do
    match ← call.openOperand operand with
    | .error fault =>
        call.complain (Raw.ofText "cannot open " ++ Quote.always operand ++
          Raw.ofText (" for reading: " ++ fault.text))
        status := 1
    | .ok handle =>
        if shows then header call isFirst operand
        isFirst := false
        if let .error fault ← action operand handle then
          let name := if operand = ['-'] then Raw.ofText "standard input" else operand
          call.complain (Raw.ofText "error reading " ++ Quote.always name ++
            Raw.ofText (": " ++ fault.text))
          status := 1
  return status

end Portion

/-- Prints the first lines or bytes of its operands. -/
def head : Tool := fun call =>
  { call with args := Portion.withLetters call.args }.withOptions
    "c/bytes= n/lines= q/quiet,silent v/verbose z/zero-terminated" 1 fun options => do
  match Portion.size? options '-' with
  | .error complaint => call.refuse 1 complaint
  | .ok size =>
      let delimiter := if options.has "zero-terminated" then '\x00' else '\n'
      Portion.forAll call options fun _ handle => do
        match size with
        | ⟨.bytes n, false⟩ => do
            match ← World.takeSome handle n with
            | .error fault => return .error fault
            | .ok text => do
                call.print text
                return .ok ()
        | size => do
            match (← get).rest handle with
            | .error fault => return .error fault
            | .ok text => do
                let used := Portion.firstLength delimiter size text
                Portion.passUsed handle used text.length
                call.print (text.take used)
                return .ok ()

/-- Prints the last lines or bytes of its operands. -/
def tail : Tool := fun call =>
  { call with args := Portion.withStart call.args }.withOptions
    ("c/bytes= n/lines= q/quiet,silent v/verbose z/zero-terminated f/follow== F/ " ++
      "s/sleep-interval= /pid= /retry") 1 fun options => do
  match Portion.size? options '+' with
  | .error complaint => call.refuse 1 complaint
  | .ok size =>
      let delimiter := if options.has "zero-terminated" then '\x00' else '\n'
      Portion.forAll call options fun _ handle => do
        match ← World.takeAll handle with
        | .error fault => return .error fault
        | .ok text => do
            call.print (text.drop (Portion.lastStart delimiter size text))
            return .ok ()

end ShaderLiterals.Programs
