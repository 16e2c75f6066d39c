import ShaderLiterals.Programs.Tool.Options

/-! # Text that tools work on -/

namespace ShaderLiterals.Programs

namespace Raw

/-- A text filled up on its left side. -/
def padLeft (c : Char) (width : Nat) (text : Raw) : Raw :=
  List.replicate (width - text.length) c ++ text

/-- A text filled up with blanks on its right side. -/
def padRight (width : Nat) (text : Raw) : Raw :=
  text ++ List.replicate (width - text.length) ' '

/-- A number filled up with blanks on its left side. -/
def right (width n : Nat) : Raw := padLeft ' ' width (ofNat n)

/-- The records of a text, with the delimiters that end them. -/
def wholeRecords (delimiter : Char) (text : Raw) : List Raw :=
  let pieces := text.splitOn delimiter
  pieces.dropLast.map (· ++ [delimiter]) ++ pieces.getLast?.toList.filter (!·.isEmpty)

/-- The lines of a text, with the newlines that end them. -/
def wholeLines (text : Raw) : List Raw := wholeRecords '\n' text

/-- The records of a text without the delimiters. -/
def records (delimiter : Char) (text : Raw) : List Raw :=
  let pieces := text.splitOn delimiter
  if pieces.getLast? = some [] then pieces.dropLast else pieces

/-- Records with a delimiter after each. -/
def joinRecords (delimiter : Char) (records : List Raw) : Raw :=
  records.flatMap (· ++ [delimiter])

/-- The unit that the letters after a number stand for. -/
def unit? : Raw → Option Nat
  | [] => some 1
  | ['b'] => some 512
  | ['c'] => some 1
  | ['w'] => some 2
  | ['k', 'B'] | ['K', 'B'] => some 1000
  | ['M', 'B'] => some 1000000
  | ['G', 'B'] => some 1000000000
  | ['k'] | ['K'] | ['K', 'i', 'B'] | ['k', 'i', 'B'] => some 1024
  | ['M'] | ['m'] | ['M', 'i', 'B'] => some 1048576
  | ['G'] | ['g'] | ['G', 'i', 'B'] => some 1073741824
  | _ => none

/-- The size that a number, perhaps with a unit, spells. -/
def size? (text : Raw) : Option Nat :=
  let digits := text.takeWhile Char.isDigit
  match nat? digits, unit? (text.drop digits.length) with
  | some n, some unit => some (n * unit)
  | none, some unit => if text.isEmpty then none else some unit
  | _, _ => none

/-- The characters of a text in pieces of one size; at most `fuel` of them. -/
def chunks (size : Nat) : (fuel : Nat) → Raw → List Raw
  | 0, _ | _, [] => []
  | fuel + 1, text => text.take size :: chunks size fuel (text.drop size)

end Raw

namespace Call

/-- Complains that an operand is missing. -/
def refuseMissing (call : Call) (status : Nat) : Job Nat :=
  call.refuseUsage status (Raw.ofText "missing operand")

/-- Complains about an operand that is not expected. -/
def refuseExtra (call : Call) (status : Nat) (operand : Raw) : Job Nat :=
  call.refuseUsage status (Raw.ofText "extra operand " ++ Quote.always operand)

end Call

end ShaderLiterals.Programs
