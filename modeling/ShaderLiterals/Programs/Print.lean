import ShaderLiterals.Programs.Call
import ShaderLiterals.Programs.Layout

/-!
# Printing arguments

Text with escapes, and formats that are filled with arguments as often as there are arguments left.
-/

namespace ShaderLiterals.Programs.Print

/-! ## Escapes -/

/-- The control characters that have an escape of one letter. -/
def control? : Char → Option Char
  | '\\' => some '\\'
  | 'a' => some '\x07'
  | 'b' => some '\x08'
  | 'e' => some '\x1b'
  | 'f' => some '\x0C'
  | 'n' => some '\n'
  | 'r' => some '\r'
  | 't' => some '\t'
  | 'v' => some '\x0B'
  | _ => none

/-- The octal digits, at most so many, that a text begins with. -/
def octal (most : Nat) (text : Raw) : Raw :=
  (text.take most).takeWhile (Digits.isDigit 8)

def octalByte (digits : Raw) : Char :=
  Raw.byte ((Digits.number? 8 digits).getD 0)

/-- The characters of an escape after its first letter, and the character that it stands for. -/
def escape? (letter : Char) (rest : Raw) (zeroLeads : Bool) : Option (Raw × Char) :=
  match control? letter with
  | some c => some ([], c)
  | none =>
      if letter = '0' && zeroLeads then
        let digits := octal 3 rest
        some (digits, octalByte digits)
      else if Digits.isDigit 8 letter then
        let digits := octal 2 rest
        some (digits, octalByte (letter :: digits))
      else none

/-- Resolves the escapes in an argument, and tells whether `\c` ended the output. -/
def resolve : Raw → Raw × Bool
  | [] => ([], false)
  | '\\' :: 'c' :: _ => ([], true)
  | '\\' :: letter :: rest =>
      match escape? letter rest true with
      | some (digits, c) =>
          let more := resolve (rest.drop digits.length)
          (c :: more.1, more.2)
      | none =>
          let more := resolve rest
          ('\\' :: letter :: more.1, more.2)
  | c :: rest =>
      let more := resolve rest
      (c :: more.1, more.2)
termination_by text => text.length
decreasing_by all_goals simp; try omega

/-- Resolves the escapes in the text of a format. -/
def resolveFormat : Raw → Raw
  | [] => []
  | '\\' :: letter :: rest =>
      match escape? letter rest false with
      | some (digits, c) => c :: resolveFormat (rest.drop digits.length)
      | none =>
          if letter = '"' then '"' :: resolveFormat rest
          else '\\' :: resolveFormat (letter :: rest)
  | c :: rest => c :: resolveFormat rest
termination_by text => text.length
decreasing_by all_goals simp; try omega

/-- A text of arguments with blanks between them, escapes resolved, and the end of the line. -/
def echoText (args : List Raw) : Raw :=
  let (newline, args) :=
    match args with
    | ['-', 'n'] :: rest => (false, rest)
    | _ => (true, args)
  let (text, stopped) := resolve ([' '].intercalate args)
  if newline && !stopped then text ++ ['\n'] else text

/-! ## Numbers -/

/-- What a number lacks that an argument should spell. -/
inductive Lack where
  | nothing
  /-- There is no number at all. -/
  | number
  /-- Something follows the number. -/
  | finish
  | range
deriving DecidableEq

/-- The number that a text begins with, in base ten, eight or sixteen, and what follows. -/
def natural? (text : Raw) : Option (Nat × Raw) :=
  let read := fun (base : Nat) (text : Raw) =>
    let digits := text.takeWhile (Digits.isDigit base)
    ((Digits.number? base digits).getD 0, text.drop digits.length)
  match text with
  | '0' :: 'x' :: d :: rest | '0' :: 'X' :: d :: rest =>
      if Digits.isDigit 16 d then some (read 16 (d :: rest)) else some (0, text.drop 1)
  | '0' :: _ => some (read 8 text)
  | d :: _ => if d.isDigit then some (read 10 text) else none
  | [] => none

/-- The number that an argument spells. -/
def integer (signed : Bool) (text : Raw) : Int × Lack :=
  match text with
  | '\'' :: c :: _ | '"' :: c :: _ => (c.toNat, .nothing)
  | _ =>
      let text' := text.dropWhile fun c => c == ' ' || ('\t' ≤ c && c ≤ '\r')
      let (negative, digits) :=
        match text' with
        | '-' :: rest => (true, rest)
        | '+' :: rest => (false, rest)
        | _ => (false, text')
      match natural? digits with
      | none => (0, if text.isEmpty then .nothing else .number)
      | some (n, rest) =>
          let limit : Nat :=
            if !signed then 18446744073709551615
            else if negative then 9223372036854775808 else 9223372036854775807
          let value : Int := if negative then -(min n limit : Nat) else (min n limit : Nat)
          (value, if !rest.isEmpty then .finish else if limit < n then .range else .nothing)

/-- The floating point number that an argument spells. -/
def float (text : Raw) : Float × Lack :=
  match text with
  | '\'' :: c :: _ | '"' :: c :: _ => (Float.ofNat c.toNat, .nothing)
  | _ =>
      match Decimal.read? text with
      | none => (0.0, if text.isEmpty then .nothing else .number)
      | some (x, rest) => (x, if rest.isEmpty then .nothing else .finish)

/-! ## Formats -/

/-- What is wrong with an argument or with a format. -/
inductive Complaint where
  | argument (text : Raw) (lack : Lack)
  | directive (text : Raw)
  /-- The format breaks off in a directive. -/
  | unfinished (text : Raw)

/-- How far a format has been filled. -/
structure Filling where
  /-- The pieces of text, the last one first. -/
  pieces : List Raw
  args : List Raw
  /-- Whether an argument was asked for. -/
  used : Bool
  status : Nat
  complaints : List Complaint
  /-- Whether the output has come to its end. -/
  stopped : Bool

namespace Filling

def start (args : List Raw) : Filling :=
  { pieces := [], args := args, used := false, status := 0, complaints := [], stopped := false }

def add (filling : Filling) (text : Raw) : Filling :=
  { filling with pieces := text :: filling.pieces }

/-- Takes the next argument, if there is one. -/
def next (filling : Filling) : Option Raw × Filling :=
  (filling.args.head?, { filling with args := filling.args.tail, used := true })

/-- Notes what an argument lacks. -/
def note (filling : Filling) (argument : Raw) (lack : Lack) : Filling :=
  if lack = .nothing then filling
  else
    { filling with status := 1, complaints := filling.complaints ++ [.argument argument lack] }

/-- Takes the next argument as a number. -/
def nextInteger (filling : Filling) (signed : Bool) : Int × Filling :=
  let (argument, filling) := filling.next
  let (n, lack) := integer signed (argument.getD [])
  (n, filling.note (argument.getD []) lack)

/-- Takes the value of a measure. -/
def measure (filling : Filling) : Measure → Option Int × Filling
  | .fixed n => (n.map Int.ofNat, filling)
  | .argument =>
      let (n, filling) := filling.nextInteger true
      (some n, filling)

/-- Lays out the next argument, as a letter asks. -/
def convert (filling : Filling) (layout : Layout) (letter : Char) (written : Raw) : Filling :=
  if ['d', 'i'].contains letter then
    let (n, filling) := filling.nextInteger true
    filling.add (layout.signed n)
  else if ['o', 'u', 'x', 'X'].contains letter then
    let (n, filling) := filling.nextInteger false
    filling.add (layout.unsigned letter (n % 18446744073709551616).toNat)
  else if "eEfFgG".toList.contains letter then
    let (argument, filling) := filling.next
    let (x, lack) := float (argument.getD [])
    (filling.add (layout.float letter x)).note (argument.getD []) lack
  else
    let (argument, filling) := filling.next
    let body := argument.getD []
    match letter with
    | 'c' => filling.add (layout.character (if body.isEmpty then ['\x00'] else body.take 1))
    | 's' => filling.add (layout.text body)
    | 'b' =>
        let (body, stopped) := resolve body
        { filling.add (layout.text body) with stopped := stopped }
    | _ =>
        { filling with
          status := 2, stopped := true
          complaints := filling.complaints ++ [.directive written] }

/-- Fills a piece of a format. -/
def fill (filling : Filling) : FormatPiece → Filling
  | .text text => if filling.stopped then filling else filling.add (resolveFormat text)
  | .unfinished text =>
      if filling.stopped then filling
      else
        { filling with
          status := 2, stopped := true
          complaints := filling.complaints ++ [.unfinished text] }
  | .conversion layout width precision letter written =>
      if filling.stopped then filling
      else
        let (width, filling) := filling.measure width
        let (precision, filling) := filling.measure precision
        filling.convert (layout.measured (width.getD 0) precision) letter written

/-- Fills a format as long as there are arguments left for it, at most `n` times more. -/
def fillAll (pieces : List FormatPiece) : (n : Nat) → Filling → Filling
  | 0, filling => filling
  | n + 1, filling =>
      let filling := pieces.foldl fill { filling with used := false }
      if filling.used && !filling.args.isEmpty && !filling.stopped then fillAll pieces n filling
      else filling

end Filling

/-- Fills a format with arguments; letters before those of conversions may be passed over. -/
def fill (passed format : Raw) (args : List Raw) : Filling :=
  Filling.fillAll (FormatPiece.ofRaw passed format) (args.length + 1) (.start args)

def Filling.text (filling : Filling) : Raw := filling.pieces.reverse.flatten

end ShaderLiterals.Programs.Print
