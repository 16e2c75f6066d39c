import ShaderLiterals.Programs.Decimal

/-!
# Layout of printed values

A conversion lays out one value: it has flags, a width, a precision and a letter.
-/

namespace ShaderLiterals.Programs

/-- How a value is to be laid out. -/
structure Layout where
  /-- To the left of its width. -/
  left : Bool
  /-- With a sign even if it is not negative. -/
  plus : Bool
  /-- With a blank where a sign could be. -/
  space : Bool
  alternate : Bool
  /-- Filled up with zeros. -/
  zeros : Bool
  width : Nat
  precision : Option Nat

namespace Layout

def plain : Layout := ⟨false, false, false, false, false, 0, none⟩

/-- A value made wide enough; zeros go between its sign and the rest. -/
def pad (layout : Layout) (takesZeros : Bool) (sign body : Raw) : Raw :=
  let missing := layout.width - (sign.length + body.length)
  if layout.left then sign ++ body ++ List.replicate missing ' '
  else if layout.zeros && takesZeros then sign ++ List.replicate missing '0' ++ body
  else List.replicate missing ' ' ++ sign ++ body

/-- The sign of a number. -/
def sign (layout : Layout) (negative : Bool) : Raw :=
  if negative then ['-'] else if layout.plus then ['+'] else if layout.space then [' '] else []

/-- A number in a base, with as many digits as the precision asks for. -/
def digits (layout : Layout) (base n : Nat) : Raw :=
  match layout.precision with
  | some 0 => if n = 0 then [] else Nat.toDigits base n
  | precision =>
      let digits := Nat.toDigits base n
      List.replicate (precision.getD 1 - digits.length) '0' ++ digits

/-- Lays out a number with a sign. -/
def signed (layout : Layout) (n : Int) : Raw :=
  layout.pad layout.precision.isNone (layout.sign (n < 0)) (layout.digits 10 n.natAbs)

/-- Lays out a number without a sign, as a letter asks. -/
def unsigned (layout : Layout) (conversion : Char) (n : Nat) : Raw :=
  let pad := layout.pad layout.precision.isNone
  match conversion with
  | 'o' =>
      let digits := layout.digits 8 n
      pad [] (if layout.alternate && digits.head? != some '0' then '0' :: digits else digits)
  | 'x' => pad (if layout.alternate && n != 0 then ['0', 'x'] else []) (layout.digits 16 n)
  | 'X' =>
      pad (if layout.alternate && n != 0 then ['0', 'X'] else [])
        ((layout.digits 16 n).map Char.toUpper)
  | _ => pad [] (layout.digits 10 n)

/-- Lays out a floating point number, as a letter asks. -/
def float (layout : Layout) (conversion : Char) (x : Float) : Raw :=
  let (negative, size) := Decimal.split x
  let body := Decimal.form conversion layout.alternate (layout.precision.getD 6) size
  layout.pad (match size with
    | .fraction _ _ => true
    | _ => false) (layout.sign negative) body

/-- Lays out a text. -/
def text (layout : Layout) (body : Raw) : Raw :=
  layout.pad false [] ((layout.precision.map body.take).getD body)

/-- Lays out one character. -/
def character (layout : Layout) (body : Raw) : Raw :=
  layout.pad false [] body

end Layout

/-- A width or a precision in a format. -/
inductive Measure where
  | fixed (n : Option Nat)
  /-- It comes from an argument. -/
  | argument

/-- A piece of a format. -/
inductive FormatPiece where
  | text (text : Raw)
  /-- A conversion, and how it is written. -/
  | conversion (layout : Layout) (width precision : Measure) (letter : Char) (written : Raw)
  /-- A conversion that the format breaks off in. -/
  | unfinished (text : Raw)

namespace FormatPiece

/-- The measure that a format begins with, and the rest. -/
def measure : Raw → Measure × Raw
  | '*' :: rest => (.argument, rest)
  | format =>
      let digits := format.takeWhile Char.isDigit
      (.fixed (Raw.nat? digits), format.drop digits.length)

/-- The conversion that follows a percent sign, and the rest.  Some letters before that of the
conversion are passed over. -/
def conversion? (passed format : Raw) : FormatPiece × Raw :=
  let flags := format.takeWhile fun c => "#-+ 0".toList.contains c
  let (width, rest) := measure (format.drop flags.length)
  let (precision, rest) : Measure × Raw :=
    match rest with
    | '.' :: rest =>
        match measure rest with
        | (.fixed n, rest) => (.fixed (some (n.getD 0)), rest)
        | found => found
    | _ => (.fixed none, rest)
  let rest := rest.dropWhile passed.contains
  let layout : Layout :=
    { left := flags.contains '-', plus := flags.contains '+', space := flags.contains ' '
      alternate := flags.contains '#', zeros := flags.contains '0', width := 0
      precision := none }
  match rest with
  | [] => (.unfinished ('%' :: format), [])
  | letter :: rest =>
      let written := '%' :: format.take (format.length - rest.length)
      (.conversion layout width precision letter written, rest)

/-- The pieces of a format.  Each of at most `fuel` steps reads one. -/
def read (passed : Raw) : (fuel : Nat) → Raw → List FormatPiece
  | 0, _ | _, [] => []
  | fuel + 1, '%' :: '%' :: rest => .text ['%'] :: read passed fuel rest
  | fuel + 1, '%' :: rest =>
      let (piece, rest) := conversion? passed rest
      piece :: read passed fuel rest
  | fuel + 1, format =>
      let text := format.takeWhile (· != '%')
      .text text :: read passed fuel (format.drop text.length)

/-- The pieces of a whole format. -/
def ofRaw (passed format : Raw) : List FormatPiece := read passed (format.length + 1) format

end FormatPiece

/-- The layout with measures that come from arguments; a negative width means to the left. -/
def Layout.measured (layout : Layout) (width : Int) (precision : Option Int) : Layout :=
  { layout with
    left := layout.left || width < 0
    width := width.natAbs
    precision := precision.bind fun p => if p < 0 then none else some p.toNat }

end ShaderLiterals.Programs
