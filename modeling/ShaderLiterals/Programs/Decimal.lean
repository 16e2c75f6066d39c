import ShaderLiterals.Programs.Raw

/-!
# Decimal forms of floating point numbers

A finite number is a fraction of whole numbers, which is rounded to the digits asked for; a half
goes to the even neighbour.
-/

namespace ShaderLiterals.Programs.Decimal

/-- A quotient rounded to a whole number, a half to the even one. -/
def roundDiv (num den : Nat) : Nat :=
  let q := num / den
  let r := num % den
  if 2 * r < den then q else if den < 2 * r then q + 1 else q + q % 2

theorem roundDiv_one (n : Nat) : roundDiv n 1 = n := by
  simp [roundDiv, Nat.mod_one]

/-- The size of a number, apart from its sign. -/
inductive Size where
  | infinite
  | notANumber
  | fraction (num den : Nat)
deriving DecidableEq

/-- Whether a number has a minus sign, and its size. -/
def split (x : Float) : Bool × Size :=
  let bits := x.toBits.toNat
  let negative := bits / 9223372036854775808 = 1
  let exponent := bits / 4503599627370496 % 2048
  let fraction := bits % 4503599627370496
  let size :=
    if exponent = 2047 then if fraction = 0 then .infinite else .notANumber
    else
      let mantissa := if exponent = 0 then fraction else fraction + 4503599627370496
      let exponent := max exponent 1
      if 1075 ≤ exponent then .fraction (mantissa * Nat.pow 2 (exponent - 1075)) 1
      else .fraction mantissa (Nat.pow 2 (1075 - exponent))
  (negative, size)

/-- A whole number with a point before its last `places` digits; the point is left out if there
are none, unless `alternate`. -/
def withPoint (alternate : Bool) (places n : Nat) : Raw :=
  let digits := Nat.toDigits 10 n
  let digits := List.replicate (places + 1 - digits.length) '0' ++ digits
  let whole := digits.take (digits.length - places)
  if places = 0 then if alternate then whole ++ ['.'] else whole
  else whole ++ '.' :: digits.drop (digits.length - places)

/-- A fraction with so many places after the point. -/
def fixed (alternate : Bool) (places num den : Nat) : Raw :=
  withPoint alternate places (roundDiv (num * Nat.pow 10 places) den)

/-- The exponent of the first digit of a fraction that is not zero. -/
def magnitude (num den : Nat) : Int :=
  let guess : Int := (Nat.toDigits 10 num).length - (Nat.toDigits 10 den).length
  let isBelow := fun (e : Int) =>
    if 0 ≤ e then decide (num < den * Nat.pow 10 e.toNat)
    else decide (num * Nat.pow 10 (-e).toNat < den)
  if isBelow guess then guess - 1 else guess

/-- The first `count` digits of a fraction as a whole number, and the exponent of the first one. -/
def leading (count num den : Nat) : Nat × Int :=
  if num = 0 then (0, 0)
  else
    let e := magnitude num den
    let scale : Int := count - 1 - e
    let n :=
      if 0 ≤ scale then roundDiv (num * Nat.pow 10 scale.toNat) den
      else roundDiv num (den * Nat.pow 10 (-scale).toNat)
    if n = Nat.pow 10 count then (n / 10, e + 1) else (n, e)

/-- The exponent of ten after a number. -/
def exponentText (letter : Char) (e : Int) : Raw :=
  let digits := Nat.toDigits 10 e.natAbs
  letter :: (if e < 0 then '-' else '+') :: List.replicate (2 - digits.length) '0' ++ digits

/-- A fraction with one digit before the point and an exponent. -/
def scientific (alternate : Bool) (letter : Char) (places num den : Nat) : Raw :=
  let (n, e) := leading (places + 1) num den
  withPoint alternate places n ++ exponentText letter e

/-- A decimal without the zeros at its end, and without a point there. -/
def trimZeros (text : Raw) : Raw :=
  if text.contains '.' then
    let text := (text.reverse.dropWhile (· == '0')).reverse
    if text.getLast? = some '.' then text.dropLast else text
  else text

/-- A fraction in the shorter of the two forms, with so many digits that count. -/
def general (alternate : Bool) (letter : Char) (count num den : Nat) : Raw :=
  let count := max count 1
  let (n, e) := leading count num den
  let trim := fun text => if alternate then text else trimZeros text
  if e < -4 || (count : Int) ≤ e then
    trim (withPoint alternate (count - 1) n) ++ exponentText letter e
  else trim (fixed alternate (count - 1 - e).toNat num den)

/-- The form that a letter asks for, without a sign; `precision` counts places or digits. -/
def form (conversion : Char) (alternate : Bool) (precision : Nat) : Size → Raw
  | .infinite => if conversion.isUpper then ['I', 'N', 'F'] else ['i', 'n', 'f']
  | .notANumber => if conversion.isUpper then ['N', 'A', 'N'] else ['n', 'a', 'n']
  | .fraction num den =>
      match conversion with
      | 'e' => scientific alternate 'e' precision num den
      | 'E' => scientific alternate 'E' precision num den
      | 'g' => general alternate 'e' precision num den
      | 'G' => general alternate 'E' precision num den
      | _ => fixed alternate precision num den

/-! ## Reading -/

/-- The number that a text begins with, and the rest. -/
def read? (text : Raw) : Option (Float × Raw) :=
  let text := text.dropWhile fun c => c == ' ' || ('\t' ≤ c && c ≤ '\r')
  let (negative, text) :=
    match text with
    | '-' :: rest => (true, rest)
    | '+' :: rest => (false, rest)
    | _ => (false, text)
  let signed := fun (x : Float) => if negative then -x else x
  let lower := fun (n : Nat) => (text.take n).map Char.toLower
  if lower 8 = "infinity".toList then some (signed (1.0 / 0.0), text.drop 8)
  else if lower 3 = "inf".toList then some (signed (1.0 / 0.0), text.drop 3)
  else if lower 3 = "nan".toList then some (signed (0.0 / 0.0), text.drop 3)
  else if lower 2 = ['0', 'x'] && (text[2]?).any (Digits.isDigit 16) then
    let whole := (text.drop 2).takeWhile (Digits.isDigit 16)
    let n := (Digits.number? 16 whole).getD 0
    some (signed (Float.ofScientific n false 0), text.drop (2 + whole.length))
  else
    let whole := text.takeWhile Char.isDigit
    let rest := text.drop whole.length
    let places := if rest.head? = some '.' then (rest.drop 1).takeWhile Char.isDigit else []
    if whole.isEmpty && places.isEmpty then none
    else
      let rest := if rest.head? = some '.' then rest.drop (places.length + 1) else rest
      let mantissa := (Digits.number? 10 (whole ++ places)).getD 0
      let (exponent, rest) := exponent rest
      let e : Int := exponent - places.length
      let e := if mantissa = 0 then 0 else max (-100000) (min e 100000)
      some (signed (Float.ofScientific mantissa (e < 0) e.natAbs), rest)
where
  /-- The exponent that a text begins with, and the rest. -/
  exponent (text : Raw) : Int × Raw :=
    match text with
    | c :: rest =>
        if c = 'e' || c = 'E' then
          let (negative, digits) :=
            match rest with
            | '-' :: digits => (true, digits)
            | '+' :: digits => (false, digits)
            | _ => (false, rest)
          let digits' := digits.takeWhile Char.isDigit
          if digits'.isEmpty then (0, text)
          else
            let n : Int := (Digits.number? 10 digits').getD 0
            (if negative then -n else n, digits.drop digits'.length)
        else (0, text)
    | [] => (0, [])

end ShaderLiterals.Programs.Decimal
