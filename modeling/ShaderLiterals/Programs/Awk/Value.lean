import ShaderLiterals.Programs.Layout
import ShaderLiterals.Programs.Tool.Text

/-!
# Values of record scripts

A value is a number, a text or both: text that was read counts as a number where it looks like one.
-/

namespace ShaderLiterals.Programs.Awk

inductive Value where
  | unset
  | number (x : Float)
  | text (s : Raw)
  /-- Text that was read, or given from outside. -/
  | input (s : Raw)
deriving Inhabited

namespace Value

/-- The number that a text begins with. -/
def leading (s : Raw) : Float := ((Decimal.read? s).map Prod.fst).getD 0

/-- The number that a text spells, if it spells nothing else. -/
def numeral? (s : Raw) : Option Float :=
  let bare := Raw.dropEnd Raw.isSpace s
  let isPlain := bare.all fun c => c.isDigit || Raw.isSpace c || "+-.eE".toList.contains c
  match if isPlain then Decimal.read? bare else none with
  | some (x, []) => some x
  | _ => none

def toFloat : Value → Float
  | unset => 0
  | number x => x
  | text s | input s => leading s

/-- The whole part of a number. -/
def whole (x : Float) : Int :=
  match Decimal.split x with
  | (negative, .fraction num den) =>
      let n : Int := (num / den : Nat)
      if negative then -n else n
  | (negative, .infinite) => if negative then -9223372036854775808 else 9223372036854775807
  | (_, .notANumber) => -9223372036854775808

/-- The whole part of a value. -/
def toInt (v : Value) : Int := whole v.toFloat

/-- A number laid out by the first conversion of a format. -/
def formatted (format : Raw) (x : Float) : Raw :=
  (FormatPiece.ofRaw ['h', 'l', 'L'] format).flatMap fun piece =>
    match piece with
    | .text s | .unfinished s => s
    | .conversion layout width precision letter _ =>
        let measure := fun (m : Measure) =>
          match m with
          | .fixed n => n
          | .argument => none
        let layout :=
          { layout with width := (measure width).getD 0, precision := measure precision }
        if "di".toList.contains letter then layout.signed (whole x) else layout.float letter x

/-- A number as text: whole numbers in full, as long as a machine word holds them. -/
def numberText (format : Raw) (x : Float) : Raw :=
  let n := whole x
  if x.isFinite && x.floor == x && -9223372036854775808 ≤ n && n < 18446744073709551616 then
    Raw.ofText (toString n)
  else formatted format x

/-- A value as text; `format` is used for numbers that are not whole. -/
def toRaw (format : Raw) : Value → Raw
  | unset => []
  | number x => numberText format x
  | text s | input s => s

/-- The number that a value is, if it counts as one. -/
def asNumber? : Value → Option Float
  | unset => some 0
  | number x => some x
  | text _ => none
  | input s => numeral? s

def isTrue : Value → Bool
  | unset => false
  | number x => x != 0
  | text s => !s.isEmpty
  | input s =>
      match numeral? s with
      | some x => x != 0
      | none => !s.isEmpty

def ofBool (b : Bool) : Value := number (if b then 1 else 0)

def ofNat (n : Nat) : Value := number (Float.ofNat n)

/-- How two values compare: as numbers if both count as such, or else as texts. -/
def compare (format : Raw) (a b : Value) : Option Ordering :=
  match a, b, a.asNumber?, b.asNumber? with
  | .unset, .text s, _, _ | .unset, .input s, _, none => some (order [] s)
  | .text s, .unset, _, _ | .input s, .unset, none, _ => some (order s [])
  | _, _, some x, some y =>
      if x < y then some .lt else if x == y then some .eq else if y < x then some .gt else none
  | _, _, _, _ => some (order (a.toRaw format) (b.toRaw format))
where
  order (a b : Raw) : Ordering := if a = b then .eq else if Raw.precedes a b then .lt else .gt

end Value

end ShaderLiterals.Programs.Awk
