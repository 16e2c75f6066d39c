import ShaderLiterals.Programs.Awk.State
import ShaderLiterals.Programs.Calendar

/-! # Functions that every record script has -/

namespace ShaderLiterals.Programs.Awk

/-! ## Formats -/

/-- A format that is filled in: the text so far, the arguments that are left, the number of the next
conversion, and what is wrong with the format. -/
structure Filling where
  pieces : List Raw
  args : List Value
  number : Nat
  fault : Option Raw

namespace Filling

/-- The text, the last piece having been added. -/
def text (filling : Filling) : Raw := filling.pieces.reverse.flatten

def add (filling : Filling) (piece : Raw) : Filling :=
  { filling with pieces := piece :: filling.pieces }

/-- A measure, which may come from an argument. -/
def measure (filling : Filling) : Measure → Filling × Option Int
  | .fixed n => (filling, n.map fun n => (n : Int))
  | .argument =>
      match filling.args with
      | v :: rest => ({ filling with args := rest }, some v.toInt)
      | [] => ({ filling with fault := some (Raw.ofText "not enough arguments passed to ") }, none)

/-- The text of one value in a layout. -/
def laidOut (format : Raw) (layout : Layout) (letter : Char) (v : Value) : Option Raw :=
  let n := v.toInt
  match letter with
  | 'd' | 'i' => some (layout.signed n)
  | 'o' | 'x' | 'X' | 'u' => some (layout.unsigned letter (n % 18446744073709551616).toNat)
  | 'e' | 'E' | 'f' | 'F' | 'g' | 'G' => some (layout.float letter v.toFloat)
  | 's' => some (layout.text (v.toRaw format))
  | 'c' =>
      let c :=
        match v with
        | .number _ => Raw.byte (n % 256).toNat
        | v => (v.toRaw format).headD '\x00'
      some (layout.character [c])
  | _ => none

/-- Fills in one piece of a format. -/
def step (format : Raw) (filling : Filling) (piece : FormatPiece) : Filling :=
  if filling.fault.isSome then filling
  else
    match piece with
    | .text s | .unfinished s => filling.add s
    | .conversion layout width precision letter _ =>
        let (filling, width) := filling.measure width
        let (filling, precision) := filling.measure precision
        let layout := layout.measured (width.getD 0) precision
        let wrong :=
          { filling with
            fault := some (Raw.ofText s!"improper conversion(number {filling.number}) in ") }
        if !"dioxXueEfFgGsc".toList.contains letter then wrong
        else
          match filling.args with
          | [] => { filling with fault := some (Raw.ofText "not enough arguments passed to ") }
          | v :: rest =>
              match laidOut format layout letter v with
              | some text =>
                  { filling.add text with args := rest, number := filling.number + 1 }
              | none => wrong

end Filling

/-- A format filled in with values. -/
def Filling.ofFormat (numbers format : Raw) (args : List Value) : Filling :=
  (FormatPiece.ofRaw ['h', 'l', 'L'] format).foldl (Filling.step numbers) ⟨[], args, 1, none⟩

/-- Fills in a format; `name` is what was called. -/
def filled (name : String) (format : Raw) (args : List Value) : Work Raw := do
  let filling := Filling.ofFormat (← get).format format args
  match filling.fault with
  | none => return filling.text
  | some fault => do
      if name = "printf" then emit filling.text
      failHere (fault ++ Raw.ofText (name ++ "(\"") ++ format ++ Raw.ofText "\")")

/-! ## Texts -/

namespace Builtin

/-- The characters of a text from one on, at most so many. -/
def substring (text : Raw) (start : Int) (count : Option Int) : Raw :=
  let last : Int :=
    match count with
    | some n => min (start + n) (text.length + 1)
    | none => text.length + 1
  let first := max start 1
  (text.drop (first - 1).toNat).take (last - first).toNat

/-- The place where a text occurs in another one, from 1 on. -/
def index (text part : Raw) : Nat :=
  match (List.range (text.length + 1)).find? fun n => part.isPrefixOf (text.drop n) with
  | some n => n + 1
  | none => 0

/-- What a replacement makes of a match: an ampersand stands for it unless after a backslash. -/
def replacement (found : Raw) : Raw → Raw
  | [] => []
  | '\\' :: '\\' :: '&' :: rest => '\\' :: found ++ replacement found rest
  | '\\' :: '&' :: rest => '&' :: replacement found rest
  | '&' :: rest => found ++ replacement found rest
  | c :: rest => c :: replacement found rest

/-- A text with matches replaced, and how many there were. -/
def substitute (all : Bool) (pattern : Pattern) (new text : Raw) : Raw × Nat :=
  let placed := pattern.on text
  let found :=
    if all then placed.findAll (text.length + 2) 0 none else (placed.find? 0).toList
  let (pieces, last) := found.foldl
    (fun (pieces, from_) m =>
      (replacement (placed.slice m.start m.stop) new :: placed.slice from_ m.start :: pieces,
        m.stop))
    ([], 0)
  ((text.drop last :: pieces).reverse.flatten, found.length)

/-! ## Numbers -/

def truncated (x : Float) : Float := if x < 0 then x.ceil else x.floor

/-- The remainder with the sign of the first number. -/
def remainder (x y : Float) : Float :=
  match Decimal.split x, Decimal.split y with
  | (negative, .fraction a b), (_, .fraction c d) =>
      if c = 0 then 0.0 / 0.0
      else
        let n := a * d % (c * b)
        let size := if b * d = 1 then Float.ofNat n else x.abs - y.abs * (x.abs / y.abs).floor
        if negative then -size else size
  | (_, .fraction _ _), (_, .infinite) => x
  | _, _ => 0.0 / 0.0

def calculate : Operator → Float → Float → Float
  | .add, x, y => x + y
  | .subtract, x, y => x - y
  | .multiply, x, y => x * y
  | .divide, x, y => x / y
  | .remainder, x, y => remainder x y
  | .power, x, y => x.pow y

/-- The functions of one number. -/
def ofFloat? : String → Option (Float → Float)
  | "sin" => some Float.sin
  | "cos" => some Float.cos
  | "exp" => some Float.exp
  | "log" => some Float.log
  | "sqrt" => some Float.sqrt
  | "int" => some truncated
  | _ => none

/-- The functions of values that need nothing but these. -/
def ofValues? (format : Raw) (now : Nat) (name : String) (args : List Value) : Option Value :=
  let text := fun (v : Value) => v.toRaw format
  match ofFloat? name, args with
  | some f, [v] => some (.number (f v.toFloat))
  | _, _ =>
      match name, args with
      | "atan2", [y, x] => some (.number (Float.atan2 y.toFloat x.toFloat))
      | "length", [v] => some (.ofNat (text v).length)
      | "tolower", [v] => some (.text ((text v).map Char.toLower))
      | "toupper", [v] => some (.text ((text v).map Char.toUpper))
      | "index", [s, t] => some (.ofNat (index (text s) (text t)))
      | "substr", [s, i] => some (.text (substring (text s) i.toInt none))
      | "substr", [s, i, n] => some (.text (substring (text s) i.toInt (some n.toInt)))
      | "systime", [] => some (.ofNat (now / 1000000000))
      | "strftime", [] =>
          some (.text (Calendar.format (now / 1000000000 : Nat) 0 "%c".toList))
      | "strftime", [f] => some (.text (Calendar.format (now / 1000000000 : Nat) 0 (text f)))
      | "strftime", f :: t :: _ => some (.text (Calendar.format t.toInt 0 (text f)))
      | "mktime", [s] =>
          match (Raw.words (text s)).map Raw.int? with
          | some year :: some month :: some day :: some hour :: some minute :: some second :: _ =>
              let seconds := Calendar.seconds year month.toNat day.toNat hour.toNat minute.toNat
                second.toNat
              some (.number (Float.ofInt seconds))
          | _ => some (.number (-1))
      | _, _ => none

/-! ## The world -/

/-- Runs a command and gives its status. -/
def system (command : Raw) : Work Value := do
  flush
  match ← runCommand command (← get).call.streams with
  | .exited status => return .ofNat status
  | .killed signal => return .ofNat (256 + signal)

/-- The next number of a row that looks random. -/
def random : Work Value := do
  let s ← get
  let seed := (s.seed * 6364136223846793005 + 1442695040888963407) % 18446744073709551616
  set { s with seed := seed }
  return .number (Float.ofNat (seed / 2048) / 9007199254740992.0)

/-- Starts the row of random numbers again. -/
def seed (n : Nat) : Work Value := do
  let s ← get
  set { s with seed := n }
  return .ofNat s.seed

end Builtin

end ShaderLiterals.Programs.Awk
