import ShaderLiterals.Programs.Tool.Text

/-!
# Dates

A moment is a number of seconds since the start of the year 1970.  Years are those of the calendar
in which every fourth one is a leap year, but of the centuries only every fourth.
-/

namespace ShaderLiterals.Programs.Calendar

structure Moment where
  year : Int
  /-- From 1 to 12. -/
  month : Nat
  day : Nat
  hour : Nat
  minute : Nat
  second : Nat
  /-- From Sunday, which is 0. -/
  weekday : Nat
  /-- From 0. -/
  yearday : Nat

/-- The number of a day since the start of 1970.  Years are counted from March on, so that the day
that only some years have comes last. -/
def dayNumber (year : Int) (month day : Nat) : Int :=
  let year := if month ≤ 2 then year - 1 else year
  let era := year / 400
  let yearOfEra := year - era * 400
  let monthFromMarch := (month + 9) % 12
  let dayOfYear : Int := ((153 * monthFromMarch + 2) / 5 + day : Nat) - 1
  era * 146097 + yearOfEra * 365 + yearOfEra / 4 - yearOfEra / 100 + dayOfYear - 719468

/-- The year, month and day with a number. -/
def ofDayNumber (number : Int) : Int × Nat × Nat :=
  let shifted := number + 719468
  let era := shifted / 146097
  let dayOfEra := (shifted - era * 146097).toNat
  let yearOfEra := (dayOfEra - dayOfEra / 1460 + dayOfEra / 36524 - dayOfEra / 146096) / 365
  let dayOfYear := dayOfEra - (365 * yearOfEra + yearOfEra / 4 - yearOfEra / 100)
  let monthFromMarch := (5 * dayOfYear + 2) / 153
  let day := dayOfYear - (153 * monthFromMarch + 2) / 5 + 1
  let month := if monthFromMarch < 10 then monthFromMarch + 3 else monthFromMarch - 9
  let year := era * 400 + yearOfEra
  (if month ≤ 2 then year + 1 else year, month, day)

def Moment.ofSeconds (seconds : Int) : Moment :=
  let days := seconds / 86400
  let rest := (seconds % 86400).toNat
  let (year, month, day) := ofDayNumber days
  { year, month, day, hour := rest / 3600, minute := rest / 60 % 60, second := rest % 60
    weekday := ((days + 4) % 7).toNat, yearday := (days - dayNumber year 1 1).toNat }

def seconds (year : Int) (month day hour minute second : Nat) : Int :=
  dayNumber year month day * 86400 + (hour * 3600 + minute * 60 + second : Nat)

def months : List String :=
  ["January", "February", "March", "April", "May", "June", "July", "August", "September", "October",
    "November", "December"]

def weekdays : List String :=
  ["Sunday", "Monday", "Tuesday", "Wednesday", "Thursday", "Friday", "Saturday"]

/-- The first three letters of a name in a list. -/
def short (names : List String) (place : Nat) : String :=
  String.ofList ((names.getD place "").toList.take 3)

/-- A number with at least so many digits. -/
def digits (width : Nat) (n : Nat) : Raw := Raw.padLeft '0' width (Raw.ofNat n)

/-- A number filled up with blanks. -/
def spaced (width : Nat) (n : Nat) : Raw := Raw.right width n

/-- What a letter after a percent sign stands for, if it needs no other letters. -/
def Moment.field (moment : Moment) (seconds : Int) (nanoseconds : Nat) : Char → Option Raw
  | 'Y' => some (Raw.ofText (toString moment.year))
  | 'C' => some (digits 2 (moment.year / 100).toNat)
  | 'y' => some (digits 2 (moment.year % 100).toNat)
  | 'm' => some (digits 2 moment.month)
  | 'd' => some (digits 2 moment.day)
  | 'e' => some (spaced 2 moment.day)
  | 'H' => some (digits 2 moment.hour)
  | 'k' => some (spaced 2 moment.hour)
  | 'I' => some (digits 2 ((moment.hour + 11) % 12 + 1))
  | 'l' => some (spaced 2 ((moment.hour + 11) % 12 + 1))
  | 'M' => some (digits 2 moment.minute)
  | 'S' => some (digits 2 moment.second)
  | 'N' => some (digits 9 nanoseconds)
  | 'p' => some (Raw.ofText (if moment.hour < 12 then "AM" else "PM"))
  | 'P' => some (Raw.ofText (if moment.hour < 12 then "am" else "pm"))
  | 'j' => some (digits 3 (moment.yearday + 1))
  | 'a' => some (Raw.ofText (short weekdays moment.weekday))
  | 'A' => some (Raw.ofText (weekdays.getD moment.weekday ""))
  | 'b' | 'h' => some (Raw.ofText (short months (moment.month - 1)))
  | 'B' => some (Raw.ofText (months.getD (moment.month - 1) ""))
  | 'u' => some (Raw.ofNat ((moment.weekday + 6) % 7 + 1))
  | 'w' => some (Raw.ofNat moment.weekday)
  | 'U' => some (digits 2 ((moment.yearday + 7 - moment.weekday) / 7))
  | 'W' => some (digits 2 ((moment.yearday + 7 - (moment.weekday + 6) % 7) / 7))
  | 's' => some (Raw.ofText (toString seconds))
  | 'z' => some "+0000".toList
  | 'Z' => some "UTC".toList
  | 'n' => some ['\n']
  | 't' => some ['\t']
  | '%' => some ['%']
  | _ => none

/-- The letters that a letter after a percent sign is short for. -/
def abbreviation : Char → Option String
  | 'D' | 'x' => some "%m/%d/%y"
  | 'F' => some "%Y-%m-%d"
  | 'T' | 'X' => some "%H:%M:%S"
  | 'R' => some "%H:%M"
  | 'r' => some "%I:%M:%S %p"
  | 'c' => some "%a %b %e %H:%M:%S %Y"
  | _ => none

/-- A field as flags and a width want it; `letter` tells which field it is. -/
def fit (flags : Raw) (width : Option Nat) (letter : Char) (shown : Raw) : Raw :=
  if letter = 'N' then
    match width with
    | some n => (shown ++ List.replicate (n - shown.length) '0').take n
    | none => shown
  else
    let isNumber := shown.all fun c => c == ' ' || c.isDigit
    let shown := if flags.contains '^' then shown.map Char.toUpper else shown
    let digits := shown.dropWhile fun c => c == '0' || c == ' '
    let bare :=
      if !isNumber then shown
      else if digits.isEmpty then shown.drop (shown.length - 1)
      else digits
    let usual := if isNumber && !(['e', 'k', 'l'].contains letter) then '0' else ' '
    let size := width.getD shown.length
    match (flags.filter fun c => c == '-' || c == '_' || c == '0').getLast? with
    | some '-' => bare
    | some '_' => Raw.padLeft ' ' size bare
    | some _ => Raw.padLeft '0' size bare
    | none => Raw.padLeft usual size bare

/-- A format in which letters after percent signs are replaced by their fields; at most `fuel`
characters are looked at. -/
def fill (field : Char → Option Raw) : (fuel : Nat) → Raw → Raw
  | 0, rest => rest
  | _, [] => []
  | fuel + 1, '%' :: rest =>
      let flags := rest.takeWhile fun c => "-_0^#+".toList.contains c
      let digits := (rest.drop flags.length).takeWhile Char.isDigit
      match rest.drop (flags.length + digits.length) with
      | [] => '%' :: rest
      | c :: after =>
          let width := Raw.nat? digits
          let shown :=
            match field c with
            | some shown => fit flags width c shown
            | none => Raw.padLeft ' ' (width.getD 0) ('%' :: flags ++ digits ++ [c])
          shown ++ fill field fuel after
  | fuel + 1, c :: rest => c :: fill field fuel rest

/-- A moment the way a format says. -/
def format (seconds : Int) (nanoseconds : Nat) (text : Raw) : Raw :=
  let simple := (Moment.ofSeconds seconds).field seconds nanoseconds
  let field := fun (c : Char) =>
    (simple c).or ((abbreviation c).map fun text => fill simple text.length text.toList)
  fill field text.length text

/-! ## Reading dates -/

/-- The numbers that fields of digits between other characters spell. -/
def numbers? (separator : Char) (text : Raw) : Option (List Nat) :=
  (text.splitOn separator).mapM Raw.nat?

/-- The seconds of a time of the day. -/
def timeOfDay? (text : Raw) : Option Nat :=
  match numbers? ':' (text.takeWhile (· != '.')) with
  | some [hour, minute] =>
      if hour < 24 && minute < 60 then some (hour * 3600 + minute * 60) else none
  | some [hour, minute, second] =>
      if hour < 24 && minute < 60 && second ≤ 60 then some (hour * 3600 + minute * 60 + second)
      else none
  | _ => none

/-- Whether a year has such a day. -/
def isDate (year month day : Nat) : Bool :=
  1 ≤ month && month ≤ 12 && 1 ≤ day && day ≤ 31 &&
    ofDayNumber (dayNumber year month day) = ((year : Int), month, day)

/-- How many seconds the units in dates have. -/
def unit? (text : Raw) : Option Nat :=
  let bare := if text.getLast? = some 's' then text.dropLast else text
  [("second", 1), ("sec", 1), ("minute", 60), ("min", 60), ("hour", 3600), ("day", 86400),
    ("week", 604800)].lookup (String.ofList bare)

/-- The seconds of the start of a day that is written as three numbers, with the year first between
hyphens or without anything between them, and last between slashes. -/
def day? (text : Raw) : Option Int :=
  let start := fun (year month day : Nat) =>
    if isDate year month day then some (seconds year month day 0 0 0) else none
  match numbers? '-' text, numbers? '/' text with
  | some [year, month, day], _ => start year month day
  | _, some [month, day, year] => start year month day
  | _, _ =>
      match if text.length = 8 then Raw.nat? text else none with
      | some n => start (n / 10000) (n / 100 % 100) (n % 100)
      | none => none

/-- The moment that one word spells, given the present one. -/
def ofWord (now : Int) (word : Raw) : Option Int :=
  match word with
  | '@' :: digits => Raw.int? (digits.takeWhile (· != '.'))
  | _ =>
      let shift? : Option Int := [("now", 0), ("today", 0), ("UTC", 0), ("Z", 0), ("GMT", 0),
        ("yesterday", -86400), ("tomorrow", 86400)].lookup (String.ofList word)
      match shift?, day? word, timeOfDay? word, word.splitOn 'T' with
      | some shift, _, _, _ => some (now + shift)
      | none, some start, _, _ => some start
      | none, none, some time, _ => some (now - now % 86400 + time)
      | none, none, none, [date, time] =>
          let time := if time.getLast? = some 'Z' then time.dropLast else time
          match day? date, timeOfDay? time with
          | some start, some time => some (start + time)
          | _, _ => none
      | _, _, _, _ => none

/-- The moment that words spell, given the present one; at most `fuel` of them. -/
def ofWords : (fuel : Nat) → (now : Int) → List Raw → Option Int
  | _, now, [] => some now
  | 0, _, _ => none
  | fuel + 1, now, word :: rest =>
      match ofWord now word, rest with
      | some moment, rest => ofWords fuel moment rest
      | none, [] => none
      | none, unit :: rest =>
          let count? :=
            match String.ofList word with
            | "next" => some 1
            | "last" => some (-1)
            | _ => Raw.int? word
          match count?, unit? unit, rest with
          | some n, some u, ['a', 'g', 'o'] :: rest => ofWords fuel (now - n * u) rest
          | some n, some u, rest => ofWords fuel (now + n * u) rest
          | _, _, _ => none

/-- Words in which signs stand with the numbers behind them. -/
def joinSigns : List Raw → List Raw
  | ['+'] :: word :: rest => ('+' :: word) :: joinSigns rest
  | ['-'] :: word :: rest => ('-' :: word) :: joinSigns rest
  | word :: rest => word :: joinSigns rest
  | [] => []

/-- The moment that a text spells, given the present one.  A number of seconds stands alone, and
nothing at all is the start of the day. -/
def read? (now : Int) (text : Raw) : Option Int :=
  match joinSigns (Raw.words text) with
  | [] => some (now - now % 86400)
  | ('@' :: digits) :: rest => if rest.isEmpty then ofWord now ('@' :: digits) else none
  | words => ofWords (text.length + 1) now words

/-- The moment that digits without separators spell: month, day, hour and minute, perhaps with a
year before them and seconds behind a point. -/
def ofDigits? (now : Int) (text : Raw) : Option Int :=
  let front := text.takeWhile (· != '.')
  let second :=
    if front.length < text.length then Raw.nat? (text.drop (front.length + 1)) else some 0
  if !front.all Char.isDigit then none
  else
    let n := front.length
    let part := fun (fromEnd count : Nat) =>
      (Raw.nat? ((front.drop (n - fromEnd)).take count)).getD 0
    let year? :=
      if n = 12 then some (part 12 4)
      else if n = 10 then some (if part 10 2 < 69 then 2000 + part 10 2 else 1900 + part 10 2)
      else if n = 8 then some (Moment.ofSeconds now).year.toNat
      else none
    match year?, second with
    | some year, some second =>
        if isDate year (part 8 2) (part 6 2) && part 4 2 < 24 && part 2 2 < 60 && second ≤ 60 then
          some (seconds year (part 8 2) (part 6 2) (part 4 2) (part 2 2) second)
        else none
    | _, _ => none

end ShaderLiterals.Programs.Calendar
