/-!
# Text without control sequences

Sequences that would move the cursor of a terminal or change its colours are taken out of a text,
and so are control characters other than white space.  A sequence starts with an escape character;
one that is not finished reaches to the end of the text.

White space shows in the midst of most sequences.  It ends the sequence, or suspends it: then the
text after it shows, and the sequence goes on at the next character that does not show.
-/

namespace ShaderLiterals.Plain

/-- Where a reader of characters stands. -/
inductive Place where
  /-- Outside of any sequence. -/
  | ground
  /-- After an escape character. -/
  | escape
  | escapeIntermediate
  /-- After the bracket that starts a sequence with parameters. -/
  | controlEntry
  | controlParameters
  | controlIntermediate
  | controlIgnored
  /-- At the start of a string for a device. -/
  | deviceEntry
  | deviceParameters
  | deviceIntermediate
  /-- In a string that only another escape character or a cancelling one ends. -/
  | string
  /-- In a command for the system, which a bell ends too. -/
  | systemCommand
deriving DecidableEq, Repr

/-- White space among the control characters. -/
def isBlankControl (c : Char) : Bool :=
  c == '\t' || c == '\n' || c == '\x0C' || c == '\r'

/-- Whether a character lies in a range. -/
def within (low high : Char) (c : Char) : Bool := low ≤ c && c ≤ high

/-- Where a printable character after an escape character leads. -/
def afterEscape (c : Char) : Place :=
  if within ' ' '/' c then .escapeIntermediate
  else
    match c with
    | ']' => .systemCommand
    | 'X' | '^' | '_' => .string
    | '[' => .controlEntry
    | 'P' => .deviceEntry
    | _ => .ground

/-- Where a printable character in a sequence with parameters leads: to `finish` if it is the last
one; a mark of parameters leads to `parameters`, if one may stand here at all. -/
def afterMark (intermediate finish ignored : Place) (parameters : Char → Option Place) (c : Char) :
    Place :=
  if within ' ' '/' c then intermediate
  else if within '0' '?' c then (parameters c).getD ignored
  else finish

/-- The marks that may follow a first parameter. -/
def laterParameter (place : Place) (c : Char) : Option Place :=
  if within '0' ';' c then some place else none

/-- Where a printable character in a sequence leads. -/
def Place.next (c : Char) : Place → Place
  | ground => .ground
  | escape => afterEscape c
  | escapeIntermediate => if within ' ' '/' c then .escapeIntermediate else .ground
  | controlEntry =>
      afterMark .controlIntermediate .ground .controlIgnored (fun _ => some .controlParameters) c
  | controlParameters =>
      afterMark .controlIntermediate .ground .controlIgnored (laterParameter .controlParameters) c
  | controlIntermediate =>
      afterMark .controlIntermediate .ground .controlIgnored (fun _ => none) c
  | controlIgnored => if within ' ' '?' c then .controlIgnored else .ground
  | deviceEntry =>
      afterMark .deviceIntermediate .string .string (fun _ => some .deviceParameters) c
  | deviceParameters =>
      afterMark .deviceIntermediate .string .string (laterParameter .deviceParameters) c
  | deviceIntermediate => afterMark .deviceIntermediate .string .string (fun _ => none) c
  | string => .string
  | systemCommand => .systemCommand

/-- Whether white space shows here. -/
def Place.showsBlanks : Place → Bool
  | deviceEntry | deviceParameters | deviceIntermediate | string | systemCommand => false
  | _ => true

/-- Whether a character has a byte that ends strings. -/
def endsString (c : Char) : Bool :=
  (String.utf8EncodeChar c).contains 0x9C

/-- Where a character leads, and whether it shows, if white space ends sequences. -/
def step (place : Place) (c : Char) : Place × Bool :=
  if c = '\x1B' then (.escape, false)
  else if c = '\x18' || c = '\x1A' then (.ground, false)
  else if isBlankControl c then if place.showsBlanks then (.ground, true) else (place, false)
  else if c = '\x07' && place = .systemCommand then (.ground, false)
  else if c < ' ' || c = '\x7F' then (place, false)
  else if c < '\x7F' then (place.next c, place = .ground)
  else if place = .string && endsString c then (.ground, false)
  else (place, place = .ground)

/-- What white space that shows does to the sequence around it. -/
inductive Blank where
  | ends
  | suspends
deriving DecidableEq, Repr

/-- A reader of characters. -/
structure Reader where
  place : Place
  /-- Whether text shows although the sequence at the place is open. -/
  suspended : Bool
deriving DecidableEq, Repr

/-- A reader at the start of a text. -/
def Reader.start : Reader := ⟨.ground, false⟩

/-- Where a character leads a reader, and whether it shows.  A suspended sequence is over as soon as
a character beyond ASCII shows. -/
def Reader.step (blank : Blank) (reader : Reader) (c : Char) : Reader × Bool :=
  if reader.suspended && (isBlankControl c || within ' ' '~' c) then (reader, true)
  else if reader.suspended && '\x7F' < c then (⟨.ground, false⟩, true)
  else if blank = .suspends && isBlankControl c && reader.place.showsBlanks then
    (⟨reader.place, true⟩, true)
  else
    let (place, isShown) := Plain.step reader.place c
    (⟨place, false⟩, isShown)

/-- What a text shows to a reader. -/
def Reader.shown (blank : Blank) (reader : Reader) : List Char → List Char
  | [] => []
  | c :: rest =>
      let (next, isShown) := reader.step blank c
      if isShown then c :: next.shown blank rest else next.shown blank rest

/-- A text without control sequences. -/
def strip (blank : Blank) (text : String) : String :=
  String.ofList (Reader.start.shown blank text.toList)

end ShaderLiterals.Plain
