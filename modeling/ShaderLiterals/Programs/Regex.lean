import ShaderLiterals.Programs.Raw

/-!
# Regular expressions

A set of positions in a text is held as a number that has a bit for each position.  An expression
takes the set of positions where a match may begin to the set of those where it may end, so that all
matches are followed at once.  Of all matches the leftmost one counts, and of those the longest.

What a group has matched is found afterwards, from left to right and as long as possible.
Expressions that refer to groups are matched by trying all ways.
-/

namespace ShaderLiterals.Programs

/-- An expression over sets of characters `σ` and conditions on places `α`. -/
inductive Regex (σ α : Type) where
  /-- Matches the empty text. -/
  | nothing
  /-- Matches one character of a set. -/
  | one (set : σ)
  /-- Matches the empty text where a condition holds. -/
  | here (place : α)
  | both (a b : Regex σ α)
  | either (a b : Regex σ α)
  /-- Matches the expression so often. -/
  | times (body : Regex σ α) (least : Nat) (most : Option Nat)
  | group (number : Nat) (body : Regex σ α)
  /-- Matches what a group has matched. -/
  | same (number : Nat)

/-- A set of characters. -/
structure CharSet where
  negated : Bool
  ranges : List (Char × Char)
  /-- Whether capital and small letters count as the same. -/
  folded : Bool

namespace CharSet

def single (folded : Bool) (c : Char) : CharSet := ⟨false, [(c, c)], folded⟩

def inRanges (ranges : List (Char × Char)) (c : Char) : Bool :=
  ranges.any fun r => r.1 ≤ c && c ≤ r.2

def accepts (set : CharSet) (c : Char) : Bool :=
  let found :=
    if set.folded then inRanges set.ranges c.toLower || inRanges set.ranges c.toUpper
    else inRanges set.ranges c
  found != set.negated

end CharSet

/-- A condition on a place in a text. -/
inductive Place where
  | lineStart
  | lineEnd
  /-- Between a character of a word and one that is none. -/
  | wordEdge
  | noWordEdge
  | wordStart
  | wordEnd
  /-- Not behind a character of a word, or not before one. -/
  | noWordBefore
  | noWordAfter
  /-- Behind a newline or at the start, before a newline or at the end. -/
  | rowStart
  | rowEnd
deriving DecidableEq

/-- Whether a character belongs to a word. -/
def isWordChar (c : Char) : Bool := c.isAlphanum || c == '_'

/-- Whether a condition holds between two characters, of which either may be missing. -/
def Place.holds (before after : Option Char) (place : Place) : Bool :=
  let left := before.any isWordChar
  let right := after.any isWordChar
  match place with
  | lineStart => before.isNone
  | lineEnd => after.isNone
  | wordEdge => left != right
  | noWordEdge => left == right
  | wordStart => !left && right
  | wordEnd => left && !right
  | noWordBefore => !left
  | noWordAfter => !right
  | rowStart => before.all (· == '\n')
  | rowEnd => after.all (· == '\n')

/-- The condition that takes the lines of a text for texts of their own. -/
def Place.ofRows : Place → Place
  | lineStart => rowStart
  | lineEnd => rowEnd
  | place => place

/-- What a group matched: where it starts and ends. -/
abbrev Groups := List (Nat × Nat × Nat)

namespace Regex

variable {σ α : Type}

def map {τ β : Type} (f : σ → τ) (g : α → β) : Regex σ α → Regex τ β
  | nothing => nothing
  | one set => one (f set)
  | here place => here (g place)
  | both a b => both (a.map f g) (b.map f g)
  | either a b => either (a.map f g) (b.map f g)
  | times body least most => times (body.map f g) least most
  | group number body => group number (body.map f g)
  | same number => same number

/-- Whether the expression refers to a group. -/
def refers : Regex σ α → Bool
  | nothing | one _ | here _ => false
  | both a b | either a b => a.refers || b.refers
  | times body _ _ | group _ body => body.refers
  | same _ => true

/-! ## Sets of positions -/

/-- Numbers of so many bits, the lowest one first, put together pairwise until one is left. -/
def joinBits : (fuel : Nat) → (width : Nat) → List Nat → Nat
  | _, _, [] => 0
  | _, _, [n] => n
  | 0, _, n :: _ => n
  | fuel + 1, width, numbers => joinBits fuel (2 * width) (pairUp width numbers)
where
  pairUp (width : Nat) : List Nat → List Nat
    | a :: b :: rest => (a + b <<< width) :: pairUp width rest
    | rest => rest

/-- The set of the positions at which a list holds true. -/
def ofBools (bools : List Bool) : Nat :=
  joinBits (bools.length + 1) 1 (bools.map Bool.toNat)

/-- The positions that can be reached by steps from some, of which `seen` are known. -/
def closure (step : Nat → Nat) : (fuel : Nat) → (seen frontier : Nat) → Nat
  | 0, seen, _ => seen
  | fuel + 1, seen, frontier =>
      let next := step frontier
      let new := next ^^^ (next &&& seen)
      if new = 0 then seen else closure step fuel (seen ||| new) new

/-- The positions where matches that begin at some positions end; the text has less than `size`
positions. -/
def ends (size : Nat) : Regex Nat Nat → Nat → Nat
  | nothing, s => s
  | one set, s => (s &&& set) <<< 1
  | here place, s => s &&& place
  | both a b, s => b.ends size (a.ends size s)
  | either a b, s => a.ends size s ||| b.ends size s
  | times (one set) 0 none, s => (((s &&& set) + set) ^^^ set) ||| s
  | times body least most, s =>
      let start := Nat.repeat (body.ends size) least s
      match most with
      | none => closure (body.ends size) size start start
      | some most => closure (body.ends size) (most - least) start start
  | group _ body, s => body.ends size s
  | same _, _ => 0

/-- The largest position of a set up to a bound for which a condition holds. -/
def largest? (set bound : Nat) (condition : Nat → Bool) : Option Nat :=
  ((List.range (bound + 1)).reverse).find? fun k => set.testBit k && condition k

/-! ## Groups -/

/-- Goes through the repetitions of a body that match a text from `i` to `j`. -/
def locateTimes (size : Nat) (body : Regex Nat Nat)
    (locate : Nat → Nat → Groups → Groups) (least : Nat) (most : Option Nat) (j : Nat) :
    (fuel : Nat) → Nat → Groups → Groups
  | 0, _, groups => groups
  | fuel + 1, i, groups =>
      if i = j && least = 0 then groups
      else
        let rest := times body (least - 1) (most.map (· - 1))
        let reaches := fun (k : Nat) =>
          (k != i || 0 < least) && (rest.ends size (1 <<< k)).testBit j
        match largest? (body.ends size (1 <<< i)) j reaches with
        | none => groups
        | some k =>
            locateTimes size body locate (least - 1) (most.map (· - 1)) j fuel k
              (locate i k groups)

/-- What the groups match when the expression matches the text from `i` to `j`. -/
def locate (size : Nat) : Regex Nat Nat → Nat → Nat → Groups → Groups
  | nothing, _, _, groups | one _, _, _, groups | here _, _, _, groups | same _, _, _, groups =>
      groups
  | both a b, i, j, groups =>
      match largest? (a.ends size (1 <<< i)) j fun k => (b.ends size (1 <<< k)).testBit j with
      | some k => b.locate size k j (a.locate size i k groups)
      | none => groups
  | either a b, i, j, groups =>
      if (a.ends size (1 <<< i)).testBit j then a.locate size i j groups
      else b.locate size i j groups
  | times body least most, i, j, groups =>
      locateTimes size body (body.locate size) least most j (j - i + least + 1) i groups
  | group number body, i, j, groups => (number, i, j) :: body.locate size i j groups

/-! ## All ways -/

/-- All ways to match repetitions of a body from a position on, the longer ones first. -/
def walkTimes (walk : Nat → Groups → List (Nat × Groups)) :
    (fuel least : Nat) → (most : Option Nat) →
    Nat → Groups → List (Nat × Groups)
  | 0, least, _, i, groups => if least = 0 then [(i, groups)] else []
  | fuel + 1, least, most, i, groups =>
      let more :=
        if most = some 0 then []
        else
          ((walk i groups).filter fun way => way.1 != i || 0 < least).flatMap fun way =>
            walkTimes walk fuel (least - 1) (most.map (· - 1)) way.1 way.2
      more ++ if least = 0 then [(i, groups)] else []

/-- All ways to match from a position on: where they end, and what the groups match. -/
def walk (text : Raw) : Regex Nat Nat → Nat → Groups → List (Nat × Groups)
  | nothing, i, groups => [(i, groups)]
  | one set, i, groups => if set.testBit i then [(i + 1, groups)] else []
  | here place, i, groups => if place.testBit i then [(i, groups)] else []
  | both a b, i, groups => (a.walk text i groups).flatMap fun way => b.walk text way.1 way.2
  | either a b, i, groups => a.walk text i groups ++ b.walk text i groups
  | times body least most, i, groups =>
      walkTimes (body.walk text) (text.length + least + 1 - i) least most i groups
  | group number body, i, groups =>
      (body.walk text i groups).map fun way => (way.1, (number, i, way.1) :: way.2)
  | same number, i, groups =>
      match groups.lookup number with
      | none => []
      | some (start, stop) =>
          let wanted := (text.drop start).take (stop - start)
          if wanted.isPrefixOf (text.drop i) then [(i + wanted.length, groups)] else []

end Regex

/-! ## Patterns -/

/-- An expression as it is written. -/
abbrev Pattern := Regex CharSet Place

/-- A match: where it starts and ends, and the groups in it. -/
structure Match where
  start : Nat
  stop : Nat
  groups : Groups

/-- A pattern laid over a text. -/
structure Placed where
  text : Raw
  regex : Regex Nat Nat

namespace Pattern

/-- Lays a pattern over a text. -/
def on (pattern : Pattern) (text : Raw) : Placed :=
  let places := (none :: text.map some).zip (text.map some ++ [none])
  { text := text
    regex := pattern.map (fun set => Regex.ofBools (text.map set.accepts)) fun place =>
      Regex.ofBools (places.map fun pair => place.holds pair.1 pair.2) }

end Pattern

namespace Placed

def size (placed : Placed) : Nat := placed.text.length + 1

/-- The positions from one on, up to another one. -/
def span (first last : Nat) : Nat := (1 <<< (last + 1 - first) - 1) <<< first

/-- The least number from `low` on, below `low + count`, from which on a condition holds. -/
def leastFrom (condition : Nat → Bool) : (fuel : Nat) → (low count : Nat) → Nat
  | 0, low, _ => low
  | fuel + 1, low, count =>
      if count ≤ 1 then low
      else
        let half := count / 2
        if condition (low + half - 1) then leastFrom condition fuel low half
        else leastFrom condition fuel (low + half) (count - half)

/-- The best of the ways to match from a position on. -/
def bestWay (placed : Placed) (start : Nat) : Option Match :=
  (placed.regex.walk placed.text start []).foldl
    (fun best way =>
      match best with
      | some m => if m.stop < way.1 then some ⟨start, way.1, way.2⟩ else best
      | none => some ⟨start, way.1, way.2⟩)
    none

/-- The leftmost longest match that starts at a position or later. -/
def find? (placed : Placed) (first : Nat) : Option Match :=
  let last := placed.text.length
  if last < first then none
  else if placed.regex.refers then
    (List.range (last + 1 - first)).findSome? fun n => placed.bestWay (first + n)
  else
    let reach := fun (positions : Nat) => placed.regex.ends placed.size positions
    if reach (span first last) = 0 then none
    else
      let start :=
        leastFrom (fun k => reach (span first k) != 0) (last + 2) first (last + 1 - first)
      let stop := Nat.log2 (reach (1 <<< start))
      some ⟨start, stop, placed.regex.locate placed.size start stop []⟩

/-- Whether there is a match anywhere. -/
def hasMatch (placed : Placed) : Bool :=
  if placed.regex.refers then (placed.find? 0).isSome
  else placed.regex.ends placed.size (span 0 placed.text.length) != 0

/-- Whether the whole text is a match. -/
def matchesAll (placed : Placed) : Bool :=
  if placed.regex.refers then
    (placed.regex.walk placed.text 0 []).any fun way => way.1 = placed.text.length
  else (placed.regex.ends placed.size 1).testBit placed.text.length

/-- All matches, from left to right; an empty match does not follow another match directly. -/
def findAll (placed : Placed) : (fuel : Nat) → (first : Nat) → (blocked : Option Nat) → List Match
  | 0, _, _ => []
  | fuel + 1, first, blocked =>
      match placed.find? first with
      | none => []
      | some m =>
          if m.start = m.stop then
            let rest := placed.findAll fuel (m.stop + 1) none
            if blocked = some m.start then rest else m :: rest
          else m :: placed.findAll fuel m.stop (some m.stop)

/-- The text from one position to another. -/
def slice (placed : Placed) (start stop : Nat) : Raw :=
  (placed.text.drop start).take (stop - start)

end Placed

namespace Match

/-- Where a group starts and ends; group 0 is the whole match. -/
def group? (m : Match) (number : Nat) : Option (Nat × Nat) :=
  if number = 0 then some (m.start, m.stop) else m.groups.lookup number

end Match

end ShaderLiterals.Programs
