/-!
# Differences of two lists

Elements are numbers; equal elements have equal numbers.  What has to be taken away from the first
list and added from the second one is found by following the shortest ways from both ends until they
meet.  Afterwards each run of changes is moved as far to the end as it goes, if it can be moved at
all, unless it then no longer stands beside a run of the other list.
-/

namespace ShaderLiterals.Programs.Difference

/-- Which elements of both lists are changed. -/
structure Marks where
  first : Array Bool
  second : Array Bool

/-- A part of both lists: from where to where each of them goes. -/
structure Part where
  low : Nat
  high : Nat
  low' : Nat
  high' : Nat

/-! ## Shortest ways -/

/-- How many elements agree from two places on. -/
def agreeing (a b : Array Nat) (part : Part) : (fuel x y : Nat) → Nat
  | 0, _, _ => 0
  | fuel + 1, x, y =>
      if x < part.high && y < part.high' && a[x]? == b[y]? then
        agreeing a b part fuel (x + 1) (y + 1) + 1
      else 0

/-- How many elements agree before two places. -/
def agreeingBefore (a b : Array Nat) (part : Part) : (fuel x y : Nat) → Nat
  | 0, _, _ => 0
  | fuel + 1, x, y =>
      if part.low < x && part.low' < y && a[x - 1]? == b[y - 1]? then
        agreeingBefore a b part fuel (x - 1) (y - 1) + 1
      else 0

/-- How far a search has come on diagonals, which are known by their numbers moved by `base`, and
between which of them it has come that far. -/
structure Front where
  base : Nat
  reached : Array Int
  low : Int
  high : Int

def Front.get (front : Front) (diagonal : Int) : Int :=
  front.reached.getD (diagonal + front.base).toNat 0

def Front.put (front : Front) (diagonal value : Int) : Front :=
  { front with reached := front.reached.setIfInBounds (diagonal + front.base).toNat value }

/-- Makes room for one more step in both directions, but not beyond the outermost diagonals. -/
def Front.widen (front : Front) (least most outside : Int) : Front :=
  let front :=
    if least < front.low then
      ({ front with low := front.low - 1 } : Front).put (front.low - 2) outside
    else { front with low := front.low + 1 }
  if front.high < most then
    ({ front with high := front.high + 1 } : Front).put (front.high + 2) outside
  else { front with high := front.high - 1 }

/-- Goes one step on along all diagonals from `d` down, each second one.  Stops where `meets` holds
of the diagonal and the place on it. -/
def advance (extend : Front → Int → Int) (meets : Int → Int → Bool) :
    (fuel : Nat) → Int → Front → Front × Option (Int × Int)
  | 0, _, front => (front, none)
  | fuel + 1, d, front =>
      if d < front.low then (front, none)
      else
        let x := extend front d
        let front := front.put d x
        if meets d x then (front, some (x, x - d)) else advance extend meets fuel (d - 2) front

/-- The place where shortest ways from both ends of a part meet. -/
def middle (a b : Array Nat) (part : Part) : Nat × Nat :=
  let size := a.size + b.size + 3
  let start : Int := (part.low : Int) - part.low'
  let stop : Int := (part.high : Int) - part.high'
  let least : Int := (part.low : Int) - part.high'
  let most : Int := (part.high : Int) - part.low'
  let odd := (start - stop) % 2 != 0
  let outside : Int := size + 1
  let forward : Front :=
    ({ base := b.size + 1, reached := Array.replicate (size + 2) 0
       low := start, high := start } : Front).put
      start part.low
  let backward : Front :=
    ({ base := b.size + 1, reached := Array.replicate (size + 2) 0
       low := stop, high := stop } : Front).put
      stop part.high
  let down := fun (front : Front) (d : Int) =>
    let below := front.get (d - 1)
    let above := front.get (d + 1)
    let x := if below < above then above else below + 1
    x + agreeing a b part size x.toNat (x - d).toNat
  let up := fun (front : Front) (d : Int) =>
    let below := front.get (d - 1)
    let above := front.get (d + 1)
    let x := if below < above then below else above - 1
    x - agreeingBefore a b part size x.toNat (x - d).toNat
  go size least most outside odd down up size forward backward
where
  go (size : Nat) (least most outside : Int) (odd : Bool) (down up : Front → Int → Int) :
      (fuel : Nat) → Front → Front → Nat × Nat
    | 0, _, _ => (part.low, part.low')
    | fuel + 1, forward, backward =>
        let forward := forward.widen least most (-1)
        let meetsBackward := fun (d x : Int) =>
          odd && backward.low ≤ d && d ≤ backward.high && backward.get d ≤ x
        match advance down meetsBackward size forward.high forward with
        | (_, some (x, y)) => (x.toNat, y.toNat)
        | (forward, none) =>
            let backward := backward.widen least most outside
            let meetsForward := fun (d x : Int) =>
              !odd && forward.low ≤ d && d ≤ forward.high && x ≤ forward.get d
            match advance up meetsForward size backward.high backward with
            | (_, some (x, y)) => (x.toNat, y.toNat)
            | (backward, none) => go size least most outside odd down up fuel forward backward

def markAll (marks : Array Bool) (low high : Nat) : Array Bool :=
  (List.range' low (high - low)).foldl (fun marks i => marks.setIfInBounds i true) marks

/-- Marks what is changed in a part. -/
def compare (a b : Array Nat) : (fuel : Nat) → Part → Marks → Marks
  | 0, part, marks =>
      ⟨markAll marks.first part.low part.high, markAll marks.second part.low' part.high'⟩
  | fuel + 1, part, marks =>
      let size := a.size + b.size + 1
      let front := agreeing a b part size part.low part.low'
      let part := { part with low := part.low + front, low' := part.low' + front }
      let back := agreeingBefore a b part size part.high part.high'
      let part := { part with high := part.high - back, high' := part.high' - back }
      if part.low = part.high || part.low' = part.high' then
        ⟨markAll marks.first part.low part.high, markAll marks.second part.low' part.high'⟩
      else
        let (x, y) := middle a b part
        compare a b fuel { part with low := x, low' := y }
          (compare a b fuel { part with high := x, high' := y } marks)

/-! ## Moving runs of changes -/

/-- Where a run of changes stands, and the place in the other list that belongs to its end. -/
structure Run where
  changed : Array Bool
  start : Nat
  stop : Nat
  other : Nat
  /-- The last end at which the run stood beside a run of the other list. -/
  beside : Option Nat

/-- The first place from one on that is not marked. -/
def skipMarked (marks : Array Bool) : (fuel : Nat) → Nat → Nat
  | 0, i => i
  | fuel + 1, i => if marks.getD i false then skipMarked marks fuel (i + 1) else i

/-- The first place of the marked ones that reach up to a place. -/
def skipMarkedBefore (marks : Array Bool) : Nat → Nat
  | 0 => 0
  | i + 1 => if marks.getD i false then skipMarkedBefore marks i else i + 1

/-- The last place before one that is not marked. -/
def unmarkedBefore (marks : Array Bool) : Nat → Nat
  | 0 => 0
  | i + 1 => if marks.getD i false then unmarkedBefore marks i else i

/-- Moves a run towards the start as long as the element before it equals its last one. -/
def moveBack (items : Array Nat) (others : Array Bool) : (fuel : Nat) → Run → Run
  | 0, run => run
  | fuel + 1, run =>
      if 0 < run.start && items[run.start - 1]? == items[run.stop - 1]? then
        let changed :=
          (run.changed.setIfInBounds (run.start - 1) true).setIfInBounds (run.stop - 1) false
        moveBack items others fuel
          { run with
            changed, start := skipMarkedBefore changed (run.start - 1), stop := run.stop - 1
            other := unmarkedBefore others run.other }
      else run

/-- Moves a run towards the end as long as the element behind it equals its first one. -/
def moveOn (items : Array Nat) (others : Array Bool) : (fuel : Nat) → Run → Run
  | 0, run => run
  | fuel + 1, run =>
      if run.stop < items.size && items[run.start]? == items[run.stop]? then
        let changed := (run.changed.setIfInBounds run.start false).setIfInBounds run.stop true
        let stop := skipMarked changed items.size (run.stop + 1)
        let other := skipMarked others others.size (run.other + 1)
        moveOn items others fuel
          { run with
            changed, start := run.start + 1, stop, other
            beside := if run.other + 1 < other then some stop else run.beside }
      else run

/-- Moves a run back and on until it grows no more. -/
def settle (items : Array Nat) (others : Array Bool) : (fuel : Nat) → Run → Run
  | 0, run => run
  | fuel + 1, run =>
      let length := run.stop - run.start
      let back := moveBack items others items.size run
      let isBeside := 0 < back.other && others.getD (back.other - 1) false
      let on := moveOn items others items.size
        { back with beside := if isBeside then some back.stop else none }
      if on.stop - on.start = length then on else settle items others fuel on

/-- Moves a run back to an end. -/
def returnTo (others : Array Bool) (stop : Nat) : (fuel : Nat) → Run → Run
  | 0, run => run
  | fuel + 1, run =>
      if stop < run.stop then
        let changed :=
          (run.changed.setIfInBounds (run.start - 1) true).setIfInBounds (run.stop - 1) false
        returnTo others stop fuel
          { run with
            changed, start := run.start - 1, stop := run.stop - 1
            other := unmarkedBefore others run.other }
      else run

/-- Moves all runs of changes from a place on; `j` is the place in the other list. -/
def shift (items : Array Nat) (others : Array Bool) : (fuel : Nat) → (i j : Nat) → Array Bool →
    Array Bool
  | 0, _, _, changed => changed
  | fuel + 1, i, j, changed =>
      if items.size ≤ i then changed
      else if !changed.getD i false then
        shift items others fuel (i + 1) (skipMarked others others.size j + 1) changed
      else
        let run : Run :=
          { changed, start := i, stop := skipMarked changed items.size i
            other := skipMarked others others.size j, beside := none }
        let run := settle items others (items.size + 1) run
        let run :=
          match run.beside with
          | some stop => returnTo others stop items.size run
          | none => run
        shift items others fuel run.stop run.other run.changed

/-! ## Changes -/

/-- Elements from one place of the first list to another are replaced by those of the second one. -/
structure Change where
  start : Nat
  stop : Nat
  start' : Nat
  stop' : Nat

/-- The changes that marks spell. -/
def Marks.changes (marks : Marks) : (fuel : Nat) → (i j : Nat) → List Change
  | 0, _, _ => []
  | fuel + 1, i, j =>
      if marks.first.size ≤ i && marks.second.size ≤ j then []
      else
        let stop := skipMarked marks.first marks.first.size i
        let stop' := skipMarked marks.second marks.second.size j
        let rest := marks.changes fuel (stop + 1) (stop' + 1)
        if i < stop || j < stop' then ⟨i, stop, j, stop'⟩ :: rest else rest

/-- The places of the elements that a list has. -/
def placesIn (items : Array Nat) (others : Array Nat) : Array Nat :=
  ((List.range items.size).filter fun i => others.contains (items.getD i 0)).toArray

/-- The changes that make the second list of the first one. -/
def changes (a b : Array Nat) : List Change :=
  let places := placesIn a b
  let places' := placesIn b a
  let pick := fun (items places : Array Nat) => places.map fun i => items.getD i 0
  let short := pick a places
  let short' := pick b places'
  let none := fun (n : Nat) => Array.replicate n false
  let found := compare short short' (short.size + short'.size + 1) ⟨0, short.size, 0, short'.size⟩
    ⟨none short.size, none short'.size⟩
  let spread := fun (size : Nat) (places : Array Nat) (marks : Array Bool) =>
    (places.zip marks).foldl (fun all (i, mark) => all.setIfInBounds i mark)
      (Array.replicate size true)
  let first := spread a.size places found.first
  let second := spread b.size places' found.second
  let first := shift a second (2 * a.size + 2) 0 0 first
  let second := shift b first (2 * b.size + 2) 0 0 second
  (⟨first, second⟩ : Marks).changes (a.size + b.size + 2) 0 0

end ShaderLiterals.Programs.Difference
