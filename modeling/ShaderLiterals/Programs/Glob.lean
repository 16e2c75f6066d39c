import ShaderLiterals.Programs.Raw

/-! # Patterns with wildcards -/

namespace ShaderLiterals.Programs

/-- One part of a pattern. -/
inductive Glob where
  | char (c : Char)
  /-- Any one character. -/
  | any
  /-- Any text. -/
  | star
  /-- One character out of some ranges, or out of none of them. -/
  | set (negated : Bool) (ranges : List (Char × Char))
deriving DecidableEq, Repr

namespace Glob

/-- Whether a character lies in one of the ranges. -/
def inRanges (ranges : List (Char × Char)) (c : Char) : Bool :=
  ranges.any fun r => r.1 ≤ c && c ≤ r.2

/-- Whether a part that stands for one character stands for this one. -/
def accepts (c : Char) : Glob → Bool
  | char d => c == d
  | any => true
  | star => false
  | set negated ranges => inRanges ranges c != negated

/-- Whether a pattern matches the whole of a text. -/
def isMatch : List Glob → Raw → Bool
  | [], text => text.isEmpty
  | star :: rest, [] => isMatch rest []
  | star :: rest, c :: text => isMatch rest (c :: text) || isMatch (star :: rest) text
  | _ :: _, [] => false
  | g :: rest, c :: text => g.accepts c && isMatch rest text
termination_by pattern text => (pattern.length, text.length)

/-- A character of a pattern, and whether it was quoted. -/
abbrev Marked := Char × Bool

/-- The classes of characters that have names. -/
def classes : List (String × List (Char × Char)) :=
  [("[:upper:]", [('A', 'Z')]), ("[:lower:]", [('a', 'z')]), ("[:digit:]", [('0', '9')]),
    ("[:alpha:]", [('A', 'Z'), ('a', 'z')]), ("[:alnum:]", [('0', '9'), ('A', 'Z'), ('a', 'z')]),
    ("[:space:]", [('\t', '\r'), (' ', ' ')]), ("[:blank:]", [('\t', '\t'), (' ', ' ')]),
    ("[:punct:]", [('!', '/'), (':', '@'), ('[', '\x60'), ('\x7b', '~')]),
    ("[:cntrl:]", [('\x00', '\x1f'), ('\x7f', '\x7f')]), ("[:print:]", [(' ', '~')]),
    ("[:graph:]", [('!', '~')]), ("[:xdigit:]", [('0', '9'), ('A', 'F'), ('a', 'f')])]

/-- The class that a text begins with the name of, and the length of the name. -/
def class? (text : List Marked) : Option (List (Char × Char) × Nat) :=
  classes.findSome? fun c =>
    if c.1.toList.isPrefixOf (text.map Prod.fst) then some (c.2, c.1.length) else none

/-- The ranges up to the bracket that closes a set, and what follows it. -/
def readRanges (ranges : List (Char × Char)) :
    List Marked → Option (List (Char × Char) × List Marked)
  | [] => none
  | (']', false) :: rest =>
      if ranges.isEmpty then readRanges [(']', ']')] rest else some (ranges, rest)
  | (low, _) :: ('-', false) :: (high, quoted) :: rest =>
      if high = ']' && !quoted then some (ranges ++ [(low, low), ('-', '-')], rest)
      else readRanges (ranges ++ [(low, high)]) rest
  | (c, quoted) :: rest =>
      match class? ((c, quoted) :: rest) with
      | some (members, length) => readRanges (ranges ++ members) (rest.drop (length - 1))
      | none => readRanges (ranges ++ [(c, c)]) rest
termination_by text => text.length
decreasing_by all_goals simp; try omega

theorem length_readRanges_le {ranges : List (Char × Char)} {text : List Marked}
    {result : List (Char × Char) × List Marked} (h : readRanges ranges text = some result) :
    result.2.length ≤ text.length := by
  fun_induction readRanges ranges text <;> grind

/-- Whether the set is negated, and what follows the mark that says so. -/
def readNegation : List Marked → Bool × List Marked
  | ('!', false) :: rest => (true, rest)
  | text => (false, text)

theorem length_readNegation_le (text : List Marked) :
    (readNegation text).2.length ≤ text.length := by
  unfold readNegation
  split <;> simp

/-- The pattern that marked characters spell.  Quoted ones stand for themselves, and so do those
after a backslash. -/
def ofMarked : List Marked → List Glob
  | [] => []
  | (c, true) :: rest => char c :: ofMarked rest
  | ('\\', false) :: (c, _) :: rest => char c :: ofMarked rest
  | ('*', false) :: rest => star :: ofMarked rest
  | ('?', false) :: rest => any :: ofMarked rest
  | ('[', false) :: rest =>
      match _h : readRanges [] (readNegation rest).2 with
      | some (ranges, after) => set (readNegation rest).1 ranges :: ofMarked after
      | none => char '[' :: ofMarked rest
  | (c, false) :: rest => char c :: ofMarked rest
termination_by text => text.length
decreasing_by
  all_goals simp only [List.length_cons]
  all_goals try omega
  have : after.length ≤ _ := length_readRanges_le _h
  have := length_readNegation_le rest
  omega

/-! ## Trimming -/

/-- A text without the shortest, or the longest, beginning that the pattern matches. -/
def trimStart (longest : Bool) (pattern : List Glob) (text : Raw) : Raw :=
  let cuts := List.range (text.length + 1)
  let cuts := if longest then cuts.reverse else cuts
  match cuts.find? fun n => isMatch pattern (text.take n) with
  | some n => text.drop n
  | none => text

/-- A text without the shortest, or the longest, end that the pattern matches. -/
def trimEnd (longest : Bool) (pattern : List Glob) (text : Raw) : Raw :=
  let cuts := List.range (text.length + 1)
  let cuts := if longest then cuts else cuts.reverse
  match cuts.find? fun n => isMatch pattern (text.drop n) with
  | some n => text.take n
  | none => text

end Glob

end ShaderLiterals.Programs
