/-!
# Names of Hangul syllables

A syllable is named by the short names of its letters, read from the left and each as long as it
can be.
-/

namespace ShaderLiterals.CharName.Hangul

def initials : List String :=
  ["G", "GG", "N", "D", "DD", "R", "M", "B", "BB", "S", "SS", "", "J", "JJ", "C", "K", "T", "P",
    "H"]

def vowels : List String :=
  ["A", "AE", "YA", "YAE", "EO", "E", "YEO", "YE", "O", "WA", "WAE", "OE", "YO", "U", "WEO", "WE",
    "WI", "YU", "EU", "YI", "I"]

def finals : List String :=
  ["", "G", "GG", "GS", "N", "NJ", "NH", "D", "L", "LG", "LM", "LB", "LS", "LT", "LP", "LH", "M",
    "B", "BS", "S", "SS", "NG", "J", "C", "K", "T", "P", "H"]

/-- The place of the longest of the letters' names that the text begins with, and the rest. -/
def longest? (letters : List String) (text : List Char) : Option (Nat × List Char) :=
  letters.zipIdx.foldl (fun best (letter, i) =>
    match letter.toList.isPrefixOf? text with
    | none => best
    | some rest =>
        if best.all (fun b => rest.length < b.2.length) then some (i, rest) else best) none

/-- The syllable whose letters the text names, all of it. -/
def syllable? (text : List Char) : Option Char := do
  let (initial, text) ← longest? initials text
  let (vowel, text) ← longest? vowels text
  let (final, text) ← longest? finals text
  if text.isEmpty then
    some (Char.ofNat (0xAC00 + (initial * vowels.length + vowel) * finals.length + final))
  else none

end ShaderLiterals.CharName.Hangul
