import ShaderLiterals.Programs.Print
import ShaderLiterals.Programs.Regex.Read
import ShaderLiterals.Programs.Tool.Text

/-!
# Translating and deleting characters

A set of characters is written as a list of characters, ranges, classes and repetitions.
-/

namespace ShaderLiterals.Programs

namespace Translate

def between (low high : Char) : Raw :=
  ((List.range (high.toNat + 1)).drop low.toNat).map Char.ofNat

/-- A part of a set as it is written. -/
inductive Part where
  | listed (members : Raw)
  /-- A class of letters, which may be translated to another one. -/
  | letters (upper : Bool)
  | cls (members : Raw)
  /-- A character so often, or as often as needed. -/
  | repeated (c : Char) (count : Option Nat)

/-- The next character of a set, escapes resolved, whether it was written as an escape, and the
rest. -/
def nextChar : Raw → Option (Char × Raw)
  | [] => none
  | ['\\'] => some ('\\', [])
  | '\\' :: letter :: rest =>
      if letter = 'e' then some ('e', rest)
      else
        match Print.escape? letter rest false with
        | some (digits, c) => some (c, rest.drop digits.length)
        | none => some (letter, rest)
  | c :: rest => some (c, rest)

/-- The count of a repetition, in base eight if it begins with a zero. -/
def count? (text : Raw) : Option (Option Nat) :=
  match text with
  | [] => some none
  | '0' :: _ => (Digits.number? 8 text).map fun n => if n = 0 then none else some n
  | _ => (Raw.nat? text).map some

/-- The part in brackets that a text begins with, and the rest. -/
def bracketed? (text : Raw) : Option (Except Raw (Part × Raw)) :=
  match text with
  | '[' :: ':' :: rest =>
      let name := rest.takeWhile (· != ':')
      match rest.drop name.length with
      | ':' :: ']' :: after =>
          some <|
            match String.ofList name with
            | "upper" => .ok (.letters true, after)
            | "lower" => .ok (.letters false, after)
            | known =>
                match Regex.classes.lookup known with
                | some ranges =>
                    .ok (.cls (ranges.flatMap fun r => between r.1 r.2).mergeSort, after)
                | none => .error (Raw.ofText "invalid character class " ++ Quote.always name)
      | _ => none
  | '[' :: '=' :: c :: '=' :: ']' :: rest => some (.ok (.listed [c], rest))
  | '[' :: rest =>
      match nextChar rest with
      | some (c, '*' :: after) =>
          let digits := after.takeWhile (· != ']')
          match after.drop digits.length, count? digits with
          | ']' :: after, some count => some (.ok (.repeated c count, after))
          | _, _ => none
      | _ => none
  | _ => none

/-- The parts of a set; at most `fuel` of them. -/
def parts : (fuel : Nat) → Raw → Except Raw (List Part)
  | 0, _ => .ok []
  | _, [] => .ok []
  | fuel + 1, text =>
      match bracketed? text with
      | some (.error complaint) => .error complaint
      | some (.ok (part, rest)) => (parts fuel rest).map (part :: ·)
      | none =>
          match nextChar text with
          | none => .ok []
          | some (low, '-' :: after) =>
              match nextChar after with
              | none => .ok [.listed [low, '-']]
              | some (high, rest) =>
                  if high < low then
                    .error (Raw.ofText "range-endpoints of '" ++ low :: '-' :: high ::
                      Raw.ofText "' are in reverse collating sequence order")
                  else (parts fuel rest).map (.listed (between low high) :: ·)
          | some (c, rest) => (parts fuel rest).map (.listed [c] :: ·)

def Part.members (filling : Nat) : Part → Raw
  | listed members | cls members => members
  | letters true => between 'A' 'Z'
  | letters false => between 'a' 'z'
  | repeated c count => List.replicate (count.getD filling) c

/-- The characters of the parts of a set, where repetitions without a count have a given one. -/
def characters (filling : Nat) (parts : List Part) : Raw :=
  parts.flatMap (Part.members filling)

/-- How long the parts without an open repetition are. -/
def fixedLength (parts : List Part) : Nat := (characters 0 parts).length

def read (text : Raw) : Except Raw (List Part) := parts (text.length + 1) text

/-- The character for another one: that in the same place of the second set, or its last. -/
def replace (source target : Raw) (truncated : Bool) (c : Char) : Char :=
  match (source.zipIdx.filter fun entry => entry.1 = c).getLast? with
  | none => c
  | some (_, i) => (target[i]?).getD (if truncated then c else target.getLastD c)

/-- Leaves one of each run of equal characters out of a set. -/
def squeeze (members : Char → Bool) : Raw → Raw
  | c :: d :: rest =>
      if c = d && members c then squeeze members (d :: rest) else c :: squeeze members (d :: rest)
  | text => text

/-- All bytes. -/
def bytes : Raw := (List.range 256).map Char.ofNat

end Translate

/-- Replaces or deletes characters of its input. -/
def tr : Tool := fun call =>
  call.withFirstOptions "c/complement C/ d/delete s/squeeze-repeats t/truncate-set1" 1
    fun options => do
  let complements := options.has "complement" || options.has "C"
  let deletes := options.has "delete"
  let squeezes := options.has "squeeze-repeats"
  match options.operands with
  | [] => call.refuseMissing 1
  | first :: rest =>
      let wanted := if deletes && !squeezes then 0 else 1
      match rest.drop 1 with
      | extra :: _ => call.refuseExtra 1 extra
      | [] =>
      if rest.isEmpty && !deletes && !squeezes || rest.isEmpty && deletes && squeezes then
        call.complain (Raw.ofText "missing operand after " ++ Quote.always first)
        call.warn (Raw.ofText (if squeezes then
            "Two strings must be given when both deleting and squeezing repeats.\n"
          else "Two strings must be given when translating.\n"))
        call.warn (Raw.ofText "Try '" ++ call.name ++
          Raw.ofText " --help' for more information.\n")
        return 1
      else if wanted = 0 && !rest.isEmpty then
        call.complain (Raw.ofText "extra operand " ++ Quote.always (rest.headD []))
        call.warn (Raw.ofText
          "Only one string may be given when deleting without squeezing repeats.\n")
        call.warn (Raw.ofText "Try '" ++ call.name ++
          Raw.ofText " --help' for more information.\n")
        return 1
      else
      match Translate.read first, Translate.read (rest.headD []) with
      | .error complaint, _ => call.refuse 1 complaint
      | _, .error complaint => call.refuse 1 complaint
      | .ok source, .ok target =>
          let source := Translate.characters 0 source
          let source := if complements then Translate.bytes.filter (!source.contains ·) else source
          let filling := source.length - Translate.fixedLength target
          let target := Translate.characters filling target
          if !rest.isEmpty && !deletes && target.isEmpty && !source.isEmpty then
            return ← call.refuse 1
              (Raw.ofText "when not truncating set1, string2 must be non-empty")
          let table := (List.range 256).map fun n =>
            Translate.replace source target (options.has "truncate-set1") (Char.ofNat n)
          let table := table.toArray
          let isIn := (Translate.bytes.map source.contains).toArray
          let inSource := fun (c : Char) => (isIn[c.toNat]?).getD false
          match ← call.takeAll 0 with
          | .error fault => call.refuse 1 (Raw.ofText ("read error: " ++ fault.text))
          | .ok text =>
              let text :=
                if deletes then text.filter (!inSource ·)
                else if rest.isEmpty then text
                else text.map fun c => (table[c.toNat]?).getD c
              call.print <|
                if !squeezes then text
                else if rest.isEmpty then Translate.squeeze inSource text
                else Translate.squeeze target.contains text
              return 0

end ShaderLiterals.Programs
