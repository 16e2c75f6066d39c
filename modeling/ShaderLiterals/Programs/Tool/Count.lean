import ShaderLiterals.Programs.Status
import ShaderLiterals.Programs.Tool.Text

/-! # Counting lines, words and characters -/

namespace ShaderLiterals.Programs

/-- What is counted in a text. -/
structure Counts where
  lines : Nat
  words : Nat
  bytes : Nat
  /-- The width of the widest line. -/
  width : Nat

namespace Counts

def none : Counts := ⟨0, 0, 0, 0⟩

/-- The width of a line on a screen. -/
def lineWidth (line : Raw) : Nat :=
  (line.foldl
    (fun (column, most) c =>
      let column :=
        if c = '\t' then column + 8 - column % 8
        else if c = '\r' || c = '\x0C' then 0
        else if ' ' ≤ c && c ≤ '~' then column + 1
        else column
      (column, max most column))
    (0, 0)).2

def ofText (text : Raw) : Counts :=
  let words := text.foldl
    (fun (count, inside) c =>
      if Raw.isSpace c then (count, false) else (if inside then count else count + 1, true))
    (0, false)
  { lines := text.count '\n', words := words.1, bytes := text.length
    width := (text.splitOn '\n').foldl (fun most line => max most (lineWidth line)) 0 }

def add (a b : Counts) : Counts :=
  ⟨a.lines + b.lines, a.words + b.words, a.bytes + b.bytes, max a.width b.width⟩

/-- The counts that options ask for, in order. -/
def chosen (options : Options) (counts : Counts) : List Nat :=
  let has := options.has
  let all := !(has "lines" || has "words" || has "bytes" || has "chars" || has "max-line-length")
  (if all || has "lines" then [counts.lines] else []) ++
    (if all || has "words" then [counts.words] else []) ++
    (if has "chars" then [counts.bytes] else []) ++
    (if all || has "bytes" then [counts.bytes] else []) ++
    if has "max-line-length" then [counts.width] else []

/-- A line with counts in columns of a width, and a name. -/
def line (width : Nat) (counts : List Nat) (name : Raw) : Raw :=
  [' '].intercalate (counts.map (Raw.right width)) ++
    (if name.isEmpty then [] else ' ' :: name) ++ ['\n']

/-- The width of the columns for some operands. -/
def columnWidth (call : Call) (operands : List Raw) (columns : Nat) : Job Nat := do
  if operands.length = 1 && columns = 1 then return 1
  let mut total := 0
  let mut least := 1
  let mut isFirst := true
  for operand in operands do
    match ← call.status (if operand = ['-'] then "/dev/stdin".toList else operand) with
    | .error _ => if isFirst then return 1
    | .ok status =>
        match status.node with
        | .file _ => total := total + status.size
        | _ => least := 7
    isFirst := false
  return max least (Raw.ofNat total).length

end Counts

/-- Counts the lines, words and bytes of its operands. -/
def wc : Tool := fun call =>
  call.withOptions "c/bytes m/chars l/lines w/words L/max-line-length /total= /files0-from=" 1
    fun options => do
  let columns := (Counts.chosen options .none).length
  let operands := if options.operands.isEmpty then [['-']] else options.operands
  let width ← Counts.columnWidth call operands columns
  let mut sum := Counts.none
  let mut status := 0
  for operand in operands do
    let (counts, isShown) ←
      match ← call.openOperand operand with
      | .error fault => do
          call.complainPath operand fault
          status := 1
          pure (Counts.none, false)
      | .ok handle => do
          match ← World.takeAll handle with
          | .error fault => do
              call.complainPath operand fault
              status := 1
              pure (Counts.none, true)
          | .ok text => pure (Counts.ofText text, true)
    sum := sum.add counts
    if isShown then
      let name := if options.operands.isEmpty then [] else Quote.ifNeeded operand
      call.print (Counts.line width (Counts.chosen options counts) name)
  if 1 < operands.length then
    call.print (Counts.line width (Counts.chosen options sum) "total".toList)
  return status

end ShaderLiterals.Programs
