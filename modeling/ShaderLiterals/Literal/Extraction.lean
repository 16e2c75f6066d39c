import ShaderLiterals.Literal.Cursor
import ShaderLiterals.Literal.Source

/-!
# Extracting shaders

Shaders are pulled one at a time out of a queue of lines, which may grow between two pulls.  The
first line that cannot be read, and the first literal that cannot be decoded, are reported once;
after that nothing is read.  `extract` gives what all pulls on a finished queue give.  The names
that characters go by are data of their own, which every literal is decoded with.
-/

namespace ShaderLiterals

/-- Why no further shader can be extracted. -/
inductive ExtractFault where
  | unreadable (line : Nat) (cause : ReadFault)
  /-- The literal of this name, opened on this line, holds a bad escape. -/
  | undecodable (name : String) (line : Nat) (cause : Escape.Fault)
deriving DecidableEq, Repr

namespace ExtractFault

def message : ExtractFault → String
  | unreadable line _ => s!"could not read line {line}"
  | undecodable name line _ => s!"could not decode escapes in `{name}` (line {line})"

def causeMessage : ExtractFault → String
  | unreadable _ cause => cause.message
  | undecodable _ _ cause => cause.message

end ExtractFault

/-- The shader of a literal, or its fault. -/
def Literal.extract (names : Escape.Names) (literal : Literal) : Except ExtractFault Shader :=
  (literal.shader names).mapError (.undecodable literal.opening.name literal.opening.line)

/-- The state of an extraction between two pulls. -/
structure Extraction where
  cursor : Cursor
  /-- Whether a fault was reported. -/
  failed : Bool
deriving DecidableEq, Repr

/-- What a pull gives. -/
structure Pull where
  /-- A shader or a fault; nothing if the lines ran out first. -/
  result : Option (Except ExtractFault Shader)
  extraction : Extraction
  /-- The lines that the pull did not read. -/
  unread : List SourceLine

/-- Whether the lines ran out inside a literal. -/
def Pull.isWaiting (pull : Pull) : Bool :=
  pull.result.isNone && !pull.extraction.failed && pull.extraction.cursor.isInside

namespace Extraction

def start : Extraction := ⟨.start, false⟩

variable (names : Escape.Names)

/-- The pull that reports a shader or a fault. -/
def report (cursor : Cursor) (result : Except ExtractFault Shader) (unread : List SourceLine) :
    Pull :=
  ⟨some result, ⟨cursor, result.toOption.isNone⟩, unread⟩

/-- Reads lines up to the first shader or fault. -/
def pullFrom (cursor : Cursor) : List SourceLine → Pull
  | [] => ⟨none, ⟨cursor, false⟩, []⟩
  | .error cause :: rest => report cursor (.error (.unreadable (cursor.line + 1) cause)) rest
  | .ok line :: rest =>
      match cursor.next line with
      | (.closes literal, cursor) => report cursor (literal.extract names) rest
      | (_, cursor) => pullFrom cursor rest

/-- Pulls the next shader out of the queue. -/
def pull (extraction : Extraction) (lines : List SourceLine) : Pull :=
  if extraction.failed then ⟨none, extraction, lines⟩ else pullFrom names extraction.cursor lines

variable {names}

@[simp] theorem unread_report (cursor : Cursor) (result : Except ExtractFault Shader)
    (unread : List SourceLine) : (report cursor result unread).unread = unread := rfl

@[simp] theorem result_report (cursor : Cursor) (result : Except ExtractFault Shader)
    (unread : List SourceLine) : (report cursor result unread).result = some result := rfl

/-- A pull with a result reads a line. -/
theorem length_unread_pullFrom_lt {cursor : Cursor} {lines : List SourceLine}
    {r : Except ExtractFault Shader} (h : (pullFrom names cursor lines).result = some r) :
    (pullFrom names cursor lines).unread.length < lines.length := by
  fun_induction pullFrom names cursor lines with
  | case1 => cases h
  | case2 => simp
  | case3 => simp
  | case4 cursor line rest role cursor' hne heq ih =>
      exact Nat.lt_succ_of_lt (ih h)

theorem length_unread_pull_lt {extraction : Extraction} {lines : List SourceLine}
    {r : Except ExtractFault Shader} (h : (extraction.pull names lines).result = some r) :
    (extraction.pull names lines).unread.length < lines.length := by
  unfold pull at h ⊢
  split at h
  · cases h
  · rename_i hf
    simpa [hf] using length_unread_pullFrom_lt h

/-- What a pull leaves is the end of what there was. -/
theorem unread_pullFrom_suffix (cursor : Cursor) (lines : List SourceLine) :
    (pullFrom names cursor lines).unread <:+ lines := by
  fun_induction pullFrom names cursor lines with
  | case1 => exact List.suffix_rfl
  | case2 => exact List.suffix_cons _ _
  | case3 => exact List.suffix_cons _ _
  | case4 cursor line rest role cursor' hne heq ih => exact ih.trans (List.suffix_cons _ _)

theorem unread_pull_suffix (extraction : Extraction) (lines : List SourceLine) :
    (extraction.pull names lines).unread <:+ lines := by
  unfold pull
  split
  · exact List.suffix_rfl
  · exact unread_pullFrom_suffix _ _

variable (names)

/-- How many lines a pull reads. -/
def readCount (extraction : Extraction) (lines : List SourceLine) : Nat :=
  lines.length - (extraction.pull names lines).unread.length

theorem drop_readCount (extraction : Extraction) (lines : List SourceLine) :
    lines.drop (extraction.readCount names lines) = (extraction.pull names lines).unread :=
  (List.suffix_iff_eq_drop.1 (unread_pull_suffix extraction lines)).symm

end Extraction

/-- What an extraction gives in the end: shaders, and the fault that ended it, if one did. -/
structure Extracted where
  shaders : List Shader
  fault : Option ExtractFault
deriving DecidableEq, Repr

namespace Extracted

/-- Nothing but the end of the lines. -/
def empty : Extracted := ⟨[], none⟩

def cons (shader : Shader) (rest : Extracted) : Extracted :=
  ⟨shader :: rest.shaders, rest.fault⟩

end Extracted

namespace Extraction

/-- Pulls until `limit` shaders were obtained, a fault was reported or the lines ran out. -/
def take (names : Escape.Names) :
    Nat → Extraction → List SourceLine → Extracted × List SourceLine
  | 0, _, lines => (.empty, lines)
  | limit + 1, extraction, lines =>
      match extraction.pull names lines with
      | ⟨none, _, unread⟩ => (.empty, unread)
      | ⟨some (.error fault), _, unread⟩ => (⟨[], some fault⟩, unread)
      | ⟨some (.ok shader), extraction, unread⟩ =>
          let rest := take names limit extraction unread
          (rest.1.cons shader, rest.2)

end Extraction

/-- Everything that can be extracted by a reader who stands at the cursor. -/
def extractFrom (names : Escape.Names) (cursor : Cursor) : List SourceLine → Extracted
  | [] => .empty
  | .error cause :: _ => ⟨[], some (.unreadable (cursor.line + 1) cause)⟩
  | .ok line :: rest =>
      match cursor.next line with
      | (.closes literal, cursor) =>
          match literal.extract names with
          | .ok shader => (extractFrom names cursor rest).cons shader
          | .error fault => ⟨[], some fault⟩
      | (_, cursor) => extractFrom names cursor rest

/-- Everything that can be extracted from the lines. -/
def extract (names : Escape.Names) (lines : List SourceLine) : Extracted :=
  extractFrom names .start lines

end ShaderLiterals
