import ShaderLiterals.Files.Fault
import ShaderLiterals.Text.Lines
import ShaderLiterals.Text.Utf8

/-! # Where lines come from -/

namespace ShaderLiterals

/-- Why a line cannot be read. -/
inductive ReadFault where
  | invalidUtf8
  | files (fault : Files.Fault)
  /-- A fault of a source of another kind, in its own words. -/
  | other (text : String)
deriving DecidableEq, Repr

def ReadFault.message : ReadFault → String
  | invalidUtf8 => "stream did not contain valid UTF-8"
  | files fault => fault.message
  | other text => text

/-- What a source of lines gives for a line. -/
abbrev SourceLine := Except ReadFault String

namespace SourceLine

/-- The line that bytes spell. -/
def ofBytes (bytes : List UInt8) : SourceLine :=
  match Utf8.decode? bytes with
  | some text => .ok (String.ofList text)
  | none => .error .invalidUtf8

end SourceLine

/-- The lines of a text in memory. -/
def linesOfText (text : String) : List SourceLine :=
  (Lines.ofText text).map .ok

/-- The lines of a file's content. -/
def linesOfBytes (bytes : List UInt8) : List SourceLine :=
  (Lines.ofBytes bytes).map SourceLine.ofBytes

end ShaderLiterals
