import ShaderLiterals.Escape
import ShaderLiterals.Shader

/-! # String literals that hold shaders -/

namespace ShaderLiterals

/-- The line that opens a literal. -/
structure Opening where
  name : String
  stage : Stage
  line : Nat
deriving DecidableEq, Repr

/-- A literal as it is written. -/
structure Literal where
  opening : Opening
  /-- The lines between the opening and the closing one. -/
  body : List String
deriving DecidableEq, Repr

namespace Literal

/-- The number of backslashes at the end of a text. -/
def trailingBackslashes (text : List Char) : Nat :=
  (text.reverse.takeWhile (· == '\\')).length

/-- The last line gets its newline back if it ends in a backslash that escapes it. -/
def restoreNewline (text : List Char) : List Char :=
  if trailingBackslashes text % 2 = 1 then text ++ ['\n'] else text

/-- The lines of the body, with newlines between them. -/
def joined (literal : Literal) : List Char :=
  ['\n'].intercalate (literal.body.map String.toList)

/-- The shader that the literal holds. -/
def shader (names : Escape.Names) (literal : Literal) : Except Escape.Fault Shader :=
  (Escape.decode names (restoreNewline literal.joined)).map fun source =>
    { name := literal.opening.name
      stage := literal.opening.stage
      source := String.ofList source
      line := literal.opening.line }

end Literal

end ShaderLiterals
