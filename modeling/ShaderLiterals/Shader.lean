/-! # Shaders and the stages that they are for -/

namespace ShaderLiterals

inductive Stage where
  | vertex
  | fragment
deriving DecidableEq, Repr

namespace Stage

def describe : Stage → String
  | vertex => "vertex"
  | fragment => "fragment"

/-- The file extension that tells a validator the stage. -/
def extension : Stage → String
  | vertex => "vert"
  | fragment => "frag"

/-- How the name of a shader for the stage ends. -/
def ending : Stage → List Char
  | vertex => "VertexSource".toList
  | fragment => "FragmentSource".toList

end Stage

/-- A shader found in a source file. -/
structure Shader where
  /-- The whole name that it is declared under. -/
  name : String
  stage : Stage
  /-- Its text, escapes decoded. -/
  source : String
  /-- The number of the line that opens its literal; the first line is number 1. -/
  line : Nat
deriving DecidableEq, Repr

end ShaderLiterals
