import ShaderLiterals.Shader
import ShaderLiterals.Text.Word

/-! # Shader names: words that end in a stage's ending and begin before it -/

namespace ShaderLiterals.Name

/-- Whether the word is the name of a shader for the stage. -/
def isFor (stage : Stage) (word : List Char) : Bool :=
  stage.ending.isSuffixOf word && stage.ending.length < word.length

/-- The stage of the shader that the word names. -/
def stage? (word : List Char) : Option Stage :=
  [Stage.vertex, Stage.fragment].find? (isFor · word)

/-- The first shader name in a text, with its stage. -/
def first? (text : List Char) : Option (List Char × Stage) :=
  (Word.runs text).findSome? fun word => (stage? word).map (word, ·)

theorem isFor_of_stage?_eq {word : List Char} {stage : Stage} (h : stage? word = some stage) :
    isFor stage word = true := by
  simpa using List.find?_some h

end ShaderLiterals.Name
