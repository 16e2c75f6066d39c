import ShaderLiterals.Programs.Raw

/-!
# Commands of scripts

A script is a list of commands.  Commands are made of words, and words of text and of things that
are put in its place, which may be the output of other commands.
-/

namespace ShaderLiterals.Programs.Shell

/-- What is made of the value of a parameter.  With `colon` an empty value counts as none. -/
inductive Change where
  | nothing
  /-- Its number of characters. -/
  | length
  /-- Another word if there is no value. -/
  | default (colon : Bool)
  /-- The same, and the parameter keeps it. -/
  | assign (colon : Bool)
  /-- A fault if there is no value. -/
  | demand (colon : Bool)
  /-- Another word if there is a value. -/
  | alternative (colon : Bool)
  /-- The value without a beginning that a pattern matches. -/
  | trimStart (longest : Bool)
  /-- The value without an end that a pattern matches. -/
  | trimEnd (longest : Bool)
  /-- No meaning at all. -/
  | broken

/-- How a redirection opens a file. -/
inductive Access where
  | read
  | write
  /-- A file that is there is written over, come what may. -/
  | overwrite
  | append
  | both
deriving DecidableEq

/-- What joins two commands. -/
inductive Joint where
  | and
  | or
deriving DecidableEq

mutual

/-- A part of a word. -/
inductive Part where
  | text (quoted : Bool) (text : Raw)
  /-- The value of a variable or a special parameter. -/
  | value (quoted : Bool) (name : Raw) (change : Change) (word : List Part)
  /-- The output of a command. -/
  | output (quoted : Bool) (command : Command)
  /-- The value of an arithmetic expression. -/
  | arithmetic (quoted : Bool) (expression : List Part)

inductive Redirection where
  | file (stream : Nat) (access : Access) (path : List Part)
  /-- The stream reads text in the script. -/
  | here (stream : Nat) (body : List Part)
  /-- The stream goes where another one goes. -/
  | duplicate (stream : Nat) (source : List Part)

inductive Command where
  | nothing
  | simple (line : Nat) (assignments : List (Raw × List Part)) (words : List (List Part))
      (redirections : List Redirection)
  | pipeline (commands : List Command)
  | not (command : Command)
  | join (joint : Joint) (first second : Command)
  | sequence (first second : Command)
  | branch (condition yes no : Command)
  /-- Without words the loop goes through the arguments. -/
  | loop (line : Nat) (name : Raw) (words : Option (List (List Part))) (body : Command)
  | repeatWhile (wanted : Bool) (condition body : Command)
  | choose (line : Nat) (word : List Part) (cases : List (List (List Part) × Command))
  | subshell (line : Nat) (body : Command)
  | background (line : Nat) (body : Command)
  | define (name : Raw) (body : Command)
  | redirected (line : Nat) (body : Command) (redirections : List Redirection)

end

abbrev Word := List Part

namespace Word

/-- The text of a word that is neither quoted nor replaced in any part. -/
def plain? : Word → Option Raw
  | [] => some []
  | .text false text :: rest => (plain? rest).map (text ++ ·)
  | _ :: _ => none

/-- The text of a word whose parts are all text, and whether some of it is quoted. -/
def literal? : Word → Option (Raw × Bool)
  | [] => some ([], false)
  | .text quoted text :: rest =>
      (literal? rest).map fun more => (text ++ more.1, quoted || more.2)
  | _ :: _ => none

/-- Whether a character may start the name of a variable. -/
def startsName (c : Char) : Bool := c.isAlpha || c == '_'

/-- Whether a character may stand in the name of a variable. -/
def isNameChar (c : Char) : Bool := c.isAlphanum || c == '_'

/-- Whether a text is the name of a variable. -/
def isName : Raw → Bool
  | [] => false
  | c :: rest => startsName c && rest.all isNameChar

/-- The characters that end a word unless they are quoted. -/
def isMeta (c : Char) : Bool :=
  [' ', '\t', '\n', ';', '&', '|', '<', '>', '(', ')'].contains c

/-- The parameters with a name of one character that are no letters. -/
def isSpecial (c : Char) : Bool :=
  ['?', '#', '@', '*', '$', '!', '-'].contains c

/-- The name and the value that a word assigns, if it has the form of an assignment. -/
def assignment? : Word → Option (Raw × Word)
  | .text false text :: rest =>
      let name := text.takeWhile (· != '=')
      if name.length < text.length && isName name then
        let value := text.drop (name.length + 1)
        some (name, if value.isEmpty then rest else .text false value :: rest)
      else none
  | _ => none

end Word

end ShaderLiterals.Programs.Shell
