import ShaderLiterals.Programs.Arithmetic
import ShaderLiterals.Programs.Shell.PathPattern
import ShaderLiterals.Programs.Shell.State

/-!
# Expanding words

The parts of a word are replaced by what they stand for.  What replaces an unquoted part is then
split into fields, and fields that are patterns are replaced by the paths that they match.
-/

namespace ShaderLiterals.Programs.Shell

/-- One element of an expanded word. -/
inductive Element where
  /-- A character, whether it was quoted, and whether fields are split at it if it separates. -/
  | char (c : Char) (quoted splits : Bool)
  /-- A field stands here even if it has no characters. -/
  | keep
  /-- A value that may be split begins here. -/
  | seam
  /-- A field ends here. -/
  | cut
deriving DecidableEq

namespace Element

def isBlank (c : Char) : Bool := c == ' ' || c == '\t' || c == '\n'

/-- Where the splitting of an expanded word stands. -/
inductive Place where
  /-- Before a field. -/
  | before
  /-- In a field; its characters, the last one first. -/
  | within (field : List Glob.Marked)
  /-- Behind a field that a blank ended. -/
  | behind

/-- The field that is open, or a new one. -/
def Place.field : Place → List Glob.Marked
  | within field => field
  | before | behind => []

/-- The fields of an expanded word.  A separator that is not blank ends a field even if nothing
stands in it, but only one such separator does so behind a field that a blank ended. -/
def fields (separators : Raw) : Place → List Element → List (List Glob.Marked)
  | .within field, [] => [field.reverse]
  | .before, [] | .behind, [] => []
  | place, char c quoted splits :: rest =>
      if splits && separators.contains c then
        match isBlank c, place with
        | true, .within field => field.reverse :: fields separators .behind rest
        | true, place => fields separators place rest
        | false, .behind => fields separators .before rest
        | false, place => place.field.reverse :: fields separators .before rest
      else fields separators (.within ((c, quoted) :: place.field)) rest
  | place, keep :: rest => fields separators (.within place.field) rest
  | .behind, seam :: rest => fields separators .before rest
  | place, seam :: rest => fields separators place rest
  | .within field, cut :: rest => field.reverse :: fields separators .before rest
  | .before, cut :: rest | .behind, cut :: rest => fields separators .before rest

/-- The marked characters of an expanded word that is not split. -/
def marked (separators : Raw) (elements : List Element) : List Glob.Marked :=
  elements.flatMap fun
    | char c quoted _ => [(c, quoted)]
    | keep | seam => []
    | cut => (separators.take 1).map (·, true)

/-- The text of an expanded word that is not split. -/
def text (separators : Raw) (elements : List Element) : Raw :=
  (marked separators elements).map Prod.fst

/-- The elements for a value. -/
def ofValue (quoted : Bool) (value : Raw) : List Element :=
  (if quoted then keep else seam) :: value.map fun c => char c quoted (!quoted)

/-- The elements for all arguments of a script. -/
def ofArguments (quoted : Bool) (args : List Raw) : List Element :=
  [cut].intercalate (args.map (ofValue quoted))

end Element

/-! ## Home directories -/

/-- The home directory that a name after a tilde stands for. -/
def State.home? (state : State) (name : Raw) : Option Raw :=
  if name.isEmpty then state.valueOf "HOME".toList
  else if name = "root".toList then some "/root".toList
  else none

/-- The elements of unquoted text, and of the home directory if the text begins with a tilde that
stands for one; `ends` tells whether the text ends its word. -/
def State.homeElements (state : State) (inside ends : Bool) (text : Raw) : List Element :=
  let plain := fun (text : Raw) => text.map fun c => Element.char c false inside
  match text with
  | '~' :: rest =>
      let name := rest.takeWhile (· != '/')
      let after := rest.drop name.length
      match if after.isEmpty && !ends then none else state.home? name with
      | some home => .keep :: (home.map fun c => Element.char c true false) ++ plain after
      | none => plain text
  | text => plain text

/-- The elements of unquoted text.  A tilde stands for a home directory if the text starts a word
and, where a variable is set, after a colon. -/
def State.textElements (state : State) (inside assigns starts ends : Bool) (text : Raw) :
    List Element :=
  let pieces := if assigns then text.splitOn ':' else [text]
  let elements := pieces.zipIdx.map fun (piece, i) =>
    if i = 0 && !starts then piece.map fun c => Element.char c false inside
    else state.homeElements inside (ends || i + 1 < pieces.length) piece
  (if inside then [.seam] else []) ++ [Element.char ':' false inside].intercalate elements

/-! ## Words -/

/-- A text without the newlines at its end. -/
def dropNewlines (text : Raw) : Raw :=
  (text.reverse.dropWhile (· == '\n')).reverse

/-- Sets a variable whose name may be wrong. -/
def Session.assignChecked (name value : Raw) : Session Unit := do
  unless Word.isName name do Session.abort (name ++ Raw.ofText ": bad variable name")
  Session.assign name value

/-- The value of an arithmetic expression. -/
def Session.compute (text : Raw) : Session Raw := do
  let place := Raw.ofText ": \"" ++ text ++ ['"']
  match Arithmetic.read text with
  | .error complaint =>
      Session.abort (Raw.ofText ("arithmetic expression: " ++ complaint) ++ place)
  | .ok expression =>
      match (Arithmetic.evaluate (← get).valueOf expression).run [] with
      | .error .divisionByZero =>
          Session.abort (Raw.ofText "arithmetic expression: division by zero" ++ place)
      | .error (.illegalNumber value) => Session.abort (Raw.ofText "Illegal number: " ++ value)
      | .ok (value, assigned) =>
          assigned.reverse.forM fun (name, value) => Session.assign name value
          return Arithmetic.toRaw value

mutual

/-- Expands the parts of a word, or those after its start.  Inside of a part that is not quoted,
text that is not quoted may be split. -/
def expandParts (capture : Command → Session Raw) (inside assigns starts : Bool) : List Part →
    Session (List Element)
  | [] => return []
  | .text false text :: rest => do
      let first := (← get).textElements inside assigns starts rest.isEmpty text
      return first ++ (← expandParts capture inside assigns false rest)
  | part :: rest => do
      let first ← expandPart capture part
      return first ++ (← expandParts capture inside assigns false rest)

def expandPart (capture : Command → Session Raw) : Part → Session (List Element)
  | .text quoted text =>
      return (if quoted then [.keep] else []) ++ text.map fun c => .char c quoted false
  | .output quoted command => do
      let output ← capture command
      return Element.ofValue quoted (dropNewlines (output.filter (· != '\x00')))
  | .arithmetic quoted expression => do
      let elements ← expandParts capture false false false expression
      return Element.ofValue quoted (← Session.compute (Element.text (← get).separators elements))
  | .value quoted name change word => do
      let state ← get
      let value := state.parameter? name
      let own : Session (List Element) := do
        let state ← get
        if name = ['@'] || (name = ['*'] && !quoted) then
          return Element.ofArguments quoted state.args
        return Element.ofValue quoted ((state.parameter? name).getD [])
      let lacks := fun (colon : Bool) => value.isNone || (colon && value = some [])
      let instead : Session (List Element) := do
        let elements ← expandParts capture (!quoted) false (!quoted) word
        return if quoted then .keep :: elements else elements
      let text : Session Raw := do
        let elements ← expandParts capture false false true word
        return Element.text (← get).separators elements
      let pattern : Session (List Glob) := do
        let elements ← expandParts capture false false true word
        return Glob.ofMarked (Element.marked (← get).separators elements)
      let demandValue : Session Unit := do
        if value.isNone && state.flags.has 'u' && name != ['@'] && name != ['*'] then
          Session.abort (name ++ Raw.ofText ": parameter not set")
      match change with
      | .nothing => do
          demandValue
          own
      | .length => do
          demandValue
          return Element.ofValue quoted (Raw.ofNat (value.getD []).length)
      | .default colon => if lacks colon then instead else own
      | .alternative colon =>
          if lacks colon then return if quoted then [.keep] else [] else instead
      | .assign colon => do
          if lacks colon then Session.assignChecked name (← text)
          own
      | .demand colon => do
          if lacks colon then
            let complaint ← text
            let complaint :=
              if word.isEmpty then
                Raw.ofText ("parameter not set" ++ if colon then " or null" else "")
              else complaint
            Session.abort (name ++ Raw.ofText ": " ++ complaint)
          own
      | .trimStart longest => do
          demandValue
          return Element.ofValue quoted (Glob.trimStart longest (← pattern) (value.getD []))
      | .trimEnd longest => do
          demandValue
          return Element.ofValue quoted (Glob.trimEnd longest (← pattern) (value.getD []))
      | .broken => Session.abort (Raw.ofText "Bad substitution")

end

/-- The elements of a word. -/
def expandWord (capture : Command → Session Raw) (assigns : Bool) (word : Word) :
    Session (List Element) :=
  expandParts capture false assigns true word

/-- The fields of a word. -/
def expandFields (capture : Command → Session Raw) (word : Word) : Session (List Raw) := do
  let elements ← expandWord capture false word
  let state ← get
  let fields := Element.fields state.separators .before elements
  if state.flags.has 'f' then return fields.map PathPattern.text
  return fields.flatMap (expandPath state.world.machine)

/-- The fields of some words. -/
def expandAllFields (capture : Command → Session Raw) (words : List Word) : Session (List Raw) := do
  return (← words.mapM (expandFields capture)).flatten

/-- The text of a word that is not split. -/
def expandText (capture : Command → Session Raw) (assigns : Bool) (word : Word) : Session Raw := do
  let elements ← expandWord capture assigns word
  return Element.text (← get).separators elements

/-- The pattern that a word spells. -/
def expandPattern (capture : Command → Session Raw) (word : Word) : Session (List Glob) := do
  let elements ← expandWord capture false word
  return Glob.ofMarked (Element.marked (← get).separators elements)

end ShaderLiterals.Programs.Shell
