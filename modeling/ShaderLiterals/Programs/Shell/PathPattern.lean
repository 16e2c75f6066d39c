import ShaderLiterals.Machine
import ShaderLiterals.Programs.Glob

/-! # Patterns that stand for paths -/

namespace ShaderLiterals.Programs.Shell

namespace PathPattern

/-- Whether a field has an unquoted character that makes it a pattern. -/
def isPattern (field : List Glob.Marked) : Bool :=
  field.any fun m => !m.2 && ['*', '?', '['].contains m.1

def text (field : List Glob.Marked) : Raw := field.map Prod.fst

/-- The names in a directory that a pattern matches, in order.  A name that begins with a dot has to
be asked for with a dot. -/
def namesFor (machine : Machine) (directory : Raw) (pattern : List Glob.Marked) : List Raw :=
  let path := if directory.isEmpty then "." else Raw.toText directory
  match machine.locate path with
  | .error _ => []
  | .ok location =>
      let all := ['.'] :: ['.', '.'] :: (machine.tree.namesIn location).map Raw.ofText
      let names := all.filter fun name =>
        (name.head? != some '.' || (text pattern).head? == some '.') &&
          Glob.isMatch (Glob.ofMarked pattern) name
      names.mergeSort Raw.precedes

/-- The paths for the names of a pattern, each after a beginning that is known to exist. -/
def paths (machine : Machine) : List (List Glob.Marked) → Raw → List Raw
  | [], front => [front]
  | [last], front =>
      if isPattern last then (namesFor machine front last).map (front ++ ·)
      else
        let path := front ++ text last
        if (machine.findLast (Raw.toText path)).isOk then [path] else []
  | name :: rest, front =>
      if isPattern name then
        (namesFor machine front name).flatMap fun found =>
          paths machine rest (front ++ found ++ ['/'])
      else paths machine rest (front ++ text name ++ ['/'])

end PathPattern

/-- The paths that a field stands for if it is a pattern of some; else its own text. -/
def expandPath (machine : Machine) (field : List Glob.Marked) : List Raw :=
  if PathPattern.isPattern field then
    match PathPattern.paths machine (field.splitOnP fun m => m.1 == '/') [] with
    | [] => [PathPattern.text field]
    | found => found
  else [PathPattern.text field]

end ShaderLiterals.Programs.Shell
