/-! # Paths -/

namespace ShaderLiterals.Files

/-- A path that has been read. -/
structure Path where
  /-- Whether it starts at the root. -/
  isAbsolute : Bool
  /-- Its names.  A slash at the end counts as the name `.`, which asks for a directory. -/
  names : List String
deriving DecidableEq, Repr

namespace Path

/-- The path that a text spells. -/
def ofText (text : String) : Path :=
  let pieces := text.toList.splitOn '/'
  let names := (pieces.filter (!·.isEmpty)).map String.ofList
  { isAbsolute := text.toList.head? == some '/'
    names := if text.toList.getLast? == some '/' then names ++ ["."] else names }

/-- How many bytes a name may have. -/
def maxNameBytes : Nat := 255

/-- How many bytes a path may have. -/
def maxBytes : Nat := 4095

def isTooLong (path : String) : Bool := maxBytes < path.utf8ByteSize

/-- The text of a path with a name added.  A slash at its end serves as the separator. -/
def join (path : String) (name : String) : String :=
  if path.toList.getLast? == some '/' then path ++ name else path ++ "/" ++ name

/-- The text of the way to names below a path. -/
def joinAll (path : String) (names : List String) : String :=
  join path (String.intercalate "/" names)

/-- What follows the last dot of a name, unless the name starts with that dot. -/
def extension? (name : String) : Option String :=
  let after := (name.toList.reverse.takeWhile (· != '.')).reverse
  if after.length + 1 < name.toList.length then some (String.ofList after) else none

end Path

end ShaderLiterals.Files
