import ShaderLiterals.Programs.Call

/-! # Searching programs by name -/

namespace ShaderLiterals.Programs.Search

/-- The directories in which programs are searched if nothing else is said. -/
def defaultPath : Raw :=
  "/usr/local/sbin:/usr/local/bin:/usr/sbin:/usr/bin:/sbin:/bin".toList

/-- The paths that a program with a name may have. -/
def candidates (path name : Raw) : List Raw :=
  (path.splitOn ':').map fun directory =>
    if directory.isEmpty then name else directory ++ '/' :: name

/-- The path of the program with a name that has no slash. -/
def find? (machine : Machine) (path name : Raw) : Option Raw :=
  (candidates path name).find? fun candidate =>
    match machine.find (Raw.toText candidate) with
    | .ok (.file _) => true
    | _ => false

end ShaderLiterals.Programs.Search
