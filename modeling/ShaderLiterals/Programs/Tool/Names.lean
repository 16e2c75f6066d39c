import ShaderLiterals.Programs.Tool.Text

/-! # Names of files -/

namespace ShaderLiterals.Programs

open Files (Fault Location)

namespace Names

/-- A path without slashes at its end. -/
def dropSlashes (path : Raw) : Raw :=
  let bare := Raw.dropEnd (· == '/') path
  if bare.isEmpty && !path.isEmpty then ['/'] else bare

/-- The last name of a path. -/
def last (path : Raw) : Raw :=
  let bare := dropSlashes path
  if bare = ['/'] then bare else (bare.reverse.takeWhile (· != '/')).reverse

/-- A path without its last name. -/
def directory (path : Raw) : Raw :=
  let bare := dropSlashes path
  if bare = ['/'] then bare
  else
    let above := Raw.dropEnd (· != '/') bare
    if above.isEmpty then ['.'] else dropSlashes above

/-- The path of a name in a directory. -/
def inside (directory name : Raw) : Raw :=
  if directory.isEmpty || directory.getLast? = some '/' then directory ++ name
  else directory ++ '/' :: name

/-- A name without an ending that is not all of it. -/
def withoutEnding (ending name : Raw) : Raw :=
  if ending.isSuffixOf name && ending.length < name.length then
    name.take (name.length - ending.length)
  else name

end Names

/-- Prints the last names of paths, less an ending. -/
def basename : Tool := fun call =>
  call.withFirstOptions "a/multiple s/suffix= z/zero" 1 fun options => do
  let ending := if options.has "zero" then '\x00' else '\n'
  let suffix := options.value? "suffix"
  match options.operands with
  | [] => call.refuseMissing 1
  | operands => do
      let many := options.has "multiple" || suffix.isSome
      if many then
        for path in operands do
          call.print (Names.withoutEnding (suffix.getD []) (Names.last path) ++ [ending])
        return 0
      match operands with
      | [path] => call.print (Names.last path ++ [ending]); return 0
      | [path, suffix] =>
          call.print (Names.withoutEnding suffix (Names.last path) ++ [ending])
          return 0
      | _ => call.refuseExtra 1 (operands.getD 2 [])

/-- Prints paths without their last names. -/
def dirname : Tool := fun call =>
  call.withOptions "z/zero" 1 fun options => do
  if options.operands.isEmpty then return ← call.refuseMissing 1
  for path in options.operands do
    call.print (Names.directory path ++ [if options.has "zero" then '\x00' else '\n'])
  return 0

/-- Prints where relative paths start. -/
def pwd : Tool := fun call =>
  call.withOptions "L/logical P/physical" 1 fun _ => do
  call.printLine (Raw.ofText (← get).machine.herePath)
  return 0

namespace Names

/-- The location of a path of which the last name, or no name at all, has to exist. -/
def resolve (machine : Machine) (needsAll needsNone : Bool) (path : Raw) : Except Fault Location :=
  match machine.locate (Raw.toText path) with
  | .ok location => .ok location
  | .error fault =>
      if needsAll then .error fault
      else if needsNone then
        if path.isEmpty then .error .notFound
        else
          let names := (Files.Path.ofText (Raw.toText path)).names
          let start := (Files.Path.ofText (Raw.toText path)).origin machine.here
          .ok (names.foldl (step machine) start)
      else if fault = .notFound then
        match machine.target (Raw.toText (dropSlashes path)) with
        | .ok location => .ok location
        | .error fault => .error fault
      else .error fault
where
  /-- Goes on by one name, whether it is there or not. -/
  step (machine : Machine) (location : Location) (name : String) : Location :=
    if name = "." then location
    else if name = ".." then location.dropLast
    else
      match machine.tree.follow Files.maxLinks location [name] with
      | .ok next => next
      | .error _ => location ++ [name]

end Names

/-- Prints where links lead to. -/
def readlink : Tool := fun call =>
  call.withOptions ("f/canonicalize e/canonicalize-existing m/canonicalize-missing n/no-newline " ++
    "q/quiet,silent s/ v/verbose z/zero") 1 fun options => do
  if options.operands.isEmpty then return ← call.refuseMissing 1
  let canonical := options.has "canonicalize" || options.has "canonicalize-existing" ||
    options.has "canonicalize-missing"
  let ending := if options.has "zero" then ['\x00'] else ['\n']
  let ending := if options.has "no-newline" && options.operands.length = 1 then [] else ending
  let mut status := 0
  for path in options.operands do
    let machine := (← get).machine
    let found : Except Fault Raw :=
      if canonical then
        (Names.resolve machine (options.has "canonicalize-existing")
          (options.has "canonicalize-missing") path).map fun location =>
            Raw.ofText (Machine.pathOf location)
      else
        match machine.findLast (Raw.toText path) with
        | .ok (_, .link target) => .ok (Raw.ofText target)
        | .ok _ => .error .invalid
        | .error fault => .error fault
    match found with
    | .ok text => call.print (text ++ ending)
    | .error fault =>
        if options.has "verbose" then call.complainPath path fault
        status := 1
  return status

/-- Prints paths without links in them. -/
def realpath : Tool := fun call =>
  call.withOptions ("e/canonicalize-existing m/canonicalize-missing L/logical P/physical " ++
    "q/quiet s/strip,no-symlinks z/zero /relative-to= /relative-base=") 1 fun options => do
  if options.operands.isEmpty then return ← call.refuseMissing 1
  let ending := if options.has "zero" then '\x00' else '\n'
  let mut status := 0
  for path in options.operands do
    let machine := (← get).machine
    match Names.resolve machine (options.has "canonicalize-existing")
        (options.has "canonicalize-missing") path with
    | .error fault =>
        unless options.has "quiet" do call.complainPath path fault
        status := 1
    | .ok location =>
        let shown :=
          match (options.value? "relative-to").map (Names.resolve machine false true) with
          | some (.ok base) => relative base location
          | _ => Machine.pathOf location
        call.print (Raw.ofText shown ++ [ending])
  return status
where
  /-- The path that leads from one location to another. -/
  relative (base location : Location) : String :=
    let shared := ((base.zip location).takeWhile fun pair => pair.1 = pair.2).length
    let names := List.replicate (base.length - shared) ".." ++ location.drop shared
    if names.isEmpty then "." else String.intercalate "/" names

end ShaderLiterals.Programs
