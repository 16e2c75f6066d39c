import ShaderLiterals.Programs.Tool.Place

/-! # Removing files -/

namespace ShaderLiterals.Programs

open Files (Fault Location Node)

namespace Place

/-- How files are removed. -/
structure Removal where
  recursive : Bool
  directories : Bool
  force : Bool
  asks : Bool
  verbose : Bool

/-- What is asked before something is removed. -/
def question (path : Raw) (status : Status) (isEmpty : Bool) : Raw :=
  let words :=
    match status.node with
    | .directory => if isEmpty then "remove directory " else "descend into directory "
    | .link _ => "remove symbolic link "
    | .pipe _ => "remove fifo "
    | _ => if status.size = 0 then "remove regular empty file " else "remove regular file "
  Raw.ofText words ++ Quote.always path

/-- Looks at something before it is removed.  Gives where it stands and the names of what lies in
it, or whether all is well if there is nothing to do. -/
def checkRemoval (call : Call) (removal : Removal) (path : Raw) :
    Job (Except Bool (Status × List Raw)) := do
  match ← World.statusOfLast path with
  | .error fault =>
      if removal.force && (fault = .notFound || fault = .notDirectory) then return .error true
      return .error (← refuse call "cannot remove" path fault)
  | .ok status => do
      let tree := (← get).machine.tree
      let names := if status.isDirectory then tree.namesIn (status.location.getD []) else []
      if status.isDirectory && !removal.recursive then
        if !removal.directories then
          return .error (← refuse call "cannot remove" path .isDirectory)
        if !names.isEmpty then return .error (← refuse call "cannot remove" path .notEmpty)
      if removal.asks then
        unless ← call.confirm (question path status names.isEmpty) do return .error true
      return .ok (status, (names.map Raw.ofText).mergeSort Raw.precedes)

/-- Removes something that is empty by now, or leaves it if it is not. -/
def finishRemoval (call : Call) (removal : Removal) (path : Raw) (status : Status) : Job Bool := do
  let location := status.location.getD []
  if status.isDirectory && !((← get).machine.tree.namesIn location).isEmpty then return true
  change fun machine => machine.eraseAll location
  if removal.verbose then
    call.printLine (Raw.ofText (if status.isDirectory then "removed directory " else "removed ") ++
      Quote.always path)
  return true

/-- Removes something, with what lies in it; `fuel` bounds how deep. -/
def remove (call : Call) (removal : Removal) : (fuel : Nat) → (path : Raw) → Job Bool
  | 0, _ => return false
  | fuel + 1, path => do
      match ← checkRemoval call removal path with
      | .error result => return result
      | .ok (status, names) =>
          if ← allDone names fun name => remove call removal fuel (Names.inside path name) then
            finishRemoval call removal path status
          else return false

/-- How deep something is removed. -/
def removalDepth : Nat := 100

end Place

/-- Removes files. -/
def rm : Tool := fun call =>
  call.withOptions ("f/force r/recursive R/ i/ I/ /interactive== d/dir v/verbose " ++
    "/preserve-root== /no-preserve-root /one-file-system") 1 fun options => do
  let last := options.given.reverse.findSome? fun (g : Raw × Raw) =>
    match String.ofList g.1 with
    | "force" => some 'f'
    | "i" => some 'i'
    | "interactive" => if g.2 = "never".toList then some 'f' else some 'i'
    | _ => none
  let removal : Place.Removal :=
    { recursive := options.has "recursive" || options.has "R", directories := options.has "dir"
      force := last = some 'f', asks := last = some 'i', verbose := options.has "verbose" }
  if options.operands.isEmpty then
    return ← if removal.force then pure 0 else call.refuseMissing 1
  Place.forEach options.operands fun path => do
    let name := Names.last path
    if removal.recursive then
      if name = ['.'] || name = ['.', '.'] then
        return ← Place.refuseText call
          (Raw.ofText "refusing to remove '.' or '..' directory: skipping " ++ Quote.always path)
      if name = ['/'] then
        call.complain (Raw.ofText "it is dangerous to operate recursively on '/'")
        return ← Place.refuseText call
          (Raw.ofText "use --no-preserve-root to override this failsafe")
    Place.remove call removal Place.removalDepth path

namespace Place

/-- Removes one directory that is empty. -/
def removeEmpty (call : Call) (options : Options) (path : Raw) : Job Bool := do
  if options.has "verbose" then
    call.printLine (call.name ++ Raw.ofText ": removing directory, " ++ Quote.always path)
  match ← World.statusOfLast (Names.dropSlashes path) with
  | .error fault => refuse call "failed to remove" path fault
  | .ok status => do
      let location := status.location.getD []
      if !status.isDirectory then refuse call "failed to remove" path .notDirectory
      else if Names.last path = ['.'] then refuse call "failed to remove" path .invalid
      else if !((← get).machine.tree.namesIn location).isEmpty then
        if options.has "ignore-fail-on-non-empty" then return true
        else refuse call "failed to remove" path .notEmpty
      else do
        change fun machine => machine.eraseAll location
        return true

/-- A path and those of the directories that it lies in, as far as they are named. -/
def withParents (path : Raw) : List Raw :=
  let names := (Names.dropSlashes path).splitOn '/'
  ((List.range names.length).reverse.map fun n => ['/'].intercalate (names.take (n + 1))).filter
    (!·.isEmpty)

end Place

/-- Removes empty directories. -/
def rmdir : Tool := fun call =>
  call.withOptions "p/parents v/verbose /ignore-fail-on-non-empty" 1 fun options => do
  if options.operands.isEmpty then return ← call.refuseMissing 1
  Place.forEach options.operands fun path => do
    let paths := if options.has "parents" then Place.withParents path else [path]
    paths.foldlM (fun good path => if good then Place.removeEmpty call options path else pure good)
      true

/-- Takes away one name of a file. -/
def unlink : Tool := fun call =>
  call.withOptions "" 1 fun options => do
  match options.operands with
  | [] => call.refuseMissing 1
  | _ :: extra :: _ => call.refuseExtra 1 extra
  | [path] =>
      match ← World.statusOfLast path with
      | .error fault => return if ← Place.refuse call "cannot unlink" path fault then 0 else 1
      | .ok status =>
          match status.node, status.location with
          | .directory, _ =>
              return if ← Place.refuse call "cannot unlink" path .isDirectory then 0 else 1
          | _, some location => Place.change fun machine => machine.eraseAll location; return 0
          | _, none => return 1

end ShaderLiterals.Programs
