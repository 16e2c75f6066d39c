import ShaderLiterals.Programs.Calendar
import ShaderLiterals.Programs.Mode
import ShaderLiterals.Programs.Status
import ShaderLiterals.Programs.Tool.Names

/-! # Making, copying, moving and removing files -/

namespace ShaderLiterals.Programs

open Files (Fault Location Node)

namespace Call

/-- Asks whether to do something; the answer is the next line of the input. -/
def confirm (call : Call) (question : Raw) : Job Bool := do
  call.warn (call.name ++ ':' :: ' ' :: question ++ ['?', ' '])
  match call.handle? 0 with
  | none => return false
  | some handle =>
      match (← get).rest handle with
      | .error _ => return false
      | .ok text => do
          let line := text.takeWhile (· != '\n')
          World.skip handle (line.length + 1)
          return line.head?.any fun c => c = 'y' || c = 'Y'


end Call

namespace Place

/-- Sets the rights that the file at a location gives. -/
def setMode (status : Status) (mode : Nat) : Job Unit :=
  match status.node, status.location with
  | .file id, _ | .pipe id, _ =>
      World.modifyMachine fun machine => machine.updateContent id ({ · with mode := mode })
  | .directory, some location =>
      World.modifyMachine fun machine => machine.setDirectoryMode location mode
  | _, _ => return

/-- Sets the time of a file. -/
def setTime (status : Status) (time : Nat) : Job Unit :=
  match status.node with
  | .file id | .pipe id =>
      World.modifyMachine fun machine => machine.updateContent id ({ · with time := time })
  | _ => return

/-- Changes the machine; a moment passes then. -/
def change (action : Machine → Machine) : Job Unit :=
  World.modifyMachine fun machine => (action machine).tick

/-- Complains in the words of a tool about something that could not be done. -/
def refuse (call : Call) (what : String) (path : Raw) (fault : Fault) : Job Bool := do
  call.complain (Raw.ofText (what ++ " ") ++ Quote.always path ++ Raw.ofText (": " ++ fault.text))
  return false

def refuseText (call : Call) (text : Raw) : Job Bool := do
  call.complain text
  return false

/-! ## Sources and targets -/

/-- The operands of a tool that works from sources to targets, each source with its target. -/
def pairs (call : Call) (options : Options) (what : String) :
    Job (Except Nat (List (Raw × Raw))) := do
  let isDirectory := fun (path : Raw) => do
    match ← call.status path with
    | .ok status => return if status.node = .directory then none else some Fault.notDirectory
    | .error fault => return some fault
  let into := fun (directory : Raw) (sources : List Raw) =>
    sources.map fun source => (source, Names.inside directory (Names.last source))
  match options.value? "target-directory", options.operands with
  | none, [] => return .error (← call.refuseUsage 1 (Raw.ofText s!"missing {what} operand"))
  | some _, [] => return .error (← call.refuseUsage 1 (Raw.ofText s!"missing {what} operand"))
  | some directory, sources => do
      match ← isDirectory directory with
      | none => return .ok (into directory sources)
      | some fault => do
          call.complain (Raw.ofText "target directory " ++ Quote.always directory ++
            Raw.ofText (": " ++ fault.text))
          return .error 1
  | none, [only] =>
      return .error (← call.refuseUsage 1
        (Raw.ofText s!"missing destination {what} operand after " ++
        Quote.always only))
  | none, [source, target] => do
      if options.has "no-target-directory" then return .ok [(source, target)]
      if (← isDirectory target).isNone then return .ok (into target [source])
      return .ok [(source, target)]
  | none, operands => do
      let target := operands.getLastD []
      if options.has "no-target-directory" then
        return .error (← call.refuseExtra 1 (operands.getD 2 []))
      match ← isDirectory target with
      | none => return .ok (into target operands.dropLast)
      | some fault => do
          call.complain (Raw.ofText "target " ++ Quote.always target ++
            Raw.ofText (": " ++ fault.text))
          return .error 1

/-- How files are put in the places of others. -/
structure Manner where
  verbose : Bool
  force : Bool
  keepsOld : Bool
  asks : Bool
  updates : Bool
  /-- What is added to the names of files that are replaced, if they are kept. -/
  backup : Option Raw
  recursive : Bool
  /-- Whether links are copied as they are. -/
  keepsLinks : Bool
  /-- Whether mode and time are copied. -/
  preserves : Bool
  hardLinks : Bool
  softLinks : Bool

def Manner.ofOptions (options : Options) : Manner :=
  let has := options.has
  let last := options.given.reverse.findSome? fun (g : Raw × Raw) =>
    match String.ofList g.1 with
    | "force" => some 'f'
    | "interactive" => some 'i'
    | "no-clobber" => some 'n'
    | _ => none
  let archive := has "archive"
  { verbose := has "verbose", force := has "force", keepsOld := last = some 'n'
    asks := last = some 'i', updates := has "update"
    backup := if has "b" || has "backup" then some ((options.value? "suffix").getD ['~']) else none
    recursive := has "recursive" || has "R" || archive
    keepsLinks := archive || has "d" || has "no-dereference" ||
      ((has "recursive" || has "R") && !has "dereference")
    preserves := archive || has "p" || has "preserve", hardLinks := has "link"
    softLinks := has "symbolic-link" }

/-- What to do about something that is in the place of a target. -/
inductive Standing where
  | goOn
  | leave
  | fail

/-- What is said if one of source and target is a directory and the other one is not. -/
def clash (source target : Raw) (isDirectory wasDirectory : Bool) : Option Raw :=
  if isDirectory && !wasDirectory then
    some (Raw.ofText "cannot overwrite non-directory " ++ Quote.always target ++
      Raw.ofText " with directory " ++ Quote.always source)
  else if !isDirectory && wasDirectory then
    some (Raw.ofText "cannot overwrite directory " ++ Quote.always target ++
      Raw.ofText " with non-directory")
  else none

/-- Does something with each of some names, and tells whether it was done with all. -/
def allDone (names : List Raw) (action : Raw → Job Bool) : Job Bool :=
  names.foldlM (fun good name => return (← action name) && good) true

/-- Does something with each operand; the status tells whether it was done with all. -/
def forEach (operands : List Raw) (action : Raw → Job Bool) : Job Nat :=
  return if ← allDone operands action then 0 else 1

/-- Decides about something in the place of a target. -/
def meet (call : Call) (manner : Manner) (source old : Status) (target : Raw) : Job Standing := do
  if manner.keepsOld then return .leave
  if manner.updates && source.time ≤ old.time then return .leave
  if manner.asks then
    unless ← call.confirm (Raw.ofText "overwrite " ++ Quote.always target) do return .fail
  if let some suffix := manner.backup then
    if let some location := old.location then
      let name := (location.getLast?.getD "") ++ Raw.toText suffix
      change fun machine => machine.move location (location.dropLast ++ [name])
  return .goOn

/-! ## Copying -/

/-- Puts a link in the place of a target. -/
def placeLink (call : Call) (what : String) (target : Raw) (node : Node) : Job Bool := do
  match (← get).machine.vacant (Raw.toText target) with
  | .ok location => do
      change fun machine => machine.put location node
      return true
  | .error fault => refuse call what target fault

/-- Copies what a file holds. -/
def copyContent (call : Call) (manner : Manner) (source target : Raw) (status : Status)
    (isNew : Bool) : Job Bool := do
  match ← call.openRead source with
  | .error fault => do
      call.complain (Raw.ofText "cannot open " ++ Quote.always source ++
        Raw.ofText (" for reading: " ++ fault.text))
      return false
  | .ok handle =>
      match ← World.takeAll handle with
      | .error fault => do
          call.complain (Raw.ofText "error reading " ++ Quote.always source ++
            Raw.ofText (": " ++ fault.text))
          return false
      | .ok text =>
          match ← World.openPath call.streams .write target with
          | .error fault =>
              let fault := if target.getLast? = some '/' then .notDirectory else fault
              refuse call "cannot create regular file" target fault
          | .ok handle => do
              match ← World.write handle text with
              | .error fault => do
                  call.complain (Raw.ofText "error writing " ++ Quote.always target ++
                    Raw.ofText (": " ++ fault.text))
                  return false
              | .ok () => do
                  if let .ok made ← call.status target then
                    if manner.preserves then
                      setMode made status.mode
                      setTime made status.time
                    else if isNew then
                      setMode made (status.mode &&& 0o777 &&& (0o777 - (← get).umask))
                  return true

/-- Looks at a source and its target before a copy.  Gives what is known of the source and whether
the target is new, or whether all is well if there is nothing more to do. -/
def checkCopy (call : Call) (manner : Manner) (source target : Raw) :
    Job (Except Bool (Status × Bool)) := do
  match ← if manner.keepsLinks then World.statusOfLast source else call.status source with
  | .error fault => return .error (← refuse call "cannot stat" source fault)
  | .ok status => do
      let isDirectory := status.isDirectory
      if isDirectory && !manner.recursive then
        return .error (← refuseText call (Raw.ofText "-r not specified; omitting directory " ++
          Quote.always source))
      match ← World.statusOfLast target, ← call.status target with
      | .error .notFound, _ => return .ok (status, true)
      | .error fault, _ =>
          if target.getLast? = some '/' && fault = .notDirectory then return .ok (status, true)
          return .error (← refuse call "cannot stat" target fault)
      | .ok _, .error _ =>
          if status.target?.isSome then return .ok (status, false)
          return .error (← refuseText call (Raw.ofText "not writing through dangling symlink " ++
            Quote.always target))
      | .ok _, .ok old =>
          if status.isSame old && !isDirectory then
            return .error (← refuseText call (Quote.always source ++ Raw.ofText " and " ++
              Quote.always target ++ Raw.ofText " are the same file"))
          match clash source target isDirectory old.isDirectory with
          | some complaint => return .error (← refuseText call complaint)
          | none =>
              if isDirectory then return .ok (status, false)
              match ← meet call manner status old target with
              | .leave => return .error true
              | .fail => return .error false
              | .goOn => return .ok (status, manner.backup.isSome)

/-- Removes what stands at a path. -/
def clear (path : Raw) : Job Unit := do
  if let .ok old ← World.statusOfLast path then
    if let some location := old.location then change fun machine => machine.eraseAll location

/-- Copies something that is no directory. -/
def copyLeaf (call : Call) (manner : Manner) (source target : Raw) (status : Status)
    (isNew : Bool) : Job Bool := do
  if manner.verbose then
    call.printLine (Quote.always source ++ Raw.ofText " -> " ++ Quote.always target)
  match status.node with
  | .link text => do
      clear target
      placeLink call "cannot create symbolic link" target (.link text)
  | node =>
      if manner.hardLinks then
        if manner.force then clear target
        placeLink call "cannot create hard link" target node
      else if manner.softLinks then
        placeLink call "cannot create symbolic link" target (.link (Raw.toText source))
      else copyContent call manner source target status isNew

/-- Makes the directory into which another one is copied, and gives the names of what lies there. -/
def copyDirectory (call : Call) (manner : Manner) (source target : Raw) (status : Status)
    (isNew : Bool) : Job (Option (List Raw)) := do
  let machine := (← get).machine
  let isInside :=
    match machine.locate (Raw.toText source), machine.locateLast (Raw.toText target) with
    | .ok a, .ok b => a.isPrefixOf b
    | _, _ => false
  if isInside then
    discard <| refuseText call (Raw.ofText "cannot copy a directory, " ++ Quote.always source ++
      Raw.ofText ", into itself, " ++ Quote.always target)
    return none
  if isNew then
    match machine.makeDirectory (Raw.toText target) with
    | .error fault => do
        discard <| refuse call "cannot create directory" target fault
        return none
    | .ok machine => do
        World.modifyMachine fun _ => machine.tick
        if manner.verbose then
          call.printLine (Quote.always source ++ Raw.ofText " -> " ++ Quote.always target)
        if let .ok made ← call.status target then setMode made status.mode
  match machine.locate (Raw.toText source) with
  | .ok location =>
      return some (((machine.tree.namesIn location).map Raw.ofText).mergeSort Raw.precedes)
  | .error _ => return some []

/-- Copies something, with what lies in it; `fuel` bounds how deep. -/
def copy (call : Call) (manner : Manner) : (fuel : Nat) → (source target : Raw) → Job Bool
  | 0, _, _ => return false
  | fuel + 1, source, target => do
      match ← checkCopy call manner source target with
      | .error result => return result
      | .ok (status, isNew) =>
          if !status.isDirectory then copyLeaf call manner source target status isNew
          else
            match ← copyDirectory call manner source target status isNew with
            | none => return false
            | some names =>
                allDone names fun name =>
                  copy call manner fuel (Names.inside source name) (Names.inside target name)

/-! ## Moving -/

/-- Looks at a source and its target before a move.  Gives where the target stands already, or
whether all is well if there is nothing more to do. -/
def checkMove (call : Call) (manner : Manner) (source target : Raw) (status : Status) :
    Job (Except Bool (Option Location)) := do
  let machine := (← get).machine
  match machine.findLast (Raw.toText target) with
  | .error _ => return .ok none
  | .ok (location, node) =>
      let isDirectory := status.isDirectory
      let isSame := status.location = some location
      if isSame && !isDirectory then
        return .error (← refuseText call (Quote.always source ++ Raw.ofText " and " ++
          Quote.always target ++ Raw.ofText " are the same file"))
      match clash source target isDirectory (node = .directory) with
      | some complaint => return .error (← refuseText call complaint)
      | none =>
          if isDirectory && !(machine.tree.namesIn location).isEmpty && !isSame then
            return .error (← refuseText call (Raw.ofText "cannot overwrite " ++
              Quote.always target ++ Raw.ofText ": Directory not empty"))
          match ← meet call manner status (.ofNode machine (some location) node) target with
          | .leave => return .error true
          | .fail => return .error false
          | .goOn => return .ok (some location)

/-- Moves something. -/
def move (call : Call) (manner : Manner) (source target : Raw) : Job Bool := do
  match ← World.statusOfLast source with
  | .error fault => refuse call "cannot stat" source fault
  | .ok status =>
      match ← checkMove call manner source target status with
      | .error result => return result
      | .ok old => do
          let machine := (← get).machine
          let bare := if status.isDirectory then Names.dropSlashes target else target
          let place : Except Fault Location :=
            match old with
            | some location => .ok location
            | none =>
                if bare.getLast? = some '/' then .error .notDirectory
                else machine.vacant (Raw.toText bare)
          match status.location, place with
          | none, _ => return false
          | _, .error fault =>
              refuseText call (Raw.ofText "cannot move " ++ Quote.always source ++
                Raw.ofText " to " ++ Quote.always target ++ Raw.ofText (": " ++ fault.text))
          | some origin, .ok location =>
              if origin.isPrefixOf location then
                refuseText call (Raw.ofText "cannot move " ++ Quote.always source ++
                  Raw.ofText " to a subdirectory of itself, " ++ Quote.always target)
              else do
                change fun machine => machine.move origin location
                if manner.verbose then
                  call.printLine (Raw.ofText "renamed " ++ Quote.always source ++
                    Raw.ofText " -> " ++ Quote.always target)
                return true

def mannerDescription : String :=
  "f/force i/interactive n/no-clobber v/verbose b/ /backup== S/suffix= t/target-directory= " ++
    "T/no-target-directory u/update== /strip-trailing-slashes"

end Place

/-- Copies files. -/
def cp : Tool := fun call =>
  call.withOptions (Place.mannerDescription ++
    " r/recursive R/ a/archive d/ p/ P/no-dereference " ++
    "L/dereference H/ l/link s/symbolic-link x/one-file-system /preserve== /no-preserve= " ++
    "/parents /remove-destination /sparse= /reflink== /attributes-only /copy-contents") 1
    fun options => do
  match ← Place.pairs call options "file" with
  | .error status => return status
  | .ok pairs => do
      let manner := Place.Manner.ofOptions options
      let mut status := 0
      for (source, target) in pairs do
        let target ←
          if options.has "parents" then do
            let base := Names.directory target
            let path := Names.inside base source
            if let .ok machine :=
                (← get).machine.makeDirectories (Raw.toText (Names.directory path)) then
              World.modifyMachine fun _ => machine
            pure path
          else pure target
        unless ← Place.copy call manner 100 source target do status := 1
      return status

/-- Moves files. -/
def mv : Tool := fun call =>
  call.withOptions Place.mannerDescription 1 fun options => do
  match ← Place.pairs call options "file" with
  | .error status => return status
  | .ok pairs => do
      let manner := Place.Manner.ofOptions options
      let good ← pairs.foldlM
        (fun good (source, target) => return (← Place.move call manner source target) && good) true
      return if good then 0 else 1

end ShaderLiterals.Programs
