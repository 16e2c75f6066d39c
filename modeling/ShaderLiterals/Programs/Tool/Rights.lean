import ShaderLiterals.Programs.Tool.Place

/-! # Changing the rights that files give, and whose they are -/

namespace ShaderLiterals.Programs

open Files (Fault Location Node)

namespace Place

/-- A mode in digits and in letters. -/
def modeText (mode : Nat) : Raw :=
  Raw.padLeft '0' 4 (Nat.toDigits 8 mode) ++ Raw.ofText " (" ++ Mode.letters mode ++ [')']

/-- Complains about something whose mode cannot be changed. -/
def refuseMode (call : Call) (options : Options) (path : Raw) (fault : Fault) : Job Bool := do
  let complains := !options.has "silent"
  match ← World.statusOfLast path with
  | .ok _ =>
      if complains then
        call.complain (Raw.ofText "cannot operate on dangling symlink " ++ Quote.always path)
  | .error _ => do
      if complains then discard <| refuse call "cannot access" path fault
      if options.has "verbose" then
        call.printLine (Quote.always path ++ Raw.ofText " could not be accessed")
  return false

/-- Changes the mode of something. -/
def changeOne (call : Call) (options : Options) (path : Raw) (status : Status) (mode : Nat) :
    Job Unit := do
  setMode status mode
  if mode != status.mode && (options.has "verbose" || options.has "changes") then
    call.printLine (Raw.ofText "mode of " ++ Quote.always path ++ Raw.ofText " changed from " ++
      modeText status.mode ++ Raw.ofText " to " ++ modeText mode)
  else if options.has "verbose" then
    call.printLine (Raw.ofText "mode of " ++ Quote.always path ++ Raw.ofText " retained as " ++
      modeText mode)

/-- The paths of what lies in a directory, but for links. -/
def innerPaths (path : Raw) (status : Status) : Job (List Raw) := do
  let machine := (← get).machine
  let names := (machine.tree.namesIn (status.location.getD [])).map Raw.ofText
  return ((names.mergeSort Raw.precedes).map (Names.inside path)).filter fun inner =>
    match machine.findLast (Raw.toText inner) with
    | .ok (_, .link _) => false
    | _ => true

/-- Changes the mode of something, and of what lies in it if that is wanted. -/
def changeMode (call : Call) (options : Options) (mode : Status → Option Nat) :
    (fuel : Nat) → (path : Raw) → Job Bool
  | 0, _ => return false
  | fuel + 1, path => do
      match ← call.status path with
      | .error fault => refuseMode call options path fault
      | .ok status => do
          changeOne call options path status ((mode status).getD status.mode)
          if options.has "recursive" && status.isDirectory then
            allDone (← innerPaths path status) (changeMode call options mode fuel)
          else return true

/-- How deep modes are changed. -/
def modeDepth : Nat := 100

/-- Whether an argument is a mode although it begins with a hyphen. -/
def isModeArgument : Raw → Bool
  | '-' :: c :: _ => "rwxXstugoa,+=01234567".toList.contains c
  | _ => false

end Place

/-- Changes who may do what with files. -/
def chmod : Tool := fun call => do
  let front := call.args.takeWhile fun arg => !Place.isModeArgument arg && arg != ['-', '-']
  let (args, mode?) :=
    match call.args.drop front.length with
    | arg :: rest => if arg = ['-', '-'] then (call.args, none) else (front ++ rest, some arg)
    | [] => (call.args, none)
  { call with args := args }.withOptions
    "c/changes f/silent,quiet v/verbose R/recursive /reference= /preserve-root /no-preserve-root" 1
    fun options => do
  let umask := (← get).umask
  match options.value? "reference" with
  | some path =>
      match ← call.status path with
      | .error fault => do
          discard <| Place.refuse call "failed to get attributes of" path fault
          return 1
      | .ok model =>
          Place.forEach options.operands
            (Place.changeMode call options (fun _ => some model.mode) Place.modeDepth)
  | none =>
      let (mode, operands) :=
        match mode? with
        | some mode => (mode, options.operands)
        | none => (options.operands.headD [], options.operands.drop 1)
      if mode?.isNone && options.operands.isEmpty then return ← call.refuseMissing 1
      if operands.isEmpty then
        return ← call.refuseUsage 1 (Raw.ofText "missing operand after " ++ Quote.always mode)
      if (Mode.change? umask false mode 0).isNone then
        return ← call.refuseUsage 1 (Raw.ofText "invalid mode: " ++ Quote.always mode)
      Place.forEach operands
        (Place.changeMode call options
          (fun status => Mode.change? umask status.isDirectory mode status.mode) Place.modeDepth)

/-! ## Owners

All files are the first user's. -/

/-- The names of the users, which are those of their groups as well. -/
def userNames : List String :=
  ["root", "daemon", "bin", "sys", "games", "man", "lp", "mail", "news", "uucp", "proxy",
    "www-data", "backup", "list", "irc", "nobody"]

namespace Place

/-- Whether a text names a user or a group, by a number or a name. -/
def isOwner (text : Raw) : Bool :=
  (Raw.nat? text).isSome || userNames.contains (Raw.toText text)

/-- What is wrong with the name of an owner, perhaps with a group behind a colon. -/
def ownerFault? (text : Raw) : Option String :=
  match text.splitOn ':' with
  | [user] => if user.isEmpty || isOwner user then none else some "user"
  | [user, group] =>
      if !user.isEmpty && !isOwner user then some "user"
      else if !group.isEmpty && !isOwner group then some "group"
      else none
  | _ => some "user"

/-- What is wrong with the name of a group. -/
def groupFault? (text : Raw) : Option String :=
  if text.isEmpty || isOwner text then none else some "group"

/-- Gives files to somebody. -/
def giveTo (what : String) (fault? : Raw → Option String) : Tool := fun call =>
  call.withOptions ("c/changes f/silent,quiet v/verbose R/recursive h/no-dereference " ++
    "/dereference H/ L/ P/ /from= /reference= /preserve-root /no-preserve-root") 1 fun options => do
  let give := fun (path : Raw) => do
    match ← call.status path with
    | .ok _ => do
        if options.has "verbose" then
          call.printLine (Raw.ofText s!"{what} of " ++ Quote.always path ++
            Raw.ofText " retained as root")
        return true
    | .error fault =>
        if options.has "silent" then return false
        refuse call "cannot access" path fault
  match options.value? "reference", options.operands with
  | some path, operands => do
      if operands.isEmpty then return ← call.refuseMissing 1
      match ← call.status path with
      | .ok _ => forEach operands give
      | .error fault => do
          discard <| refuse call "failed to get attributes of" path fault
          return 1
  | none, [] => call.refuseMissing 1
  | none, [owner] =>
      call.refuseUsage 1 (Raw.ofText "missing operand after " ++ Quote.always owner)
  | none, owner :: operands =>
      match fault? owner with
      | some kind => call.refuse 1 (Raw.ofText s!"invalid {kind}: " ++ Quote.always owner)
      | none => forEach operands give

end Place

/-- Gives files to a user. -/
def chown : Tool := Place.giveTo "ownership" Place.ownerFault?

/-- Gives files to a group. -/
def chgrp : Tool := Place.giveTo "group" Place.groupFault?

end ShaderLiterals.Programs
