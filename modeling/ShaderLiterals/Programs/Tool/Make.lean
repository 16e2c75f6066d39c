import ShaderLiterals.Programs.Tool.Place

/-! # Making links, directories and files -/

namespace ShaderLiterals.Programs

open Files (Fault Location Node)

/-! ## Links -/

namespace Place

/-- The path that leads to a target from where a link stands. -/
def relativeTarget (machine : Machine) (target name : Raw) : Raw :=
  match Names.resolve machine false true target,
      Names.resolve machine false true (Names.directory name) with
  | .ok location, .ok base => Raw.ofText (realpath.relative base location)
  | _, _ => target

/-- Makes room for a link in place of something else, and tells whether there is room. -/
def makeRoom (call : Call) (options : Options) (target name : Raw) : Job Bool := do
  let machine := (← get).machine
  match machine.findLast (Raw.toText name) with
  | .error _ => return true
  | .ok (location, node) => do
      if (machine.locate (Raw.toText target)).toOption = some location then
        return ← refuseText call (Quote.always target ++ Raw.ofText " and " ++ Quote.always name ++
          Raw.ofText " are the same file")
      if options.has "interactive" then
        unless ← call.confirm (Raw.ofText "replace " ++ Quote.always name) do return false
      if node = .directory then
        return ← refuseText call (name ++ Raw.ofText ": cannot overwrite directory")
      change fun machine => machine.eraseAll location
      return true

/-- Makes a link with a name that leads to a node. -/
def finishLink (call : Call) (options : Options) (arrow : String) (text name : Raw) (node : Node) :
    Job Bool := do
  let words := if options.has "symbolic" then "symbolic" else "hard"
  unless ← placeLink call s!"failed to create {words} link" name node do return false
  if options.has "verbose" then
    call.printLine (Quote.always name ++ Raw.ofText arrow ++ Quote.always text)
  return true

/-- Makes a link with a name. -/
def link (call : Call) (options : Options) (target name : Raw) : Job Bool := do
  let isSoft := options.has "symbolic"
  let replaces := options.has "force" || options.has "interactive"
  if isSoft then
    if replaces then unless ← makeRoom call options target name do return false
    let machine := (← get).machine
    let text := if options.has "relative" then relativeTarget machine target name else target
    if text.isEmpty then
      return ← refuseText call (Raw.ofText "failed to create symbolic link " ++ Quote.always name ++
        Raw.ofText " -> '': No such file or directory")
    return ← finishLink call options " -> " text name (.link (Raw.toText text))
  match ← World.statusOfLast target with
  | .error fault => refuse call "failed to access" target fault
  | .ok status => do
      if status.isDirectory then
        return ← refuseText call (target ++ Raw.ofText ": hard link not allowed for directory")
      if replaces then unless ← makeRoom call options target name do return false
      finishLink call options " => " target name status.node

end Place

/-- Makes links. -/
def ln : Tool := fun call =>
  call.withOptions ("s/symbolic f/force n/no-dereference v/verbose r/relative i/interactive b/ " ++
    "S/suffix= t/target-directory= T/no-target-directory L/logical P/physical") 1 fun options => do
  match options.value? "target-directory", options.operands with
  | none, [target] =>
      let name := Names.inside ['.'] (Names.last target)
      return if ← Place.link call options target name then 0 else 1
  | none, [target, name] => do
      let keeps := options.has "no-target-directory" ||
        (options.has "no-dereference" &&
          match (← get).machine.findLast (Raw.toText name) with
          | .ok (_, .link _) => true
          | _ => false)
      let name :=
        if !keeps && (← get).machine.isDirectory (Raw.toText name) then
          Names.inside name (Names.last target)
        else name
      return if ← Place.link call options target name then 0 else 1
  | _, _ =>
      match ← Place.pairs call options "file" with
      | .error status => return status
      | .ok pairs => do
          let good ← pairs.foldlM
            (fun good (target, name) => return (← Place.link call options target name) && good) true
          return if good then 0 else 1

/-- Gives a file a second name. -/
def linkTool : Tool := fun call =>
  call.withOptions "" 1 fun options => do
  match options.operands with
  | [] => call.refuseMissing 1
  | [target] => call.refuseUsage 1 (Raw.ofText "missing operand after " ++ Quote.always target)
  | [target, name] => do
      let refuse := fun (fault : Fault) =>
        call.refuse 1 (Raw.ofText "cannot create link " ++ Quote.always name ++
          Raw.ofText " to " ++ Quote.always target ++ Raw.ofText (": " ++ fault.text))
      match ← World.statusOfLast target, (← get).machine.vacant (Raw.toText name) with
      | .error fault, _ | .ok _, .error fault => refuse fault
      | .ok status, .ok location =>
          if status.isDirectory then return ← refuse .notAllowed
          Place.change fun machine => machine.put location status.node
          return 0
  | _ :: _ :: extra :: _ => call.refuseExtra 1 extra

/-! ## Making -/

namespace Place

/-- Tells that a directory was made. -/
def tellMade (call : Call) (path : Raw) : Job Unit :=
  let words := if call.name = "install".toList then "creating" else "created"
  call.printLine (call.name ++ Raw.ofText s!": {words} directory " ++ Quote.always path)

/-- Makes directories of a path one after the other; what stands there already is left alone. -/
def makeAll (call : Call) (verbose : Bool) (done : Raw) : List Raw → Job Bool
  | [] => return true
  | name :: rest => do
      let path := if done.isEmpty then name else Names.inside done name
      if path.isEmpty then return ← makeAll call verbose ['/'] rest
      let machine := (← get).machine
      match machine.find (Raw.toText path) with
      | .ok .directory => makeAll call verbose path rest
      | .ok _ =>
          refuse call "cannot create directory" path
            (if rest.isEmpty then .alreadyThere else .notDirectory)
      | .error _ =>
          match machine.makeDirectory (Raw.toText path) with
          | .error fault => refuse call "cannot create directory" path fault
          | .ok machine => do
              World.modifyMachine fun _ => machine.tick
              if let .ok made ← call.status path then
                setMode made (0o777 - ((← get).umask &&& 0o777))
              if verbose then tellMade call path
              makeAll call verbose path rest

end Place

/-- Makes directories. -/
def mkdir : Tool := fun call =>
  call.withOptions "p/parents m/mode= v/verbose Z/" 1 fun options => do
  if options.operands.isEmpty then return ← call.refuseMissing 1
  let umask := (← get).umask
  let mode :=
    match options.value? "mode" with
    | some text => Mode.change? umask true text 0o777
    | none => some (0o777 - (umask &&& 0o777))
  match mode with
  | none =>
      call.refuse 1 (Raw.ofText "invalid mode " ++ Quote.always ((options.value? "mode").getD []))
  | some mode =>
      Place.forEach options.operands fun path => do
        let good ←
          if options.has "parents" then
            if path.isEmpty then Place.refuse call "cannot create directory" path .notFound
            else
              let names := (Names.dropSlashes path).splitOn '/'
              Place.makeAll call (options.has "verbose") [] names
          else
            match (← get).machine.makeDirectory (Raw.toText path) with
            | .error fault => Place.refuse call "cannot create directory" path fault
            | .ok machine => do
                World.modifyMachine fun _ => machine.tick
                if options.has "verbose" then Place.tellMade call path
                if let .ok made ← call.status path then Place.setMode made mode
                pure true
        if good && options.has "mode" then
          if let .ok made ← call.status path then Place.setMode made mode
        return good

/-- Makes pipes with names. -/
def mkfifo : Tool := fun call =>
  call.withOptions "m/mode= Z/" 1 fun options => do
  if options.operands.isEmpty then return ← call.refuseMissing 1
  Place.forEach options.operands fun path => do
    let world ← get
    match world.machine.vacant (Raw.toText path) with
    | .error fault => Place.refuse call "cannot create fifo" path fault
    | .ok location => do
        let mode := ((options.value? "mode").bind (Mode.change? world.umask false · 0o666)).getD
          (0o666 &&& (0o777 - world.umask))
        let id := world.machine.store.nextId
        Place.change fun machine => (machine.putFile location [] mode).put location (.pipe id)
        return true

namespace Place

/-- Sets the time of a file, which is made if it is not there. -/
def touchOne (call : Call) (creates : Bool) (time : Nat) (path : Raw) : Job Bool := do
  match ← call.status path with
  | .ok status => do
      setTime status time
      change id
      return true
  | .error .notFound => do
      if !creates then return true
      if path.getLast? = some '/' then return ← refuse call "setting times of" path .notFound
      match ← World.openPath call.streams .append path with
      | .error fault => refuse call "cannot touch" path fault
      | .ok _ => do
          if let .ok made ← call.status path then setTime made time
          return true
  | .error fault => refuse call "cannot touch" path fault

end Place

/-- Makes files that are not there, and sets the times of others. -/
def touch : Tool := fun call =>
  call.withOptions ("a/ c/no-create d/date= f/ h/no-dereference m/ r/reference= t/ /time=") 1
    fun options => do
  let now := (← get).machine.clock
  let seconds : Int := (now / 1000000000 : Nat)
  let refuseDate := fun (text : Raw) =>
    call.refuse 1 (Raw.ofText "invalid date format " ++ Quote.always text)
  let mut time := now
  if let some path := options.value? "reference" then
    match ← call.status path with
    | .ok status => time := status.time
    | .error fault => do
        discard <| Place.refuse call "failed to get attributes of" path fault
        return 1
  if let some text := options.value? "date" then
    match Calendar.read? seconds text with
    | some moment => time := moment.toNat * 1000000000
    | none => return ← refuseDate text
  let mut operands := options.operands
  if options.has "t" then
    match operands with
    | [] => return ← call.refuseMissing 1
    | text :: rest =>
        match Calendar.ofDigits? seconds text with
        | some moment => do
            time := moment.toNat * 1000000000
            operands := rest
        | none => return ← refuseDate text
  if operands.isEmpty then return ← call.refuseUsage 1 (Raw.ofText "missing file operand")
  let creates := !options.has "no-create"
  let moment := time
  Place.forEach operands fun path => Place.touchOne call creates moment path

/-! ## Installing -/

namespace Place

/-- Makes the directories of a path. -/
def makePath (call : Call) (verbose : Bool) (path : Raw) : Job Bool :=
  makeAll call verbose [] ((Names.dropSlashes path).splitOn '/')

/-- Copies a file in place of another one, and sets its mode. -/
def install (call : Call) (options : Options) (mode : Nat) (source target : Raw) : Job Bool := do
  match ← call.status source with
  | .error fault => refuse call "cannot stat" source fault
  | .ok status => do
      if status.isDirectory then
        return ← refuseText call (Raw.ofText "omitting directory " ++ Quote.always source)
      if let .ok old ← call.status target then
        if old.isSame status then
          return ← refuseText call (Quote.always source ++ Raw.ofText " and " ++
            Quote.always target ++ Raw.ofText " are the same file")
        if old.isDirectory then
          return ← refuseText call (Raw.ofText "cannot overwrite directory " ++
            Quote.always target ++ Raw.ofText " with non-directory")
        clear target
        if options.has "verbose" then call.printLine (Raw.ofText "removed " ++ Quote.always target)
      if options.has "verbose" then
        call.printLine (Quote.always source ++ Raw.ofText " -> " ++ Quote.always target)
      unless ← copyContent call (.ofOptions options) source target status true do return false
      if let .ok made ← call.status target then setMode made mode
      return true

end Place

/-- Puts copies of files where they are to be used. -/
def install : Tool := fun call =>
  call.withOptions ("b/ /backup== c/ C/compare d/directory D/ g/group= m/mode= o/owner= " ++
    "p/preserve-timestamps s/strip S/suffix= t/target-directory= T/no-target-directory v/verbose") 1
    fun options => do
  match Mode.change? 0 false ((options.value? "mode").getD "755".toList) 0 with
  | none =>
      call.refuse 1 (Raw.ofText "invalid mode " ++ Quote.always ((options.value? "mode").getD []))
  | some mode => do
      if options.has "directory" then
        if options.operands.isEmpty then return ← call.refuseUsage 1 "missing file operand".toList
        return ← Place.forEach options.operands fun path => do
          let good ← Place.makePath call (options.has "verbose") path
          if let .ok made ← call.status path then Place.setMode made mode
          return good
      if options.has "D" then
        let directory :=
          match options.value? "target-directory", options.operands with
          | some directory, _ => directory
          | none, operands => Names.directory (operands.getLastD [])
        unless ← Place.makePath call (options.has "verbose") directory do return 1
      match ← Place.pairs call options "file" with
      | .error status => return status
      | .ok pairs => do
          let good ← pairs.foldlM
            (fun good (source, target) =>
              return (← Place.install call options mode source target) && good) true
          return if good then 0 else 1

end ShaderLiterals.Programs
