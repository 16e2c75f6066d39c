import ShaderLiterals.Programs.Tool.Find.Expression
import ShaderLiterals.Programs.Tool.Remove
import ShaderLiterals.Programs.Tool.Start

/-! # Searching trees of files -/

namespace ShaderLiterals.Programs

open Files (Fault)

namespace Find

/-- A file that is looked at. -/
structure Visit where
  path : Raw
  /-- The operand that the search started with. -/
  start : Raw
  depth : Nat
  status : Status

namespace Visit

/-- The path from the operand on. -/
def inner (visit : Visit) : Raw :=
  (visit.path.drop visit.start.length).dropWhile (· == '/')

/-- The path of the directory that the file lies in. -/
def directory (visit : Visit) : Raw :=
  if visit.path.contains '/' then Names.directory visit.path else ['.']

/-- The letter for what kind of thing the file is. -/
def letter (status : Status) : Char :=
  let c := status.kindLetter
  if c = '-' then 'f' else c

end Visit

/-- How far a search has come. -/
structure Progress where
  world : World
  status : Nat
  /-- Whether what lies in the directory is left out. -/
  prunes : Bool
  quits : Bool
  /-- The paths for commands with many of them, by the numbers of the commands, the last one
  first. -/
  gathered : List (Nat × Running × Raw)

/-- What is done in a search. -/
abbrev Searching := StateM Progress

def inWorld {α : Type} (job : Job α) : Searching α := do
  let progress ← get
  let (result, world) := job progress.world
  set { progress with world := world }
  return result

/-- Complains about a file. -/
def complain (call : Call) (text : Raw) : Searching Unit := do
  inWorld (call.complain text)
  modify ({ · with status := 1 })

def complainPath (call : Call) (path : Raw) (fault : Fault) : Searching Unit :=
  complain call (Quote.always path ++ Raw.ofText (": " ++ fault.text))

/-! ## Formats -/

/-- A time with parts of seconds. -/
def timeField (status : Status) (letter : Char) : Raw :=
  let parts := '.' :: Calendar.digits 9 status.nanoseconds ++ ['0']
  let shown := fun (text : String) => Calendar.format status.seconds status.nanoseconds text.toList
  match letter with
  | '@' => shown "%s" ++ parts
  | '+' => shown "%F+%T" ++ parts
  | 'S' => shown "%S" ++ parts
  | 'T' | 'X' => shown "%T" ++ parts
  | c => Calendar.format status.seconds status.nanoseconds ['%', c]

/-- What a letter after a percent sign stands for. -/
def field (machine : Machine) (visit : Visit) : Char → Option Raw
  | 'p' => some visit.path
  | 'f' => some (if visit.depth = 0 then visit.path else Names.last visit.path)
  | 'h' => some visit.directory
  | 'P' => some visit.inner
  | 'H' => some visit.start
  | 's' => some (Raw.ofNat visit.status.size)
  | 'd' => some (Raw.ofNat visit.depth)
  | 'm' => some (Nat.toDigits 8 visit.status.mode)
  | 'M' => some visit.status.letters
  | 'y' | 'Y' => some [Visit.letter visit.status]
  | 'l' => some (visit.status.target?.getD [])
  | 'n' => some (Raw.ofNat visit.status.links)
  | 'u' | 'g' => some "root".toList
  | 'U' | 'G' => some ['0']
  | 'i' => some (Raw.ofNat (visit.status.serial machine))
  | 'b' => some (Raw.ofNat visit.status.blocks)
  | 'k' => some (Raw.ofNat (visit.status.blocks / 2))
  | 'D' => some (Raw.ofNat 50)
  | 'F' => some "overlay".toList
  | 't' | 'a' | 'c' =>
      some (Calendar.format visit.status.seconds visit.status.nanoseconds
        "%a %b %e %H:%M:%S.%N0 %Y".toList)
  | _ => none

/-- A format filled in; at most `fuel` characters are looked at. -/
def fill (machine : Machine) (visit : Visit) : (fuel : Nat) → Raw → Raw
  | 0, rest => rest
  | _, [] => []
  | _, '\\' :: 'c' :: _ => []
  | fuel + 1, '\\' :: c :: rest =>
      let digits := ((c :: rest).take 3).takeWhile (Digits.isDigit 8)
      match Raw.control? c, digits with
      | some control, _ => control :: fill machine visit fuel rest
      | none, [] =>
          if c = 'b' then '\x08' :: fill machine visit fuel rest
          else if c = '\\' then '\\' :: fill machine visit fuel rest
          else '\\' :: c :: fill machine visit fuel rest
      | none, digits =>
          Raw.byte ((Digits.number? 8 digits).getD 0) ::
            fill machine visit fuel ((c :: rest).drop digits.length)
  | fuel + 1, '%' :: rest =>
      let flags := rest.takeWhile fun c => c = '-' || c = '0' || c = '#' || c = ' ' || c = '+'
      let after := rest.drop flags.length
      let width := after.takeWhile Char.isDigit
      let shown := fun (text : Raw) =>
        let n := (Raw.nat? width).getD 0
        if flags.contains '-' then Raw.padRight n text else Raw.padLeft ' ' n text
      match after.drop width.length with
      | [] => ['%']
      | '%' :: rest => '%' :: fill machine visit fuel rest
      | letter :: rest =>
          match if ['T', 'A', 'C'].contains letter then rest else [] with
          | c :: rest => shown (timeField visit.status c) ++ fill machine visit fuel rest
          | [] =>
              (match field machine visit letter with
              | some text => shown text
              | none => ['%', letter]) ++ fill machine visit fuel rest
  | fuel + 1, c :: rest => c :: fill machine visit fuel rest

/-- A line with all that there is to know. -/
def listLine (machine : Machine) (visit : Visit) : Raw :=
  let status := visit.status
  let now : Int := (machine.clock / 1000000000 : Nat)
  let format := if now - status.seconds < 15778476 then "%b %e %H:%M" else "%b %e  %Y"
  Raw.right 9 (status.serial machine) ++ [' '] ++ Raw.right 6 (status.blocks / 2) ++ [' '] ++
    status.letters ++ [' '] ++ Raw.right 3 status.links ++ Raw.ofText " root     root     " ++
    Raw.right 8 status.size ++ [' '] ++
    Calendar.format status.seconds status.nanoseconds format.toList ++ [' '] ++ visit.path ++
    match status.target? with
    | some target => Raw.ofText " -> " ++ target
    | none => []

/-! ## Conditions and actions -/

/-- Whether a pattern matches a text. -/
def fits (folded : Bool) (pattern : List Glob) (text : Raw) : Bool :=
  Glob.isMatch pattern (if folded then text.map Char.toLower else text)

/-- Whether a condition holds that needs nothing but what is known of the file. -/
def Primary.holds (machine : Machine) (visit : Visit) : Primary → Bool
  | .always value => value
  | .name folded pattern => fits folded pattern (Names.last visit.path)
  | .path folded pattern => fits folded pattern visit.path
  | .target folded pattern => (visit.status.target?).any (fits folded pattern)
  | .regex pattern => (pattern.on visit.path).matchesAll
  | .kind false letters => letters.contains [Visit.letter visit.status]
  | .size unit amount => amount.holds ((visit.status.size + unit - 1) / unit)
  | .empty =>
      match visit.status.node with
      | .directory => (machine.tree.namesIn (visit.status.location.getD [])).isEmpty
      | .file _ => visit.status.size = 0
      | _ => false
  | .days amount => amount.holds ((machine.clock - visit.status.time) / 86400000000000)
  | .minutes amount => amount.holdsOf (machine.clock - visit.status.time) 60000000000
  | .newer time => decide (time < visit.status.time)
  | .rights wanted => wanted.holds visit.status.mode
  | .links amount => amount.holds visit.status.links
  | .serial amount => amount.holds (visit.status.serial machine)
  | .same status => visit.status.isSame status
  | _ => true

/-- The words of a command with a path in the place of braces. -/
def Running.on (running : Running) (path : Raw) : List Raw :=
  running.words.map fun word => replaceBraces path word.length word
where
  replaceBraces (path : Raw) : (fuel : Nat) → Raw → Raw
    | 0, rest => rest
    | _, [] => []
    | fuel + 1, '\x7b' :: '\x7d' :: rest => path ++ replaceBraces path fuel rest
    | fuel + 1, c :: rest => c :: replaceBraces path fuel rest

/-- Runs a command, in another directory if one is given. -/
def start (starter : Starter) (call : Call) (words : List Raw) (directory : Option Raw) :
    Searching Bool := do
  match words with
  | [] => return false
  | name :: args => do
      let here := (← get).world.machine.here
      if let some directory := directory then
        if let .ok location := (← get).world.machine.locate (Raw.toText directory) then
          inWorld (World.modifyMachine fun machine => { machine with here := location })
      let result ← inWorld (starter { call with name := name, args := args })
      inWorld (World.modifyMachine fun machine => { machine with here := here })
      match result with
      | .ok ending => return ending.isSuccess
      | .error fault => do
          inWorld (call.complain (Quote.always name ++ Raw.ofText (": " ++ fault.text)))
          return false

/-- Removes the file that is looked at. -/
def erase (call : Call) (visit : Visit) : Searching Bool := do
  let machine := (← get).world.machine
  let location := visit.status.location.getD []
  if visit.path = ['.'] then return true
  if visit.status.isDirectory && !(machine.tree.namesIn location).isEmpty then
    complain call (Raw.ofText "cannot delete " ++ Quote.always visit.path ++
      Raw.ofText (": " ++ Fault.notEmpty.text))
    return false
  inWorld (World.modifyMachine fun machine => (machine.eraseAll location).tick)
  return true

/-- Does what a primary says, and tells whether it holds. -/
def perform (starter : Starter) (call : Call) (visit : Visit) : Primary → Searching Bool
  | .prune => do modify ({ · with prunes := true }); return true
  | .quit => do modify ({ · with quits := true }); return true
  | .delete => erase call visit
  | .print ending => do inWorld (call.print (visit.path ++ [ending])); return true
  | .printTo handle ending => do
      discard <| inWorld (World.write handle (visit.path ++ [ending]))
      return true
  | .format text => do
      let machine := (← get).world.machine
      inWorld (call.print (fill machine visit text.length text))
      return true
  | .list => do
      let machine := (← get).world.machine
      inWorld (call.printLine (listLine machine visit))
      return true
  | .run running =>
      if running.inPlace then
        start starter call (running.on ("./".toList ++ Names.last visit.path)) visit.directory
      else start starter call (running.on visit.path) none
  | .gather number running => do
      let path := if running.inPlace then "./".toList ++ Names.last visit.path else visit.path
      modify fun progress =>
        { progress with gathered := (number, running, path) :: progress.gathered }
      return true
  | .executable => do
      match ← inWorld (call.status visit.path) with
      | .ok status => return status.isExecutable
      | .error _ => return false
  | .kind true letters => do
      match ← inWorld (call.status visit.path) with
      | .ok status => return letters.contains [Visit.letter status]
      | .error _ => return letters.contains ['l']
  | primary => return Primary.holds (← get).world.machine visit primary

/-- Does what an expression says, and tells whether it holds. -/
def Expression.perform (starter : Starter) (call : Call) (visit : Visit) :
    Expression → Searching Bool
  | .primary p => Find.perform starter call visit p
  | .not e => do return !(← perform starter call visit e)
  | .both a b => do
      if (← perform starter call visit a) && !(← get).quits then perform starter call visit b
      else return false
  | .either a b => do
      if ← perform starter call visit a then return true
      else if (← get).quits then return false
      else perform starter call visit b
  | .series a b => do
      discard <| perform starter call visit a
      if (← get).quits then return false else perform starter call visit b

/-! ## Trees -/

/-- What is searched for. -/
structure Plan where
  setting : Setting
  expression : Expression
  /-- Whether links among the operands are followed. -/
  followsFirst : Bool

/-- What is known of a file, links followed if they are to be. -/
def Plan.look (plan : Plan) (call : Call) (path : Raw) (depth : Nat) :
    Searching (Except Fault Status) := do
  if plan.setting.follows || plan.followsFirst && depth = 0 then
    match ← inWorld (call.status path) with
    | .ok status => return .ok status
    | .error _ => inWorld (World.statusOfLast path)
  else inWorld (World.statusOfLast path)

/-- Looks at a file that is deep enough. -/
def Plan.meet (plan : Plan) (starter : Starter) (call : Call) (visit : Visit) :
    Searching Unit := do
  modify ({ · with prunes := false })
  if plan.setting.least ≤ visit.depth then
    discard <| plan.expression.perform starter call visit

/-- The names of what lies in a directory that is still there. -/
def namesIn (call : Call) (visit : Visit) : Searching (List Raw) := do
  let machine := (← get).world.machine
  let location := visit.status.location.getD []
  if machine.tree.get? location != some .directory then
    complainPath call visit.path .notFound
    return []
  return ((machine.tree.namesIn location).map Raw.ofText).mergeSort Raw.precedes

/-- Goes through a tree; `fuel` bounds how deep. -/
def walk (plan : Plan) (starter : Starter) (call : Call) (root : Raw) :
    (fuel : Nat) → (depth : Nat) → (path : Raw) → Searching Unit
  | 0, _, path => complainPath call path .tooManyLinks
  | fuel + 1, depth, path => do
      if (← get).quits then return
      match ← plan.look call path depth with
      | .error fault => complainPath call path fault
      | .ok status => do
          let visit : Visit := ⟨path, root, depth, status⟩
          unless plan.setting.depthFirst do plan.meet starter call visit
          let descends := status.isDirectory && plan.setting.most.all (depth < ·) &&
            !(← get).quits && (plan.setting.depthFirst || !(← get).prunes)
          if descends then
            for name in ← namesIn call visit do
              walk plan starter call root fuel (depth + 1) (Names.inside path name)
          if plan.setting.depthFirst && !(← get).quits then plan.meet starter call visit

/-- How deep trees are gone through. -/
def depthLimit : Nat := 60

/-- Runs the commands for which paths were gathered. -/
def runGathered (starter : Starter) (call : Call) : Searching Unit := do
  let gathered := (← get).gathered.reverse
  let numbers := (gathered.map Prod.fst).eraseDups
  for number in numbers.mergeSort fun a b => b ≤ a do
    let own := gathered.filter (·.1 = number)
    match own with
    | [] => pure ()
    | (_, running, _) :: _ =>
        let words := running.words ++ own.map fun e => e.2.2
        unless ← start starter call words none do modify ({ · with status := 1 })

/-- The options before the operands: whether links are followed, and whether those among the
operands are. -/
def readFollowing : (follows first : Bool) → List Raw → Bool × Bool × List Raw
  | _, _, ['-', 'L'] :: rest => readFollowing true true rest
  | _, _, ['-', 'P'] :: rest => readFollowing false false rest
  | _, _, ['-', 'H'] :: rest => readFollowing false true rest
  | follows, first, ['-', '-'] :: rest => (follows, first, rest)
  | follows, first, ['-', 'D'] :: _ :: rest => readFollowing follows first rest
  | follows, first, ['-', 'O', _] :: rest => readFollowing follows first rest
  | follows, first, rest => (follows, first, rest)

/-- Whether a word is no operand any more. -/
def startsExpression (word : Raw) : Bool :=
  match word with
  | '-' :: _ :: _ => true
  | ['('] | ['!'] => true
  | _ => false

end Find

/-- Looks for files in trees. -/
def find (starter : Starter) (call : Call) : Job Ending := do
  let refuse := fun (text : Raw) => do
    call.complain text
    return Ending.exited 1
  let (follows, followsFirst, args) := Find.readFollowing false false call.args
  let operands := args.takeWhile (!Find.startsExpression ·)
  let args := args.drop operands.length
  let setting : Find.Setting := ⟨0, none, false, follows, "findutils-default".toList⟩
  match ← Find.readWords call (args.length + 1) none ⟨[], setting⟩ args with
  | .error text => refuse text
  | .ok words =>
      match Find.Expression.ofTokens words.tokens.reverse with
      | .error text => refuse text
      | .ok expression => do
          let plan : Find.Plan := ⟨words.setting, expression, followsFirst⟩
          let search : Find.Searching Unit := do
            for root in if operands.isEmpty then [['.']] else operands do
              Find.walk plan starter call root Find.depthLimit 0 root
            Find.runGathered starter call
          let (_, progress) := search.run ⟨← get, 0, false, false, []⟩
          set progress.world
          return .exited progress.status

end ShaderLiterals.Programs
