import ShaderLiterals.Programs.Awk.Builtin

/-! # Running record scripts -/

namespace ShaderLiterals.Programs.Awk

/-- How expressions and actions inside of others are dealt with. -/
structure Evaluator where
  eval : Expr → Work Value
  perform : Action → Work Unit

namespace Evaluator

/-! ## Values -/

def text (evaluator : Evaluator) (e : Expr) : Work Raw := do toRaw (← evaluator.eval e)

/-- The pattern that an expression stands for where one is needed. -/
def patternOf (evaluator : Evaluator) (e : Expr) : Work Pattern := do
  match e with
  | .regex s => pattern s
  | e => pattern (← evaluator.text e)

/-- The key that some values make. -/
def key (evaluator : Evaluator) (keys : List Expr) : Work Raw := do
  let parts ← keys.mapM evaluator.text
  return ((← get).textOf "SUBSEP").intercalate parts

/-- Something to which a value can be given. -/
inductive Target where
  | name (name : Raw)
  | item (array key : Raw)
  | field (n : Int)

/-- What an expression stands for on the left side of an assignment. -/
def target (evaluator : Evaluator) : Expr → Work Target
  | .name name => return .name name
  | .item array keys => do return .item array (← evaluator.key keys)
  | .field number => do return .field (← evaluator.eval number).toInt
  | _ => fail (Raw.ofText "line 1: syntax error")

/-- The value of a target; an item is there afterwards. -/
def Target.get : Target → Work Value
  | name n => getVariable n
  | item array key => do
      match (← table array).get? key with
      | some v => return v
      | none => do
          modifyTable array fun t => t.put key .unset
          return .unset
  | field n => getField n

def Target.set (v : Value) : Target → Work Unit
  | name n => setVariable n v
  | item array key => modifyTable array fun t => t.put key v
  | field n => setField n v

/-! ## Functions -/

/-- What a function gets for an argument: a name that has no value yet may become a table. -/
def argument (evaluator : Evaluator) (e : Expr) : Work Slot := do
  match e with
  | .name name => do
      let s ← get
      match s.slot? name with
      | some (.shared number) => return .shared number
      | some (.scalar .unset) | none =>
          if name = ['N', 'F'] then return .scalar (← getVariable name)
          return .shared (← tableNumber name)
      | some (.scalar v) => return .scalar v
  | e => return .scalar (← evaluator.eval e)

/-- Calls a function of the script. -/
def callFunction (evaluator : Evaluator) (name : Raw) (args : List Expr) : Work Value := do
  match (← get).functions.find? (·.name = name) with
  | none => fail (Raw.ofText "line 1: function " ++ name ++ Raw.ofText " never defined")
  | some f => do
      if f.parameters.length < args.length then
        fail (Raw.ofText "line 1: too many arguments in call to " ++ name)
      let slots ← args.mapM evaluator.argument
      let missing := List.replicate (f.parameters.length - slots.length) (Slot.scalar .unset)
      let outer := (← get).locals
      modify ({ · with locals := f.parameters.zip (slots ++ missing) })
      ExceptT.mk do
        let result ← (evaluator.perform f.body).run
        modify ({ · with locals := outer })
        match result with
        | .ok () => return .ok .unset
        | .error (.back v) => return .ok v
        | .error flow => return .error flow

/-- Replaces matches in a target. -/
def substituteIn (evaluator : Evaluator) (all : Bool) (re new : Expr) (e : Expr) : Work Value := do
  let pattern ← evaluator.patternOf re
  let new ← evaluator.text new
  let (text, target) ←
    match e with
    | .name _ | .item .. | .field _ => do
        let target ← evaluator.target e
        let text ← toRaw (← target.get)
        pure (text, some target)
    | e => do
        let text ← evaluator.text e
        pure (text, none)
  let (result, count) := Builtin.substitute all pattern new text
  if let some target := target then
    if 0 < count then target.set (.text result)
  return .ofNat count

/-- Splits a text and fills a table with the pieces. -/
def splitInto (evaluator : Evaluator) (e : Expr) (array : Raw) (separator : Option Expr) :
    Work Value := do
  let text ← evaluator.text e
  let pieces ←
    match separator with
    | none => do split ((← get).textOf "FS") text
    | some (.regex s) => if text.isEmpty then pure [] else (splitAt · text) <$> pattern s
    | some e => do split (← evaluator.text e) text
  modifyTable array fun _ => Table.ofList (pieces.map .input)
  return .ofNat pieces.length

/-- Looks for a match and remembers where it is. -/
def matchIn (evaluator : Evaluator) (e re : Expr) : Work Value := do
  let text ← evaluator.text e
  let found := ((← evaluator.patternOf re).on text).find? 0
  let (start, length) : Nat × Int :=
    match found with
    | some m => (m.start + 1, m.stop - m.start)
    | none => (0, -1)
  setVariable "RSTART".toList (.ofNat start)
  setVariable "RLENGTH".toList (.number (Float.ofInt length))
  return .ofNat start

/-- Calls a function that every script has. -/
def callBuiltin (evaluator : Evaluator) (name : String) (args : List Expr) : Work Value := do
  match name, args with
  | "length", [] => return .ofNat (← get).record.length
  | "length", [.name array] => do
      match (← get).slot? array with
      | some (.shared number) => return .ofNat ((← get).tables.getD number .empty).size
      | _ => return .ofNat (← evaluator.text (.name array)).length
  | "sub", re :: new :: rest =>
      evaluator.substituteIn false re new (rest.headD (.field (.number 0)))
  | "gsub", re :: new :: rest =>
      evaluator.substituteIn true re new (rest.headD (.field (.number 0)))
  | "split", e :: .name array :: rest => evaluator.splitInto e array rest.head?
  | "match", [e, re] => evaluator.matchIn e re
  | "sprintf", format :: rest => do
      let format ← evaluator.text format
      return .text (← filled "sprintf" format (← rest.mapM evaluator.eval))
  | "system", [e] => do Builtin.system (← evaluator.text e)
  | "close", [e] => do return .number (Float.ofInt (← close (← evaluator.text e)))
  | "fflush", _ => do
      flush
      return .number 0
  | "rand", _ => Builtin.random
  | "srand", [] => do Builtin.seed ((← get).world.machine.clock / 1000000000)
  | "srand", e :: _ => do Builtin.seed (← evaluator.eval e).toInt.toNat
  | name, args => do
      let values ← args.mapM evaluator.eval
      let s ← get
      match Builtin.ofValues? s.format s.world.machine.clock name values with
      | some v => return v
      | none => fail (Raw.ofText s!"line 1: wrong number of arguments in call to {name}")

/-! ## Expressions -/

/-- Gives a record that was read to a target, or makes it the record. -/
def receive (evaluator : Evaluator) (e : Option Expr) (record : Raw) : Work Unit := do
  match e with
  | none => setRecord record
  | some e => do (← evaluator.target e).set (.input record)

/-- Reads a record. -/
def read (evaluator : Evaluator) (supply : Supply) (source target : Option Expr) : Work Value := do
  let next : Except Unit (Option Raw) ←
    match supply, source with
    | .operands, _ | _, none => do pure (.ok (← takeRecord))
    | .file, some e => do supplied false (← evaluator.text e)
    | .command, some e => do supplied true (← evaluator.text e)
  match next with
  | .error () => return .number (-1)
  | .ok none => return .number 0
  | .ok (some record) => do
      evaluator.receive target record
      return .number 1

def holds (comparison : Comparison) (order : Option Ordering) : Bool :=
  match comparison, order with
  | .less, some .lt | .lessOrEqual, some .lt | .lessOrEqual, some .eq | .equal, some .eq => true
  | .greater, some .gt | .greaterOrEqual, some .gt | .greaterOrEqual, some .eq => true
  | .unequal, order => order != some .eq
  | _, _ => false

/-- The value of an expression that assigns. -/
def assign (evaluator : Evaluator) (op : Option Operator) (left right : Expr) : Work Value := do
  match op with
  | none => do
      let v ← evaluator.eval right
      (← evaluator.target left).set v
      return v
  | some op => do
      let right := (← evaluator.eval right).toFloat
      let target ← evaluator.target left
      let v := Value.number (Builtin.calculate op (← target.get).toFloat right)
      target.set v
      return v

/-- The value of a target that is made one more or less. -/
def stepBy (evaluator : Evaluator) (givesNew up : Bool) (e : Expr) : Work Value := do
  let target ← evaluator.target e
  let old := (← target.get).toFloat
  let new := if up then old + 1 else old - 1
  target.set (.number new)
  return .number (if givesNew then new else old)

def isTrue (evaluator : Evaluator) (e : Expr) : Work Bool := do
  return (← evaluator.eval e).isTrue

/-- The value of an expression, given how those inside of it are evaluated. -/
def evalWith (evaluator : Evaluator) : Expr → Work Value
  | .number x => return .number x
  | .text s => return .text s
  | .regex s => do return .ofBool ((← pattern s).on (← get).record).hasMatch
  | .name name => getVariable name
  | .item array keys => do (Target.item array (← evaluator.key keys)).get
  | .field number => do getField (← evaluator.eval number).toInt
  | .group e => evaluator.eval e
  | .assign op left right => evaluator.assign op left right
  | .step givesNew up e => evaluator.stepBy givesNew up e
  | .choose c yes no => do if ← evaluator.isTrue c then evaluator.eval yes else evaluator.eval no
  | .both a b => do
      if ← evaluator.isTrue a then return .ofBool (← evaluator.isTrue b) else return .ofBool false
  | .either a b => do
      if ← evaluator.isTrue a then return .ofBool true else return .ofBool (← evaluator.isTrue b)
  | .not e => do return .ofBool !(← evaluator.isTrue e)
  | .negate e => do return .number (-(← evaluator.eval e).toFloat)
  | .plus e => do return .number (← evaluator.eval e).toFloat
  | .calculate op a b => do
      let x := (← evaluator.eval a).toFloat
      let y := (← evaluator.eval b).toFloat
      return .number (Builtin.calculate op x y)
  | .join a b => do
      let a ← evaluator.text a
      return .text (a ++ (← evaluator.text b))
  | .compare comparison a b => do
      let a ← evaluator.eval a
      let b ← evaluator.eval b
      return .ofBool (holds comparison (a.compare (← get).format b))
  | .hits wanted e re => do
      let text ← evaluator.text e
      return .ofBool (((← evaluator.patternOf re).on text).hasMatch = wanted)
  | .member keys array => do
      let key ← evaluator.key keys
      return .ofBool ((← table array).get? key).isSome
  | .call name args => evaluator.callFunction name args
  | .builtin name args => evaluator.callBuiltin name args
  | .read supply source target => evaluator.read supply source target

/-! ## Actions -/

/-- What a print prints. -/
def printed (evaluator : Evaluator) (formatted : Bool) (args : List Expr) : Work Raw := do
  let values ← args.mapM evaluator.eval
  let s ← get
  match formatted, values with
  | true, format :: rest => filled "printf" (format.toRaw s.format) rest
  | _, [] => return s.record ++ s.textOf "ORS"
  | _, values =>
      let format := s.textOf "OFMT"
      return (s.textOf "OFS").intercalate (values.map (·.toRaw format)) ++ s.textOf "ORS"

/-- How a round of a loop came to its end. -/
def round (body : Work Unit) : Work Bool :=
  ExceptT.mk do
    match ← body.run with
    | .ok () | .error .again => return .ok true
    | .error .leave => return .ok false
    | .error flow => return .error flow

/-- Repeats an action as long as a condition holds, at most `limit` times. -/
def repeatRounds (evaluator : Evaluator) (condition : Option Expr) (body last : Action) :
    (limit : Nat) → Work Unit
  | 0 => fail (Raw.ofText "run time error: loop without end")
  | limit + 1 => do
      let goesOn ←
        match condition with
        | none => pure true
        | some e => evaluator.isTrue e
      if goesOn then
        if ← round (evaluator.perform body) then
          evaluator.perform last
          repeatRounds evaluator condition body last limit

/-- Performs an action for each of some keys. -/
def forKeys (evaluator : Evaluator) (name : Raw) (body : Action) : List Raw → Work Unit
  | [] => return
  | key :: rest => do
      setVariable name (.text key)
      if ← round (evaluator.perform body) then forKeys evaluator name body rest

/-- How often a loop may go round. -/
def roundLimit : Nat := 10000000

/-- Performs an action, given how what is inside of it is dealt with. -/
def performWith (evaluator : Evaluator) : Action → Work Unit
  | .nothing => return
  | .eval e => do discard <| evaluator.eval e
  | .print formatted args outlet => do
      let text ← evaluator.printed formatted args
      match outlet with
      | none => emit text
      | some (kind, e) => do emitTo kind (← evaluator.text e) text
  | .branch e yes no => do
      if ← evaluator.isTrue e then evaluator.perform yes else evaluator.perform no
  | .repeatWhile e body => evaluator.repeatRounds (some e) body .nothing roundLimit
  | .repeatAfter body e => do
      if ← round (evaluator.perform body) then
        evaluator.repeatRounds (some e) body .nothing roundLimit
  | .loop first e last body => do
      evaluator.perform first
      evaluator.repeatRounds e body last roundLimit
  | .loopKeys name array body => do evaluator.forKeys name body (← table array).keys
  | .sequence first second => do
      evaluator.perform first
      evaluator.perform second
  | .leave => throw .leave
  | .again => throw .again
  | .next => throw .next
  | .nextFile => do
      modify ({ · with current := none })
      throw .next
  | .exit e => do
      if let some e := e then
        let n := (← evaluator.eval e).toInt
        modify ({ · with status := (n % 256).toNat })
      throw .exit
  | .back e => do
      match e with
      | none => throw (.back .unset)
      | some e => throw (.back (← evaluator.eval e))
  | .delete array none => modifyTable array fun _ => .empty
  | .delete array (some keys) => do
      let key ← evaluator.key keys
      modifyTable array fun t => t.erase key

end Evaluator

mutual

/-- The value of an expression; `fuel` bounds how deep expressions, actions and calls nest. -/
def eval : (fuel : Nat) → Expr → Work Value
  | 0, _ => fail (Raw.ofText "run time error: evaluation too deep")
  | fuel + 1, e => Evaluator.evalWith ⟨eval fuel, perform fuel⟩ e

/-- Performs an action. -/
def perform : (fuel : Nat) → Action → Work Unit
  | 0, _ => fail (Raw.ofText "run time error: evaluation too deep")
  | fuel + 1, action => Evaluator.performWith ⟨eval fuel, perform fuel⟩ action

end

/-- How deep expressions, actions and calls may nest. -/
def depthLimit : Nat := 1000000

def evaluator : Evaluator := ⟨eval depthLimit, perform depthLimit⟩

/-! ## Rules -/

/-- Whether a rule is to be applied to the record; its place is `number`. -/
def Rule.applies (rule : Rule) (number : Nat) : Work Bool := do
  match rule.condition with
  | .begin | .finish => return false
  | .always => return true
  | .when e => evaluator.isTrue e
  | .span first last => do
      if !(← get).spans.contains number then
        if !(← evaluator.isTrue first) then return false
        modify fun s => { s with spans := number :: s.spans }
      if ← evaluator.isTrue last then
        modify fun s => { s with spans := s.spans.filter (· != number) }
      return true

/-- Applies rules to the record. -/
def applyAll : List (Rule × Nat) → Work Unit
  | [] => return
  | (rule, number) :: rest => do
      if ← rule.applies number then evaluator.perform rule.action
      applyAll rest

/-- Applies rules to all records, at most `limit` of them. -/
def applyToRecords (rules : List (Rule × Nat)) : (limit : Nat) → Work Unit
  | 0 => return
  | limit + 1 => do
      match ← takeRecord with
      | none => return
      | some record => do
          setRecord record
          ExceptT.mk do
            match ← (applyAll rules).run with
            | .error .next => return .ok ()
            | result => return result
          applyToRecords rules limit

/-- Does something up to an exit, and tells whether there was one. -/
def upToExit (body : Work Unit) : Work Bool :=
  ExceptT.mk do
    match ← body.run with
    | .ok () => return .ok false
    | .error .exit => return .ok true
    | .error flow => return .error flow

/-- Runs the actions of the rules with a condition that is not about records. -/
def performAll (actions : List Action) : Work Unit :=
  match actions with
  | [] => return
  | action :: rest => do
      evaluator.perform action
      performAll rest

/-- Runs a whole script. -/
def runScript (script : Script) : Work Unit := do
  let actions := fun (isWanted : Condition → Bool) =>
    (script.rules.filter fun rule => isWanted rule.condition).map Rule.action
  let first := actions fun c =>
    match c with
    | .begin => true
    | _ => false
  let last := actions fun c =>
    match c with
    | .finish => true
    | _ => false
  let rules := script.rules.zipIdx.filter fun (rule, _) =>
    match rule.condition with
    | .begin | .finish => false
    | _ => true
  let exited ← upToExit (performAll first)
  unless exited || rules.isEmpty && last.isEmpty do
    discard <| upToExit (applyToRecords rules Evaluator.roundLimit)
  discard <| upToExit (performAll last)

end ShaderLiterals.Programs.Awk
