import ShaderLiterals.Programs.Awk.Reader
import ShaderLiterals.Programs.Awk.Run
import ShaderLiterals.Programs.Execution
import ShaderLiterals.Programs.Tool.Names

/-! # Scripts about records -/

namespace ShaderLiterals.Programs

namespace Awk

/-- What the arguments ask for. -/
structure Request where
  /-- The files that the script is read from. -/
  files : List Raw
  assignments : List (Raw × Raw)
  separator : Option Raw
  showsVersion : Bool
  operands : List Raw

/-- The value of an option, directly after its letter or the next argument, and the rest. -/
def optionValue (letter : Char) (text : Raw) (rest : List Raw) : Except Raw (Raw × List Raw) :=
  match text, rest with
  | [], value :: rest => .ok (value, rest)
  | [], [] => .error (Raw.ofText "option -" ++ letter :: Raw.ofText " lacks argument")
  | text, rest => .ok (text, rest)

/-- Reads arguments; at most `fuel` of them are options. -/
def Request.read : (fuel : Nat) → List Raw → Request → Except Raw Request
  | 0, args, request => .ok { request with operands := args }
  | _ + 1, ['-', '-'] :: rest, request => .ok { request with operands := rest }
  | fuel + 1, ('-' :: letter :: text) :: rest, request =>
      if letter = 'f' then
        (optionValue letter text rest).bind fun (file, rest) =>
          read fuel rest { request with files := request.files ++ [file] }
      else if letter = 'F' then
        (optionValue letter text rest).bind fun (value, rest) =>
          read fuel rest { request with separator := some value }
      else if letter = 'v' then
        (optionValue letter text rest).bind fun (given, rest) =>
          match assignment? given with
          | some assignment =>
              read fuel rest { request with assignments := request.assignments ++ [assignment] }
          | none => .error (Raw.ofText "improper assignment: -v " ++ given)
      else if letter = 'W' then
        (optionValue letter text rest).bind fun (word, rest) =>
          read fuel rest { request with
            showsVersion := request.showsVersion || "v".toList.isPrefixOf word }
      else if letter = '-' && text = "version".toList then
        read fuel rest { request with showsVersion := true }
      else .error (Raw.ofText "not an option: -" ++ letter :: text)
  | _ + 1, args, request => .ok { request with operands := args }

/-- The variables that a script begins with. -/
def startVariables : List (String × String) :=
  [("FS", " "), ("OFS", " "), ("ORS", "\n"), ("RS", "\n"), ("SUBSEP", "\x1c"), ("CONVFMT", "%.6g"),
    ("OFMT", "%.6g"), ("FILENAME", "")]

/-- The state that a script begins with. -/
def startState (start : Starter) (call : Call) (world : World) (script : Script) : State :=
  { world := world, call := call, start := start, functions := script.functions
    globals := startVariables.foldl
      (fun all (name, value) => all.insert name (.scalar (.text value.toList))) ∅
    locals := [], tables := #[], record := [], fields := [], printed := [], outlets := []
    supplies := [], current := none, operand := 1, hasRead := false, status := 0, spans := []
    seed := world.machine.clock / 1000000000 }

/-- Sets what is given from outside, and runs the script. -/
def runRequest (request : Request) (operands : List Raw) (script : Script) : Work Unit := do
  let call := (← get).call
  for name in ["NR", "FNR", "RSTART"] do setVariable name.toList (.number 0)
  setVariable "RLENGTH".toList (.number (-1))
  let args := Names.last call.name :: operands
  setVariable "ARGC".toList (.ofNat args.length)
  modifyTable "ARGV".toList fun table =>
    args.zipIdx.foldl (fun table (arg, i) => table.put (Raw.ofNat i) (.input arg)) table
  modifyTable "ENVIRON".toList fun table =>
    call.environment.foldl (fun table v => table.put v.1 (.input v.2)) table
  if let some separator := request.separator then assignGiven "FS".toList separator
  for (name, value) in request.assignments do assignGiven name value
  runScript script
  closeAll

/-- Runs a script, and gives its status. -/
def runAll (start : Starter) (call : Call) (request : Request) (operands : List Raw)
    (script : Script) : Job Nat := do
  let (result, s) := (runRequest request operands script).run.run
    (startState start call (← get) script)
  let (status, s) :=
    match result with
    | .error (.fault text) =>
        let ((), s) := (do
          discard <| (inWorld (call.complain text)).run
          discard <| closeAll.run : StateM State Unit).run s
        (2, s)
    | _ => (s.status, s)
  set s.world
  return status

/-- The text of the files of a script. -/
def scriptText (call : Call) : List Raw → Job (Except Raw Raw)
  | [] => return .ok []
  | file :: rest => do
      match ← call.readOperand file with
      | .error fault =>
          return .error (Raw.ofText "cannot open \"" ++ file ++
            Raw.ofText ("\" (" ++ fault.text ++ ")"))
      | .ok text => return (← scriptText call rest).map (text ++ '\n' :: ·)

end Awk

/-- Runs scripts about records. -/
def awk (start : Starter) (call : Call) : Job Ending := do
  let named := { call with name := Names.last call.name }
  let refuse := fun (text : Raw) => do return Ending.exited (← named.refuse 2 text)
  match Awk.Request.read (call.args.length + 1) call.args ⟨[], [], none, false, []⟩ with
  | .error text => refuse text
  | .ok request => do
      if request.showsVersion then
        call.print (Raw.ofText "mawk 1.3.4 20240123\n")
        return .exited 0
      let text : Except Raw (Raw × List Raw) ←
        match request.files, request.operands with
        | [], [] => return .exited 0
        | [], text :: operands => pure (.ok (text, operands))
        | files, operands => do pure ((← Awk.scriptText named files).map (·, operands))
      match text with
      | .error text => refuse text
      | .ok (text, operands) =>
          match Awk.Script.read text with
          | .error fault => refuse fault.message
          | .ok script => return .exited (← Awk.runAll start named request operands script)

end ShaderLiterals.Programs
