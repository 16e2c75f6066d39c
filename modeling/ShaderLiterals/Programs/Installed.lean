import ShaderLiterals.Check.External
import ShaderLiterals.Programs.Shell.Start
import ShaderLiterals.Programs.Tool

/-!
# The installed programs

The programs of a machine that has a shell and the usual tools.  Those that the machine is asked to
run itself get no input.
-/

namespace ShaderLiterals.Programs

/-- The program that is a shell. -/
def shellProgram : Program := Shell.shell

def installation : Installation :=
  [("sh", shellProgram), ("dash", shellProgram), ("bash", shellProgram)] ++
  [("true", .ofTool fun _ => return 0), ("false", .ofTool fun _ => return 1)] ++ tools

/-- The directory of the installed programs. -/
def programDirectory : Files.Location := ["usr", "bin"]

/-- The variables that programs get to see if nothing is changed. -/
def environment : List (String × String) :=
  [("HOME", "/root"), ("PATH", "/usr/local/sbin:/usr/local/bin:/usr/sbin:/usr/bin:/sbin:/bin")]

/-- The directories and devices that every machine has. -/
def places : List (Files.Location × Files.Node) :=
  let stream := fun (n : Nat) => (["proc", "self", "fd", toString n], Files.Node.device (.stream n))
  [(["usr"], .directory), (["usr", "bin"], .directory), (["bin"], .link "usr/bin"),
    (["usr", "sbin"], .directory), (["sbin"], .link "usr/sbin"), (["usr", "local"], .directory),
    (["usr", "local", "bin"], .directory), (["usr", "local", "sbin"], .directory),
    (["etc"], .directory), (["root"], .directory), (["var"], .directory),
    (["var", "tmp"], .directory), (["proc"], .directory), (["proc", "self"], .directory),
    (["proc", "self", "fd"], .directory), (["dev"], .directory), (["dev", "null"], .device .null),
    (["dev", "zero"], .device .zero), (["dev", "full"], .device .full),
    (["dev", "tty"], .device .terminal), (["dev", "stdin"], .link "/proc/self/fd/0"),
    (["dev", "stdout"], .link "/proc/self/fd/1"), (["dev", "stderr"], .link "/proc/self/fd/2"),
    (["dev", "fd"], .link "/proc/self/fd")] ++ (List.range 10).map stream

/-- A machine with the installed programs. -/
def system : Machine :=
  let base := { Machine.empty with
    tree := ⟨Machine.empty.tree.entries ++ places⟩, environment := environment }
  installation.foldl
    (fun machine (name, _) =>
      machine.putFile (programDirectory ++ [name]) (programMark ++ Utf8.encode name.toList) 0o755)
    base

/-- How deep programs may start each other. -/
def processDepth : Nat := 60

/-- Starts the program of a call, and gathers what it writes. -/
def runApart (call : Call) (machine : Machine) : Except Files.Fault (Outcome × Machine) :=
  let job : Job (Except Files.Fault Outcome) := do
    let input ← World.push ⟨.device .null, true, false⟩
    let output ← World.newSink
    let errors ← World.newSink
    let call := { call with streams := [(0, input), (1, output), (2, errors)] }
    match ← startWithin installation processDepth false call with
    | .error fault => return .error fault
    | .ok ending => do
        let output := (← World.drain output).toBytes
        let errors := (← World.drain errors).toBytes
        return .ok ⟨ending, output, errors⟩
  match job.run (.start machine) with
  | (.ok outcome, world) => .ok (outcome, { world.machine with here := machine.here })
  | (.error fault, _) => .error fault

/-- The installed programs. -/
def installed : Programs := fun program args machine =>
  if program.toList.contains '\x00' || args.any (·.toList.contains '\x00') then
    .error .nullInArgument
  else
    let settings := machine.environment ++ [("TMPDIR", machine.temp)]
    let call : Call :=
      { name := Raw.ofText program, args := args.map Raw.ofText
        environment := settings.map fun (name, value) => (Raw.ofText name, Raw.ofText value)
        streams := [] }
    (runApart call machine).mapError .files

end ShaderLiterals.Programs
