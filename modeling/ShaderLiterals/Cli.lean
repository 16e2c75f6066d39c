import ShaderLiterals.Check.External
import ShaderLiterals.Check.Listing
import ShaderLiterals.Check.Run
import ShaderLiterals.CommandLine.Help
import ShaderLiterals.CommandLine.Reader

/-! # The program as a function of its arguments and its machine -/

namespace ShaderLiterals

namespace Report

/-- A text with every line after the first one indented. -/
def indentRest (indent : Nat) (text : String) : String :=
  String.ofList <| text.toList.flatMap fun c =>
    if c = '\n' then '\n' :: List.replicate indent ' ' else [c]

/-- The lines for several causes, numbered from `n` on. -/
def numberedCauses (n : Nat) : List String → String
  | [] => ""
  | cause :: rest => s!"    {n}: {indentRest 7 cause}\n" ++ numberedCauses (n + 1) rest

/-- How a fault ends the program's report. -/
def render (message : String) (causes : List String) : String :=
  s!"Error: {message}\n" ++
    match causes with
    | [] => ""
    | [cause] => s!"\nCaused by:\n    {indentRest 4 cause}\n"
    | causes => "\nCaused by:\n" ++ numberedCauses 0 causes

end Report

def CheckFault.render (fault : CheckFault) : String :=
  Report.render fault.message fault.causes

def Files.WalkFault.render (fault : Files.WalkFault) : String :=
  Report.render "could not collect files to check" (fault.message :: fault.causes)

/-- What a run of the program ends with. -/
structure Exit where
  status : Nat
  output : String
  errors : String
deriving DecidableEq, Repr

/-- What is not of the program's own making: the names that characters go by, the programs that it
may start, and how temporary files are made. -/
structure Surroundings where
  names : Escape.Names
  programs : Programs
  files : TemporaryFiles

namespace Cli

/-- Lists the shaders of the files that the settings ask for. -/
def list (names : Escape.Names) (settings : CommandLine.Settings) (machine : Machine) : Exit :=
  match machine.expandAll settings.extensions settings.paths with
  | .error fault => ⟨1, "", fault.render⟩
  | .ok files =>
      match listFiles names machine files .working with
      | (.ok _, sink) => ⟨0, sink.text, ""⟩
      | (.error fault, sink) => ⟨1, sink.text, fault.render⟩

/-- The exit of a check of files. -/
def exitOf : Except CheckFault Bool × Session → Exit × Machine
  | (.ok hasErrors, session) =>
      (⟨if hasErrors then 1 else 0, "", session.sink.text⟩, session.machine)
  | (.error fault, session) => (⟨1, "", session.sink.text ++ fault.render⟩, session.machine)

/-- Validates the shaders of the files that the settings ask for. -/
def check (surroundings : Surroundings) (settings : CommandLine.Settings) (machine : Machine) :
    Option (Exit × Machine) :=
  match machine.expandAll settings.extensions settings.paths with
  | .error fault => some (⟨1, "", fault.render⟩, machine)
  | .ok files =>
      let external : External := ⟨settings.validator, settings.validatorArgs⟩
      let validator := external.validator surroundings.files surroundings.programs
      (checkFiles surroundings.names validator files (.start machine .working)).map exitOf

/-- Runs the program with the programs that it may start, which see the variable of the
environment too.  A run that never ends has no exit. -/
def run (surroundings : Surroundings) (arguments : List String) (environment : Option String)
    (machine : Machine) : Option (Exit × Machine) :=
  match CommandLine.read arguments environment with
  | .error .help => some (⟨0, CommandLine.help .suspends environment, ""⟩, machine)
  | .error (.fault fault) => some (⟨2, "", fault.render⟩, machine)
  | .ok settings =>
      if settings.list then some (list surroundings.names settings machine, machine)
      else
        let seen := machine.withVariable CommandLine.variableName environment
        (check surroundings settings seen).map fun (exit, after) =>
          (exit, { after with environment := machine.environment })

end Cli

end ShaderLiterals
