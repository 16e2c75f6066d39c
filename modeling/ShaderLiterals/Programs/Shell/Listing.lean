import ShaderLiterals.Programs.Search
import ShaderLiterals.Programs.Shell.Script
import ShaderLiterals.Programs.Shell.State
import ShaderLiterals.Programs.Signal

/-! # What a script can be told about itself -/

namespace ShaderLiterals.Programs.Shell

namespace Listing

/-- The rest of a text between single quotes; only single quotes are between double quotes. -/
def quotedFrom (doubled : Bool) : Raw → Raw
  | [] => if doubled then ['"'] else ['\'']
  | '\'' :: rest =>
      if doubled then '\'' :: quotedFrom true rest
      else '\'' :: '"' :: '\'' :: quotedFrom true rest
  | c :: rest =>
      if doubled then '"' :: '\'' :: c :: quotedFrom false rest else c :: quotedFrom false rest

/-- A text in quotes, so that it can be read back. -/
def quoted (text : Raw) : Raw := '\'' :: quotedFrom false text

/-- A variable with its value, if it has one. -/
def assignment (v : Variable) : Raw :=
  v.name ++ match v.value with
    | some value => '=' :: quoted value
    | none => []

/-- Variables in the order of their names. -/
def sorted (vars : List Variable) : List Variable :=
  vars.mergeSort fun a b => Raw.precedes a.name b.name

/-- A line for each variable, after a command that would make it so. -/
def variableLines (command : Raw) (vars : List Variable) : Raw :=
  Raw.unlines ((sorted vars).map fun v =>
    (if command.isEmpty then [] else command ++ [' ']) ++ assignment v)

/-- The place of a name in a table of so many rows. -/
def row (rows : Nat) (name : Raw) : Nat :=
  (name.foldl (fun n c => n + c.toNat) 0 + 16 * (name.head?.map Char.toNat).getD 0) % rows

/-- Names in the order of a table of so many rows. -/
def inRows {α : Type} (rows : Nat) (name : α → Raw) (entries : List α) : List α :=
  entries.mergeSort fun a b => row rows (name a) ≤ row rows (name b)

/-- The line for a name that stands for other text. -/
def aliasLine (entry : Raw × Raw) : Raw := entry.1 ++ '=' :: quoted entry.2

def aliasLines (aliases : List (Raw × Raw)) : Raw :=
  Raw.unlines ((inRows 39 Prod.fst aliases.reverse).map aliasLine)

def trapLines (traps : List (Nat × Raw)) : Raw :=
  Raw.unlines ((traps.mergeSort fun a b => a.1 ≤ b.1).map fun trap =>
    Raw.ofText "trap -- " ++ quoted trap.2 ++ Raw.ofText (" " ++ Signal.name trap.1))

/-- Which options are on, as a table or as commands that would make it so. -/
def flagLines (flags : Flags) (asTable : Bool) : Raw :=
  if asTable then
    Raw.ofText "Current option settings\n" ++ Flags.names.flatMap fun (name, letter) =>
      Raw.ofText name ++ List.replicate (16 - name.length) ' ' ++
        Raw.ofText (if letter != '-' && flags.has letter then "on\n" else "off\n")
  else Flags.names.flatMap fun (name, letter) =>
    Raw.ofText (if letter != '-' && flags.has letter then "set -o " else "set +o ") ++
      Raw.ofText name ++ ['\n']

end Listing

/-! ## Commands -/

/-- The builtin commands whose faults end a script. -/
def specialBuiltins : List String :=
  [".", ":", "break", "continue", "eval", "exec", "exit", "export", "local", "readonly", "return",
    "set", "shift", "times", "trap", "unset"]

def plainBuiltins : List String :=
  ["[", "alias", "bg", "cd", "chdir", "command", "echo", "false", "fg", "getopts", "hash", "jobs",
    "kill", "printf", "pwd", "read", "test", "true", "type", "ulimit", "umask", "unalias", "wait"]

def isSpecialBuiltin (name : Raw) : Bool := specialBuiltins.any (·.toList = name)

def isPlainBuiltin (name : Raw) : Bool := plainBuiltins.any (·.toList = name)

/-- What the name of a command stands for. -/
inductive Meaning where
  | keyword
  | abbreviation (text : Raw)
  | builtin (special : Bool)
  | function (body : Command)
  | program (path : Raw) (known : Bool)
  | nothing

/-- The path of a program, as a script finds it. -/
def State.programPath? (state : State) (name : Raw) : Option Raw :=
  if name.contains '/' then
    if (state.world.machine.find (Raw.toText name)).isOk then some name else none
  else Search.find? state.world.machine ((state.valueOf "PATH".toList).getD []) name

def State.meaning (state : State) (name : Raw) : Meaning :=
  if Script.isKeyword name then .keyword
  else
    match state.aliases.lookup name with
    | some text => .abbreviation text
    | none =>
        if isSpecialBuiltin name then .builtin true
        else
          match state.functions.lookup name with
          | some body => .function body
          | none =>
              if isPlainBuiltin name then .builtin false
              else
                match state.programPath? name with
                | some path => .program path (state.known.contains name)
                | none => .nothing

/-- What is said of the name of a command, and whether there is such a command. -/
def State.describe (state : State) (name : Raw) : Raw × Bool :=
  let (text, found) :=
    match state.meaning name with
    | .keyword => (Raw.ofText " is a shell keyword", true)
    | .abbreviation text => (Raw.ofText " is an alias for " ++ text, true)
    | .builtin true => (Raw.ofText " is a special shell builtin", true)
    | .builtin false => (Raw.ofText " is a shell builtin", true)
    | .function _ => (Raw.ofText " is a shell function", true)
    | .program path known =>
        (Raw.ofText (if known then " is a tracked alias for " else " is ") ++ path, true)
    | .nothing => (Raw.ofText ": not found", false)
  (name ++ text ++ ['\n'], found)

/-- How the name of a command could be written in place of it, if there is such a command. -/
def State.spell? (state : State) (name : Raw) : Option Raw :=
  match state.meaning name with
  | .nothing => none
  | .abbreviation text => some (Raw.ofText "alias " ++ Listing.aliasLine (name, text) ++ ['\n'])
  | .program path _ => some (path ++ ['\n'])
  | _ => some (name ++ ['\n'])

end ShaderLiterals.Programs.Shell
