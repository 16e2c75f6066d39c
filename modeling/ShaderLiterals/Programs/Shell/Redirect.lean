import ShaderLiterals.Programs.Shell.Expansion

/-! # Redirecting streams -/

namespace ShaderLiterals.Programs.Shell

open Files (Fault)

/-- Where a stream is to go. -/
inductive Route where
  | file (access : Access) (path : Raw)
  | text (text : Raw)
  | stream (source : Nat)
  | closed

/-- Finds out where a redirection leads. -/
def expandRedirection (capture : Command → Session Raw) : Redirection → Session (Nat × Route)
  | .file stream access path => return (stream, .file access (← expandText capture false path))
  | .here stream body => return (stream, .text (← expandText capture false body))
  | .duplicate stream source => do
      match ← expandText capture false source with
      | ['-'] => return (stream, .closed)
      | [c] =>
          if c.isDigit then return (stream, .stream (c.toNat - '0'.toNat))
          else Session.abort (Raw.ofText "Syntax error: Bad fd number")
      | _ => Session.abort (Raw.ofText "Syntax error: Bad fd number")

namespace Session

/-- Complains about a redirection. -/
def refuseRoute (text : Raw) : Session Bool := do
  complain text
  setStatus 2
  return false

/-- Complains about a path that cannot be opened. -/
def refusePath (access : Access) (path : Raw) (fault : Fault) : Session Bool :=
  let forNew := access != .read
  refuseRoute (Raw.ofText (if forNew then "cannot create " else "cannot open ") ++ path ++
    ':' :: ' ' :: faultText fault forNew)

/-- Whether a file may not be written because one is there. -/
def isProtected (access : Access) (path : Raw) : Session Bool := do
  let state ← get
  if access != .write || !state.flags.has 'C' then return false
  return match state.world.machine.find (Raw.toText path) with
    | .ok (.file _) => true
    | _ => false

/-- Lets a stream go where a route leads.  If that is not possible, complains. -/
def direct (stream : Nat) : Route → Session Bool
  | .closed => do
      modify fun s => { s with streams := s.streams.filter (·.1 != stream) }
      return true
  | .stream source => do
      match (← get).streams.lookup source with
      | none => refuseRoute (Raw.ofNat source ++ Raw.ofText ": Bad file descriptor")
      | some handle => attach handle
  | .text text => do attach (← inWorld (World.newSource text))
  | .file access path => do
      if ← isProtected access path then return ← refusePath access path .alreadyThere
      let mode : World.Mode :=
        match access with
        | .read => .read
        | .write | .overwrite => .write
        | .append => .append
        | .both => .readWrite
      match ← inWorld (World.openPath (← get).streams mode path) with
      | .ok handle => attach handle
      | .error fault => refusePath access path fault
where
  attach (handle : Nat) : Session Bool := do
    modify fun s => { s with streams := (stream, handle) :: s.streams.filter (·.1 != stream) }
    return true

/-- Redirects streams in order, up to the first that cannot be. -/
def directAll : List (Nat × Route) → Session Bool
  | [] => return true
  | (stream, route) :: rest => do
      if ← direct stream route then directAll rest else return false

/-- Redirects streams as a command asks for it. -/
def redirect (capture : Command → Session Raw) (redirections : List Redirection) :
    Session Bool := do
  directAll (← redirections.mapM (expandRedirection capture))

end Session

end ShaderLiterals.Programs.Shell
