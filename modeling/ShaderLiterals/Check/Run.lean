import ShaderLiterals.Check.Fault
import ShaderLiterals.Check.Reading
import ShaderLiterals.Check.Sink
import ShaderLiterals.Iteration

/-!
# Checking shaders

Each shader is handed to the validator as soon as it is found, and is reported at once if it does
not compile.  A shader that does not compile does not end the check; a fault does.  A file is read
as it stands after each shader.
-/

namespace ShaderLiterals

/-- A shader that does not compile. -/
structure Failure where
  name : String
  diagnostic : String
deriving DecidableEq, Repr

def Failure.report (failure : Failure) : String :=
  s!"Shader {failure.name} has errors:\n{failure.diagnostic}\n"

/-- What came of checking one source of lines. -/
structure FileReport where
  path : String
  /-- The number of shaders that the validator judged. -/
  checked : Nat
  failures : List Failure
deriving DecidableEq, Repr

namespace FileReport

def start (path : String) : FileReport := ⟨path, 0, []⟩

def hasErrors (report : FileReport) : Bool := !report.failures.isEmpty

def addPassed (report : FileReport) : FileReport :=
  { report with checked := report.checked + 1 }

def addFailure (report : FileReport) (failure : Failure) : FileReport :=
  { report with checked := report.checked + 1, failures := report.failures ++ [failure] }

end FileReport

/-- What a check changes. -/
structure Session where
  machine : Machine
  sink : Sink
  /-- The shaders that were handed to the validator. -/
  seen : List Shader
deriving DecidableEq, Repr

namespace Session

def start (machine : Machine) (sink : Sink) : Session := ⟨machine, sink, []⟩

/-- Hands a shader to the validator. -/
def validate (session : Session) (validator : Validator) (shader : Shader) :
    Except ValidatorFault Verdict × Session :=
  let (answer, machine) := validator shader session.machine
  (answer, { session with machine := machine, seen := session.seen ++ [shader] })

end Session

/-- Validates a shader and reports it if it does not compile. -/
def checkShader (validator : Validator) (report : FileReport) (shader : Shader)
    (session : Session) : Except CheckFault FileReport × Session :=
  match session.validate validator shader with
  | (.error cause, session) => (.error (.cannotValidate shader.name cause), session)
  | (.ok .passed, session) => (.ok report.addPassed, session)
  | (.ok (.failed diagnostic), session) =>
      let failure := ⟨shader.name, diagnostic⟩
      match session.sink.write failure.report with
      | none => (.error .brokenSink, session)
      | some sink => (.ok (report.addFailure failure), { session with sink := sink })

theorem machine_checkShader (validator : Validator) (report : FileReport) (shader : Shader)
    (session : Session) :
    (checkShader validator report shader session).2.machine =
      (validator shader session.machine).2 := by
  unfold checkShader Session.validate
  rcases validator shader session.machine with ⟨cause | (_ | diagnostic), machine⟩
  · rfl
  · rfl
  · dsimp only
    split <;> rfl

/-! ## Lines in memory -/

/-- Goes on with a check. -/
def checkFrom (names : Escape.Names) (validator : Validator) (report : FileReport)
    (extraction : Extraction) (lines : List SourceLine) (session : Session) :
    Except CheckFault FileReport × Session :=
  match _h : (extraction.pull names lines).result with
  | none => (.ok report, session)
  | some (.error cause) => (.error (.cannotExtract report.path cause), session)
  | some (.ok shader) =>
      match checkShader validator report shader session with
      | (.error fault, session) => (.error fault, session)
      | (.ok report, session) =>
          checkFrom names validator report (extraction.pull names lines).extraction
            (extraction.pull names lines).unread session
termination_by lines.length
decreasing_by exact Extraction.length_unread_pull_lt _h

/-- Checks every shader in some lines. -/
def checkLines (names : Escape.Names) (validator : Validator) (path : String)
    (lines : List SourceLine) (session : Session) : Except CheckFault FileReport × Session :=
  checkFrom names validator (.start path) .start lines session

/-! ## Files

A validator that adds lines to the file that is being checked can keep the check from ever coming to
an end.  Then there is no result. -/

/-- The check of a file that goes on. -/
structure FileCheck where
  report : FileReport
  extraction : Extraction
  reading : Reading
  session : Session

/-- Checks the next shader in what there is to read by now, if there is one, and ends the check
otherwise. -/
def FileCheck.step (names : Escape.Names) (validator : Validator) (check : FileCheck) :
    (Except CheckFault FileReport × Session) ⊕ FileCheck :=
  let lines := check.reading.lines check.session.machine
  match (check.extraction.pull names lines).result with
  | none => .inl (.ok check.report, check.session)
  | some (.error cause) => .inl (.error (.cannotExtract check.report.path cause), check.session)
  | some (.ok shader) =>
      let count := check.extraction.readCount names lines
      match checkShader validator check.report shader check.session with
      | (.error fault, session) => .inl (.error fault, session)
      | (.ok report, session) =>
          .inr ⟨report, (check.extraction.pull names lines).extraction,
            check.reading.advance check.session.machine count, session⟩

/-- Goes on with the check of a file. -/
def checkReading (names : Escape.Names) (validator : Validator) (report : FileReport)
    (extraction : Extraction) (reading : Reading) (session : Session) :
    Option (Except CheckFault FileReport × Session) :=
  iterate (FileCheck.step names validator) ⟨report, extraction, reading, session⟩

/-- Checks every shader in a file. -/
def checkFile (names : Escape.Names) (validator : Validator) (path : String) (session : Session) :
    Option (Except CheckFault FileReport × Session) :=
  match session.machine.openPath path with
  | .error cause => some (.error (.cannotOpen path cause), session)
  | .ok reading => checkReading names validator (.start path) .start reading session

/-- Checks files in order, and tells whether some shader does not compile. -/
def checkFiles (names : Escape.Names) (validator : Validator) :
    List String → Session → Option (Except CheckFault Bool × Session)
  | [], session => some (.ok false, session)
  | path :: paths, session =>
      match checkFile names validator path session with
      | none => none
      | some (.error fault, session) => some (.error fault, session)
      | some (.ok report, session) =>
          (checkFiles names validator paths session).map fun (result, session) =>
            (result.map (report.hasErrors || ·), session)

end ShaderLiterals
