import ShaderLiterals.Check.Fault
import ShaderLiterals.Check.Reading
import ShaderLiterals.Check.Sink

/-! # Listing shaders without validating them -/

namespace ShaderLiterals

/-- The line of a listing for a shader in a file. -/
def listingLine (path : String) (shader : Shader) : String :=
  s!"{path}:{shader.line} {shader.name} {shader.stage.describe}\n"

/-- Goes on with the listing of a file, of which `count` shaders were listed. -/
def listFrom (names : Escape.Names) (path : String) (count : Nat) (extraction : Extraction)
    (lines : List SourceLine) (sink : Sink) : Except CheckFault Nat × Sink :=
  match _h : (extraction.pull names lines).result with
  | none => (.ok count, sink)
  | some (.error cause) => (.error (.cannotExtract path cause), sink)
  | some (.ok shader) =>
      match sink.write (listingLine path shader) with
      | none => (.error .brokenSink, sink)
      | some sink =>
          listFrom names path (count + 1) (extraction.pull names lines).extraction
            (extraction.pull names lines).unread sink
termination_by lines.length
decreasing_by exact Extraction.length_unread_pull_lt _h

/-- Lists the shaders of files in order, and counts them on top of `count`. -/
def listFilesFrom (names : Escape.Names) (machine : Machine) (count : Nat) :
    List String → Sink → Except CheckFault Nat × Sink
  | [], sink => (.ok count, sink)
  | path :: paths, sink =>
      match machine.lines path with
      | .error cause => (.error (.cannotOpen path cause), sink)
      | .ok lines =>
          match listFrom names path count .start lines sink with
          | (.error fault, sink) => (.error fault, sink)
          | (.ok count, sink) => listFilesFrom names machine count paths sink

/-- Lists the shaders of files in order, and counts them. -/
def listFiles (names : Escape.Names) (machine : Machine) (paths : List String) (sink : Sink) :
    Except CheckFault Nat × Sink :=
  listFilesFrom names machine 0 paths sink

end ShaderLiterals
