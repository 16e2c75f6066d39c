/-! # Faults in the use of files -/

namespace ShaderLiterals.Files

inductive Fault where
  | notFound
  | notPermitted
  | notDirectory
  | isDirectory
  | tooManyLinks
  | alreadyThere
  /-- A name, or a whole path, with too many bytes. -/
  | nameTooLong
  /-- A file that is no program, although it may be run. -/
  | notProgram
  /-- A directory that is not empty where an empty one is needed. -/
  | notEmpty
  /-- A device that takes no more. -/
  | noSpace
  | badDescriptor
  | invalid
  /-- A pipe that nobody reads any more. -/
  | brokenPipe
  /-- A device that is not there. -/
  | noDevice
  | notAllowed
  /-- Programs that start programs, too deep for any real need. -/
  | tooManyProcesses
  /-- A path with a null character in it. -/
  | nullInPath
  /-- Every name that was tried for a temporary file is taken. -/
  | tooManyFiles
deriving DecidableEq, Repr

/-- What the fault is called. -/
def Fault.text : Fault → String
  | notFound => "No such file or directory"
  | notPermitted => "Permission denied"
  | notDirectory => "Not a directory"
  | isDirectory => "Is a directory"
  | tooManyLinks => "Too many levels of symbolic links"
  | alreadyThere => "File exists"
  | nameTooLong => "File name too long"
  | notProgram => "Exec format error"
  | notEmpty => "Directory not empty"
  | noSpace => "No space left on device"
  | badDescriptor => "Bad file descriptor"
  | invalid => "Invalid argument"
  | brokenPipe => "Broken pipe"
  | noDevice => "No such device or address"
  | notAllowed => "Operation not permitted"
  | tooManyProcesses => "Resource temporarily unavailable"
  | nullInPath => "file name contained an unexpected NUL byte"
  | tooManyFiles => "too many temporary files exist"

/-- The number that the system gives the fault, if the system found it. -/
def Fault.number? : Fault → Option Nat
  | notFound => some 2
  | notPermitted => some 13
  | notDirectory => some 20
  | isDirectory => some 21
  | tooManyLinks => some 40
  | alreadyThere => some 17
  | nameTooLong => some 36
  | notProgram => some 8
  | notEmpty => some 39
  | noSpace => some 28
  | badDescriptor => some 9
  | invalid => some 22
  | brokenPipe => some 32
  | noDevice => some 6
  | notAllowed => some 1
  | tooManyProcesses => some 11
  | nullInPath => none
  | tooManyFiles => none

def Fault.message (fault : Fault) : String :=
  match fault.number? with
  | some number => s!"{fault.text} (os error {number})"
  | none => fault.text

end ShaderLiterals.Files
