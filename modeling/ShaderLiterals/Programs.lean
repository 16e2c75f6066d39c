import ShaderLiterals.Machine

/-!
# Programs that a machine can run

A program is known by what it answers to its arguments, and by what it does to the files of the
machine.
-/

namespace ShaderLiterals

/-- How a program came to its end. -/
inductive Ending where
  | exited (status : Nat)
  | killed (signal : Nat)
deriving DecidableEq, Repr

def Ending.isSuccess : Ending → Bool
  | exited 0 => true
  | _ => false

theorem Ending.isSuccess_iff {ending : Ending} : ending.isSuccess ↔ ending = exited 0 := by
  rcases ending with (_ | _) | _ <;> simp [isSuccess]

/-- Why a program cannot be started. -/
inductive SpawnFault where
  | files (fault : Files.Fault)
  /-- A null character in the name of the program or in an argument. -/
  | nullInArgument
deriving DecidableEq, Repr

def SpawnFault.message : SpawnFault → String
  | files fault => fault.message
  | nullInArgument => "nul byte found in provided data"

/-- What a program that ran to its end leaves behind, apart from what it did to files. -/
structure Outcome where
  ending : Ending
  output : List UInt8
  errors : List UInt8
deriving DecidableEq, Repr

/-- What comes of running a program, given by its name, with arguments. -/
abbrev Programs := String → List String → Machine → Except SpawnFault (Outcome × Machine)

end ShaderLiterals
