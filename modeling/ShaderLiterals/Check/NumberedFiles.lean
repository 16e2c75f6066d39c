import ShaderLiterals.Check.External

/-!
# Temporary files with numbers

The letters of a fresh file are the digits of the first number whose name is free, and everything
can be written to it.
-/

namespace ShaderLiterals.NumberedFiles

/-- How many numbers there are. -/
def count : Nat := 1000000

/-- The digits of a number, at least six of them. -/
def digits (n : Nat) : String :=
  let digits := toString n
  String.ofList (List.replicate (6 - digits.length) '0') ++ digits

/-- Whether nothing is listed under the name with the number. -/
def isFree (tree : Files.Tree) (directory : Files.Location) (stage : Stage) (n : Nat) : Bool :=
  !(tree.entries.map Prod.fst).contains (directory ++ [TemporaryFile.nameOf stage (digits n)])

/-- The digits of the first number whose name is free.  One number more than there are entries is
enough to try. -/
def letters (machine : Machine) (stage : Stage) : Except Files.Fault String :=
  let directory := (machine.locate machine.temp).toOption.getD []
  let tries := min count (machine.tree.entries.length + 1)
  match (List.range tries).find? (isFree machine.tree directory stage) with
  | some n => .ok (digits n)
  | none => .error .tooManyFiles

/-- Temporary files with numbers. -/
def files : TemporaryFiles := ⟨letters, fun _ _ _ => none⟩

end ShaderLiterals.NumberedFiles
