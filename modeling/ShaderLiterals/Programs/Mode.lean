import ShaderLiterals.Programs.Raw

/-!
# Rights that files give

A mode is a number of twelve bits.  It is written in octal digits, or as clauses that change it,
such as `u+x,go=r`.
-/

namespace ShaderLiterals.Programs.Mode

/-- Nine letters or hyphens for the bits of a mode, and those for the three special bits. -/
def letters (mode : Nat) : Raw :=
  let triple := fun (shift special : Nat) (mark : Char) =>
    let has := fun (bit : Nat) => mode >>> shift &&& bit != 0
    let runs := has 1
    [if has 4 then 'r' else '-', if has 2 then 'w' else '-',
      if mode &&& special != 0 then (if runs then mark else mark.toUpper)
      else if runs then 'x' else '-']
  triple 6 0o4000 's' ++ triple 3 0o2000 's' ++ triple 0 0o1000 't'

/-- The letters of the rights in three bits. -/
def rights (bits : Nat) : Raw :=
  (if bits &&& 4 != 0 then ['r'] else []) ++ (if bits &&& 2 != 0 then ['w'] else []) ++
    if bits &&& 1 != 0 then ['x'] else []

/-- The bits for whom a letter stands. -/
def whom : Char → Nat
  | 'u' => 0o4700
  | 'g' => 0o2070
  | 'o' => 0o1007
  | _ => 0o7777

/-- The bits that a letter for a right stands for, for all of them. -/
def right (isDirectory : Bool) (old : Nat) : Char → Option Nat
  | 'r' => some 0o444
  | 'w' => some 0o222
  | 'x' => some 0o111
  | 'X' => some (if isDirectory || old &&& 0o111 != 0 then 0o111 else 0)
  | 's' => some 0o6000
  | 't' => some 0o1000
  | 'u' => some ((old >>> 6 &&& 7) * 0o111)
  | 'g' => some ((old >>> 3 &&& 7) * 0o111)
  | 'o' => some ((old &&& 7) * 0o111)
  | _ => none

/-- Applies the actions of a clause, each a sign and some rights; `fuel` bounds their number. -/
def applyActions (isDirectory : Bool) (affected : Nat) : (fuel : Nat) → Raw → Nat → Option Nat
  | _, [], mode => some mode
  | 0, _, _ => none
  | fuel + 1, sign :: rest, mode =>
      let names := rest.takeWhile fun c => !(['+', '-', '='].contains c)
      match names.mapM (right isDirectory mode) with
      | none => none
      | some bits =>
          let bits := bits.foldl (· ||| ·) 0 &&& affected
          let kept := if isDirectory then mode &&& 0o6000 else 0
          let after :=
            match sign with
            | '+' => some (mode ||| bits)
            | '-' => some (mode - (mode &&& bits))
            | '=' => some (mode - (mode &&& affected) ||| bits ||| kept)
            | _ => none
          after.bind fun mode =>
            applyActions isDirectory affected fuel (rest.drop names.length) mode

/-- Applies one clause.  If it does not say for whom, the bits of `umask` are left alone. -/
def applyClause (umask : Nat) (isDirectory : Bool) (mode : Nat) (clause : Raw) : Option Nat :=
  let who := clause.takeWhile fun c => ['u', 'g', 'o', 'a'].contains c
  let actions := clause.drop who.length
  let affected :=
    if who.isEmpty then 0o7777 - umask else (who.map whom).foldl (· ||| ·) 0
  if actions.isEmpty then none
  else applyActions isDirectory affected (clause.length + 1) actions mode

/-- The mode that a text makes of another one. -/
def change? (umask : Nat) (isDirectory : Bool) (text : Raw) (mode : Nat) : Option Nat :=
  match if text.isEmpty then none else Digits.number? 8 text with
  | some n =>
      if n ≤ 0o7777 then
        some (if isDirectory && text.length ≤ 4 then n ||| (mode &&& 0o6000) else n)
      else none
  | none =>
      if text.isEmpty then none
      else (text.splitOn ',').foldlM (applyClause umask isDirectory) mode

end ShaderLiterals.Programs.Mode
