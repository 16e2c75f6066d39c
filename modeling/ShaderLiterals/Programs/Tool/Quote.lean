import ShaderLiterals.Programs.Raw

/-!
# Names in complaints

A name is quoted the way a shell would have to read it.
-/

namespace ShaderLiterals.Programs.Quote

/-- Whether a character stands for itself outside of quotes. -/
def isPlain (c : Char) : Bool :=
  c.isAlphanum || "%+,-./:@_]\x7b\x7d~#".toList.contains c

/-- Whether a character has to be written as an escape. -/
def isHidden (c : Char) : Bool := c < ' ' || '~' < c

def escape (c : Char) : Raw :=
  match [('\x07', 'a'), ('\x08', 'b'), ('\x0C', 'f'), ('\n', 'n'), ('\r', 'r'), ('\t', 't'),
      ('\x0B', 'v')].lookup c with
  | some letter => ['\\', letter]
  | none =>
      let digits := Nat.toDigits 8 c.toNat
      '\\' :: List.replicate (3 - digits.length) '0' ++ digits

/-- The pieces of a name between single quotes; `inside` tells whether such a piece is open. -/
def pieces (inside : Bool) : Raw → Raw
  | [] => if inside then ['\''] else []
  | c :: rest =>
      if isHidden c then
        let run := (c :: rest).takeWhile isHidden
        (if inside then ['\''] else []) ++ ['$', '\''] ++ run.flatMap escape ++ ['\''] ++
          pieces false (rest.drop (run.length - 1))
      else if c = '\'' then
        (if inside then ['\''] else []) ++ ['\\', '\''] ++ pieces false rest
      else (if inside then [] else ['\'']) ++ c :: pieces true rest
termination_by name => name.length
decreasing_by all_goals simp; try omega

/-- A name between quotes. -/
def always (name : Raw) : Raw :=
  if name.isEmpty then ['\'', '\'']
  else if name.contains '\'' && name.all fun c => isPlain c || c == ' ' || c == '\'' then
    '"' :: name ++ ['"']
  else
    match name with
    | '\'' :: _ => ['\'', '\''] ++ pieces false name
    | c :: _ => (if isHidden c then ['\'', '\''] else []) ++ pieces false name
    | [] => []

/-- A name between quotes if it needs them. -/
def ifNeeded (name : Raw) : Raw :=
  let isSafe := name.all isPlain && !name.isEmpty && name.head? != some '~' &&
    name.head? != some '#' && name != ['\x7b'] && name != ['\x7d']
  if isSafe && !name.contains ':' then name else always name

end ShaderLiterals.Programs.Quote
