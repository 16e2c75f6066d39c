import ShaderLiterals.Programs.Condition
import ShaderLiterals.Programs.Print
import ShaderLiterals.Programs.Tool.Text

/-! # Printing arguments, and conditions on them -/

namespace ShaderLiterals.Programs

namespace Say

/-- What letters after a hyphen ask for: no newline, and escapes or none.  Other letters are
text. -/
def letters? (arg : Raw) : Option Raw :=
  match arg with
  | '-' :: letters =>
      if !letters.isEmpty && letters.all fun c => c = 'n' || c = 'e' || c = 'E' then some letters
      else none
  | _ => none

/-- Resolves escapes, and tells whether they ended the output. -/
def resolve : (fuel : Nat) → Raw → Raw × Bool
  | 0, text => (text, false)
  | _, [] => ([], false)
  | _, '\\' :: 'c' :: _ => ([], true)
  | fuel + 1, '\\' :: 'x' :: d :: rest =>
      let digits := ((d :: rest).take 2).takeWhile (Digits.isDigit 16)
      let more := resolve fuel ((d :: rest).drop digits.length)
      ((if digits.isEmpty then ['\\', 'x'] else [Raw.byte ((Digits.number? 16 digits).getD 0)]) ++
        more.1, more.2)
  | fuel + 1, '\\' :: letter :: rest =>
      let isOctal := letter = '0' || !Digits.isDigit 8 letter
      match if isOctal then Print.escape? letter rest true else none with
      | some (digits, c) =>
          let more := resolve fuel (rest.drop digits.length)
          (c :: more.1, more.2)
      | none =>
          let more := resolve fuel rest
          ('\\' :: letter :: more.1, more.2)
  | fuel + 1, c :: rest =>
      let more := resolve fuel rest
      (c :: more.1, more.2)

end Say

/-- Prints its arguments. -/
def echo : Tool := fun call => do
  let front := call.args.takeWhile fun arg => (Say.letters? arg).isSome
  let letters := front.flatMap fun arg => arg.drop 1
  let text := [' '].intercalate (call.args.drop front.length)
  let escapes := (letters.filter (· != 'n')).getLast? = some 'e'
  let (text, stopped) := if escapes then Say.resolve text.length text else (text, false)
  call.print (if letters.contains 'n' || stopped then text else text ++ ['\n'])
  return 0

/-- Prints a format filled with arguments. -/
def printf : Tool := fun call => do
  let args := if call.args.head? = some ['-', '-'] then call.args.drop 1 else call.args
  match args with
  | [] => call.refuseMissing 1
  | format :: rest => do
      let filling := Print.fill "hjLltz".toList format rest
      for complaint in filling.complaints do
        match complaint with
        | .argument text .number =>
            call.complain (Quote.always text ++ Raw.ofText ": expected a numeric value")
        | .argument text .finish =>
            call.complain (Quote.always text ++ Raw.ofText ": value not completely converted")
        | .argument text _ =>
            call.complain (Quote.always text ++ Raw.ofText ": Numerical result out of range")
        | .directive text | .unfinished text =>
            call.complain (text ++ Raw.ofText ": invalid conversion specification")
      call.print filling.text
      return min filling.status 1

/-- Tells whether the condition that its arguments spell holds. -/
def test (brackets : Bool) : Tool := fun call => do
  match ← Condition.ofCall call brackets with
  | .ok value => return if value then 0 else 1
  | .error complaint => call.refuse 2 complaint

end ShaderLiterals.Programs
