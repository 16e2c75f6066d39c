import ShaderLiterals.Programs.Glob
import ShaderLiterals.Programs.Regex.Read
import ShaderLiterals.Programs.Tool.Listing

/-!
# Expressions about files

An expression says which files are wanted and what is done with them.  Its words are read first, and
then put together, so that a word that is wrong is found before a parenthesis that is missing.
-/

namespace ShaderLiterals.Programs.Find

open Files (Fault)

/-- What a number is compared with. -/
inductive Amount where
  | exactly (n : Nat)
  | more (n : Nat)
  | less (n : Nat)

namespace Amount

def ofText? : Raw → Option Amount
  | '+' :: digits => (Raw.nat? digits).map more
  | '-' :: digits => (Raw.nat? digits).map less
  | digits => (Raw.nat? digits).map exactly

def holds (n : Nat) : Amount → Bool
  | exactly m => n = m
  | more m => decide (m < n)
  | less m => decide (n < m)

/-- Compares how often a unit is in a number: whole units for less, begun ones for more. -/
def holdsOf (n unit : Nat) : Amount → Bool
  | less m => decide (n < m * unit)
  | amount => amount.holds ((n + unit - 1) / unit)

end Amount

/-- What is asked of the rights that a file gives. -/
inductive Rights where
  | exactly (mode : Nat)
  | all (mode : Nat)
  | any (mode : Nat)

def Rights.holds (mode : Nat) : Rights → Bool
  | exactly wanted => mode = wanted
  | all wanted => mode &&& wanted = wanted
  | any wanted => wanted = 0 || mode &&& wanted != 0

/-- How a program is run for files. -/
structure Running where
  /-- The words of the command. -/
  words : List Raw
  /-- Whether it is run in the directory of the file. -/
  inPlace : Bool

inductive Primary where
  | always (value : Bool)
  | name (folded : Bool) (pattern : List Glob)
  | path (folded : Bool) (pattern : List Glob)
  | target (folded : Bool) (pattern : List Glob)
  | regex (pattern : Pattern)
  | kind (followed : Bool) (letters : List Raw)
  | size (unit : Nat) (amount : Amount)
  | empty
  /-- The age in whole days, or compared to minutes. -/
  | days (amount : Amount)
  | minutes (amount : Amount)
  | newer (time : Nat)
  | rights (rights : Rights)
  | links (amount : Amount)
  | serial (amount : Amount)
  | executable
  | same (status : Status)
  | prune
  | quit
  | delete
  | print (ending : Char)
  | printTo (handle : Nat) (ending : Char)
  | format (text : Raw)
  | list
  | run (running : Running)
  /-- A program that is run once for many files, known by a number. -/
  | gather (number : Nat) (running : Running)

/-- Whether the primary does something, so that names need not be printed. -/
def Primary.acts : Primary → Bool
  | quit | delete | print _ | printTo .. | format _ | list | run _ | gather .. => true
  | _ => false

inductive Token where
  | primary (primary : Primary)
  | not (word : Raw)
  | both (word : Raw)
  | either (word : Raw)
  | series (word : Raw)
  | opening
  | closing

inductive Expression where
  | primary (primary : Primary)
  | not (e : Expression)
  | both (a b : Expression)
  | either (a b : Expression)
  | series (a b : Expression)

/-! ## Words -/

/-- What is said of all files, wherever it stands. -/
structure Setting where
  least : Nat
  most : Option Nat
  /-- Whether what lies in a directory comes before it. -/
  depthFirst : Bool
  follows : Bool
  dialect : Raw

/-- The names of the ways to write regular expressions. -/
def dialects : List String :=
  ["findutils-default", "ed", "emacs", "gnu-awk", "grep", "posix-awk", "awk", "posix-basic",
    "posix-egrep", "egrep", "posix-extended", "posix-minimal-basic", "sed"]

/-- A regular expression in which parentheses and bars are operators after a backslash, as one in
which they are without. -/
def swapped : Raw → Raw
  | [] => []
  | '\\' :: c :: rest => (if "()|".toList.contains c then [c] else ['\\', c]) ++ swapped rest
  | c :: rest => (if "()|\x7b\x7d".toList.contains c then ['\\', c] else [c]) ++ swapped rest

/-- The pattern that a regular expression spells. -/
def regex? (dialect : Raw) (folded : Bool) (text : Raw) : Except Raw Primary :=
  let name := String.ofList dialect
  let result :=
    if ["findutils-default", "emacs"].contains name then
      Regex.read (.editor true folded) (swapped text)
    else
      let isBasic := ["ed", "grep", "posix-basic", "posix-minimal-basic", "sed"].contains name
      Regex.read (.editor (!isBasic) folded) text
  match result with
  | .ok (pattern, _) => .ok (.regex pattern)
  | .error fault => .error (Raw.ofText fault)

/-- The units of sizes. -/
def sizeUnits : List (Char × Nat) :=
  [('c', 1), ('w', 2), ('b', 512), ('k', 1024), ('M', 1048576), ('G', 1073741824)]

/-- What is asked of a size. -/
def size? (text : Raw) : Except Raw Primary :=
  let digits := text.takeWhile fun c => c.isDigit || c = '+' || c = '-'
  let unit? :=
    match text.drop digits.length with
    | [] => some 512
    | [c] => sizeUnits.lookup c
    | _ => none
  match unit?, Amount.ofText? digits, text.getLast? with
  | some unit, some amount, _ => .ok (.size unit amount)
  | some _, none, _ =>
      .error (Raw.ofText "Invalid argument \x60" ++ text ++ Raw.ofText "' to -size")
  | none, _, some last => .error (Raw.ofText "invalid -size type \x60" ++ [last, '\''])
  | none, _, none => .error (Raw.ofText "invalid null argument to -size")

/-- What is asked of rights. -/
def rights? (text : Raw) : Except Raw Primary :=
  let (make, modeText) : (Nat → Rights) × Raw :=
    match text with
    | '-' :: rest => (.all, rest)
    | '/' :: rest => (.any, rest)
    | rest => (.exactly, rest)
  match Mode.change? 0 false modeText 0 with
  | some mode => .ok (.rights (make mode))
  | none => .error (Raw.ofText "invalid mode " ++ Quote.always text)

/-- The kinds of files that letters between commas ask for. -/
def kind? (word : Raw) (followed : Bool) (text : Raw) : Except Raw Primary :=
  let parts := text.splitOn ','
  let kinds := ["b", "c", "d", "p", "f", "l", "s", "D"]
  match parts.find? fun part => !kinds.any (·.toList = part) with
  | none => .ok (.kind followed parts)
  | some part =>
      .error (Raw.ofText "Unknown argument to " ++ word ++ Raw.ofText ": " ++ part)

def pattern (folded : Bool) (text : Raw) : List Glob :=
  Glob.ofMarked ((if folded then text.map Char.toLower else text).map (·, false))

/-- The primary that a word makes of one argument, if it takes one and needs nothing else. -/
def ofArgument? (dialect word text : Raw) : Option (Except Raw Primary) :=
  let amount := fun (make : Amount → Primary) =>
    some <|
      match Amount.ofText? text with
      | some amount => .ok (make amount)
      | none =>
          .error (Raw.ofText "invalid argument \x60" ++ text ++ Raw.ofText "' to \x60" ++ word ++
            ['\''])
  match String.ofList (word.drop 1) with
  | "name" => some (.ok (.name false (pattern false text)))
  | "iname" => some (.ok (.name true (pattern true text)))
  | "path" | "wholename" => some (.ok (.path false (pattern false text)))
  | "ipath" | "iwholename" => some (.ok (.path true (pattern true text)))
  | "lname" => some (.ok (.target false (pattern false text)))
  | "ilname" => some (.ok (.target true (pattern true text)))
  | "regex" => some (regex? dialect false text)
  | "iregex" => some (regex? dialect true text)
  | "type" => some (kind? word false text)
  | "xtype" => some (kind? word true text)
  | "size" => some (size? text)
  | "perm" => some (rights? text)
  | "mtime" | "atime" | "ctime" => amount .days
  | "mmin" | "amin" | "cmin" => amount .minutes
  | "links" => amount .links
  | "inum" => amount .serial
  | "uid" | "gid" => amount fun a => .always (a.holds 0)
  | "user" =>
      some <|
        if text = "root".toList || text = ['0'] then .ok (.always true)
        else if (Raw.nat? text).isSome then .ok (.always false)
        else .error (Quote.always text ++ Raw.ofText " is not the name of a known user")
  | "group" =>
      some <|
        if text = "root".toList || text = ['0'] then .ok (.always true)
        else if (Raw.nat? text).isSome then .ok (.always false)
        else .error (Quote.always text ++ Raw.ofText " is not the name of an existing group")
  | "fstype" => some (.ok (.always false))
  | "printf" => some (.ok (.format text))
  | _ => none

/-- The primary that a word makes which takes no argument. -/
def ofWord? (word : Raw) : Option Primary :=
  match String.ofList (word.drop 1) with
  | "true" | "noleaf" | "xdev" | "mount" | "daystart" | "warn" | "nowarn" | "ignore_readdir_race"
  | "noignore_readdir_race" | "readable" | "writable" | "depth" | "d" | "follow" =>
      some (.always true)
  | "false" | "nouser" | "nogroup" => some (.always false)
  | "empty" => some .empty
  | "executable" => some .executable
  | "prune" => some .prune
  | "quit" => some .quit
  | "delete" => some .delete
  | "print" => some (.print '\n')
  | "print0" => some (.print '\x00')
  | "ls" => some .list
  | _ => none

/-- The operator that a word stands for. -/
def operator? (word : Raw) : Option Token :=
  match String.ofList word with
  | "!" | "-not" => some (.not word)
  | "-a" | "-and" => some (.both word)
  | "-o" | "-or" => some (.either word)
  | "," => some (.series word)
  | "(" => some .opening
  | ")" => some .closing
  | _ => none

/-- The words of a command up to a semicolon, or to a plus sign after braces, and the rest. -/
def command? (gathers : Bool) : List Raw → List Raw → Option (Bool × List Raw × List Raw)
  | _, [] => none
  | before, word :: rest =>
      if word = [';'] then some (false, before.reverse, rest)
      else if gathers && word = ['+'] && before.head? = some ['\x7b', '\x7d'] then
        some (true, before.reverse, rest)
      else command? gathers (word :: before) rest

/-- Words that were read, with what they say of all files. -/
structure Words where
  tokens : List Token
  setting : Setting

/-- A depth that a text spells. -/
def depth? (word text : Raw) : Except Raw Nat :=
  match Raw.nat? text with
  | some n => .ok n
  | none =>
      .error (Raw.ofText "Expected a positive decimal integer argument to " ++ word ++
        Raw.ofText ", but got " ++ Quote.always text)

/-- Whether a word names a file whose time or identity counts. -/
def comparesFile (word : Raw) : Bool :=
  ["-newer", "-anewer", "-cnewer", "-samefile"].any (·.toList = word)

def setsDepth (word : Raw) : Bool := ["-maxdepth", "-mindepth"].any (·.toList = word)

def runs (word : Raw) : Bool := ["-exec", "-execdir", "-ok", "-okdir"].any (·.toList = word)

/-- What is said of a word that lacks its argument. -/
def missing (word : Raw) : Raw := Raw.ofText "missing argument to \x60" ++ word ++ ['\'']

/-- Reads a command after a word. -/
def readCommand (word : Raw) (number : Nat) (args : List Raw) : Except Raw (Primary × List Raw) :=
  let inPlace := ["-execdir", "-okdir"].any (·.toList = word)
  match command? (!"-ok".toList.isPrefixOf word) [] args with
  | none | some (_, [], _) => .error (missing word)
  | some (false, words, rest) => .ok (.run ⟨words, inPlace⟩, rest)
  | some (true, words, rest) =>
      if 1 < (words.filter (· = ['\x7b', '\x7d'])).length then
        .error (Raw.ofText "Only one instance of \x7b\x7d is supported with " ++ word ++
          Raw.ofText " ... +")
      else .ok (.gather number ⟨words.dropLast, inPlace⟩, rest)

/-- Reads a word with a file that is there, or that is written. -/
def readFile (call : Call) (word path : Raw) : Job (Except Raw Primary) := do
  let refuse := fun (fault : Fault) => .error (Quote.always path ++ Raw.ofText (": " ++ fault.text))
  if word = "-fprint".toList || word = "-fprint0".toList then
    match ← World.openPath call.streams .write path with
    | .ok handle =>
        return .ok (.printTo handle (if word = "-fprint".toList then '\n' else '\x00'))
    | .error fault => return refuse fault
  if word = "-newermt".toList then
    match Calendar.read? ((← get).machine.clock / 1000000000 : Nat) path with
    | some seconds => return .ok (.newer (seconds.toNat * 1000000000))
    | none =>
        return .error (Raw.ofText "I cannot figure out how to interpret " ++ Quote.always path ++
          Raw.ofText " as a date or time")
  match ← call.status path with
  | .error fault => return refuse fault
  | .ok status =>
      return .ok (if word = "-samefile".toList then .same status else .newer status.time)

/-- The setting that a word without arguments leaves. -/
def Setting.after (setting : Setting) (word : Raw) : Setting :=
  match String.ofList word with
  | "-depth" | "-d" | "-delete" => { setting with depthFirst := true }
  | "-follow" => { setting with follows := true }
  | _ => setting

/-- What a word after the paths is if nothing is known of it. -/
def unknown (word : Raw) (before : Option Raw) (isThere : Bool) : Raw :=
  if word.head? = some '-' then
    Raw.ofText "unknown predicate \x60" ++ word ++ ['\'']
  else
    Raw.ofText "paths must precede expression: \x60" ++ word ++ ['\''] ++
      match isThere, before with
      | true, some before =>
          Raw.ofText "\nfind: possible unquoted pattern after predicate \x60" ++ before ++
            Raw.ofText "'?"
      | _, _ => []

/-- The primary of a word that needs an argument, and the rest. -/
def readWith (call : Call) (setting : Setting) (word text : Raw) :
    Job (Option (Except Raw (Primary × Setting))) := do
  if setsDepth word then
    return some ((depth? word text).map fun n =>
      (.always true,
        if word = "-maxdepth".toList then { setting with most := some n }
        else { setting with least := n }))
  if word = "-regextype".toList then
    return some <|
      if dialects.any (·.toList = text) then .ok (.always true, { setting with dialect := text })
      else
        .error (Raw.ofText "Unknown regular expression type " ++ Quote.always text ++
          Raw.ofText "; valid types are " ++
          (", ".toList.intercalate (dialects.map fun name => Quote.always name.toList)) ++ ['.'])
  if comparesFile word || ["-fprint", "-fprint0", "-newermt"].any (·.toList = word) then
    match ← readFile call word text with
    | .ok primary => return some (.ok (primary, setting))
    | .error fault => return some (.error fault)
  match ofArgument? setting.dialect word text with
  | none => return none
  | some (.ok primary) => return some (.ok (primary, setting))
  | some (.error fault) => return some (.error fault)

/-- Reads the words of an expression; at most `fuel` of them. -/
def readWords (call : Call) : (fuel : Nat) → (before : Option Raw) → Words → List Raw →
    Job (Except Raw Words)
  | 0, _, words, _ => return .ok words
  | _, _, words, [] => return .ok words
  | fuel + 1, before, words, word :: args => do
      let goOn := fun (token : Token) (setting : Setting) (rest : List Raw) =>
        readWords call fuel (some word) ⟨token :: words.tokens, setting⟩ rest
      match operator? word, ofWord? word with
      | some token, _ => goOn token words.setting args
      | none, some primary =>
          if word.head? = some '-' then goOn (.primary primary) (words.setting.after word) args
          else return .error (unknown word before (← World.statusOfLast word).isOk)
      | none, none =>
          if runs word then
            match readCommand word fuel args with
            | .ok (primary, rest) => goOn (.primary primary) words.setting rest
            | .error fault => return .error fault
          else
            match ←
                if word.head? = some '-' then readWith call words.setting word (args.headD ['0'])
              else pure none with
            | none =>
                return .error (unknown word before (← World.statusOfLast word).isOk)
            | some (.ok (primary, setting)) =>
                if args.isEmpty then return .error (missing word)
                goOn (.primary primary) setting (args.drop 1)
            | some (.error fault) =>
                return .error (if args.isEmpty then missing word else fault)

/-! ## Expressions -/

/-- What is said of an operator with nothing before it. -/
def nothingBefore (word : Raw) : Raw :=
  Raw.ofText "invalid expression; you have used a binary operator '" ++ word ++
    Raw.ofText "' with nothing before it."

/-- What is said of an expression that ends after a word. -/
def nothingAfter (word : Raw) : Raw :=
  if word = ['('] then
    Raw.ofText <| "invalid expression; expected to find a ')' but didn't see one. " ++
      "Perhaps you need an extra predicate after '('"
  else Raw.ofText "expected an expression after '" ++ word ++ ['\'']

mutual

/-- Reads expressions between commas, after a word. -/
def readSeries : (fuel : Nat) → (after : Raw) → List Token → Except Raw (Expression × List Token)
  | 0, after, _ => .error (nothingAfter after)
  | fuel + 1, after, tokens => do
      match ← readEither fuel after tokens with
      | (first, .series word :: rest) => do
          let (second, rest) ← readSeries fuel word rest
          .ok (.series first second, rest)
      | result => .ok result

def readEither : (fuel : Nat) → (after : Raw) → List Token → Except Raw (Expression × List Token)
  | 0, after, _ => .error (nothingAfter after)
  | fuel + 1, after, tokens => do
      match ← readBoth fuel after tokens with
      | (first, .either word :: rest) => do
          let (second, rest) ← readEither fuel word rest
          .ok (.either first second, rest)
      | result => .ok result

def readBoth : (fuel : Nat) → (after : Raw) → List Token → Except Raw (Expression × List Token)
  | 0, after, _ => .error (nothingAfter after)
  | fuel + 1, after, tokens => do
      let (first, rest) ← readOperand fuel after tokens
      match rest with
      | .both word :: rest => do
          let (second, rest) ← readBoth fuel word rest
          .ok (.both first second, rest)
      | .primary _ :: _ | .not _ :: _ | .opening :: _ => do
          let (second, rest) ← readBoth fuel [] rest
          .ok (.both first second, rest)
      | _ => .ok (first, rest)

def readOperand : (fuel : Nat) → (after : Raw) → List Token → Except Raw (Expression × List Token)
  | 0, after, _ => .error (nothingAfter after)
  | fuel + 1, after, tokens =>
      match tokens with
      | [] => .error (nothingAfter after)
      | .primary primary :: rest => .ok (.primary primary, rest)
      | .not word :: rest => do
          let (inner, rest) ← readOperand fuel word rest
          .ok (.not inner, rest)
      | .both word :: _ | .either word :: _ | .series word :: _ => .error (nothingBefore word)
      | .closing :: _ =>
          .error <| Raw.ofText <|
            if after = ['('] then "invalid expression; empty parentheses are not allowed."
            else "invalid expression; you have too many ')'"
      | .opening :: rest => do
          match ← readSeries fuel ['('] rest with
          | (inner, .closing :: rest) => .ok (inner, rest)
          | _ =>
              .error (Raw.ofText <|
                "invalid expression; I was expecting to find a ')' somewhere " ++
                "but did not see one.")

end

/-- The expression that tokens make. -/
def Expression.ofTokens (tokens : List Token) : Except Raw Expression := do
  let acts := tokens.any fun token =>
    match token with
    | .primary p => p.acts
    | _ => false
  if tokens.isEmpty then .ok (.primary (.print '\n'))
  else
    match ← readSeries (5 * (tokens.length + 2)) [] tokens with
    | (e, []) => .ok (if acts then e else .both e (.primary (.print '\n')))
    | _ => .error (Raw.ofText "you have too many ')'")

end ShaderLiterals.Programs.Find
