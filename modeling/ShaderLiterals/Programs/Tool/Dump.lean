import ShaderLiterals.Programs.Tool.Text

/-! # Dumping bytes -/

namespace ShaderLiterals.Programs

namespace Dump

/-- How bytes are shown: so many at once, as so many characters, and whether what can be printed
stands at the end of a row. -/
structure Format where
  size : Nat
  width : Nat
  shown : Raw → Raw
  showsText : Bool

/-- The number that bytes spell, the last of which counts most. -/
def number (bytes : Raw) : Nat :=
  bytes.foldr (fun c n => c.toNat + 256 * n) 0

/-- The same with the highest bit as a sign. -/
def signed (bytes : Raw) : Raw :=
  let n := number bytes
  let modulus := Nat.pow 256 bytes.length
  if 2 * n < modulus then Raw.ofNat n else '-' :: Raw.ofNat (modulus - n)

/-- A byte as a character, a letter after a backslash, or octal digits. -/
def character (c : Char) : Raw :=
  match [('\x00', '0'), ('\x07', 'a'), ('\x08', 'b'), ('\x0c', 'f'), ('\n', 'n'), ('\r', 'r'),
      ('\t', 't'), ('\x0b', 'v')].lookup c with
  | some letter => ['\\', letter]
  | none =>
      if ' ' ≤ c && c ≤ '~' then [c] else Raw.padLeft '0' 3 (Nat.toDigits 8 c.toNat)

/-- The names of the control characters. -/
def controlNames : List String :=
  ["nul", "soh", "stx", "etx", "eot", "enq", "ack", "bel", "bs", "ht", "nl", "vt", "ff", "cr", "so",
    "si", "dle", "dc1", "dc2", "dc3", "dc4", "nak", "syn", "etb", "can", "em", "sub", "esc", "fs",
    "gs", "rs", "us", "sp"]

/-- A byte by its name, the highest bit left out. -/
def named (c : Char) : Raw :=
  let n := c.toNat % 128
  match controlNames[n]? with
  | some name => name.toList
  | none => if n = 127 then "del".toList else [Char.ofNat n]

namespace Format

def hex (size : Nat) : Format :=
  ⟨size, 2 * size, fun bytes => Raw.padLeft '0' (2 * size) (Nat.toDigits 16 (number bytes)), false⟩

def octal (size : Nat) : Format :=
  let width := (8 * size + 2) / 3
  ⟨size, width, fun bytes => Raw.padLeft '0' width (Nat.toDigits 8 (number bytes)), false⟩

def unsigned (size : Nat) : Format :=
  ⟨size, (Raw.ofNat (Nat.pow 256 size - 1)).length, fun bytes => Raw.ofNat (number bytes), false⟩

def signed (size : Nat) : Format :=
  ⟨size, (Raw.ofNat (Nat.pow 256 size / 2)).length + 1, Dump.signed, false⟩

def characters : Format := ⟨1, 3, fun bytes => bytes.flatMap character, false⟩

def names : Format := ⟨1, 3, fun bytes => bytes.flatMap named, false⟩

/-- The size that follows a letter, and the rest. -/
def size? (text : Raw) : Option (Nat × Raw) :=
  match text with
  | 'C' :: rest => some (1, rest)
  | 'S' :: rest => some (2, rest)
  | 'I' :: rest => some (4, rest)
  | 'L' :: rest => some (8, rest)
  | text =>
      let digits := text.takeWhile Char.isDigit
      match Raw.nat? digits with
      | none => some (4, text)
      | some n =>
          if [1, 2, 4, 8].contains n then some (n, text.drop digits.length) else none

/-- The formats that letters spell, each perhaps with a size; at most `fuel` of them. -/
def readAll (whole : Raw) : (fuel : Nat) → Raw → Except Raw (List Format)
  | 0, _ | _, [] => .ok []
  | fuel + 1, letter :: rest =>
      let goOn := fun (format : Format) (rest : Raw) =>
        match rest with
        | 'z' :: rest => (readAll whole fuel rest).map ({ format with showsText := true } :: ·)
        | rest => (readAll whole fuel rest).map (format :: ·)
      let sized := fun (make : Nat → Format) =>
        match size? rest with
        | some (n, rest) => goOn (make n) rest
        | none =>
            .error (Raw.ofText "invalid type string " ++ Quote.always whole ++
              Raw.ofText ";\nthis system doesn't provide a " ++ rest.takeWhile Char.isDigit ++
              Raw.ofText "-byte integral type")
      match letter with
      | 'a' => goOn names rest
      | 'c' => goOn characters rest
      | 'x' => sized hex
      | 'o' => sized octal
      | 'u' => sized unsigned
      | 'd' => sized signed
      | c =>
          .error (Raw.ofText "invalid character " ++ Quote.always [c] ++
            Raw.ofText " in type string " ++
            Quote.always whole)

/-- The formats that the letter of an option asks for. -/
def ofOption? (key value : Raw) : Option (Except Raw (List Format)) :=
  match String.ofList key with
  | "format" => some (readAll value (value.length + 1) value)
  | "a" => some (.ok [names])
  | "b" => some (.ok [octal 1])
  | "c" => some (.ok [characters])
  | "d" => some (.ok [unsigned 2])
  | "o" => some (.ok [octal 2])
  | "x" | "h" => some (.ok [hex 2])
  | "i" => some (.ok [signed 4])
  | "l" => some (.ok [signed 8])
  | "s" => some (.ok [signed 2])
  | _ => none

end Format

/-- The fields of a row in a format; `count` is how many there are in a full row, and `extra` the
number of blanks that are spread before them. -/
def fields (format : Format) (count extra : Nat) : Nat → List Raw → Raw
  | _, [] => []
  | i, unit :: rest =>
      let filled := unit ++ List.replicate (format.size - unit.length) '\x00'
      let before := extra * (count - i) / count
      let after := extra * (count - i - 1) / count
      ' ' :: Raw.padLeft ' ' (format.width + (before - after)) (format.shown filled) ++
        fields format count extra (i + 1) rest

/-- A row of bytes in a format, for rows of `size` bytes that are `width` characters wide. -/
def row (size width : Nat) (format : Format) (bytes : Raw) : Raw :=
  let count := size / format.size
  let extra := width - count * (format.width + 1)
  let text := fields format count extra 0 (Raw.chunks format.size bytes.length bytes)
  if format.showsText then
    let shown := bytes.map fun c => if ' ' ≤ c && c ≤ '~' then c else '.'
    Raw.padRight width text ++ ' ' :: ' ' :: '>' :: shown ++ ['<']
  else text

/-- An address: the base of its digits and how many there are at least. -/
abbrev Address := Option (Nat × Nat)

def addressText (address : Address) (n : Nat) : Raw :=
  match address with
  | none => []
  | some (base, width) => Raw.padLeft '0' width (Nat.toDigits base n)

/-- The dump of rows from an address on.  Of equal rows, those after the first give one star. -/
def dump (address : Address) (size : Nat) (formats : List Format) (abbreviates : Bool)
    (offset : Nat) (last : Option Raw) (starred : Bool) : List Raw → Raw
  | [] => []
  | bytes :: rest =>
      let next := offset + bytes.length
      if abbreviates && some bytes = last && bytes.length = size then
        (if starred then [] else ['*', '\n']) ++
          dump address size formats abbreviates next last true rest
      else
        let width := (formats.map fun f => size / f.size * (f.width + 1)).foldl max 0
        let indent := List.replicate ((address.map Prod.snd).getD 0) ' '
        let lines := formats.zipIdx.flatMap fun (format, i) =>
          (if i = 0 then addressText address offset else indent) ++ row size width format bytes ++
            ['\n']
        lines ++ dump address size formats abbreviates next (some bytes) false rest

/-- The address that an option asks for. -/
def address? : Raw → Option Address
  | ['n'] => some none
  | ['x'] => some (some (16, 6))
  | ['d'] => some (some (10, 7))
  | ['o'] => some (some (8, 7))
  | _ => none

end Dump

/-- Shows the bytes of its operands. -/
def od : Tool := fun call =>
  call.withOptions ("A/address-radix= t/format= N/read-bytes= j/skip-bytes= w/width== " ++
    "v/output-duplicates a/ b/ c/ d/ o/ x/ h/ i/ l/ s/ S/strings== /endian= /traditional") 1
    fun options => do
  let radix := (options.value? "address-radix").getD ['o']
  match Dump.address? radix with
  | none =>
      call.refuse 1 (Raw.ofText "invalid output address radix " ++ Quote.always radix ++
        Raw.ofText "; it must be one character from [doxn]")
  | some address =>
      let asked := options.given.filterMap fun (key, value) => Dump.Format.ofOption? key value
      match asked.mapM id with
      | .error complaint => call.refuse 1 complaint
      | .ok lists => do
          let formats := if lists.flatten.isEmpty then [Dump.Format.octal 2] else lists.flatten
          let size :=
            match options.value? "width" with
            | none => 16
            | some [] => 32
            | some text => max 1 ((Raw.nat? text).getD 16)
          let skipped := ((options.value? "skip-bytes").bind Raw.size?).getD 0
          let limit := (options.value? "read-bytes").bind Raw.size?
          let mut texts : List Raw := []
          let mut status := 0
          let mut isRead := options.operands.isEmpty
          for operand in if options.operands.isEmpty then [['-']] else options.operands do
            match ← call.readOperand operand with
            | .ok text => do
                texts := texts ++ [text]
                isRead := true
            | .error fault => do
                call.complain (Quote.ifNeeded operand ++ Raw.ofText (": " ++ fault.text))
                status := 1
          let text := texts.flatten
          if text.length < skipped then
            return ← call.refuse 1 (Raw.ofText "cannot skip past end of combined input")
          let text := text.drop skipped
          let text := (limit.map fun n => text.take n).getD text
          if isRead || status = 0 then
            let abbreviates := !options.has "output-duplicates"
            call.print (Dump.dump address size formats abbreviates skipped none
              false (Raw.chunks size text.length text))
            if let some _ := address then
              call.print (Dump.addressText address (skipped + text.length) ++ ['\n'])
          return status

end ShaderLiterals.Programs
