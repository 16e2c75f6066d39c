import ShaderLiterals.Programs.Digest
import ShaderLiterals.Programs.Tool.Text

/-! # Checksums and texts for bytes -/

namespace ShaderLiterals.Programs

open Files (Fault)

/-! ## Sums -/

namespace Checksum

/-- Prints a line for each operand, the input if there are none. -/
def forAll (call : Call) (operands : List Raw) (line : Raw → Bool → Raw → Raw) : Job Nat := do
  let named := !operands.isEmpty
  call.forOperands operands fun operand text => call.printLine (line operand named text)

/-- A number, a size and perhaps a name. -/
def sumLine (sum : Raw) (size : Raw) (name : Raw) (named : Bool) : Raw :=
  sum ++ ' ' :: size ++ if named then ' ' :: name else []

def blocks (size : Nat) (text : Raw) : Nat := (text.length + size - 1) / size

/-- The sum that is turned, in blocks of 1024 bytes. -/
def turningLine (name : Raw) (named : Bool) (text : Raw) : Raw :=
  sumLine (Raw.padLeft '0' 5 (Raw.ofNat (Digest.turningSum text.toBytes)))
    (Raw.right 5 (blocks 1024 text)) name named

/-- The sum that is folded, in blocks of 512 bytes. -/
def foldedLine (name : Raw) (named : Bool) (text : Raw) : Raw :=
  sumLine (Raw.ofNat (Digest.foldedSum text.toBytes)) (Raw.ofNat (blocks 512 text)) name named

/-- The remainder, and the number of bytes. -/
def remainderLine (name : Raw) (named : Bool) (text : Raw) : Raw :=
  sumLine (Raw.ofNat (Digest.remainder text.toBytes)) (Raw.ofNat text.length) name named

end Checksum

/-- Prints short sums of its operands. -/
def sum : Tool := fun call =>
  call.withOptions "r/ s/sysv" 1 fun options =>
    Checksum.forAll call options.operands
      (if options.has "sysv" then Checksum.foldedLine else Checksum.turningLine)

/-! ## Digests -/

/-- A way to make digests. -/
structure DigestKind where
  name : String
  digest : List UInt8 → List UInt8
  /-- How many bytes a digest has. -/
  size : Nat

namespace DigestKind

def md5 : DigestKind := ⟨"MD5", Digest.md5, 16⟩
def sha1 : DigestKind := ⟨"SHA1", Digest.sha1, 20⟩
def sha224 : DigestKind := ⟨"SHA224", Digest.sha224.digest, 28⟩
def sha256 : DigestKind := ⟨"SHA256", Digest.sha256.digest, 32⟩
def sha384 : DigestKind := ⟨"SHA384", Digest.sha384.digest, 48⟩
def sha512 : DigestKind := ⟨"SHA512", Digest.sha512.digest, 64⟩

def all : List (String × DigestKind) :=
  [("md5", md5), ("sha1", sha1), ("sha224", sha224), ("sha256", sha256), ("sha384", sha384),
    ("sha512", sha512)]

/-- The digest of a text in hexadecimal digits. -/
def hex (kind : DigestKind) (text : Raw) : Raw :=
  (kind.digest text.toBytes).flatMap fun byte =>
    Raw.padLeft '0' 2 (Nat.toDigits 16 byte.toNat)

/-- How a digest and a name are put into a line. -/
structure Line where
  tagged : Bool
  binary : Bool
  ending : Char

def lineText (kind : DigestKind) (line : Line) (name digest : Raw) : Raw :=
  let special := line.ending = '\n' &&
    name.any fun c => c == '\\' || c == '\n' || c == '\r'
  let shown :=
    if special then
      name.flatMap fun c =>
        match c with
        | '\\' => ['\\', '\\']
        | '\n' => ['\\', 'n']
        | '\r' => ['\\', 'r']
        | c => [c]
    else name
  (if special then ['\\'] else []) ++
    (if line.tagged then
      Raw.ofText kind.name ++ ' ' :: '(' :: shown ++ Raw.ofText ") = " ++ digest
    else digest ++ ' ' :: (if line.binary then '*' else ' ') :: shown) ++ [line.ending]

/-- The name and the digest in a line. -/
def readLine? (kind : DigestKind) (line : Raw) : Option (Raw × Raw) :=
  let isHex := fun (text : Raw) => text.length = 2 * kind.size && text.all (Digits.isDigit 16)
  let digest := line.takeWhile (· != ' ')
  if isHex digest then
    match line.drop digest.length with
    | ' ' :: c :: name => if c = ' ' || c = '*' then some (name, digest) else none
    | _ => none
  else
    let head := Raw.ofText (kind.name ++ " (")
    let after := line.drop (line.length - 2 * kind.size)
    let middle := (line.take (line.length - 2 * kind.size)).drop head.length
    if head.isPrefixOf line && isHex after && (Raw.ofText ") = ").isSuffixOf middle then
      some (middle.take (middle.length - 4), after)
    else none

/-- What came out of checking lines. -/
structure Tally where
  good : Nat
  bad : Nat
  unreadable : Nat
  malformed : Nat

/-- What of the checks is shown. -/
structure Shown where
  good : Bool
  bad : Bool
  summary : Bool

/-- Checks the lines of a text. -/
def checkLines (kind : DigestKind) (call : Call) (shown : Shown) (ignoresMissing : Bool) :
    List Raw → Tally → Job Tally
  | [], tally => return tally
  | line :: rest, tally =>
      match kind.readLine? line with
      | none =>
          checkLines kind call shown ignoresMissing rest
            { tally with malformed := tally.malformed + 1 }
      | some (name, digest) => do
          match ← call.readOperand name with
          | .error fault => do
              if ignoresMissing && fault = .notFound then
                return ← checkLines kind call shown ignoresMissing rest tally
              call.complainPath name fault
              if shown.bad then call.printLine (name ++ Raw.ofText ": FAILED open or read")
              checkLines kind call shown ignoresMissing rest
                { tally with unreadable := tally.unreadable + 1 }
          | .ok text =>
              if kind.hex text = digest.map Char.toLower then do
                if shown.good then call.printLine (name ++ Raw.ofText ": OK")
                checkLines kind call shown ignoresMissing rest { tally with good := tally.good + 1 }
              else do
                if shown.bad then call.printLine (name ++ Raw.ofText ": FAILED")
                checkLines kind call shown ignoresMissing rest { tally with bad := tally.bad + 1 }

/-- Checks the digests that a file lists. -/
def checkFile (kind : DigestKind) (call : Call) (options : Options) (operand text : Raw) :
    Job Bool := do
  let quiet := options.has "status"
  let shown : Shown := ⟨!quiet && !options.has "quiet", !quiet, !quiet⟩
  let tally ← checkLines kind call shown (options.has "ignore-missing") (Raw.records '\n' text)
    ⟨0, 0, 0, 0⟩
  if tally.good + tally.bad + tally.unreadable = 0 then
    call.complain (Quote.ifNeeded operand ++
      Raw.ofText s!": no properly formatted {kind.name} checksum lines found")
    return false
  let say := fun (n : Nat) (one many : String) =>
    if n != 0 && shown.summary then
      call.complain (Raw.ofText s!"WARNING: {n} {if n = 1 then one else many}")
    else return
  say tally.malformed "line is improperly formatted" "lines are improperly formatted"
  say tally.unreadable "listed file could not be read" "listed files could not be read"
  say tally.bad "computed checksum did NOT match" "computed checksums did NOT match"
  return tally.bad = 0 && tally.unreadable = 0 &&
    (tally.malformed = 0 || !options.has "strict")

def description : String :=
  "b/binary t/text c/check w/warn z/zero /tag /ignore-missing /quiet /status /strict"

/-- Prints or checks digests. -/
def tool (kind : DigestKind) : Tool := fun call =>
  call.withOptions description 1 fun options => do
  if options.has "check" then
    let mut status := 0
    for operand in if options.operands.isEmpty then [['-']] else options.operands do
      match ← call.readOperand operand with
      | .error fault => do
          call.complainPath operand fault
          status := 1
      | .ok text => unless ← kind.checkFile call options operand text do status := 1
    return status
  let line : Line :=
    { tagged := options.has "tag", binary := options.has "binary"
      ending := if options.has "zero" then '\x00' else '\n' }
  call.forOperands options.operands fun operand text =>
    call.print (kind.lineText line operand (kind.hex text))

end DigestKind

/-- Prints checksums of its operands. -/
def cksum : Tool := fun call =>
  call.withOptions ("a/algorithm= l/length= /untagged /base64 /raw /debug " ++
    DigestKind.description) 1 fun options => do
  match String.ofList ((options.value? "algorithm").getD "crc".toList) with
  | "crc" => Checksum.forAll call options.operands Checksum.remainderLine
  | "bsd" => Checksum.forAll call options.operands Checksum.turningLine
  | "sysv" => Checksum.forAll call options.operands Checksum.foldedLine
  | name =>
      match DigestKind.all.lookup name with
      | some kind =>
          let line : DigestKind.Line := ⟨!options.has "untagged", false, '\n'⟩
          call.forOperands options.operands fun operand text =>
            call.print (kind.lineText line operand (kind.hex text))
      | none =>
          call.refuseUsage 1 (Raw.ofText "invalid argument " ++ Quote.always name.toList ++
            Raw.ofText " for '--algorithm'")

/-! ## Letters for bits -/

namespace Encoding

/-- Letters that each stand for some bits, and how many of them stand for whole bytes. -/
structure Alphabet where
  letters : Raw
  bits : Nat
  group : Nat

def base64 : Alphabet :=
  ⟨"ABCDEFGHIJKLMNOPQRSTUVWXYZabcdefghijklmnopqrstuvwxyz0123456789+/".toList, 6, 4⟩

def base64url : Alphabet :=
  ⟨"ABCDEFGHIJKLMNOPQRSTUVWXYZabcdefghijklmnopqrstuvwxyz0123456789-_".toList, 6, 4⟩

def base32 : Alphabet := ⟨"ABCDEFGHIJKLMNOPQRSTUVWXYZ234567".toList, 5, 8⟩

def base16 : Alphabet := ⟨"0123456789ABCDEF".toList, 4, 2⟩

/-- How many bytes a group of letters stands for. -/
def Alphabet.groupBytes (alphabet : Alphabet) : Nat := alphabet.bits * alphabet.group / 8

/-- The letters for one group of bytes, filled up. -/
def encodeGroup (alphabet : Alphabet) (bytes : Raw) : Raw :=
  let filled := bytes ++ List.replicate (alphabet.groupBytes - bytes.length) '\x00'
  let n := filled.foldl (fun n c => n * 256 + c.toNat) 0
  let used := (8 * bytes.length + alphabet.bits - 1) / alphabet.bits
  (List.range alphabet.group).map fun i =>
    if i < used then
      alphabet.letters.getD
        (n / Nat.pow 2 (alphabet.bits * (alphabet.group - 1 - i)) % Nat.pow 2 alphabet.bits) '='
    else '='

def encode (alphabet : Alphabet) (text : Raw) : Raw :=
  (Raw.chunks alphabet.groupBytes text.length text).flatMap (encodeGroup alphabet)

/-- The bytes that groups of letters stand for, and whether all could be read. -/
def decode (alphabet : Alphabet) : (fuel : Nat) → Raw → Raw × Bool
  | 0, _ | _, [] => ([], true)
  | fuel + 1, text =>
      let group := text.take alphabet.group
      let letters := group.takeWhile fun c => alphabet.letters.contains c
      let n := (letters ++ List.replicate (alphabet.group - letters.length) 'A').foldl
        (fun n c => n * Nat.pow 2 alphabet.bits + alphabet.letters.idxOf c) 0
      let size := alphabet.bits * letters.length / 8
      let bytes := (List.range size).map fun i =>
        Raw.byte (n / Nat.pow 256 (alphabet.groupBytes - 1 - i))
      let isWhole := letters.length = alphabet.group
      let isFilled := group.length = alphabet.group && 0 < size &&
        (group.drop letters.length).all (· == '=')
      if isWhole || isFilled then
        let (more, good) := decode alphabet fuel (text.drop alphabet.group)
        (bytes ++ more, good)
      else (bytes, false)

/-- Encodes or decodes an operand. -/
def run (alphabet : Alphabet) (call : Call) (options : Options) : Job Nat := do
  match options.operands with
  | _ :: extra :: _ => call.refuseExtra 1 extra
  | operands => do
      let wrap :=
        match options.value? "wrap" with
        | none => some 76
        | some text => Raw.nat? text
      match wrap with
      | none =>
          call.refuse 1 (Raw.ofText "invalid wrap size: " ++
            Quote.always ((options.value? "wrap").getD []))
      | some wrap => do
          match ← call.readOperand (operands.headD ['-']) with
          | .error .isDirectory => call.refuse 1 (Raw.ofText "read error: Is a directory")
          | .error fault => do
              call.complainPath (operands.headD []) fault
              return 1
          | .ok text =>
              if options.has "decode" then
                let letters := text.filter fun c =>
                  if options.has "ignore-garbage" then alphabet.letters.contains c || c == '='
                  else c != '\n'
                let (bytes, good) := decode alphabet letters.length letters
                if !good then
                  call.warn (call.name ++ Raw.ofText ": invalid input\n")
                  call.print bytes
                  return 1
                call.print bytes
                return 0
              let letters := encode alphabet text
              call.print (if wrap = 0 then letters
                else Raw.unlines (Raw.chunks wrap letters.length letters))
              return 0

def description : String := "d/decode i/ignore-garbage w/wrap="

end Encoding

/-- Writes bytes as letters of an alphabet, or the other way round. -/
def encodingTool (alphabet : Encoding.Alphabet) : Tool := fun call =>
  call.withOptions Encoding.description 1 (Encoding.run alphabet call)

/-- The same with an alphabet that an option names. -/
def basenc : Tool := fun call =>
  call.withOptions (Encoding.description ++ " /base64 /base64url /base32 /base16") 1 fun options =>
    let alphabet :=
      [("base64url", Encoding.base64url), ("base32", Encoding.base32), ("base16", Encoding.base16),
        ("base64", Encoding.base64)].find? fun entry => options.has entry.1
    match alphabet with
    | some (_, alphabet) => Encoding.run alphabet call options
    | none => call.refuseUsage 1 (Raw.ofText "missing encoding type")

end ShaderLiterals.Programs
