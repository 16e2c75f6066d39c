/-!
# Checksums of bytes

Three kinds: remainders of polynomials, sums, and digests that mix blocks of words.  The constants
of the digests are the first bits of roots of primes and of sines, and are computed from them.
-/

namespace ShaderLiterals.Programs.Digest

/-! ## Sums -/

/-- One bit of a division by the polynomial of the checksum. -/
def remainderStep (crc : UInt32) : UInt32 :=
  if crc &&& 0x80000000 != 0 then crc <<< 1 ^^^ 0x04C11DB7 else crc <<< 1

/-- The remainders of all single bytes. -/
def remainders : Array UInt32 :=
  (Array.range 256).map fun n => Nat.repeat remainderStep 8 (UInt32.ofNat n <<< 24)

def remainderByte (crc : UInt32) (byte : UInt8) : UInt32 :=
  crc <<< 8 ^^^ remainders.getD ((crc >>> 24).toUInt8 ^^^ byte).toNat 0

/-- The bytes of a number, the lowest first, without those that are zero at the end. -/
def lowBytes : (fuel : Nat) → Nat → List UInt8
  | 0, _ | _, 0 => []
  | fuel + 1, n => UInt8.ofNat (n % 256) :: lowBytes fuel (n / 256)

/-- The checksum that divides the bytes, and how many they are, by a polynomial. -/
def remainder (bytes : List UInt8) : Nat :=
  let crc := bytes.foldl remainderByte 0
  (~~~ (lowBytes 9 bytes.length).foldl remainderByte crc).toNat

/-- The sum of sixteen bits that is turned by one bit before each byte. -/
def turningSum (bytes : List UInt8) : Nat :=
  bytes.foldl (fun sum byte => (sum / 2 + sum % 2 * 32768 + byte.toNat) % 65536) 0

/-- The sum of the bytes, folded to sixteen bits. -/
def foldedSum (bytes : List UInt8) : Nat :=
  let sum := bytes.foldl (fun sum byte => sum + byte.toNat) 0 % 4294967296
  let half := sum % 65536 + sum / 65536
  half % 65536 + half / 65536

/-! ## Blocks -/

/-- A word of bytes, the first of which counts most. -/
def bigWord (bytes : List UInt8) : Nat := bytes.foldl (fun n byte => n * 256 + byte.toNat) 0

/-- The bytes of a word, the one that counts most first. -/
def bigBytes (size n : Nat) : List UInt8 :=
  (List.range size).reverse.map fun i => UInt8.ofNat (n / Nat.pow 256 i)

/-- Pieces of one size; at most `fuel` of them. -/
def pieces (size : Nat) : (fuel : Nat) → List UInt8 → List (List UInt8)
  | 0, _ | _, [] => []
  | fuel + 1, bytes => bytes.take size :: pieces size fuel (bytes.drop size)

/-- The bytes filled up to whole blocks, with their number of bits at the end. -/
def padded (blockSize lengthSize : Nat) (lengthBytes : Nat → List UInt8) (bytes : List UInt8) :
    List UInt8 :=
  let used := (bytes.length + 1 + lengthSize) % blockSize
  let zeros := if used = 0 then 0 else blockSize - used
  bytes ++ 0x80 :: List.replicate zeros 0 ++ lengthBytes (8 * bytes.length)

/-- The first primes. -/
def primes (count : Nat) : List Nat :=
  ((List.range 420).filter fun n =>
    2 ≤ n && (List.range n).all fun d => d < 2 || n % d != 0).take count

/-- The largest number of so many bits whose power is at most `n`. -/
def root (power n : Nat) : (bits : Nat) → (found : Nat) → Nat
  | 0, found => found
  | bit + 1, found =>
      let next := found + Nat.pow 2 bit
      root power n bit (if Nat.pow next power ≤ n then next else found)

/-- The first bits behind the point of roots of primes. -/
def rootBits (power bits : Nat) (primes : List Nat) : List Nat :=
  primes.map fun p => root power (p * Nat.pow 2 (power * bits)) (bits + 8) 0 % Nat.pow 2 bits

/-! ## Digests of words that count bytes from the front -/

/-- What the digests of one family differ in. -/
structure Family where
  /-- How many bits a word has. -/
  bits : Nat
  rounds : Nat
  constants : Array Nat
  start : List Nat
  /-- How many bytes of the last state count. -/
  size : Nat
  /-- By how much words are turned, and at last shifted, for the four mixing functions. -/
  turns : List (Nat × Nat × Nat)

def turnRight (bits n k : Nat) : Nat := (n >>> k) ||| (n <<< (bits - k)) % Nat.pow 2 bits

/-- A word mixed with itself turned; the last amount is a shift if `shifts`. -/
def mix (bits : Nat) (shifts : Bool) (amounts : Nat × Nat × Nat) (n : Nat) : Nat :=
  turnRight bits n amounts.1 ^^^ turnRight bits n amounts.2.1 ^^^
    if shifts then n >>> amounts.2.2 else turnRight bits n amounts.2.2

/-- The words of a block, and those that are made of them. -/
def schedule (family : Family) (block : List UInt8) : Array Nat :=
  let first := ((pieces (family.bits / 8) 16 block).map bigWord).toArray
  let modulus := Nat.pow 2 family.bits
  (List.range (family.rounds - 16)).foldl
    (fun words i =>
      let get := fun (j : Nat) => words.getD j 0
      let a := mix family.bits true (family.turns.getD 0 (1, 1, 1)) (get (i + 1))
      let b := mix family.bits true (family.turns.getD 1 (1, 1, 1)) (get (i + 14))
      words.push ((get i + a + get (i + 9) + b) % modulus))
    first

def round (family : Family) (state : List Nat) (pair : Nat × Nat) : List Nat :=
  let modulus := Nat.pow 2 family.bits
  match state with
  | [a, b, c, d, e, f, g, h] =>
      let choice := (e &&& f) ^^^ ((modulus - 1 - e) &&& g)
      let majority := (a &&& b) ^^^ (a &&& c) ^^^ (b &&& c)
      let mixed := mix family.bits false (family.turns.getD 3 (1, 1, 1)) e
      let sum := h + mixed + choice + pair.1 + pair.2
      let other := mix family.bits false (family.turns.getD 2 (1, 1, 1)) a + majority
      [(sum + other) % modulus, a, b, c, (d + sum) % modulus, e, f, g]
  | state => state

def Family.digest (family : Family) (bytes : List UInt8) : List UInt8 :=
  let blockSize := 2 * family.bits
  let size := family.bits / 8
  let text := padded blockSize (2 * size) (bigBytes (2 * size)) bytes
  let modulus := Nat.pow 2 family.bits
  let last := (pieces blockSize text.length text).foldl
    (fun state block =>
      let words := schedule family block
      let after := (words.toList.zip family.constants.toList).foldl (round family) state
      (state.zip after).map fun (a, b) => (a + b) % modulus)
    family.start
  (last.flatMap (bigBytes size)).take family.size

def shortFamily (start : List Nat) (size : Nat) : Family :=
  { bits := 32, rounds := 64, constants := (rootBits 3 32 (primes 64)).toArray, start, size
    turns := [(7, 18, 3), (17, 19, 10), (2, 13, 22), (6, 11, 25)] }

def longFamily (start : List Nat) (size : Nat) : Family :=
  { bits := 64, rounds := 80, constants := (rootBits 3 64 (primes 80)).toArray, start, size
    turns := [(1, 8, 7), (19, 61, 6), (28, 34, 39), (14, 18, 41)] }

def sha256 : Family := shortFamily (rootBits 2 32 (primes 8)) 32

def sha224 : Family :=
  shortFamily ((rootBits 2 64 ((primes 16).drop 8)).map (· % 4294967296)) 28

def sha512 : Family := longFamily (rootBits 2 64 (primes 8)) 64

def sha384 : Family := longFamily (rootBits 2 64 ((primes 16).drop 8)) 48

/-! ## Older digests -/

def turnLeft (n : UInt32) (k : Nat) : UInt32 :=
  n <<< UInt32.ofNat k ||| n >>> UInt32.ofNat (32 - k)

/-- The words that the states of the older digests begin with. -/
def oldStart : List UInt32 := [0x67452301, 0xEFCDAB89, 0x98BADCFE, 0x10325476, 0xC3D2E1F0]

/-- The constant of a round of the digest of 160 bits, and the function that mixes three words. -/
def sha1Step (i : Nat) (b c d : UInt32) : UInt32 × UInt32 :=
  if i < 20 then (0x5A827999, (b &&& c) ||| (~~~b &&& d))
  else if i < 40 then (0x6ED9EBA1, b ^^^ c ^^^ d)
  else if i < 60 then (0x8F1BBCDC, (b &&& c) ||| (b &&& d) ||| (c &&& d))
  else (0xCA62C1D6, b ^^^ c ^^^ d)

def sha1Block (state : List UInt32) (block : List UInt8) : List UInt32 :=
  let first := ((pieces 4 16 block).map fun word => UInt32.ofNat (bigWord word)).toArray
  let words := (List.range 64).foldl
    (fun words i =>
      let get := fun (j : Nat) => words.getD j 0
      words.push (turnLeft (get (i + 13) ^^^ get (i + 8) ^^^ get (i + 2) ^^^ get i) 1))
    first
  let after := words.toList.zipIdx.foldl
    (fun state (word, i) =>
      match state with
      | [a, b, c, d, e] =>
          let (constant, mixed) := sha1Step i b c d
          [turnLeft a 5 + mixed + e + constant + word, a, turnLeft b 30, c, d]
      | state => state)
    state
  (state.zip after).map fun (a, b) => a + b

def sha1 (bytes : List UInt8) : List UInt8 :=
  let text := padded 64 8 (bigBytes 8) bytes
  let last := (pieces 64 text.length text).foldl sha1Block oldStart
  last.flatMap fun word => bigBytes 4 word.toNat

/-- The constants of the digest of 128 bits. -/
def sines : Array UInt32 :=
  (Array.range 64).map fun i =>
    ((Float.sin (Float.ofNat (i + 1))).abs * 4294967296.0).floor.toUInt64.toUInt32

/-- How far the words of each round are turned. -/
def md5Turns : List (List Nat) :=
  [[7, 12, 17, 22], [5, 9, 14, 20], [4, 11, 16, 23], [6, 10, 15, 21]]

/-- Mixes three words in a round, and tells which word of the block is added. -/
def md5Step (i : Nat) (b c d : UInt32) : UInt32 × Nat :=
  if i < 16 then ((b &&& c) ||| (~~~b &&& d), i)
  else if i < 32 then ((d &&& b) ||| (~~~d &&& c), (5 * i + 1) % 16)
  else if i < 48 then (b ^^^ c ^^^ d, (3 * i + 5) % 16)
  else (c ^^^ (b ||| ~~~d), 7 * i % 16)

def md5Block (state : List UInt32) (block : List UInt8) : List UInt32 :=
  let words := ((pieces 4 16 block).map fun word => UInt32.ofNat (bigWord word.reverse)).toArray
  let after := (List.range 64).foldl
    (fun state i =>
      match state with
      | [a, b, c, d] =>
          let (mixed, place) := md5Step i b c d
          let sum := a + mixed + sines.getD i 0 + words.getD place 0
          [d, b + turnLeft sum ((md5Turns.getD (i / 16) []).getD (i % 4) 0), b, c]
      | state => state)
    state
  (state.zip after).map fun (a, b) => a + b

def md5 (bytes : List UInt8) : List UInt8 :=
  let text := padded 64 8 (fun n => (bigBytes 8 n).reverse) bytes
  let last := (pieces 64 text.length text).foldl md5Block (oldStart.take 4)
  last.flatMap fun word => (bigBytes 4 word.toNat).reverse

end ShaderLiterals.Programs.Digest
