/-!
# UTF-8

Bytes are cut into characters and faults.  A fault is the longest run of bytes that begins some
well-formed character without finishing it, or a single byte that begins none; the pieces put
together again are the bytes (`flatMap_bytes_pieces`).  A strict reader refuses every fault, a
lenient one puts a replacement character in its place.
-/

namespace ShaderLiterals.Utf8

/-- The bytes of a text. -/
def encode (text : List Char) : List UInt8 :=
  text.flatMap String.utf8EncodeChar

@[simp] theorem encode_nil : encode [] = [] := rfl

@[simp] theorem encode_cons (c : Char) (text : List Char) :
    encode (c :: text) = String.utf8EncodeChar c ++ encode text := rfl

@[simp] theorem encode_append (s t : List Char) : encode (s ++ t) = encode s ++ encode t := by
  simp [encode]

/-- The values that one byte of a character may have. -/
structure ByteRange where
  low : UInt8
  high : UInt8

def ByteRange.contains (r : ByteRange) (b : UInt8) : Bool :=
  r.low ≤ b && b ≤ r.high

/-- Any continuation byte. -/
def ByteRange.tail : ByteRange := ⟨0x80, 0xBF⟩

/-- What must follow a first byte.  The narrower ranges keep out overlong forms, surrogates and
values past the last code point. -/
def owed (first : UInt8) : Option (List ByteRange) :=
  if first ≤ 0x7F then some []
  else if first < 0xC2 then none
  else if first ≤ 0xDF then some [.tail]
  else if first = 0xE0 then some [⟨0xA0, 0xBF⟩, .tail]
  else if first = 0xED then some [⟨0x80, 0x9F⟩, .tail]
  else if first ≤ 0xEF then some [.tail, .tail]
  else if first = 0xF0 then some [⟨0x90, 0xBF⟩, .tail, .tail]
  else if first ≤ 0xF3 then some [.tail, .tail, .tail]
  else if first = 0xF4 then some [⟨0x80, 0x8F⟩, .tail, .tail]
  else none

/-- The first bytes that lie in their ranges, and whether no range is left over. -/
def fit : List ByteRange → List UInt8 → List UInt8 × Bool
  | [], _ => ([], true)
  | _ :: _, [] => ([], false)
  | r :: rs, b :: bs =>
      if r.contains b then
        let rest := fit rs bs
        (b :: rest.1, rest.2)
      else ([], false)

theorem fit_append_drop (rs : List ByteRange) (bs : List UInt8) :
    (fit rs bs).1 ++ bs.drop (fit rs bs).1.length = bs := by
  induction rs generalizing bs with
  | nil => rfl
  | cons r rs ih =>
      cases bs with
      | nil => rfl
      | cons b bs => by_cases h : r.contains b <;> simp [fit, h, ih]

/-- The bits that a first byte contributes when `n` bytes follow it. -/
def leadBits (n : Nat) (first : UInt8) : Nat :=
  match n with
  | 0 => first.toNat
  | 1 => first.toNat % 0x20
  | 2 => first.toNat % 0x10
  | _ => first.toNat % 0x08

/-- The code point that the bytes of one character spell. -/
def codePoint (first : UInt8) (tail : List UInt8) : Nat :=
  tail.foldl (fun value b => value * 0x40 + b.toNat % 0x40) (leadBits tail.length first)

inductive Piece where
  | char (c : Char) (bytes : List UInt8)
  | fault (bytes : List UInt8)

namespace Piece

def bytes : Piece → List UInt8
  | char _ bs | fault bs => bs

def char? : Piece → Option Char
  | char c _ => some c
  | fault _ => none

/-- The character of a piece, or the one that stands for what cannot be read. -/
def charOrReplacement : Piece → Char
  | char c _ => c
  | fault _ => '\uFFFD'

end Piece

/-- The piece that starts with `first`. -/
def piece (first : UInt8) (bs : List UInt8) : Piece :=
  match owed first with
  | none => .fault [first]
  | some rs =>
      match fit rs bs with
      | (tail, true) => .char (Char.ofNat (codePoint first tail)) (first :: tail)
      | (tail, false) => .fault (first :: tail)

/-- The bytes after the piece that starts with `first`. -/
def afterPiece (first : UInt8) (bs : List UInt8) : List UInt8 :=
  bs.drop ((piece first bs).bytes.length - 1)

theorem bytes_piece_append_afterPiece (first : UInt8) (bs : List UInt8) :
    (piece first bs).bytes ++ afterPiece first bs = first :: bs := by
  unfold afterPiece piece
  cases owed first with
  | none => simp [Piece.bytes]
  | some rs =>
      have h := fit_append_drop rs bs
      dsimp only
      generalize fit rs bs = r at h ⊢
      obtain ⟨tail, full⟩ := r
      cases full <;> simpa [Piece.bytes] using h

theorem length_afterPiece_le (first : UInt8) (bs : List UInt8) :
    (afterPiece first bs).length ≤ bs.length := by
  simp [afterPiece]

def pieces : List UInt8 → List Piece
  | [] => []
  | first :: bs => piece first bs :: pieces (afterPiece first bs)
termination_by bs => bs.length
decreasing_by exact Nat.lt_succ_of_le (length_afterPiece_le first bs)

@[simp] theorem pieces_nil : pieces [] = [] := by rw [pieces]

theorem pieces_cons (first : UInt8) (bs : List UInt8) :
    pieces (first :: bs) = piece first bs :: pieces (afterPiece first bs) := by rw [pieces]

/-- No byte is lost or moved. -/
theorem flatMap_bytes_pieces (bs : List UInt8) : (pieces bs).flatMap Piece.bytes = bs := by
  fun_induction pieces bs with
  | case1 => rfl
  | case2 first bs ih => rw [List.flatMap_cons, ih, bytes_piece_append_afterPiece]

/-- The text of well-formed bytes; `none` if they hold a fault. -/
def decode? (bs : List UInt8) : Option (List Char) :=
  (pieces bs).mapM Piece.char?

/-- The text of any bytes, with a replacement character for each fault. -/
def decodeLossy (bs : List UInt8) : List Char :=
  (pieces bs).map Piece.charOrReplacement

end ShaderLiterals.Utf8
