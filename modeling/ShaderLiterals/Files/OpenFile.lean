/-!
# Files that are being read

A reader takes a file in blocks and uses the bytes of a block one line at a time.  A block keeps
its bytes whatever becomes of the file; what lies behind it is read only when it is needed.  Used
bytes are the first ones of all that are still to come, as the file stands
(`rest_advance`).
-/

namespace ShaderLiterals.Files

/-- How many bytes a block has, if the file has as many. -/
def blockSize : Nat := 8192

structure OpenFile where
  id : Nat
  /-- The bytes that were read and not used. -/
  buffer : List UInt8
  /-- How far into the file reading has come. -/
  offset : Nat
deriving DecidableEq, Repr

namespace OpenFile

/-- A file of which nothing was read. -/
def start (id : Nat) : OpenFile := ⟨id, [], 0⟩

/-- The bytes still to come from a file that holds `bytes`. -/
def rest (file : OpenFile) (bytes : List UInt8) : List UInt8 :=
  file.buffer ++ bytes.drop file.offset

@[simp] theorem id_start (id : Nat) : (start id).id = id := rfl

@[simp] theorem rest_start (id : Nat) (bytes : List UInt8) : (start id).rest bytes = bytes := by
  simp [rest, start]

/-- How many bytes are in the blocks, out of `available` bytes, that hold the first `used` ones. -/
def fetched (used available : Nat) : Nat :=
  min ((used + blockSize - 1) / blockSize * blockSize) available

theorem le_fetched {used available : Nat} (h : used ≤ available) :
    used ≤ fetched used available := by
  have hb : blockSize = 8192 := rfl
  unfold fetched
  rw [hb]
  omega

/-- The open file after the next `used` bytes were used. -/
def advance (file : OpenFile) (bytes : List UInt8) (used : Nat) : OpenFile :=
  if used ≤ file.buffer.length then { file with buffer := file.buffer.drop used }
  else
    let unread := bytes.drop file.offset
    let needed := used - file.buffer.length
    let count := fetched needed unread.length
    { file with buffer := (unread.take count).drop needed, offset := file.offset + count }

@[simp] theorem id_advance (file : OpenFile) (bytes : List UInt8) (used : Nat) :
    (file.advance bytes used).id = file.id := by
  unfold advance
  split <;> rfl

/-- Using bytes takes them from the front of what is still to come. -/
theorem rest_advance (file : OpenFile) {bytes : List UInt8} {used : Nat}
    (h : used ≤ (file.rest bytes).length) :
    (file.advance bytes used).rest bytes = (file.rest bytes).drop used := by
  unfold advance
  split
  · next hle => simp [rest, List.drop_append_of_le_length hle]
  · next hlt =>
    have hn : used - file.buffer.length ≤ (bytes.drop file.offset).length := by
      simp only [rest, List.length_append] at h
      omega
    have hf := le_fetched hn
    simp only [rest, ← List.drop_drop, List.drop_append]
    generalize fetched _ _ = count at hf
    rw [List.drop_eq_nil_of_le (by omega : file.buffer.length ≤ used), List.nil_append]
    generalize bytes.drop file.offset = unread at hn
    have hlen : used - file.buffer.length - (unread.take count).length = 0 := by
      rw [List.length_take]
      omega
    have happ :=
      congrArg (List.drop (used - file.buffer.length)) (List.take_append_drop count unread)
    rwa [List.drop_append, hlen, List.drop_zero] at happ

end OpenFile

end ShaderLiterals.Files
