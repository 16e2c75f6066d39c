import ShaderLiterals.Text.WordRanges

/-! # Words: the longest runs of word characters in a text -/

namespace ShaderLiterals.Word

/-- Letters, digits, marks, connecting punctuation and joiners. -/
def isWord (c : Char) : Bool :=
  if c.toNat < 0x80 then c.isAlphanum || c == '_' else ranges.contains c

/-- What stands between the characters that belong to no word; empty where two of them meet. -/
def runs (text : List Char) : List (List Char) :=
  text.splitOnP (!isWord ·)

@[simp] theorem runs_nil : runs [] = [[]] := by
  simp [runs]

/-- A text of word characters is one run. -/
theorem runs_eq_singleton {word : List Char} (h : ∀ c ∈ word, isWord c = true) :
    runs word = [word] :=
  List.splitOnP_eq_singleton fun c hc => by simp [h c hc]

/-- A character that belongs to no word ends the first run. -/
theorem runs_append_cons {word : List Char} (h : ∀ c ∈ word, isWord c = true) {c : Char}
    (hc : isWord c = false) (text : List Char) :
    runs (word ++ c :: text) = word :: runs text :=
  List.splitOnP_append_cons_of_forall_mem (fun d hd => by simp [h d hd]) c (by simp [hc]) text

end ShaderLiterals.Word
