import Mathlib.Data.List.Forall2
import ShaderLiterals.Proofs.Literal.Pattern
import ShaderLiterals.Proofs.Literal.Scan

/-!
# What an extraction reads of its lines

Of what it reads, an extraction keeps the names that open literals, and the bodies.  `Role.Admits`
says which line may stand where a line of the given role stands, and `Cursor.next_of_admits` that
the reader is then where it was, with the same literal closed.  So lines that are alike along the
scan of the first ones hold the same shaders and the same fault.  White space at the end of a marker
is a case of this: it changes neither what is a marker (`isMarker_append_blank`) nor the first name
(`Name.first?_append_blank`).
-/

namespace ShaderLiterals

variable {names : Escape.Names}

/-! ## White space behind a text -/

/-- Ranges that lie apart share no character. -/
theorem CodeRanges.contains_eq_false_of_apart {ranges others : CodeRanges}
    (h : (ranges.all fun r => others.all fun s => decide (r.2 < s.1) || decide (s.2 < r.1)) = true)
    {c : Char} (hc : ranges.contains c = true) : others.contains c = false := by
  obtain ⟨r, hr, hrc⟩ := List.any_eq_true.1 hc
  refine List.any_eq_false.2 fun s hs hsc => ?_
  have hapart := List.all_eq_true.1 (List.all_eq_true.1 h r hr) s hs
  simp only [Bool.or_eq_true, Bool.and_eq_true, decide_eq_true_eq] at hapart hrc hsc
  omega

namespace Word

/-- White space belongs to no word. -/
theorem isWord_of_isBlank {c : Char} (h : Blank.isBlank c = true) : isWord c = false := by
  unfold isWord
  split
  · next hascii =>
    have hlow : c.toNat < 33 := by
      simp only [Blank.isBlank, Blank.ranges, CodeRanges.contains_cons, CodeRanges.contains_nil,
        Bool.or_eq_true, Bool.and_eq_true, decide_eq_true_eq, Bool.false_eq_true, or_false] at h
      omega
    have hall : ∀ n < 33, ((Char.ofNat n).isAlphanum || Char.ofNat n == '_') = false := by decide
    have hc := hall c.toNat hlow
    rwa [Char.ofNat_toNat] at hc
  · exact CodeRanges.contains_eq_false_of_apart (by decide +kernel) h

end Word

namespace Name

/-- No name begins in a text that belongs to no word. -/
theorem first?_eq_none_of_not_isWord {text : List Char} (h : ∀ c ∈ text, Word.isWord c = false) :
    first? text = none := by
  induction text with
  | nil => rfl
  | cons c text ih =>
      obtain ⟨hc, htext⟩ := List.forall_mem_cons.1 h
      rw [first?, Word.runs_cons_of_not_isWord hc]
      exact ih htext

/-- The first name does not hang on white space behind the text. -/
theorem first?_append_blank (text : List Char) {space : List Char}
    (h : ∀ c ∈ space, Blank.isBlank c = true) : first? (text ++ space) = first? text := by
  have hspace : ∀ c ∈ space, Word.isWord c = false := fun c hc => Word.isWord_of_isBlank (h c hc)
  induction text using Word.run_induction with
  | word word hword =>
      cases space with
      | nil => rw [List.append_nil]
      | cons c space =>
          obtain ⟨hc, hspace⟩ := List.forall_mem_cons.1 hspace
          rw [first?_append_cons hword hc, first?_eq_none_of_not_isWord hspace, Option.or_none,
            first?_word hword]
  | append_cons word c rest hword hc ih =>
      rw [List.append_assoc, List.cons_append, first?_append_cons hword hc, ih,
        ← first?_append_cons hword hc]

end Name

/-- What is a marker does not hang on white space behind the line. -/
theorem isMarker_append_blank (line : String) {space : String}
    (h : ∀ c ∈ space.toList, Blank.isBlank c = true) :
    isMarker (line ++ space) = isMarker line := by
  rw [isMarker, String.toList_append, Blank.trimEnd_append_of_blank _ h, isMarker]

/-! ## Lines that stand for others -/

/-- Whether the other line may stand where the line, in this role, stands. -/
def Role.Admits (role : Role) (line other : String) : Prop :=
  match role with
  | .plain | .unnamed => isOpener other = false
  | .opens _ => isMarker other = true ∧ Name.first? other.toList = Name.first? line.toList
  | .body => other = line
  | .closes _ => isMarker other = true

instance (role : Role) (line other : String) : Decidable (role.Admits line other) :=
  match role with
  | .plain | .unnamed => inferInstanceAs (Decidable (isOpener other = false))
  | .opens _ =>
      inferInstanceAs
        (Decidable (isMarker other = true ∧ Name.first? other.toList = Name.first? line.toList))
  | .body => inferInstanceAs (Decidable (other = line))
  | .closes _ => inferInstanceAs (Decidable (isMarker other = true))

/-- Whether more is read behind a line in this role: not behind a literal that cannot be decoded. -/
def Role.goesOn (names : Escape.Names) : Role → Bool
  | .closes literal => (literal.extract names).toOption.isSome
  | .plain | .unnamed | .opens _ | .body => true

namespace Cursor

variable {cursor : Cursor} {line other : String}

/-- Where a line opens nothing, every line that opens nothing may stand. -/
theorem admits_idle_iff {n : Nat} (h : isOpener line = false) :
    ((Cursor.mk .outside n).next line).1.Admits line other ↔ isOpener other = false := by
  by_cases hm : isMarker line = true
  · have hname : Name.first? line.toList = none := by
      simpa [isOpener, hm] using h
    simp only [next, nextOutside, hm, hname, if_true]
    rfl
  · simp only [next, nextOutside, hm]
    rfl

/-- Behind a line that may stand there, the reader is where it was, and the same literal is
closed. -/
theorem next_of_admits (h : (cursor.next line).1.Admits line other) :
    (cursor.next other).2 = (cursor.next line).2 ∧
      ∀ literal, (cursor.next other).1 = .closes literal ↔
        (cursor.next line).1 = .closes literal := by
  obtain ⟨place, n⟩ := cursor
  cases place with
  | outside =>
      by_cases hopener : isOpener line = true
      · obtain ⟨name, stage, hname⟩ := exists_name_of_isOpener hopener
        rw [next_opener (isMarker_of_isOpener hopener) hname] at h ⊢
        obtain ⟨hother, hfirst⟩ := h
        rw [next_opener hother (hfirst.trans hname)]
        exact ⟨rfl, fun _ => Iff.rfl⟩
      · have hidle := Bool.eq_false_iff.2 hopener
        obtain ⟨role, hrole, hnext⟩ := next_idle (n := n) hidle
        obtain ⟨role', hrole', hnext'⟩ := next_idle (n := n) ((admits_idle_iff hidle).1 h)
        rw [hnext, hnext']
        exact ⟨rfl, fun literal => iff_of_false (hrole' literal) (hrole literal)⟩
  | inside opening body =>
      by_cases hm : isMarker line = true
      · rw [next_closer hm] at h ⊢
        rw [next_closer h]
        exact ⟨rfl, fun _ => Iff.rfl⟩
      · rw [next_body (Bool.eq_false_iff.2 hm)] at h
        obtain rfl : other = line := h
        exact ⟨rfl, fun _ => Iff.rfl⟩

/-- A line may stand where it stands, and so may a marker with the same first name if it is a marker
itself. -/
theorem admits_of_same (hmarker : isMarker other = isMarker line)
    (hfirst : Name.first? other.toList = Name.first? line.toList)
    (hbody : isMarker line = false → other = line) : (cursor.next line).1.Admits line other := by
  obtain ⟨place, n⟩ := cursor
  cases place with
  | outside =>
      by_cases hopener : isOpener line = true
      · have hm := isMarker_of_isOpener hopener
        obtain ⟨name, stage, hname⟩ := exists_name_of_isOpener hopener
        rw [next_opener hm hname]
        exact ⟨hmarker.trans hm, hfirst⟩
      · have hidle := Bool.eq_false_iff.2 hopener
        rw [admits_idle_iff hidle, isOpener, hmarker, hfirst]
        exact hidle
  | inside opening body =>
      by_cases hm : isMarker line = true
      · rw [next_closer hm]
        exact hmarker.trans hm
      · have hm' := Bool.eq_false_iff.2 hm
        rw [next_body hm']
        exact hbody hm'

end Cursor

/-- Lines that stand for one another, where the first ones are read from the cursor on.  Nothing is
asked behind a line that cannot be read, and behind a literal that cannot be decoded. -/
inductive Alike (names : Escape.Names) : Cursor → List SourceLine → List SourceLine → Prop
  | nil {cursor : Cursor} : Alike names cursor [] []
  | unreadable {cursor : Cursor} {cause : ReadFault} {rest rest' : List SourceLine} :
      Alike names cursor (.error cause :: rest) (.error cause :: rest')
  | line {cursor : Cursor} {line line' : String} {rest rest' : List SourceLine}
      (hline : (cursor.next line).1.Admits line line')
      (hrest : (cursor.next line).1.goesOn names = true →
        Alike names (cursor.next line).2 rest rest') :
      Alike names cursor (.ok line :: rest) (.ok line' :: rest')

namespace Alike

variable {cursor : Cursor} {lines lines' : List SourceLine}

/-- Lines that are alike give the same shaders and the same fault. -/
theorem results_eq (h : Alike names cursor lines lines') :
    Extraction.results names ⟨cursor, false⟩ lines =
      Extraction.results names ⟨cursor, false⟩ lines' := by
  induction h with
  | nil => rfl
  | unreadable => rw [Extraction.results_error, Extraction.results_error]
  | @line cursor line line' rest rest' hline hrest ih =>
      obtain ⟨hcursor, hcloses⟩ := Cursor.next_of_admits hline
      rcases hnext : cursor.next line with ⟨role, next⟩
      rcases hnext' : cursor.next line' with ⟨role', next'⟩
      rw [hnext] at hcloses hcursor ih
      rw [hnext'] at hcloses hcursor
      obtain rfl : next' = next := hcursor
      by_cases hrole : ∃ literal, role = .closes literal
      · obtain ⟨literal, rfl⟩ := hrole
        obtain rfl : role' = .closes literal := (hcloses literal).2 rfl
        rw [Extraction.results_closes hnext, Extraction.results_closes hnext']
        cases hextract : literal.extract names with
        | error fault =>
            exact congrArg _
              ((Extraction.results_failed _ rest).trans (Extraction.results_failed _ rest').symm)
        | ok shader => exact congrArg _ (ih (by simp only [Role.goesOn, hextract]; rfl))
      · have hnot : ∀ literal, role ≠ .closes literal := fun literal hc => hrole ⟨literal, hc⟩
        have hnot' : ∀ literal, role' ≠ .closes literal := fun literal hc =>
          hnot literal ((hcloses literal).1 hc)
        have hgoes : role.goesOn names = true := by
          cases role with
          | closes literal => exact absurd rfl (hnot literal)
          | plain | unnamed | opens | body => rfl
        rw [Extraction.results_of_not_closes hnext hnot,
          Extraction.results_of_not_closes hnext' hnot', ih hgoes]

end Alike

/-! ## White space behind markers -/

/-- A line as it is, or a marker with white space behind it. -/
inductive Spaced : SourceLine → SourceLine → Prop
  | same {line : SourceLine} : Spaced line line
  | marker {line space : String} (hline : isMarker line = true)
      (hspace : ∀ c ∈ space.toList, Blank.isBlank c = true) :
      Spaced (.ok line) (.ok (line ++ space))

/-- Lines with white space behind some markers are alike, wherever the reader stands. -/
theorem Alike.of_spaced {lines lines' : List SourceLine} (h : List.Forall₂ Spaced lines lines')
    (cursor : Cursor) : Alike names cursor lines lines' := by
  induction h generalizing cursor with
  | nil => exact .nil
  | @cons source source' _ _ hsource _ ih =>
      cases hsource with
      | same =>
          cases source with
          | error cause => exact .unreadable
          | ok line => exact .line (Cursor.admits_of_same rfl rfl fun _ => rfl) fun _ => ih _
      | @marker line space hm hspace =>
          have hfirst : Name.first? (line ++ space).toList = Name.first? line.toList := by
            rw [String.toList_append, Name.first?_append_blank _ hspace]
          refine .line (Cursor.admits_of_same (isMarker_append_blank line hspace) hfirst ?_)
            fun _ => ih _
          intro hbody
          cases hm.symm.trans hbody

/-- Only the bodies of literals and the names that open them count: lines that are alike hold the
same shaders and the same fault, and so do lines with white space behind some of their markers. -/
theorem results_eq_of_alike (names : Escape.Names) (lines lines' : List SourceLine) :
    (Alike names .start lines lines' →
        Extraction.start.results names lines = Extraction.start.results names lines') ∧
      (List.Forall₂ Spaced lines lines' →
        Extraction.start.results names lines = Extraction.start.results names lines') :=
  ⟨Alike.results_eq, fun h => (Alike.of_spaced h .start).results_eq⟩

/-- A line in each role is replaced, and then all lines behind a bad escape; or white space is put
behind markers in each role. -/
theorem results_eq_of_alike_roles :
    let names : Escape.Names := fun _ => none
    let lines : List SourceLine := [.ok "import A \"\"\"", .ok "let aVertexSource = \"\"\"",
      .ok "x", .ok "\"\"\"", .ok "bFragmentSource \"\"\"", .ok "\\x4", .ok "\"\"\"", .ok "y"]
    let replaced : List SourceLine := [.ok "let zVertexSource",
      .ok "VertexSource aVertexSource cFragmentSource\"\"\" ", .ok "x", .ok "dVertexSource \"\"\"",
      .ok "bFragmentSource\"\"\"", .ok "\\x4", .ok "// \"\"\"", .error (.other "gone")]
    let spaced : List SourceLine := [.ok "import A \"\"\"\r",
      .ok "let aVertexSource = \"\"\"\u00a0 ", .ok "x", .ok "\"\"\"\t",
      .ok "bFragmentSource \"\"\"", .ok "\\x4", .ok "\"\"\"", .ok "y"]
    Alike names .start lines replaced ∧ List.Forall₂ Spaced lines spaced ∧
      Extraction.start.results names lines = Extraction.start.results names replaced ∧
      Extraction.start.results names lines = Extraction.start.results names spaced ∧
      Extraction.start.results names lines = [.ok ⟨"aVertexSource", .vertex, "x", 2⟩,
        .error (.undecodable "bFragmentSource" 5 (.escape 0 (.truncated .byte)))] := by
  intro names lines replaced spaced
  have halike : Alike names .start lines replaced :=
    .line (by decide +kernel) fun _ => .line (by decide +kernel) fun _ =>
    .line (by decide +kernel) fun _ => .line (by decide +kernel) fun _ =>
    .line (by decide +kernel) fun _ => .line (by decide +kernel) fun _ =>
    .line (by decide +kernel) fun hgoes => absurd hgoes (by decide +kernel)
  have hspaced : List.Forall₂ Spaced lines spaced :=
    .cons (@Spaced.marker "import A \"\"\"" "\r" (by decide)
      (List.all_eq_true.1 (by decide))) <|
    .cons (@Spaced.marker "let aVertexSource = \"\"\"" "\u00a0 " (by decide)
      (List.all_eq_true.1 (by decide))) <|
    .cons .same <|
    .cons (@Spaced.marker "\"\"\"" "\t" (by decide) (List.all_eq_true.1 (by decide))) <|
    .cons .same (.cons .same (.cons .same (.cons .same .nil)))
  refine ⟨halike, hspaced, (results_eq_of_alike names lines replaced).1 halike,
    (results_eq_of_alike names lines spaced).2 hspaced, ?_⟩
  rw [Extraction.start, Extraction.results_eq_extractFrom]
  decide +kernel

end ShaderLiterals
