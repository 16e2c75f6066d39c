import ShaderLiterals.Proofs.Literal.Invariant
import ShaderLiterals.Proofs.Literal.Laziness

/-!
# Lines behind other lines

If nothing ends the extraction of some lines, what lies behind them is read from where they left
off (`extractFrom_map_ok_append`).  Where they left off the numbers of lines are higher by some
count, and reading carries that count through to all that it finds: one line does
(`Cursor.next_shift`), and so do all (`Extraction.results_shift`).  So two sources one behind the
other give what each of them gives, unless the first one leaves a literal open
(`Extraction.results_start_append`).
-/

namespace ShaderLiterals

variable {names : Escape.Names}

/-! ## Lines behind other lines -/

/-- Nothing is read behind what ended the extraction. -/
theorem extractFrom_append_of_fault {cursor : Cursor} {lines : List SourceLine}
    {fault : ExtractFault} (h : (extractFrom names cursor lines).fault = some fault)
    (more : List SourceLine) :
    extractFrom names cursor (lines ++ more) = extractFrom names cursor lines := by
  fun_induction extractFrom names cursor lines with
  | case1 => cases h
  | case2 => rfl
  | case3 cursor line rest literal next hnext shader hshader ih =>
      rw [List.cons_append, extractFrom, hnext]
      dsimp only
      rw [hshader]
      exact congrArg (Extracted.cons shader) (ih h)
  | case4 cursor line rest literal next hnext fault hfault =>
      rw [List.cons_append, extractFrom, hnext]
      dsimp only
      rw [hfault]
  | case5 cursor line rest role next hrole hnext ih =>
      rw [List.cons_append, extractFrom, hnext]
      cases role with
      | closes literal => exact absurd rfl (hrole literal)
      | plain | unnamed | opens | body => exact ih h

/-- If nothing ended the extraction, lines are read from where the lines before them left off. -/
theorem extractFrom_map_ok_append {cursor : Cursor} {texts : List String}
    (h : (extractFrom names cursor (texts.map .ok)).fault = none) (more : List SourceLine) :
    extractFrom names cursor (texts.map .ok ++ more) =
      ⟨(extractFrom names cursor (texts.map .ok)).shaders ++
          (extractFrom names (cursor.readAll texts) more).shaders,
        (extractFrom names (cursor.readAll texts) more).fault⟩ := by
  induction texts generalizing cursor with
  | nil => rfl
  | cons text texts ih =>
      rw [List.map_cons, extractFrom] at h ⊢
      rw [List.cons_append, extractFrom, Cursor.readAll_cons]
      rcases hnext : cursor.next text with ⟨role, next⟩
      rw [hnext] at h
      cases role with
      | closes literal =>
          dsimp only at h ⊢
          cases hliteral : literal.extract names with
          | error fault =>
              rw [hliteral] at h
              cases h
          | ok shader =>
              rw [hliteral] at h
              dsimp only
              rw [ih h]
              rfl
      | plain | unnamed | opens | body => exact ih h

/-- Lines that can be read leave no fault but that of a literal. -/
theorem exists_undecodable_of_map_ok {cursor : Cursor} {texts : List String} {fault : ExtractFault}
    (h : (extractFrom names cursor (texts.map .ok)).fault = some fault) :
    ∃ name line cause, fault = .undecodable name line cause := by
  induction texts generalizing cursor with
  | nil => cases h
  | cons text texts ih =>
      rw [List.map_cons, extractFrom] at h
      rcases hnext : cursor.next text with ⟨role, next⟩
      rw [hnext] at h
      cases role with
      | closes literal =>
          dsimp only at h
          rw [Literal.extract] at h
          cases hshader : literal.shader names with
          | error cause =>
              rw [hshader] at h
              obtain rfl := Option.some.inj h
              exact ⟨_, _, cause, rfl⟩
          | ok shader =>
              rw [hshader] at h
              exact ih h
      | plain | unnamed | opens | body => exact ih h

/-- The first line that cannot be read ends the extraction, if it is reached. -/
theorem extract_map_ok_append_error {texts : List String}
    (h : (extract names (texts.map .ok)).fault = none) (cause : ReadFault)
    (more : List SourceLine) :
    extract names (texts.map .ok ++ .error cause :: more) =
      ⟨(extract names (texts.map .ok)).shaders, some (.unreadable (texts.length + 1) cause)⟩ := by
  rw [extract, extractFrom_map_ok_append h, extractFrom, Cursor.line_readAll, List.append_nil,
    Cursor.start, Nat.zero_add]
  rfl

/-! ## Higher numbers of lines -/

/-- The same, `n` lines further down. -/
def Opening.shift (n : Nat) (opening : Opening) : Opening :=
  { opening with line := n + opening.line }

def Literal.shift (n : Nat) (literal : Literal) : Literal :=
  { literal with opening := literal.opening.shift n }

def Shader.shift (n : Nat) (shader : Shader) : Shader :=
  { shader with line := n + shader.line }

def ExtractFault.shift (n : Nat) : ExtractFault → ExtractFault
  | unreadable line cause => unreadable (n + line) cause
  | undecodable name line cause => undecodable name (n + line) cause

def Place.shift (n : Nat) : Place → Place
  | outside => outside
  | inside opening body => inside (opening.shift n) body

def Role.shift (n : Nat) : Role → Role
  | plain => plain
  | unnamed => unnamed
  | opens opening => opens (opening.shift n)
  | body => body
  | closes literal => closes (literal.shift n)

namespace Cursor

def shift (n : Nat) (cursor : Cursor) : Cursor := ⟨cursor.place.shift n, n + cursor.line⟩

@[simp] theorem shift_outside (n line : Nat) :
    (Cursor.mk .outside line).shift n = ⟨.outside, n + line⟩ := rfl

/-- A line does the same further down. -/
theorem next_shift (n : Nat) (cursor : Cursor) (line : String) :
    (cursor.shift n).next line = ((cursor.next line).1.shift n, (cursor.next line).2.shift n) := by
  obtain ⟨place, number⟩ := cursor
  cases place with
  | outside =>
      cases hmarker : isMarker line with
      | false => simp [next, nextOutside, hmarker, Role.shift, Nat.add_assoc]
      | true =>
          cases hname : Name.first? line.toList with
          | none => simp [next, nextOutside, hmarker, hname, Role.shift, Nat.add_assoc]
          | some name =>
              rw [shift_outside, next_opener hmarker hname, next_opener hmarker hname]
              rfl
  | inside opening body =>
      cases hmarker : isMarker line with
      | false => rw [next_body hmarker]; exact next_body hmarker
      | true => rw [next_closer hmarker]; exact next_closer hmarker

end Cursor

/-- A shader or a fault, `n` lines further down. -/
def shiftResult (n : Nat) (result : Except ExtractFault Shader) : Except ExtractFault Shader :=
  (result.map (Shader.shift n)).mapError (ExtractFault.shift n)

@[simp] theorem shiftResult_ok (n : Nat) (shader : Shader) :
    shiftResult n (.ok shader) = .ok (shader.shift n) := rfl

@[simp] theorem shiftResult_error (n : Nat) (fault : ExtractFault) :
    shiftResult n (.error fault) = .error (fault.shift n) := rfl

theorem isNone_toOption_shiftResult (n : Nat) (result : Except ExtractFault Shader) :
    (shiftResult n result).toOption.isNone = result.toOption.isNone := by
  cases result <;> rfl

/-- What a literal holds does not hang on where it stands. -/
theorem Literal.extract_shift (n : Nat) (literal : Literal) :
    (literal.shift n).extract names = shiftResult n (literal.extract names) := by
  unfold extract shader
  rw [show (literal.shift n).joined = literal.joined from rfl]
  cases Escape.decode names (restoreNewline literal.joined) <;> rfl

namespace Extraction

/-- All that is found is found further down. -/
theorem results_shift (n : Nat) (cursor : Cursor) (lines : List SourceLine) :
    results names ⟨cursor.shift n, false⟩ lines =
      (results names ⟨cursor, false⟩ lines).map (shiftResult n) := by
  induction lines generalizing cursor with
  | nil => rw [results_nil, results_nil, List.map_nil]
  | cons line rest ih =>
      cases line with
      | error cause =>
          rw [results_error, results_error]
          rfl
      | ok line =>
          have hshift := cursor.next_shift n line
          rcases hnext : cursor.next line with ⟨role, next⟩
          rw [hnext] at hshift
          cases role with
          | closes literal =>
              rw [results_closes hshift, results_closes hnext, Literal.extract_shift,
                isNone_toOption_shiftResult, List.map_cons]
              cases literal.extract names with
              | error fault => simp [Except.toOption, results_failed]
              | ok shader => exact congrArg _ (ih next)
          | plain | unnamed | opens | body =>
              rw [results_of_not_closes hshift (fun _ => nofun),
                results_of_not_closes hnext (fun _ => nofun)]
              exact ih next

end Extraction

/-! ## One source behind the other -/

namespace Extraction

/-- If all lines could be read without a fault, later ones are read from where they left off. -/
theorem results_map_ok_append {cursor : Cursor} {lines : List String}
    (h : ∀ fault, .error fault ∉ results names ⟨cursor, false⟩ (lines.map .ok))
    (more : List SourceLine) :
    results names ⟨cursor, false⟩ (lines.map .ok ++ more) =
      results names ⟨cursor, false⟩ (lines.map .ok) ++
        results names ⟨cursor.readAll lines, false⟩ more := by
  rw [results_eq_extractFrom] at h
  have hfault : (extractFrom names cursor (lines.map .ok)).fault = none :=
    Option.eq_none_iff_forall_ne_some.2 fun fault hsome =>
      h fault (Extracted.error_mem_results_iff.2 hsome)
  rw [results_eq_extractFrom, results_eq_extractFrom, results_eq_extractFrom,
    extractFrom_map_ok_append hfault]
  simp [Extracted.results, hfault]

/-- A reader outside a literal goes on as another one starts. -/
theorem results_outside (n : Nat) (lines : List SourceLine) :
    results names ⟨⟨.outside, n⟩, false⟩ lines = (start.results names lines).map (shiftResult n) :=
  results_shift n .start lines

/-- An open literal is closed by the next marker, and what follows it is read from there if the
literal can be decoded. -/
theorem results_inside {opening : Opening} {body : Array String} {n : Nat} {before : List String}
    {closer : String} (hbefore : ∀ line ∈ before, isMarker line = false)
    (hcloser : isMarker closer = true) (rest : List SourceLine) :
    let literal : Literal := ⟨opening, body.toList ++ before⟩
    results names ⟨⟨.inside opening body, n⟩, false⟩ (before.map .ok ++ .ok closer :: rest) =
      literal.extract names ::
        match literal.extract names with
        | .ok _ => (start.results names rest).map (shiftResult (n + (before.length + 1)))
        | .error _ => [] := by
  intro literal
  have hbody :
      pull names ⟨⟨.inside opening body, n⟩, false⟩ (before.map .ok ++ .ok closer :: rest) =
        pull names ⟨⟨.inside opening (body ++ before), n + before.length⟩, false⟩
          (.ok closer :: rest) :=
    pullFrom_append_of_body hbefore
  have hliteral : (⟨opening, (body ++ before).toList⟩ : Literal) = literal := by
    rw [Array.toList_appendList]
  rw [results_congr hbody, results_closes (Cursor.next_closer hcloser), hliteral]
  cases literal.extract names with
  | error fault => exact congrArg _ (results_failed _ _)
  | ok shader => exact congrArg _ (results_outside _ _)

/-- The results of two sources one behind the other, where the lines of the first one can be read
without a fault: those of the first one, and behind them those of the second one as far down as the
first one is long.  If the first one leaves a literal open, the next marker closes it, and what lies
behind that is read on its own. -/
theorem results_start_append {names : Escape.Names} {lines : List String}
    (h : ∀ fault, .error fault ∉ start.results names (lines.map .ok)) :
    ((Cursor.start.readAll lines).place = .outside → ∀ more : List SourceLine,
        start.results names (lines.map .ok ++ more) =
          start.results names (lines.map .ok) ++
            (start.results names more).map (shiftResult lines.length)) ∧
      ∀ opening body, (Cursor.start.readAll lines).place = .inside opening body →
        Opened lines opening body.toList ∧
          ∀ before closer rest, (∀ line ∈ before, isMarker line = false) →
            isMarker closer = true →
            let literal : Literal := ⟨opening, lines.drop opening.line ++ before⟩
            start.results names (lines.map .ok ++ (before.map .ok ++ .ok closer :: rest)) =
              start.results names (lines.map .ok) ++ literal.extract names ::
                match literal.extract names with
                | .ok _ =>
                    (start.results names rest).map
                      (shiftResult (lines.length + (before.length + 1)))
                | .error _ => [] := by
  obtain ⟨hline, hopened⟩ := reached_readAll lines
  have happend : ∀ more, start.results names (lines.map .ok ++ more) =
      start.results names (lines.map .ok) ++
        results names ⟨Cursor.start.readAll lines, false⟩ more :=
    results_map_ok_append h
  generalize Cursor.start.readAll lines = cursor at hline hopened happend
  obtain ⟨place, n⟩ := cursor
  obtain rfl : n = lines.length := hline
  constructor
  · rintro rfl more
    rw [happend, results_outside]
  · rintro opening body rfl
    refine ⟨hopened opening body rfl, fun before closer rest hbefore hcloser => ?_⟩
    rw [happend, results_inside hbefore hcloser, (hopened opening body rfl).body_eq]

/-- The first source leaves a literal open, which the second one closes before a line of it that
cannot be read. -/
theorem results_start_append_open :
    let names : Escape.Names := fun _ => none
    let first := ["", "let aVertexSource = \"\"\"", "one"]
    let second : List SourceLine := [.ok "two", .ok "\"\"\"", .error (.other "gone")]
    start.results names (first.map .ok) = [] ∧
      (Cursor.start.readAll first).place = .inside ⟨"aVertexSource", .vertex, 2⟩ #["one"] ∧
      start.results names (first.map .ok ++ second) =
        [.ok ⟨"aVertexSource", .vertex, "one\ntwo", 2⟩,
          .error (.unreadable 6 (.other "gone"))] := by
  intro names first second
  have hresults : start.results names (first.map .ok) = [] := by
    rw [start, results_eq_extractFrom]
    decide +kernel
  have hfault : ∀ fault, .error fault ∉ start.results names (first.map .ok) := by
    rw [hresults]
    exact fun _ => List.not_mem_nil
  have hopen : (Cursor.start.readAll first).place =
      .inside ⟨"aVertexSource", .vertex, 2⟩ #["one"] := by decide +kernel
  have hbody : ∀ line ∈ ["two"], isMarker line = false := List.forall_mem_singleton.2 (by decide)
  have hliteral : Literal.extract names
      ⟨⟨"aVertexSource", .vertex, 2⟩, first.drop 2 ++ ["two"]⟩ =
        .ok ⟨"aVertexSource", .vertex, "one\ntwo", 2⟩ := by decide +kernel
  have hrest : start.results names [.error (.other "gone")] =
      [.error (.unreadable 1 (.other "gone"))] := results_error _
  have hcut := ((results_start_append hfault).2 _ _ hopen).2 ["two"] "\"\"\""
    [.error (.other "gone")] hbody (by decide)
  dsimp only at hcut
  rw [hresults, hliteral, hrest] at hcut
  exact ⟨hresults, hopen, hcut⟩

end Extraction

end ShaderLiterals
