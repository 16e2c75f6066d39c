import ShaderLiterals.Proofs.Check.Survey
import ShaderLiterals.Proofs.Literal.Concatenation
import ShaderLiterals.Proofs.Text.EncodedLines

/-!
# The content of a file

A file that holds the bytes of a text is checked as the text is (`checkFile_of_leavesFile`).  Bytes
that are no text make one line unreadable, and what the pulls give before it decides whether that
line is reached (`exists_unreadable_of_not_isText`).
-/

namespace ShaderLiterals

variable {names : Escape.Names}

/-! ## Files that hold a text -/

/-- The path leads to a file that holds the bytes, and keeps them whatever the validator is
handed. -/
def Validator.LeavesFile (validator : Validator) (machine : Machine) (path : String)
    (bytes : List UInt8) : Prop :=
  ∃ id, machine.find path = .ok (.file id) ∧
    ∀ shaders, (validator.after machine shaders).store.bytes id = bytes

/-- A validator that decides by the shader alone leaves every file as it is. -/
theorem leavesFile_ofFunction_iff {judge : Shader → Except ValidatorFault Verdict}
    {machine : Machine} {path : String} {bytes : List UInt8} :
    (Validator.ofFunction judge).LeavesFile machine path bytes ↔
      ∃ id, machine.find path = .ok (.file id) ∧ machine.store.bytes id = bytes := by
  simp only [Validator.LeavesFile, Validator.after_ofFunction, forall_const]

section Leaves

variable {validator : Validator} {machine : Machine} {path : String} {bytes : List UInt8}

theorem lines_of_leavesFile (h : validator.LeavesFile machine path bytes) :
    machine.lines path = .ok (linesOfBytes bytes) := by
  obtain ⟨id, hfind, hbytes⟩ := h
  rw [Machine.lines_of_find_file hfind, ← hbytes [], Validator.after_nil]

theorem checkFile_of_leavesFile (h : validator.LeavesFile machine path bytes) (sink : Sink)
    (seen : List Shader) :
    checkFile names validator path ⟨machine, sink, seen⟩ =
      some (checkLines names validator path (linesOfBytes bytes) ⟨machine, sink, seen⟩) := by
  have hlines := lines_of_leavesFile h
  obtain ⟨id, hfind, hbytes⟩ := h
  have hopen : machine.openPath path = .ok (.file (.start id)) := by rw [Machine.openPath, hfind]
  have hsame : ∀ shaders,
      Reading.IsSame machine (validator.after machine shaders) (.file (.start id)) :=
    fun shaders => (hbytes shaders).trans (hbytes []).symm
  have hreading : (Reading.file (.start id)).lines machine = linesOfBytes bytes := by
    rw [Machine.lines, hopen] at hlines
    exact Except.ok.inj hlines
  rw [checkFile, hopen]
  dsimp only
  rw [checkReading_eq_checkFrom hsame, hreading, checkLines]

end Leaves

/-- Returns before newlines make no difference to a text that has none. -/
theorem linesOfText_withReturns {text : String} (h : ¬ ['\r', '\n'] <:+: text.toList) :
    linesOfText (String.ofList (Lines.withReturns '\n' '\r' text.toList)) = linesOfText text := by
  have hlines := Lines.lines_withReturns (by decide) h
  rw [linesOfText, Lines.ofText, String.toList_ofList, hlines]
  rfl

/-- Every line of a text can be read. -/
theorem unreadable_notMem_results (text : String) (line : Nat) (cause : ReadFault) :
    .error (.unreadable line cause) ∉ Extraction.start.results names (linesOfText text) := by
  intro hmem
  rw [Extraction.start, Extraction.results_eq_extractFrom, Extracted.error_mem_results_iff] at hmem
  obtain ⟨name, opened, escape, hcause⟩ := exists_undecodable_of_map_ok hmem
  cases hcause

/-- Bytes that are no text end the pulls at the first line that is none, unless a literal that was
closed before it did. -/
theorem exists_unreadable_of_not_isText {bytes : List UInt8} (h : ¬ Utf8.IsText bytes) :
    ∃ before line after, bytes.splitOn 0x0A = before ++ line :: after ∧
      (∀ piece ∈ before, Utf8.IsText piece) ∧ ¬ Utf8.IsText line ∧
      let earlier := Extraction.start.results names ((linesOfBytes bytes).take before.length)
      let found := Extraction.start.results names (linesOfBytes bytes)
      ((∀ fault, .error fault ∉ earlier) ∧
          found = earlier ++ [.error (.unreadable (before.length + 1) .invalidUtf8)]) ∨
        ∃ (shaders : List Shader) (name : String) (opened : Nat) (cause : Escape.Fault),
          earlier = shaders.map .ok ++ [.error (.undecodable name opened cause)] ∧
            found = earlier := by
  obtain ⟨before, line, after, texts, more, hsplit, hbefore, hline, hlength, hlines⟩ :=
    exists_first_unreadable h
  refine ⟨before, line, after, hsplit, hbefore, hline, ?_⟩
  have htake : (linesOfBytes bytes).take before.length = texts.map .ok := by
    rw [hlines, ← hlength]
    exact List.take_left' (List.length_map _)
  rw [htake, hlines, Extraction.start, Extraction.results_eq_extractFrom,
    Extraction.results_eq_extractFrom]
  dsimp only
  cases hfault : (extractFrom names .start (texts.map .ok)).fault with
  | none =>
      have hfound : extractFrom names .start (texts.map .ok ++ .error .invalidUtf8 :: more) = _ :=
        extract_map_ok_append_error hfault .invalidUtf8 more
      refine .inl ⟨fun fault hmem => ?_, ?_⟩
      · cases hfault.symm.trans (Extracted.error_mem_results_iff.1 hmem)
      · rw [hfound, hlength, Extracted.results, Extracted.results, hfault]
        simp [extract]
  | some fault =>
      obtain ⟨name, opened, cause, rfl⟩ := exists_undecodable_of_map_ok hfault
      refine .inr ⟨(extractFrom names .start (texts.map .ok)).shaders, name, opened, cause, ?_, ?_⟩
      · rw [Extracted.results, hfault]
        rfl
      · rw [extractFrom_append_of_fault hfault]

/-- A file that holds a text is listed and checked by the lines of the text, all of which can be
read; if no return stands before a newline in it, returns that are put there change nothing.  Bytes
that are no text are none on some first line: the pulls give the shaders of the lines before it, and
then the fault that it could not be read, unless an escape before it was the end already. -/
theorem checkFile_content (names : Escape.Names) (validator : Validator) (machine : Machine)
    (path : String) (sink : Sink) (seen : List Shader) :
    let session : Session := ⟨machine, sink, seen⟩
    (∀ text : String,
        (validator.LeavesFile machine path (Utf8.encode text.toList) →
          machine.lines path = .ok (linesOfText text) ∧
            checkFile names validator path session =
              some (checkLines names validator path (linesOfText text) session)) ∧
        (∀ line cause, .error (.unreadable line cause) ∉
          Extraction.start.results names (linesOfBytes (Utf8.encode text.toList))) ∧
        (¬ ['\r', '\n'] <:+: text.toList →
          let returned := String.ofList (Lines.withReturns '\n' '\r' text.toList)
          checkLines names validator path (linesOfText returned) session =
              checkLines names validator path (linesOfText text) session ∧
            (validator.LeavesFile machine path (Utf8.encode returned.toList) →
              machine.lines path = .ok (linesOfText text) ∧
                checkFile names validator path session =
                  some (checkLines names validator path (linesOfText text) session)))) ∧
      ∀ bytes, ¬ Utf8.IsText bytes →
        (validator.LeavesFile machine path bytes →
          machine.lines path = .ok (linesOfBytes bytes) ∧
            checkFile names validator path session =
              some (checkLines names validator path (linesOfBytes bytes) session)) ∧
        ∃ before line after, bytes.splitOn 0x0A = before ++ line :: after ∧
          (∀ piece ∈ before, Utf8.IsText piece) ∧ ¬ Utf8.IsText line ∧
          let earlier := Extraction.start.results names ((linesOfBytes bytes).take before.length)
          let found := Extraction.start.results names (linesOfBytes bytes)
          ((∀ fault, .error fault ∉ earlier) ∧
              ∃ fault, found = earlier ++ [.error fault] ∧
                fault = .unreadable (before.length + 1) .invalidUtf8 ∧
                fault.message = "could not read line " ++ toString (before.length + 1)) ∨
            ∃ (shaders : List Shader) (name : String) (opened : Nat) (cause : Escape.Fault),
              earlier = shaders.map .ok ++ [.error (.undecodable name opened cause)] ∧
                found = earlier := by
  intro session
  have hfile : ∀ bytes lines, linesOfBytes bytes = lines →
      validator.LeavesFile machine path bytes → machine.lines path = .ok lines ∧
        checkFile names validator path session =
          some (checkLines names validator path lines session) := by
    rintro bytes lines rfl hleaves
    exact ⟨lines_of_leavesFile hleaves, checkFile_of_leavesFile hleaves sink seen⟩
  refine ⟨fun text => ⟨hfile _ _ (linesOfBytes_encode text), ?_, fun hreturns => ?_⟩, ?_⟩
  · rw [linesOfBytes_encode]
    exact unreadable_notMem_results text
  · have hlines := linesOfText_withReturns hreturns
    refine ⟨congrArg (checkLines names validator path · session) hlines, hfile _ _ ?_⟩
    rw [linesOfBytes_encode, hlines]
  · intro bytes htext
    obtain ⟨before, line, after, hsplit, hbefore, hline, hfound⟩ :=
      exists_unreadable_of_not_isText htext
    refine ⟨hfile _ _ rfl, before, line, after, hsplit, hbefore, hline, ?_⟩
    rcases hfound with ⟨hearlier, hfound⟩ | hfound
    · exact .inl ⟨hearlier, _, hfound, rfl, rfl⟩
    · exact .inr hfound

/-- A file with a shader in it, and the same bytes in memory. -/
theorem checkFile_content_twoFiles :
    let names : Escape.Names := fun _ => none
    let validator := Validator.ofFunction fun _ => .ok (.failed "bad")
    let text := "let aVertexSource = \"\"\"\n\"\"\"\n"
    validator.LeavesFile twoFiles "a.swift" (Utf8.encode text.toList) ∧
      checkFile names validator "a.swift" (.start twoFiles .working) =
        some (checkLines names validator "a.swift" (linesOfText text)
          (.start twoFiles .working)) := by
  intro names validator text
  have hleaves : validator.LeavesFile twoFiles "a.swift" (Utf8.encode text.toList) :=
    leavesFile_ofFunction_iff.2 ⟨0, find_twoFiles_first, rfl⟩
  have hcontent := checkFile_content names validator twoFiles "a.swift" .working []
  exact ⟨hleaves, ((hcontent.1 text).1 hleaves).2⟩

end ShaderLiterals
