import ShaderLiterals.Proofs.Escape.Writing
import ShaderLiterals.Proofs.Literal.Continuation
import ShaderLiterals.Proofs.Literal.Name
import ShaderLiterals.Proofs.Literal.Scan
import ShaderLiterals.Proofs.Text.Lines

/-!
# Shaders written into a text

A declaration writes a shader of any source into a text, as a literal between an opening line and a
delimiter.  However the declarations follow each other, extraction gives back the shaders, each
with the number of its opening line (`results_text`).
-/

namespace ShaderLiterals

/-! ## Markers -/

theorem Blank.trimEnd_concat {c : Char} (h : Blank.isBlank c = false) (text : List Char) :
    Blank.trimEnd (text ++ [c]) = text ++ [c] := by
  rw [Blank.trimEnd, List.reverse_append, List.reverse_singleton, List.singleton_append,
    List.dropWhile_cons_of_neg (by rw [h]; exact Bool.false_ne_true), ← List.singleton_append,
    List.reverse_append, List.reverse_reverse, List.reverse_singleton]

theorem Blank.trimEnd_prefix (text : List Char) : Blank.trimEnd text <+: text := by
  rw [← List.reverse_suffix, Blank.trimEnd, List.reverse_reverse]
  exact List.dropWhile_suffix _

/-- A line that ends in a delimiter is a marker. -/
theorem isMarker_append_delimiter (front : List Char) :
    isMarker (String.ofList (front ++ delimiter)) = true := by
  have hend : front ++ delimiter = (front ++ ['"', '"']) ++ ['"'] := by
    rw [List.append_assoc]
    rfl
  rw [isMarker, String.toList_ofList, hend, Blank.trimEnd_concat (by decide), ← hend,
    List.isSuffixOf_iff_suffix]
  exact List.suffix_append front delimiter

/-- A marker holds a delimiter. -/
theorem delimiter_infix_of_isMarker {line : String} (h : isMarker line = true) :
    delimiter <:+: line.toList :=
  (List.isSuffixOf_iff_suffix.1 h).isInfix.trans (Blank.trimEnd_prefix _).isInfix

/-! ## Texts written with escapes -/

/-- No line of a text written with escapes is a marker. -/
theorem isMarker_of_mem_splitOn_escaped {source piece : List Char}
    (h : piece ∈ (Escape.escaped source).splitOn '\n') :
    isMarker (String.ofList piece) = false := by
  refine Bool.eq_false_iff.2 fun hmarker => ?_
  have hstands := delimiter_infix_of_isMarker hmarker
  rw [String.toList_ofList] at hstands
  refine (Escape.quotesEscaped_escaped source).no_adjacent_quotes (List.IsInfix.trans ?_
    (hstands.trans (Lines.infix_of_mem_splitOn h)))
  exact (List.prefix_append ['"', '"'] ['"']).isInfix

/-- No backslash is left over at the end of one. -/
theorem Literal.even_trailingBackslashes_escaped (text : List Char) :
    Even (Literal.trailingBackslashes (Escape.escaped text)) := by
  induction text with
  | nil => exact Even.zero
  | cons c text ih =>
      have hc : Even (Literal.trailingBackslashes (Escape.escapedChar c)) := by
        rcases Escape.escapedChar_cases c with ⟨letter, hletter, heq⟩ | ⟨hne, -, -, heq⟩
        · rw [heq]
          exact Literal.even_trailingBackslashes_simple hletter
        · rw [heq]
          exact Literal.even_trailingBackslashes_singleton hne
      rw [Escape.escaped, List.flatMap_cons]
      exact (Literal.even_trailingBackslashes_append_iff hc).2 ih

/-! ## Names -/

/-- A name that says what stage a shader is for. -/
structure DeclaredName where
  stem : List Char
  stage : Stage
  stem_ne_nil : stem ≠ []
  isWord_of_mem_stem : ∀ c ∈ stem, Word.isWord c = true

namespace DeclaredName

/-- The name, which ends in the stage's ending. -/
def text (name : DeclaredName) : List Char :=
  name.stem ++ name.stage.ending

variable (name : DeclaredName)

theorem isWord_of_mem_text : ∀ c ∈ name.text, Word.isWord c = true := by
  intro c hc
  rcases List.mem_append.1 hc with hc | hc
  · exact name.isWord_of_mem_stem c hc
  · exact name.stage.isWord_of_mem_ending c hc

theorem stage?_text : Name.stage? name.text = some name.stage :=
  Name.stage?_eq_some_iff.2 ⟨name.stem, name.stem_ne_nil, rfl⟩

end DeclaredName

/-! ## Declarations -/

/-- A shader that is to be written. -/
structure Declaration where
  name : DeclaredName
  source : String

namespace Declaration

variable (declaration : Declaration)

/-- The line that opens the literal. -/
def opening : List Char :=
  "let ".toList ++ (declaration.name.text ++ (" = ".toList ++ delimiter))

/-- The declaration as it stands in a text. -/
def written : List Char :=
  declaration.opening ++ '\n' :: (Escape.escaped declaration.source.toList ++ '\n' :: delimiter)

/-- The number of lines that the declaration takes. -/
def height : Nat :=
  declaration.written.count '\n' + 1

/-- The shader that the declaration holds, if `n` lines stand before it. -/
def shader (n : Nat) : Shader where
  name := String.ofList declaration.name.text
  stage := declaration.name.stage
  source := declaration.source
  line := n + 1

/-- The lines of the body. -/
def body : List String :=
  ((Escape.escaped declaration.source.toList).splitOn '\n').map String.ofList

/-- The lines of the declaration. -/
def lines : List String :=
  String.ofList declaration.opening :: (declaration.body ++ [String.ofList delimiter])

/-! ### Opening lines -/

theorem first?_opening :
    Name.first? declaration.opening = some (declaration.name.text, declaration.name.stage) := by
  have hword : ∀ c ∈ "let".toList, Word.isWord c = true := List.all_eq_true.1 (by decide)
  have hspace : Word.isWord ' ' = false := by decide
  have hruns : Word.runs declaration.opening =
      "let".toList :: declaration.name.text :: Word.runs ("= ".toList ++ delimiter) := by
    rw [← Word.runs_append_cons declaration.name.isWord_of_mem_text hspace,
      ← Word.runs_append_cons hword hspace]
    rfl
  have hlet : Name.stage? "let".toList = none := by decide
  rw [Name.first?, hruns, List.findSome?_cons, hlet, List.findSome?_cons,
    declaration.name.stage?_text]
  rfl

theorem isWord_or_mem_of_mem_opening {c : Char} (h : c ∈ declaration.opening) :
    Word.isWord c = true ∨ c ∈ [' ', '=', '"'] := by
  rcases List.mem_append.1 h with h | h
  · have key : ∀ d ∈ "let ".toList, Word.isWord d = true ∨ d ∈ [' ', '=', '"'] :=
      List.all_iff_forall_prop.1 (by decide)
    exact key c h
  · rcases List.mem_append.1 h with h | h
    · exact .inl (declaration.name.isWord_of_mem_text c h)
    · have key : ∀ d ∈ " = ".toList ++ delimiter, d ∈ [' ', '=', '"'] :=
        List.all_iff_forall_prop.1 (by decide)
      exact .inr (key c h)

theorem newline_not_mem_opening : '\n' ∉ declaration.opening := fun h =>
  absurd (declaration.isWord_or_mem_of_mem_opening h) (by decide)

theorem return_not_mem_opening : '\r' ∉ declaration.opening := fun h =>
  absurd (declaration.isWord_or_mem_of_mem_opening h) (by decide)

theorem isMarker_opening : isMarker (String.ofList declaration.opening) = true := by
  have hend : ("let ".toList ++ (declaration.name.text ++ " = ".toList)) ++ delimiter =
      declaration.opening :=
    (List.append_assoc _ _ _).trans (congrArg _ (List.append_assoc _ _ _))
  rw [← hend]
  exact isMarker_append_delimiter _

/-! ### Lines -/

theorem return_not_mem_written : '\r' ∉ declaration.written := by
  intro h
  rcases List.mem_append.1 h with h | h
  · exact declaration.return_not_mem_opening h
  · rcases List.mem_cons.1 h with h | h
    · exact absurd h (by decide)
    · rcases List.mem_append.1 h with h | h
      · exact Escape.return_not_mem_escaped _ h
      · exact absurd h (by decide)

theorem map_splitOn_written :
    (declaration.written.splitOn '\n').map String.ofList = declaration.lines := by
  rw [written, List.splitOn_append_cons_self_of_not_mem declaration.newline_not_mem_opening,
    List.splitOn_append_cons_self, List.splitOn_eq_singleton (by decide : '\n' ∉ delimiter),
    List.map_cons, List.map_append]
  rfl

theorem length_lines : declaration.lines.length = declaration.height := by
  rw [← map_splitOn_written, List.length_map, Lines.length_splitOn]
  rfl

/-- A declaration before a newline is read as its lines. -/
theorem lines_written_append_cons (rest : List Char) :
    (Lines.lines '\n' '\r' (declaration.written ++ '\n' :: rest)).map String.ofList =
      declaration.lines ++ (Lines.lines '\n' '\r' rest).map String.ofList := by
  rw [Lines.lines_append_cons_splitOn, Lines.map_dropReturn_splitOn
      declaration.return_not_mem_written, List.map_append, map_splitOn_written]

/-- So is one at the end of a text, which ends without a newline. -/
theorem lines_written :
    (Lines.lines '\n' '\r' declaration.written).map String.ofList = declaration.lines := by
  rw [written, Lines.lines_append_cons _ declaration.newline_not_mem_opening,
    Lines.dropReturn_eq_self declaration.return_not_mem_opening, Lines.lines_append_cons_splitOn,
    Lines.map_dropReturn_splitOn (Escape.return_not_mem_escaped _),
    Lines.lines_eq_singleton _ (by decide) (by decide), List.map_cons, List.map_append]
  rfl

/-! ### Literals -/

/-- The literal that is read off the declaration, if `n` lines stand before it. -/
def literal (n : Nat) : Literal :=
  ⟨⟨String.ofList declaration.name.text, declaration.name.stage, n + 1⟩, declaration.body⟩

theorem literals_lines_append (n : Nat) (rest : List String) :
    (Cursor.mk .outside n).literals (declaration.lines ++ rest) =
      declaration.literal n ::
        (Cursor.mk .outside (n + declaration.height)).literals rest := by
  have hbody : ∀ line ∈ declaration.body, isMarker line = false := by
    intro line hline
    obtain ⟨piece, hpiece, rfl⟩ := List.mem_map.1 hline
    exact isMarker_of_mem_splitOn_escaped hpiece
  have hname : Name.first? (String.ofList declaration.opening).toList =
      some (declaration.name.text, declaration.name.stage) := by
    rw [String.toList_ofList, first?_opening]
  have hcount : n + 1 + declaration.body.length + 1 = n + declaration.height := by
    rw [← length_lines, lines, List.length_cons, List.length_append, List.length_singleton]
    omega
  have hdelimiter : isMarker (String.ofList delimiter) = true := isMarker_append_delimiter []
  rw [lines, List.cons_append, List.append_assoc, List.singleton_append,
    Cursor.literals_literal declaration.isMarker_opening hname hbody hdelimiter, hcount]
  rfl

theorem joined_literal (n : Nat) :
    (declaration.literal n).joined = Escape.escaped declaration.source.toList := by
  have hid : ∀ pieces : List (List Char),
      (pieces.map String.ofList).map String.toList = pieces := fun pieces => by
    rw [List.map_map]
    exact (List.map_congr_left fun _ _ => String.toList_ofList).trans (List.map_id pieces)
  rw [Literal.joined, literal, body, hid, List.intercalate_splitOn]

/-- The literal holds the shader. -/
theorem extract_literal (names : Escape.Names) (n : Nat) :
    (declaration.literal n).extract names = .ok (declaration.shader n) := by
  rw [Literal.extract_eq_ofDecoded, joined_literal,
    Literal.restoreNewline_of_even (Literal.even_trailingBackslashes_escaped _),
    Escape.decode_escaped]
  exact congrArg (fun source => Except.ok { declaration.shader n with source := source })
    String.ofList_toList

end Declaration

/-! ## Texts -/

namespace Declaration

/-- The declarations, one after the other. -/
def text (declarations : List Declaration) : String :=
  String.ofList (['\n'].intercalate (declarations.map written))

/-- The shaders that the declarations hold, if `n` lines stand before the first. -/
def shaders (n : Nat) : List Declaration → List Shader
  | [] => []
  | declaration :: rest => declaration.shader n :: shaders (n + declaration.height) rest

theorem ofText_text (declarations : List Declaration) :
    Lines.ofText (text declarations) = declarations.flatMap lines := by
  rw [Lines.ofText, text, String.toList_ofList]
  induction declarations with
  | nil => rfl
  | cons declaration rest ih =>
      cases rest with
      | nil =>
          rw [List.map_singleton, List.intercalate_singleton, lines_written,
            List.flatMap_singleton]
      | cons next rest =>
          rw [List.map_cons] at ih ⊢
          rw [List.map_cons, List.intercalate_cons_cons, List.append_assoc,
            List.singleton_append, lines_written_append_cons, ih]
          rfl

theorem map_extract_literals (names : Escape.Names) (n : Nat) (declarations : List Declaration) :
    ((Cursor.mk .outside n).literals (declarations.flatMap lines)).map (Literal.extract names) =
      (shaders n declarations).map .ok := by
  induction declarations generalizing n with
  | nil => rfl
  | cons declaration rest ih =>
      rw [List.flatMap_cons, literals_lines_append, List.map_cons, extract_literal, ih]
      rfl

/-- Whatever the sources hold, extraction gives back the shaders that were written. -/
theorem results_text (names : Escape.Names) (declarations : List Declaration) :
    Extraction.start.results names (linesOfText (text declarations)) =
      (shaders 0 declarations).map .ok := by
  rw [linesOfText, ofText_text]
  refine (Extraction.results_map_ok .start _).trans ?_
  rw [Cursor.start, map_extract_literals, upToFault_map_ok]

end Declaration

end ShaderLiterals
