import ShaderLiterals.Proofs.Literal.Name

/-!
# What the pattern of shader names matches

A match of `\b\w+(Fragment|Vertex)Source\b` cuts a text into what stands before it, a stem, a mark,
`Source` and what stands behind it.  Of all matches the one counts that begins first, then the one
with the longest stem, then the one with the alternative that comes first.  There is less to choose
than it seems: every match is a whole run of word characters that is a name (`Match.isIn_iff`), and
the one that counts is the first of these (`isLeftmost_of_first?`), for runs are what a text falls
into (`Word.run_induction`).
-/

namespace ShaderLiterals

/-! ## Runs by their places -/

namespace Word

/-- Between the two other texts, the text has a run of word characters that cannot be made
longer. -/
structure IsRun (text before run after : List Char) : Prop where
  text_eq : text = before ++ (run ++ after)
  ne_nil : run ≠ []
  all_isWord : ∀ c ∈ run, isWord c = true
  not_before : before.getLast?.any isWord = false
  not_after : after.head?.any isWord = false

section Ends

variable {word : List Char}

theorem any_head?_append (hne : word ≠ []) (h : ∀ c ∈ word, isWord c = true) (after : List Char) :
    (word ++ after).head?.any isWord = true := by
  obtain ⟨c, rest, rfl⟩ := List.exists_cons_of_ne_nil hne
  exact h c List.mem_cons_self

theorem any_getLast? (hne : word ≠ []) (h : ∀ c ∈ word, isWord c = true) :
    word.getLast?.any isWord = true := by
  rw [List.getLast?_eq_some_getLast hne]
  exact h _ (List.getLast_mem hne)

end Ends

/-- A text is a word, or a word and something else with a text behind it. -/
@[elab_as_elim]
theorem run_induction {motive : List Char → Prop}
    (word : ∀ word, (∀ c ∈ word, isWord c = true) → motive word)
    (append_cons : ∀ word c rest, (∀ d ∈ word, isWord d = true) → isWord c = false → motive rest →
      motive (word ++ c :: rest)) (text : List Char) : motive text := by
  induction hn : text.length using Nat.strongRecOn generalizing text with
  | ind n ih =>
      obtain ⟨first, after, rfl, hfirst, hafter⟩ := exists_append text
      cases after with
      | nil =>
          rw [List.append_nil]
          exact word first hfirst
      | cons c rest =>
          refine append_cons first c rest hfirst hafter (ih rest.length ?_ rest rfl)
          rw [← hn, List.length_append, List.length_cons]
          omega

section Runs

variable {word tail text before run after : List Char}

/-- A run is the word that the text begins with, or it lies behind that. -/
theorem IsRun.cases (h : IsRun (word ++ tail) before run after)
    (hword : ∀ c ∈ word, isWord c = true) (htail : tail.head?.any isWord = false) :
    before = [] ∧ run = word ∧ after = tail ∨
      ∃ more, more ≠ [] ∧ before = word ++ more ∧ tail = more ++ (run ++ after) := by
  rcases List.append_eq_append_iff.1 h.text_eq with ⟨more, hbefore, hrest⟩ | ⟨more, hmore, hrest⟩
  · refine .inr ⟨more, ?_, hbefore, hrest⟩
    rintro rfl
    rw [hrest, List.nil_append, any_head?_append h.ne_nil h.all_isWord] at htail
    cases htail
  · -- what stands before the run would end in a word character
    have hnil : before = [] := by
      by_contra hne
      have hall : ∀ c ∈ before, isWord c = true := fun c hc =>
        hword c (hmore ▸ List.mem_append_left more hc)
      exact Bool.false_ne_true (h.not_before.symm.trans (any_getLast? hne hall))
    subst hnil
    rw [List.nil_append] at hmore
    subst hmore
    have hrun : run = word :=
      calc
        run = (run ++ after).takeWhile Word.isWord :=
          (takeWhile_append h.all_isWord h.not_after).symm
        _ = (word ++ tail).takeWhile Word.isWord := by rw [hrest]
        _ = word := takeWhile_append hword htail
    subst hrun
    exact .inl ⟨rfl, rfl, List.append_cancel_left hrest⟩

/-- A text that is a word has no other run. -/
theorem isRun_word_iff (hword : ∀ c ∈ word, isWord c = true) :
    IsRun word before run after ↔ word ≠ [] ∧ before = [] ∧ run = word ∧ after = [] := by
  constructor
  · intro h
    have hnil : IsRun (word ++ []) before run after := by rwa [List.append_nil]
    rcases hnil.cases hword rfl with ⟨hbefore, hrun, hafter⟩ | ⟨more, hmore, -, htail⟩
    · exact ⟨hrun ▸ h.ne_nil, hbefore, hrun, hafter⟩
    · exact absurd (List.append_eq_nil_iff.1 htail.symm).1 hmore
  · rintro ⟨hne, rfl, rfl, rfl⟩
    exact ⟨(List.append_nil _).symm, hne, hword, rfl, rfl⟩

/-- The runs of a text are the word that it begins with, and those behind it. -/
theorem isRun_append_cons_iff {c : Char} {rest : List Char}
    (hword : ∀ d ∈ word, isWord d = true) (hc : isWord c = false) :
    IsRun (word ++ c :: rest) before run after ↔
      word ≠ [] ∧ before = [] ∧ run = word ∧ after = c :: rest ∨
        ∃ more, before = word ++ c :: more ∧ IsRun rest more run after := by
  have hlast : ∀ more, (word ++ c :: more).getLast?.any isWord = more.getLast?.any isWord := by
    intro more
    rw [List.getLast?_append, List.getLast?_cons, Option.some_or, Option.any_some]
    cases more.getLast? with
    | none => exact hc
    | some d => rfl
  constructor
  · intro h
    rcases h.cases hword hc with ⟨hbefore, hrun, hafter⟩ | ⟨more, hmore, rfl, htail⟩
    · exact .inl ⟨hrun ▸ h.ne_nil, hbefore, hrun, hafter⟩
    · obtain ⟨d, more, rfl⟩ := List.exists_cons_of_ne_nil hmore
      obtain ⟨rfl, rfl⟩ := List.cons.inj htail
      exact .inr ⟨more, rfl, rfl, h.ne_nil, h.all_isWord, (hlast more).symm.trans h.not_before,
        h.not_after⟩
  · rintro (⟨hne, rfl, rfl, rfl⟩ | ⟨more, rfl, h⟩)
    · exact ⟨rfl, hne, hword, rfl, hc⟩
    · refine ⟨?_, h.ne_nil, h.all_isWord, (hlast more).trans h.not_before, h.not_after⟩
      rw [List.append_assoc, List.cons_append, ← h.text_eq]

/-- At one place of a text there is one run. -/
theorem IsRun.unique {before' run' after' : List Char} (h : IsRun text before run after)
    (h' : IsRun text before' run' after') (hlength : before.length = before'.length) :
    before = before' ∧ run = run' ∧ after = after' := by
  obtain ⟨hbefore, hrest⟩ := List.append_inj (h.text_eq.symm.trans h'.text_eq) hlength
  have hrun : run = run' :=
    calc
      run = (run ++ after).takeWhile Word.isWord := (takeWhile_append h.all_isWord h.not_after).symm
      _ = (run' ++ after').takeWhile Word.isWord := by rw [hrest]
      _ = run' := takeWhile_append h'.all_isWord h'.not_after
  subst hrun
  exact ⟨hbefore, rfl, List.append_cancel_left hrest⟩

end Runs

end Word

namespace Name

/-! ## The first run that is a name -/

section First

variable {text word name : List Char} {stage : Stage}

theorem first?_word (h : ∀ c ∈ word, Word.isWord c = true) :
    first? word = (stage? word).map (word, ·) := by
  rw [first?, Word.runs_eq_singleton h, List.findSome?_singleton]

theorem first?_append_cons (h : ∀ c ∈ word, Word.isWord c = true) {c : Char}
    (hc : Word.isWord c = false) (rest : List Char) :
    first? (word ++ c :: rest) = ((stage? word).map (word, ·)).or (first? rest) := by
  rw [first?, Word.runs_append_cons h hc, List.findSome?_cons]
  cases stage? word <;> rfl

/-- What is no name is nothing before the mark of a stage and `Source`. -/
theorem stage?_eq_none_iff : stage? word = none ↔
    ∀ stem, stem ≠ [] → ∀ stage : Stage, word ≠ stem ++ (stage.mark ++ "Source".toList) := by
  constructor
  · intro h stem hstem stage hname
    rw [stage?_eq_some_iff.2 ⟨stem, hstem, stage.ending_eq ▸ hname⟩] at h
    cases h
  · intro h
    by_contra hne
    obtain ⟨stage, hstage⟩ := Option.ne_none_iff_exists'.1 hne
    obtain ⟨stem, hstem, hname⟩ := stage?_eq_some_iff.1 hstage
    exact h stem hstem stage (stage.ending_eq ▸ hname)

/-- A name has one stem, and is the name of one stage. -/
theorem append_mark_eq_iff {stem stem' : List Char} {stage stage' : Stage} :
    stem ++ (stage.mark ++ "Source".toList) = stem' ++ (stage'.mark ++ "Source".toList) ↔
      stem = stem' ∧ stage = stage' := by
  rw [← Stage.ending_eq, ← Stage.ending_eq]
  constructor
  · intro h
    obtain rfl := Stage.eq_of_ending_suffix ⟨stem, h⟩ ⟨stem', rfl⟩
    exact ⟨List.append_cancel_right h, rfl⟩
  · rintro ⟨rfl, rfl⟩
    rfl

theorem ne_nil_of_stage? (h : stage? word = some stage) : word ≠ [] := by
  rintro rfl
  revert h
  cases stage <;> decide

/-- There is no first name if no run is a name. -/
theorem first?_eq_none_iff :
    first? text = none ↔
      ∀ before run after, Word.IsRun text before run after → stage? run = none := by
  induction text using Word.run_induction with
  | word word hword =>
      rw [first?_word hword, Option.map_eq_none_iff]
      constructor
      · intro h before run after hrun
        obtain ⟨-, -, rfl, -⟩ := (Word.isRun_word_iff hword).1 hrun
        exact h
      · intro h
        by_contra hne
        obtain ⟨stage, hstage⟩ := Option.ne_none_iff_exists'.1 hne
        have hrun := (Word.isRun_word_iff hword).2 ⟨ne_nil_of_stage? hstage, rfl, rfl, rfl⟩
        exact hne (h [] word [] hrun)
  | append_cons word c rest hword hc ih =>
      rw [first?_append_cons hword hc, Option.or_eq_none_iff, Option.map_eq_none_iff, ih]
      constructor
      · rintro ⟨hfirst, hrest⟩ before run after hrun
        rcases (Word.isRun_append_cons_iff hword hc).1 hrun with ⟨-, -, rfl, -⟩ | ⟨more, -, hrun⟩
        · exact hfirst
        · exact hrest more run after hrun
      · intro h
        refine ⟨?_, fun before run after hrun => ?_⟩
        · by_contra hne
          obtain ⟨stage, hstage⟩ := Option.ne_none_iff_exists'.1 hne
          exact hne (h _ _ _ ((Word.isRun_append_cons_iff hword hc).2
            (.inl ⟨ne_nil_of_stage? hstage, rfl, rfl, rfl⟩)))
        · exact h _ _ _ ((Word.isRun_append_cons_iff hword hc).2 (.inr ⟨before, rfl, hrun⟩))

/-- The first name is a run, and no run before it is a name. -/
theorem exists_isRun_of_first? (h : first? text = some (name, stage)) :
    stage? name = some stage ∧
      ∃ before after, Word.IsRun text before name after ∧
        ∀ before' run after', Word.IsRun text before' run after' →
          before'.length < before.length → stage? run = none := by
  induction text using Word.run_induction with
  | word word hword =>
      rw [first?_word hword] at h
      obtain ⟨stage', hstage, heq⟩ := Option.map_eq_some_iff.1 h
      obtain ⟨rfl, rfl⟩ := Prod.mk.inj heq
      have hrun := (Word.isRun_word_iff hword).2 ⟨ne_nil_of_stage? hstage, rfl, rfl, rfl⟩
      exact ⟨hstage, [], [], hrun, fun _ _ _ _ hlt => absurd hlt (Nat.not_lt_zero _)⟩
  | append_cons word c rest hword hc ih =>
      rw [first?_append_cons hword hc] at h
      cases hstage : stage? word with
      | some stage' =>
          rw [hstage] at h
          obtain ⟨rfl, rfl⟩ := Prod.mk.inj (Option.some.inj h)
          have hrun : Word.IsRun (word ++ c :: rest) [] word (c :: rest) :=
            (Word.isRun_append_cons_iff hword hc).2
              (.inl ⟨ne_nil_of_stage? hstage, rfl, rfl, rfl⟩)
          exact ⟨hstage, [], _, hrun, fun _ _ _ _ hlt => absurd hlt (Nat.not_lt_zero _)⟩
      | none =>
          rw [hstage] at h
          obtain ⟨hname, before, after, hrun, hfirst⟩ := ih h
          refine ⟨hname, word ++ c :: before, after,
            (Word.isRun_append_cons_iff hword hc).2 (.inr ⟨before, rfl, hrun⟩), ?_⟩
          intro before' run after' hrun' hlt
          rcases (Word.isRun_append_cons_iff hword hc).1 hrun' with
            ⟨-, -, rfl, -⟩ | ⟨more, rfl, hmore⟩
          · exact hstage
          · refine hfirst more run after' hmore ?_
            rw [List.length_append, List.length_append, List.length_cons, List.length_cons] at hlt
            omega

end First

/-! ## Matches -/

/-- A place where the pattern may match, and what its parts match there. -/
structure Match where
  before : List Char
  stem : List Char
  mark : List Char
  after : List Char
deriving DecidableEq, Repr

namespace Match

/-- All that is matched. -/
def name (m : Match) : List Char := m.stem ++ (m.mark ++ "Source".toList)

/-- The pattern matches the text in this way. -/
structure IsIn (text : List Char) (m : Match) : Prop where
  text_eq : text = m.before ++ (m.name ++ m.after)
  begins : isBoundary m.before.getLast? (m.name ++ m.after).head? = true
  stem_ne_nil : m.stem ≠ []
  isWord_stem : ∀ c ∈ m.stem, Word.isWord c = true
  mark_mem : m.mark ∈ ["Fragment".toList, "Vertex".toList]
  ends : isBoundary m.name.getLast? m.after.head? = true

/-- A match counts before another one if it begins first, or else has the longer stem, or else the
alternative that comes first. -/
inductive CountsBefore (m other : Match) : Prop
  | place (h : m.before.length < other.before.length)
  | stem (hplace : m.before.length = other.before.length) (h : other.stem.length < m.stem.length)
  | mark (hplace : m.before.length = other.before.length)
      (hstem : m.stem.length = other.stem.length) (h : m.mark = "Fragment".toList)
      (hother : other.mark = "Vertex".toList)

/-- The match that counts, of all in the text. -/
structure IsLeftmost (text : List Char) (m : Match) : Prop where
  isIn : m.IsIn text
  countsBefore : ∀ other, IsIn text other → other ≠ m → m.CountsBefore other

variable {text : List Char} {m other : Match}

theorem name_eq {stage : Stage} (h : m.mark = stage.mark) : m.name = m.stem ++ stage.ending := by
  rw [name, h, Stage.ending_eq]

theorem mark_mem_iff {mark : List Char} :
    mark ∈ ["Fragment".toList, "Vertex".toList] ↔ ∃ stage : Stage, mark = stage.mark := by
  simp only [List.mem_cons, List.not_mem_nil, or_false]
  constructor
  · rintro (rfl | rfl)
    · exact ⟨.fragment, rfl⟩
    · exact ⟨.vertex, rfl⟩
  · rintro ⟨_ | _, rfl⟩
    · exact .inr rfl
    · exact .inl rfl

/-- The matches in a text are the runs that are names. -/
theorem isIn_iff : m.IsIn text ↔
    Word.IsRun text m.before m.name m.after ∧ m.stem ≠ [] ∧
      ∃ stage : Stage, m.mark = stage.mark := by
  have hne : m.name ≠ [] := by
    rw [name]
    exact List.append_ne_nil_of_right_ne_nil _ (List.append_ne_nil_of_right_ne_nil _ (by decide))
  constructor
  · intro h
    obtain ⟨stage, hmark⟩ := mark_mem_iff.1 h.mark_mem
    have hword : ∀ c ∈ m.name, Word.isWord c = true := by
      rw [name_eq hmark]
      exact List.forall_mem_append.2 ⟨h.isWord_stem, stage.isWord_of_mem_ending⟩
    have hbegins := h.begins
    have hends := h.ends
    rw [isBoundary, Word.any_head?_append hne hword] at hbegins
    rw [isBoundary, Word.any_getLast? hne hword] at hends
    exact ⟨⟨h.text_eq, hne, hword, by simpa using hbegins, by simpa using hends⟩, h.stem_ne_nil,
      stage, hmark⟩
  · rintro ⟨hrun, hstem, stage, hmark⟩
    refine ⟨hrun.text_eq, ?_, hstem, ?_, mark_mem_iff.2 ⟨stage, hmark⟩, ?_⟩
    · rw [isBoundary, Word.any_head?_append hne hrun.all_isWord, hrun.not_before]
      rfl
    · exact fun c hc => hrun.all_isWord c (List.mem_append_left _ hc)
    · rw [isBoundary, Word.any_getLast? hne hrun.all_isWord, hrun.not_after]
      rfl

/-- A run that is a name is a match. -/
theorem isIn_of_isRun {before run after stem : List Char} {stage : Stage}
    (h : Word.IsRun text before run after) (hstem : stem ≠ [])
    (hrun : run = stem ++ (stage.mark ++ "Source".toList)) :
    IsIn text ⟨before, stem, stage.mark, after⟩ := by
  subst hrun
  exact isIn_iff.2 ⟨h, hstem, stage, rfl⟩

/-- At one place the pattern matches in one way. -/
theorem IsIn.unique (h : m.IsIn text) (h' : other.IsIn text)
    (hplace : m.before.length = other.before.length) : m = other := by
  obtain ⟨hrun, -, stage, hmark⟩ := isIn_iff.1 h
  obtain ⟨hrun', -, stage', hmark'⟩ := isIn_iff.1 h'
  obtain ⟨hbefore, hname, hafter⟩ := hrun.unique hrun' hplace
  obtain ⟨before, stem, mark, after⟩ := m
  obtain ⟨before', stem', mark', after'⟩ := other
  obtain rfl : mark = stage.mark := hmark
  obtain rfl : mark' = stage'.mark := hmark'
  obtain ⟨rfl, rfl⟩ := append_mark_eq_iff.1 hname
  obtain rfl : before = before' := hbefore
  obtain rfl : after = after' := hafter
  rfl

/-- The first name in a text is the match that counts. -/
theorem isLeftmost_of_first? {name : List Char} {stage : Stage}
    (h : first? text = some (name, stage)) :
    ∃ m : Match, m.IsLeftmost text ∧ m.name = name ∧ m.mark = stage.mark ∧
      ∀ before run after, Word.IsRun text before run after → before.length < m.before.length →
        stage? run = none := by
  obtain ⟨hstage, before, after, hrun, hfirst⟩ := exists_isRun_of_first? h
  obtain ⟨stem, hstem, hname⟩ := stage?_eq_some_iff.1 hstage
  rw [Stage.ending_eq] at hname
  have hisIn := isIn_of_isRun hrun hstem hname
  refine ⟨⟨before, stem, stage.mark, after⟩, ⟨hisIn, fun other hother hne => ?_⟩, hname.symm, rfl,
    hfirst⟩
  obtain ⟨hrun', hstem', stage', hmark'⟩ := isIn_iff.1 hother
  rcases Nat.lt_trichotomy before.length other.before.length with hlt | heq | hlt
  · exact .place hlt
  · exact absurd (hisIn.unique hother heq).symm hne
  · -- the other one would be a name before the first
    have hnone := hfirst _ _ _ hrun' hlt
    rw [stage?_eq_some_iff.2 ⟨_, hstem', name_eq hmark'⟩] at hnone
    cases hnone

/-- Only one match counts. -/
theorem IsLeftmost.unique (h : m.IsLeftmost text) (h' : other.IsLeftmost text) : m = other := by
  rcases Nat.lt_trichotomy m.before.length other.before.length with hlt | heq | hlt
  · by_contra hne
    cases h'.countsBefore m h.isIn hne with
    | place h => exact Nat.lt_asymm hlt h
    | stem h | mark h => exact Nat.ne_of_gt hlt h
  · exact h.isIn.unique h'.isIn heq
  · by_contra hne
    cases h.countsBefore other h'.isIn (Ne.symm hne) with
    | place h => exact Nat.lt_asymm hlt h
    | stem h | mark h => exact Nat.ne_of_gt hlt h

/-- The match that counts is the first name. -/
theorem IsLeftmost.first?_eq (h : m.IsLeftmost text) :
    ∃ stage : Stage, m.mark = stage.mark ∧ first? text = some (m.name, stage) ∧
      ∀ before run after, Word.IsRun text before run after → before.length < m.before.length →
        stage? run = none := by
  cases hfirst : first? text with
  | none =>
      obtain ⟨hrun, hstem, stage, hmark⟩ := isIn_iff.1 h.isIn
      have hname : m.name = m.stem ++ (stage.mark ++ "Source".toList) := by rw [name, hmark]
      have hnone := first?_eq_none_iff.1 hfirst _ _ _ hrun
      exact absurd hname (stage?_eq_none_iff.1 hnone m.stem hstem stage)
  | some found =>
      obtain ⟨name, stage⟩ := found
      obtain ⟨m', hm', rfl, hmark, hbefore⟩ := isLeftmost_of_first? hfirst
      obtain rfl := h.unique hm'
      exact ⟨stage, hmark, rfl, hbefore⟩

/-- A match counts unless there is no first name. -/
theorem exists_isLeftmost_iff : (∃ m : Match, m.IsLeftmost text) ↔ first? text ≠ none := by
  constructor
  · rintro ⟨m, hm⟩ hnone
    obtain ⟨stage, -, hfirst, -⟩ := hm.first?_eq
    cases hnone.symm.trans hfirst
  · intro h
    obtain ⟨⟨name, stage⟩, hname⟩ := Option.ne_none_iff_exists'.1 h
    obtain ⟨m, hm, -⟩ := isLeftmost_of_first? hname
    exact ⟨m, hm⟩

end Match

/-- The pattern matches somewhere in a text exactly if some run is a name.  The match that counts is
the first such run, the whole of it, and the pattern matches there in no other way; its mark tells
the stage whose name the run is, which is no other one's.  That is the first name in the text, and
what is found by trying the pattern at one place after the other. -/
theorem leftmost_eq_first (text : List Char) :
    ((∃ m : Match, m.IsLeftmost text) ↔
        ∃ before run after, Word.IsRun text before run after ∧
          ∃ stem, stem ≠ [] ∧ ∃ stage : Stage, run = stem ++ (stage.mark ++ "Source".toList)) ∧
      (∀ m : Match, m.IsLeftmost text →
        Word.IsRun text m.before m.name m.after ∧
          (∀ before run after, Word.IsRun text before run after →
            before.length < m.before.length →
            ∀ stem, stem ≠ [] → ∀ stage : Stage, run ≠ stem ++ (stage.mark ++ "Source".toList)) ∧
          (∀ other : Match, other.IsIn text → other.before.length = m.before.length →
            other = m) ∧
          ∃ stage, Stage.ofMark? m.mark = some stage ∧
            (∀ stem (other : Stage), m.name = stem ++ (other.mark ++ "Source".toList) ↔
              stem = m.stem ∧ other = stage) ∧
            first? text = some (m.name, stage) ∧ search? text = some ⟨m.name, m.mark⟩) ∧
      (first? text = none ↔ ¬ ∃ m : Match, m.IsLeftmost text) := by
  refine ⟨?_, fun m hm => ?_, ?_⟩
  · rw [Match.exists_isLeftmost_iff, ne_eq, first?_eq_none_iff]
    simp only [stage?_eq_none_iff, not_forall, not_not, exists_prop]
  · obtain ⟨hrun, -, -⟩ := Match.isIn_iff.1 hm.isIn
    obtain ⟨stage, hmark, hfirst, hbefore⟩ := hm.first?_eq
    refine ⟨hrun, fun before run after hrun' hlt => ?_,
      fun other hother hplace => hother.unique hm.isIn hplace, stage, ?_, fun stem other => ?_,
      hfirst, ?_⟩
    · exact stage?_eq_none_iff.1 (hbefore before run after hrun' hlt)
    · rw [hmark, Stage.ofMark?_mark]
    · rw [Match.name, hmark, append_mark_eq_iff, eq_comm, eq_comm (a := stage)]
    · rw [search?_eq_first?, hfirst, hmark]
      rfl
  · rw [Match.exists_isLeftmost_iff, ne_eq, not_not]

/-- A word that is the ending of a name and no more, then a name that ends in the endings of both
stages. -/
theorem leftmost_eq_first_nested :
    let text := "VertexSource é_aVertexSourceFragmentSource.b".toList
    ∃ m : Match, m.IsLeftmost text ∧ m.name = "é_aVertexSourceFragmentSource".toList ∧
      Stage.ofMark? m.mark = some .fragment := by
  intro text
  have hfirst : first? text = some ("é_aVertexSourceFragmentSource".toList, .fragment) := by
    decide +kernel
  obtain ⟨-, hleftmost, hnone⟩ := leftmost_eq_first text
  obtain ⟨m, hm⟩ : ∃ m : Match, m.IsLeftmost text := by
    by_contra h
    cases hfirst.symm.trans (hnone.2 h)
  obtain ⟨-, -, -, stage, hstage, -, hfirst', -⟩ := hleftmost m hm
  obtain ⟨hname, rfl⟩ := Prod.mk.inj (Option.some.inj (hfirst'.symm.trans hfirst))
  exact ⟨m, hm, hname, hstage⟩

end Name

end ShaderLiterals
