import Mathlib.Data.List.ReduceOption
import ShaderLiterals.Proofs.Literal.Scan

/-!
# Lines that arrive between pulls

The lines of a source may arrive one by one, and a shader may be asked for at any time.  Whatever
the order of arrivals and pulls, what was given so far and what the waiting lines still give is
what all lines give at once (`results_pushed`), for pulling on a longer queue is pulling on the
shorter one first (`results_append`).
-/

namespace ShaderLiterals

variable {names : Escape.Names}

namespace Cursor

/-- Where a reader stands after some lines. -/
def readAll (cursor : Cursor) (lines : List String) : Cursor :=
  lines.foldl (fun cursor line => (cursor.next line).2) cursor

@[simp] theorem readAll_nil (cursor : Cursor) : cursor.readAll [] = cursor := rfl

@[simp] theorem readAll_cons (cursor : Cursor) (line : String) (lines : List String) :
    cursor.readAll (line :: lines) = (cursor.next line).2.readAll lines := rfl

theorem readAll_append (cursor : Cursor) (lines more : List String) :
    cursor.readAll (lines ++ more) = (cursor.readAll lines).readAll more :=
  List.foldl_append

theorem line_readAll (cursor : Cursor) (lines : List String) :
    (cursor.readAll lines).line = cursor.line + lines.length := by
  induction lines generalizing cursor with
  | nil => rfl
  | cons line lines ih =>
      rw [readAll_cons, ih, line_next, List.length_cons, Nat.add_assoc, Nat.add_comm 1]

end Cursor

/-! ## Pulling on a longer queue -/

namespace Extraction

/-- A pull that gives something gives it for the lines that it reads, whatever comes behind them. -/
theorem exists_read_of_pullFrom {cursor : Cursor} {lines : List SourceLine}
    {result : Except ExtractFault Shader} (h : (pullFrom names cursor lines).result = some result) :
    ∃ read, lines = read ++ (pullFrom names cursor lines).unread ∧
      ∀ more, pullFrom names cursor (read ++ more) =
        { pullFrom names cursor lines with unread := more } := by
  fun_induction pullFrom names cursor lines with
  | case1 => cases h
  | case2 cursor cause rest => exact ⟨[.error cause], rfl, fun _ => rfl⟩
  | case3 cursor line rest literal cursor' hnext =>
      refine ⟨[.ok line], rfl, fun more => ?_⟩
      rw [List.singleton_append, pullFrom, hnext]
      rfl
  | case4 cursor line rest role cursor' hrole hnext ih =>
      obtain ⟨read, hread, hmore⟩ := ih h
      refine ⟨.ok line :: read, congrArg _ hread, fun more => ?_⟩
      rw [List.cons_append, pullFrom, hnext]
      cases role with
      | closes literal => exact absurd rfl (hrole literal)
      | plain | unnamed | opens | body => exact hmore more

/-- A pull that gives something gives the same, whatever comes behind. -/
theorem pullFrom_append_of_some {cursor : Cursor} {queue : List SourceLine}
    {result : Except ExtractFault Shader} (h : (pullFrom names cursor queue).result = some result)
    (later : List SourceLine) :
    pullFrom names cursor (queue ++ later) =
      { pullFrom names cursor queue with
        unread := (pullFrom names cursor queue).unread ++ later } := by
  obtain ⟨read, hread, hmore⟩ := exists_read_of_pullFrom h
  calc
    pullFrom names cursor (queue ++ later) =
        pullFrom names cursor (read ++ ((pullFrom names cursor queue).unread ++ later)) := by
      rw [← List.append_assoc, ← hread]
    _ = _ := hmore _

/-- The lines that a pull reads are all that it needs. -/
theorem exists_read_of_pull {extraction next : Extraction} {lines unread : List SourceLine}
    {result : Except ExtractFault Shader}
    (h : extraction.pull names lines = ⟨some result, next, unread⟩) :
    ∃ read, lines = read ++ unread ∧
      ∀ more, extraction.pull names (read ++ more) = ⟨some result, next, more⟩ := by
  obtain ⟨cursor, failed⟩ := extraction
  cases failed with
  | true => cases h
  | false =>
      have hfrom : pullFrom names cursor lines = ⟨some result, next, unread⟩ := h
      obtain ⟨read, hread, hmore⟩ := exists_read_of_pullFrom (congrArg Pull.result hfrom)
      rw [hfrom] at hread hmore
      exact ⟨read, hread, hmore⟩

theorem pull_take_readCount_append {extraction : Extraction} {lines : List SourceLine}
    {result : Except ExtractFault Shader} (h : (extraction.pull names lines).result = some result)
    (more : List SourceLine) :
    extraction.pull names (lines.take (extraction.readCount names lines) ++ more) =
      { extraction.pull names lines with unread := more } := by
  rcases hpull : extraction.pull names lines with ⟨found, next, unread⟩
  obtain rfl : found = some result := by rwa [hpull] at h
  obtain ⟨read, hread, hmore⟩ := exists_read_of_pull hpull
  have hcount : extraction.readCount names lines = read.length := by
    rw [readCount, hpull, hread, List.length_append]
    exact Nat.add_sub_cancel ..
  have htake : lines.take read.length = read := by rw [hread, List.take_left]
  rw [hcount, htake, hmore]

/-- A pull that gives nothing has read all lines, and none of them closed a literal. -/
theorem exists_lines_of_pullFrom_none {cursor : Cursor} {queue : List SourceLine}
    (h : (pullFrom names cursor queue).result = none) :
    ∃ lines : List String, queue = lines.map .ok ∧
      pullFrom names cursor queue = ⟨none, ⟨cursor.readAll lines, false⟩, []⟩ ∧
      ∀ later, pullFrom names cursor (queue ++ later) =
        pullFrom names (cursor.readAll lines) later := by
  fun_induction pullFrom names cursor queue with
  | case1 cursor => exact ⟨[], rfl, rfl, fun later => rfl⟩
  | case2 => cases h
  | case3 => cases h
  | case4 cursor line rest role cursor' hrole hnext ih =>
      obtain ⟨lines, rfl, hpull, hlater⟩ := ih h
      refine ⟨line :: lines, rfl, ?_, fun later => ?_⟩
      · rw [hpull, Cursor.readAll_cons, hnext]
      · rw [List.cons_append, pullFrom, hnext, Cursor.readAll_cons, hnext]
        cases role with
        | closes literal => exact absurd rfl (hrole literal)
        | plain | unnamed | opens | body => exact hlater later

/-- A pull that gives a fault fails. -/
theorem failed_pull_of_error {extraction : Extraction} {queue : List SourceLine}
    {fault : ExtractFault} (h : (extraction.pull names queue).result = some (.error fault)) :
    (extraction.pull names queue).extraction.failed = true := by
  obtain ⟨cursor, failed⟩ := extraction
  cases failed with
  | true => rfl
  | false =>
      have hresult : (pullFrom names cursor queue).result = some (.error fault) := h
      exact (failed_pullFrom names cursor queue).trans (by rw [hresult]; rfl)

/-- A literal that was open stays open, with the lines that were read, if a pull gives nothing. -/
theorem readAll_inside {opening : Opening} {body : Array String} {n : Nat} {lines : List String}
    (h : (pullFrom names ⟨.inside opening body, n⟩ (lines.map .ok)).result = none) :
    (Cursor.mk (.inside opening body) n).readAll lines =
      ⟨.inside opening (body ++ lines), n + lines.length⟩ := by
  induction lines generalizing body n with
  | nil => rw [Cursor.readAll_nil, Array.appendList_nil]; rfl
  | cons line lines ih =>
      rw [List.map_cons, pullFrom] at h
      by_cases hmarker : isMarker line = true
      · rw [Cursor.next_closer hmarker] at h
        cases h
      · have hnext : (Cursor.mk (.inside opening body) n).next line = _ :=
          Cursor.next_body (Bool.eq_false_iff.2 hmarker)
        rw [hnext] at h
        rw [Cursor.readAll_cons, hnext, ih h, Array.appendList_cons, List.length_cons,
          Nat.add_assoc, Nat.add_comm 1]

/-- A pull that gives nothing empties the queue, keeps an open literal, and costs later pulls
nothing. -/
theorem pull_of_result_none {extraction : Extraction} {queue : List SourceLine}
    (hfailed : extraction.failed = false) (h : (extraction.pull names queue).result = none) :
    (extraction.pull names queue).unread = [] ∧
      (extraction.pull names queue).extraction.failed = false ∧
      (∀ opening body, extraction.cursor.place = .inside opening body →
        ∃ lines : List String, queue = lines.map .ok ∧
          (extraction.pull names queue).extraction.cursor.place = .inside opening (body ++ lines)) ∧
      ∀ later, (extraction.pull names queue).extraction.pull names later =
        extraction.pull names (queue ++ later) := by
  obtain ⟨⟨place, n⟩, failed⟩ := extraction
  obtain rfl : failed = false := hfailed
  have hpull : ∀ cursor lines, pull names ⟨cursor, false⟩ lines = pullFrom names cursor lines :=
    fun _ _ => rfl
  rw [hpull] at h ⊢
  obtain ⟨lines, rfl, hfrom, hlater⟩ := exists_lines_of_pullFrom_none h
  rw [hfrom]
  refine ⟨rfl, rfl, ?_, fun later => (hlater later).symm⟩
  rintro opening body rfl
  exact ⟨lines, rfl, congrArg Cursor.place (readAll_inside h)⟩

/-- What lines give of which the later ones are read by a second pull. -/
theorem results_append (extraction : Extraction) (queue later : List SourceLine) :
    extraction.results names (queue ++ later) =
      (extraction.pull names queue).result.toList ++
        (extraction.pull names queue).extraction.results names
          ((extraction.pull names queue).unread ++ later) := by
  obtain ⟨cursor, failed⟩ := extraction
  cases failed with
  | true => rfl
  | false =>
      have hpull : ∀ lines, pull names ⟨cursor, false⟩ lines = pullFrom names cursor lines :=
        fun lines => rfl
      cases hresult : (pullFrom names cursor queue).result with
      | none =>
          obtain ⟨lines, -, hfrom, hlater⟩ := exists_lines_of_pullFrom_none hresult
          rw [hpull, hfrom]
          exact results_congr (hlater later)
      | some result =>
          have hlonger := pullFrom_append_of_some hresult later
          rw [results_of_pull_some (by rw [hpull, hlonger]; exact hresult), hpull, hpull, hlonger,
            hresult]
          rfl

end Extraction

/-! ## Schedules -/

/-- What happens to a source whose lines arrive one by one. -/
inductive Turn where
  /-- A line arrives behind those that wait. -/
  | push (line : SourceLine)
  /-- A shader is asked for. -/
  | pull

namespace Turn

def isPull : Turn → Bool
  | push _ => false
  | pull => true

def line? : Turn → Option SourceLine
  | push line => some line
  | pull => none

end Turn

/-- The lines that arrive in the turns. -/
def pushed (turns : List Turn) : List SourceLine :=
  turns.filterMap Turn.line?

/-- An extraction and the lines that wait for it. -/
structure Feed where
  extraction : Extraction
  queue : List SourceLine

namespace Feed

def start : Feed := ⟨.start, []⟩

/-- Takes the turns in order; each pull gives a shader, a fault or nothing. -/
def run (names : Escape.Names) (feed : Feed) :
    List Turn → List (Option (Except ExtractFault Shader)) × Feed
  | [] => ([], feed)
  | .push line :: rest => run names ⟨feed.extraction, feed.queue ++ [line]⟩ rest
  | .pull :: rest =>
      let pull := feed.extraction.pull names feed.queue
      let (given, last) := run names ⟨pull.extraction, pull.unread⟩ rest
      (pull.result :: given, last)

theorem run_append (feed : Feed) (turns later : List Turn) :
    feed.run names (turns ++ later) =
      ((feed.run names turns).1 ++ ((feed.run names turns).2.run names later).1,
        ((feed.run names turns).2.run names later).2) := by
  induction turns generalizing feed with
  | nil => rfl
  | cons turn turns ih =>
      cases turn with
      | push line => exact ih _
      | pull => simp only [List.cons_append, run, ih]

theorem run_map_push (feed : Feed) (lines : List SourceLine) :
    feed.run names (lines.map .push) = ([], ⟨feed.extraction, feed.queue ++ lines⟩) := by
  induction lines generalizing feed with
  | nil => simp only [List.map_nil, run, List.append_nil]
  | cons line lines ih =>
      rw [List.map_cons, run, ih, List.append_assoc, List.singleton_append]

/-- The last pull of some turns is their last outcome, whatever arrives after it. -/
theorem run_pull_map_push (feed : Feed) (turns : List Turn) (later : List SourceLine) :
    (feed.run names (turns ++ .pull :: later.map .push)).1 =
      (feed.run names turns).1 ++
        [((feed.run names turns).2.extraction.pull names
          (feed.run names turns).2.queue).result] := by
  rw [run_append, run, run_map_push]

/-- Nothing gets lost: what was given, and what the waiting lines still give, is what all lines
give at once. -/
theorem results_pushed (names : Escape.Names) (feed : Feed) (turns : List Turn) :
    feed.extraction.results names (feed.queue ++ pushed turns) =
      (feed.run names turns).1.reduceOption ++
        (feed.run names turns).2.extraction.results names (feed.run names turns).2.queue := by
  induction turns generalizing feed with
  | nil => simp only [pushed, List.filterMap_nil, List.append_nil, run, List.reduceOption_nil,
      List.nil_append]
  | cons turn turns ih =>
      cases turn with
      | push line =>
          have hih := ih ⟨feed.extraction, feed.queue ++ [line]⟩
          rwa [List.append_assoc, List.singleton_append] at hih
      | pull =>
          have hpushed : pushed (Turn.pull :: turns) = pushed turns := rfl
          have hih := ih ⟨(feed.extraction.pull names feed.queue).extraction,
            (feed.extraction.pull names feed.queue).unread⟩
          rw [hpushed, Extraction.results_append, hih, run]
          cases (feed.extraction.pull names feed.queue).result with
          | none => rfl
          | some result => rfl

/-- After a fault only the queue changes. -/
theorem run_failed (names : Escape.Names) (cursor : Cursor) (queue : List SourceLine)
    (turns : List Turn) :
    run names ⟨⟨cursor, true⟩, queue⟩ turns =
      (List.replicate (turns.countP Turn.isPull) none,
        ⟨⟨cursor, true⟩, queue ++ pushed turns⟩) := by
  induction turns generalizing queue with
  | nil => simp only [run, pushed, List.countP_nil, List.replicate_zero, List.filterMap_nil,
      List.append_nil]
  | cons turn turns ih =>
      cases turn with
      | push line =>
          have hcount : (Turn.push line :: turns).countP Turn.isPull = turns.countP Turn.isPull :=
            List.countP_cons_of_neg Bool.false_ne_true
          have hpushed : pushed (Turn.push line :: turns) = line :: pushed turns := rfl
          rw [run, ih, hcount, hpushed, List.append_assoc, List.singleton_append]
      | pull =>
          have hcount : (Turn.pull :: turns).countP Turn.isPull = turns.countP Turn.isPull + 1 :=
            List.countP_cons_of_pos rfl
          have hpull : Extraction.pull names ⟨cursor, true⟩ queue =
              ⟨none, ⟨cursor, true⟩, queue⟩ := rfl
          rw [run, hpull, ih, hcount, List.replicate_succ]
          rfl

/-- Once a fault was given, the extraction has failed. -/
theorem failed_of_mem_run {feed : Feed} {turns : List Turn} {fault : ExtractFault}
    (h : some (.error fault) ∈ (feed.run names turns).1) :
    (feed.run names turns).2.extraction.failed = true := by
  induction turns generalizing feed with
  | nil => exact absurd h List.not_mem_nil
  | cons turn turns ih =>
      cases turn with
      | push line => exact ih h
      | pull =>
          rcases List.mem_cons.1 h with hresult | hrest
          · have hfailed := Extraction.failed_pull_of_error hresult.symm
            generalize hpull : feed.extraction.pull names feed.queue = pull at hfailed
            obtain ⟨result, ⟨cursor, failed⟩, unread⟩ := pull
            obtain rfl : failed = true := hfailed
            rw [run, hpull, run_failed]
          · exact ih hrest

end Feed

/-- However lines arrive and shaders are asked for: what was given begins what all lines give, and
is all of what had arrived when a pull gave nothing; such a pull empties the queue, keeps an open
literal, and costs later pulls nothing; and after a fault no turn gives anything or reads a line. -/
theorem run_prefix_results (names : Escape.Names) (turns : List Turn) :
    let given := (Feed.start.run names turns).1
    let feed := (Feed.start.run names turns).2
    let pull := feed.extraction.pull names feed.queue
    given.reduceOption <+: Extraction.start.results names (pushed turns) ∧
      (∀ before (later : List SourceLine), turns = before ++ .pull :: later.map .push →
        given.getLast? = some none →
        given.reduceOption = Extraction.start.results names (pushed before)) ∧
      (feed.extraction.failed = false → pull.result = none →
        pull.unread = [] ∧ pull.extraction.failed = false ∧
          (∀ opening body, feed.extraction.cursor.place = .inside opening body →
            ∃ lines : List String, feed.queue = lines.map .ok ∧
              pull.extraction.cursor.place = .inside opening (body ++ lines)) ∧
          ∀ later, pull.extraction.pull names later =
            feed.extraction.pull names (feed.queue ++ later)) ∧
      ∀ fault later, some (.error fault) ∈ given →
        Feed.start.run names (turns ++ later) =
          (given ++ List.replicate (later.countP Turn.isPull) none,
            ⟨feed.extraction, feed.queue ++ pushed later⟩) := by
  intro given feed pull
  have hresults : Extraction.start.results names (pushed turns) =
      given.reduceOption ++ feed.extraction.results names feed.queue :=
    Feed.results_pushed names .start turns
  refine ⟨⟨_, hresults.symm⟩, ?_, ?_, ?_⟩
  · intro before later hturns hlast
    have hgiven : given = _ := hturns ▸ Feed.run_pull_map_push .start before later
    rw [hgiven, List.getLast?_concat, Option.some.injEq] at hlast
    have hbefore := Feed.results_pushed names .start before
    rw [Extraction.results_of_pull_none hlast, List.append_nil] at hbefore
    rw [hgiven, hlast, List.reduceOption_append, ← hbefore]
    exact List.append_nil _
  · exact fun hfailed hnone => Extraction.pull_of_result_none hfailed hnone
  · intro fault later hfault
    have hfailed : feed.extraction.failed = true := Feed.failed_of_mem_run hfault
    have hrun := Feed.run_failed names feed.extraction.cursor feed.queue later
    have hfeed : feed = ⟨⟨feed.extraction.cursor, true⟩, feed.queue⟩ := hfailed ▸ rfl
    rw [← hfeed] at hrun
    rw [Feed.run_append, hrun, ← hfailed]

end ShaderLiterals
