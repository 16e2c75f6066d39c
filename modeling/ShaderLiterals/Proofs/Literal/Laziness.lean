import ShaderLiterals.Proofs.Literal.Division
import ShaderLiterals.Proofs.Literal.Schedule

/-!
# How many lines are read for some shaders

Shaders are pulled one by one, and no line is read that is not needed.  What a pull reads ends with
the closing line of a literal, with the line that cannot be read or with the last one of all
(`pullFrom_of_division_cons`, `pull_of_division_nil`).  So the division of a source tells how many
lines are read for any number of shaders (`StopsAt`, `stopsAt_of_division`).  What comes behind them
has no say in the result (`exists_read_of_take`).
-/

namespace ShaderLiterals

variable {names : Escape.Names}

/-! ## Lines that can be read -/

/-- The lines before the first that cannot be read. -/
def readable : List SourceLine → List String
  | [] | .error _ :: _ => []
  | .ok line :: rest => line :: readable rest

/-- The lines that can be read, and then the end or a line that cannot. -/
theorem readable_append (source : List SourceLine) :
    (readable source).map .ok ++ source.drop (readable source).length = source := by
  induction source with
  | nil => rfl
  | cons line rest ih =>
      cases line with
      | error cause => rfl
      | ok line => exact congrArg (.ok line :: ·) ih

theorem length_readable_le (source : List SourceLine) :
    (readable source).length ≤ source.length := by
  induction source with
  | nil => exact le_rfl
  | cons line rest ih =>
      cases line with
      | error cause => exact Nat.zero_le _
      | ok line => exact Nat.succ_le_succ ih

theorem drop_readable (source : List SourceLine) :
    source.drop (readable source).length = [] ∨
      ∃ cause, source[(readable source).length]? = some (.error cause) := by
  induction source with
  | nil => exact .inl rfl
  | cons line rest ih =>
      cases line with
      | error cause => exact .inr ⟨cause, rfl⟩
      | ok line => exact ih

theorem drop_eq_readable_append {source : List SourceLine} {n : Nat}
    (h : n ≤ (readable source).length) :
    source.drop n =
      ((readable source).drop n).map .ok ++ source.drop (readable source).length := by
  have hlength : n ≤ ((readable source).map (Except.ok (ε := ReadFault))).length := by
    rwa [List.length_map]
  conv_lhs => rw [← readable_append source]
  rw [List.drop_append_of_le_length hlength, List.map_drop]

/-! ## One pull -/

theorem Role.opens_ne_closes (opening : Opening) (literal : Literal) :
    Role.opens opening ≠ .closes literal := nofun

theorem Role.body_ne_closes (literal : Literal) : Role.body ≠ .closes literal := nofun

namespace Extraction

theorem pullFrom_of_not_closes {cursor cursor' : Cursor} {line : String} {role : Role}
    (h : cursor.next line = (role, cursor')) (hrole : ∀ literal, role ≠ .closes literal)
    (rest : List SourceLine) :
    pullFrom names cursor (.ok line :: rest) = pullFrom names cursor' rest := by
  rw [pullFrom, h]
  cases role with
  | closes literal => exact absurd rfl (hrole literal)
  | plain | unnamed | opens | body => rfl

section Runs

variable {n : Nat} {rest : List SourceLine}

/-- Lines that open nothing are passed over outside. -/
theorem pullFrom_append_of_idle {lines : List String}
    (h : ∀ line ∈ lines, isOpener line = false) :
    pullFrom names ⟨.outside, n⟩ (lines.map .ok ++ rest) =
      pullFrom names ⟨.outside, n + lines.length⟩ rest := by
  induction lines generalizing n with
  | nil => rfl
  | cons line lines ih =>
      obtain ⟨hline, hlines⟩ := List.forall_mem_cons.1 h
      obtain ⟨role, hrole, hnext⟩ := Cursor.next_idle (n := n) hline
      rw [List.map_cons, List.cons_append, pullFrom_of_not_closes hnext hrole, ih hlines,
        List.length_cons, Nat.add_assoc, Nat.add_comm 1]

/-- Lines that close nothing are collected inside. -/
theorem pullFrom_append_of_body {opening : Opening} {body : Array String} {lines : List String}
    (h : ∀ line ∈ lines, isMarker line = false) :
    pullFrom names ⟨.inside opening body, n⟩ (lines.map .ok ++ rest) =
      pullFrom names ⟨.inside opening (body ++ lines), n + lines.length⟩ rest := by
  induction lines generalizing n body with
  | nil => rw [Array.appendList_nil]; rfl
  | cons line lines ih =>
      obtain ⟨hline, hlines⟩ := List.forall_mem_cons.1 h
      rw [List.map_cons, List.cons_append,
        pullFrom_of_not_closes (Cursor.next_body hline) Role.body_ne_closes, ih hlines,
        List.length_cons, Nat.add_assoc, Nat.add_comm 1, Array.appendList_cons]

end Runs

section Division

variable {source : List SourceLine} {start : Nat}

/-- Where no literal is closed any more, a pull goes on to the end of what can be read. -/
theorem pullFrom_of_division_nil (h : Division (readable source) start [])
    (hstart : start ≤ (readable source).length) :
    ∃ place, pullFrom names ⟨.outside, start⟩ (source.drop start) =
      pullFrom names ⟨place, (readable source).length⟩ (source.drop (readable source).length) := by
  rw [drop_eq_readable_append hstart]
  cases h with
  | idle hidle =>
      have hcount : start + ((readable source).drop start).length = (readable source).length := by
        rw [List.length_drop]
        omega
      rw [pullFrom_append_of_idle (forall_mem_drop_of_not_lineIs hidle), hcount]
      exact ⟨_, rfl⟩
  | @unfinished _ a ha hrest =>
      have hlt := ha.2.1.lt_length
      obtain ⟨opener, -, hopener, hdrop, hlength, hbefore⟩ := ha.exists_drop_eq
      obtain ⟨name, stage, hname⟩ := exists_name_of_isOpener hopener
      have hopens := Cursor.next_opener (n := start + (a - start))
        (isMarker_of_isOpener hopener) hname
      have hbody : ∀ line ∈ (readable source).drop (a + 1), isMarker line = false :=
        forall_mem_drop_of_not_lineIs hrest
      have hcount : start + (a - start) + 1 + ((readable source).drop (a + 1)).length =
          (readable source).length := by
        have hstart := ha.1
        rw [List.length_drop]
        omega
      rw [hdrop, List.map_append, List.append_assoc, pullFrom_append_of_idle hbefore, hlength,
        List.map_cons, List.cons_append, pullFrom_of_not_closes hopens (Role.opens_ne_closes _),
        pullFrom_append_of_body hbody, hcount]
      exact ⟨_, rfl⟩

/-- A pull reads up to the closing line of the next literal. -/
theorem pullFrom_of_division_cons {places : Nat × Nat} {pairs : List (Nat × Nat)}
    (h : Division (readable source) start (places :: pairs)) :
    ∃ literal, literalAt? (readable source) places = some literal ∧
      pullFrom names ⟨.outside, start⟩ (source.drop start) =
        report ⟨.outside, places.2 + 1⟩ (literal.extract names) (source.drop (places.2 + 1)) := by
  cases h with
  | @literal _ a c _ ha hc _ =>
      have hac : a + 1 ≤ c := hc.1
      have hstart : start ≤ a := ha.1
      have hlt := hc.2.1.lt_length
      obtain ⟨opener, hline, hopener, hdrop, hlength, hbefore⟩ := ha.exists_drop_eq
      obtain ⟨closer, -, hcloser, hdrop', hlength', hbody⟩ := hc.exists_drop_eq
      obtain ⟨name, stage, hname⟩ := exists_name_of_isOpener hopener
      have hopens := Cursor.next_opener (n := start + (a - start))
        (isMarker_of_isOpener hopener) hname
      have hplace : start + (a - start) = a := by omega
      have hcount : a + 1 + (c - (a + 1)) = c := by omega
      refine ⟨⟨⟨String.ofList name, stage, a + 1⟩,
        linesBetween (readable source) (a + 1) c⟩, by simp [literalAt?, hline, hname], ?_⟩
      rw [drop_eq_readable_append (show start ≤ _ by omega), hdrop, hdrop', List.map_append,
        List.append_assoc, pullFrom_append_of_idle hbefore, hlength, List.map_cons,
        List.cons_append, pullFrom_of_not_closes hopens (Role.opens_ne_closes _), List.map_append,
        List.append_assoc, pullFrom_append_of_body hbody, hlength', hplace, hcount,
        List.map_cons, List.cons_append, ← drop_eq_readable_append hlt, pullFrom,
        Cursor.next_closer hcloser, Array.toList_appendList, List.nil_append]

/-- Where no literal is closed any more, a pull gives nothing and reads all, or reports the line
that cannot be read. -/
theorem pull_of_division_nil (h : Division (readable source) start [])
    (hstart : start ≤ (readable source).length) :
    ∃ next, pull names ⟨⟨.outside, start⟩, false⟩ (source.drop start) = ⟨none, next, []⟩ ∨
      ∃ n cause, source[n]? = some (.error cause) ∧
        pull names ⟨⟨.outside, start⟩, false⟩ (source.drop start) =
          ⟨some (.error (.unreadable (n + 1) cause)), next, source.drop (n + 1)⟩ := by
  obtain ⟨place, hpull⟩ := pullFrom_of_division_nil h hstart
  rcases drop_readable source with hdrop | ⟨cause, hcause⟩
  · refine ⟨⟨⟨place, (readable source).length⟩, false⟩, .inl (hpull.trans ?_)⟩
    rw [hdrop, pullFrom]
  · obtain ⟨hlt, hget⟩ := List.getElem?_eq_some_iff.1 hcause
    refine ⟨⟨⟨place, (readable source).length⟩, true⟩, .inr ⟨_, cause, hcause, hpull.trans ?_⟩⟩
    rw [List.drop_eq_getElem_cons hlt, hget, pullFrom]
    rfl

end Division

/-! ## Many pulls -/

/-- Pulls give the first shaders, and the fault if they come to it. -/
theorem take_fst (names : Escape.Names) (limit : Nat) (cursor : Cursor) (lines : List SourceLine) :
    (take names limit ⟨cursor, false⟩ lines).1 =
      ⟨(extractFrom names cursor lines).shaders.take limit,
        if (extractFrom names cursor lines).shaders.length < limit then
          (extractFrom names cursor lines).fault
        else none⟩ := by
  induction cursor, lines using pull_induction generalizing limit with
  | nothing cursor lines next unread hpull hextract =>
      cases limit with
      | zero => rfl
      | succ limit => rw [hextract, take, hpull]; rfl
  | fault cursor lines fault next unread hpull hextract =>
      cases limit with
      | zero => rfl
      | succ limit => rw [hextract, take, hpull]; rfl
  | shader cursor lines shader next unread hpull hextract ih =>
      cases limit with
      | zero => rfl
      | succ limit =>
          rw [hextract, take, hpull]
          dsimp only
          rw [ih]
          simp only [Extracted.cons, List.take_succ_cons, List.length_cons,
            Nat.add_lt_add_iff_right]

/-- Unless all lines were read in vain, the lines that pulls read are all that they need. -/
theorem exists_read_of_take {limit : Nat} {cursor : Cursor} {lines : List SourceLine}
    (h : (extractFrom names cursor lines).shaders.length < limit →
      (extractFrom names cursor lines).fault ≠ none) :
    ∃ read, lines = read ++ (take names limit ⟨cursor, false⟩ lines).2 ∧
      ∀ more, take names limit ⟨cursor, false⟩ (read ++ more) =
        ((take names limit ⟨cursor, false⟩ lines).1, more) := by
  induction cursor, lines using pull_induction generalizing limit with
  | nothing cursor lines next unread hpull hextract =>
      cases limit with
      | zero => exact ⟨[], rfl, fun _ => rfl⟩
      | succ limit =>
          rw [hextract] at h
          exact absurd rfl (h (Nat.succ_pos limit))
  | fault cursor lines fault next unread hpull hextract =>
      cases limit with
      | zero => exact ⟨[], rfl, fun _ => rfl⟩
      | succ limit =>
          obtain ⟨read, hread, hmore⟩ := exists_read_of_pull hpull
          rw [take, hpull]
          refine ⟨read, hread, fun more => ?_⟩
          rw [take, hmore]
  | shader cursor lines shader next unread hpull hextract ih =>
      cases limit with
      | zero => exact ⟨[], rfl, fun _ => rfl⟩
      | succ limit =>
          obtain ⟨read, hread, hmore⟩ := exists_read_of_pull hpull
          rw [hextract] at h
          obtain ⟨read', hread', hmore'⟩ := ih fun hlt => h (Nat.succ_lt_succ hlt)
          rw [take, hpull]
          refine ⟨read ++ read', ?_, fun more => ?_⟩
          · rw [List.append_assoc, ← hread', hread]
          · rw [List.append_assoc, take, hmore]
            dsimp only
            rw [hmore']

end Extraction

/-- Pulling for `limit` shaders from the place on stops behind so many lines of the source. -/
inductive StopsAt (names : Escape.Names) (source : List SourceLine) (start : Nat)
    (pairs : List (Nat × Nat)) (whole : Extracted) (limit : Nat) : Nat → Prop
  /-- No shader is asked for. -/
  | unasked : limit = 0 → StopsAt names source start pairs whole limit start
  /-- The closing line of the last literal that is asked for was read. -/
  | shader {i : Nat} {places : Nat × Nat} {literal : Literal} {shader : Shader} : limit = i + 1 →
      whole.shaders[i]? = some shader → pairs[i]? = some places →
      literalAt? (readable source) places = some literal → literal.extract names = .ok shader →
      StopsAt names source start pairs whole limit (places.2 + 1)
  /-- A line cannot be read. -/
  | unreadable {n : Nat} {cause : ReadFault} : whole.shaders.length < limit →
      whole.fault = some (.unreadable (n + 1) cause) → source[n]? = some (.error cause) →
      StopsAt names source start pairs whole limit (n + 1)
  /-- The closing line of a literal was read that cannot be decoded. -/
  | undecodable {places : Nat × Nat} {literal : Literal} {fault : ExtractFault} :
      whole.shaders.length < limit → whole.fault = some fault →
      pairs[whole.shaders.length]? = some places →
      literalAt? (readable source) places = some literal → literal.extract names = .error fault →
      StopsAt names source start pairs whole limit (places.2 + 1)
  /-- There is nothing left to read. -/
  | exhausted : whole.shaders.length < limit → whole.fault = none →
      StopsAt names source start pairs whole limit source.length

namespace StopsAt

variable {source : List SourceLine} {start limit n : Nat} {pairs : List (Nat × Nat)}
  {whole : Extracted}

/-- The literal before them is pulled first. -/
theorem cons {places : Nat × Nat} {literal : Literal} {shader : Shader}
    (h : StopsAt names source (places.2 + 1) pairs whole limit n)
    (hliteral : literalAt? (readable source) places = some literal)
    (hshader : literal.extract names = .ok shader) :
    StopsAt names source start (places :: pairs) (whole.cons shader) (limit + 1) n := by
  cases h with
  | unasked hlimit =>
      subst hlimit
      exact .shader rfl rfl rfl hliteral hshader
  | shader hlimit hwhole hpairs hliteral hshader =>
      subst hlimit
      exact .shader rfl hwhole hpairs hliteral hshader
  | unreadable hlt hfault hcause => exact .unreadable (Nat.succ_lt_succ hlt) hfault hcause
  | undecodable hlt hfault hpairs hliteral hextract =>
      exact .undecodable (Nat.succ_lt_succ hlt) hfault hpairs hliteral hextract
  | exhausted hlt hfault => exact .exhausted (Nat.succ_lt_succ hlt) hfault

end StopsAt

namespace Extraction

/-- The lines of a division are read literal by literal. -/
theorem stopsAt_of_division (names : Escape.Names) {source : List SourceLine} {start : Nat}
    {pairs : List (Nat × Nat)} (h : Division (readable source) start pairs)
    (hstart : start ≤ (readable source).length)
    (limit : Nat) :
    ∃ n, n ≤ source.length ∧
      (take names limit ⟨⟨.outside, start⟩, false⟩ (source.drop start)).2 = source.drop n ∧
      StopsAt names source start pairs (extractFrom names ⟨.outside, start⟩ (source.drop start))
        limit n := by
  have hle := length_readable_le source
  -- a pull takes the first pair off the division, and the next one begins behind its closing line
  induction limit generalizing start pairs with
  | zero => exact ⟨start, Nat.le_trans hstart hle, rfl, .unasked rfl⟩
  | succ limit ih =>
      have hextract := extractFrom_eq_pullFrom names ⟨.outside, start⟩ (source.drop start)
      cases pairs with
      | nil =>
          obtain ⟨next, hpull | ⟨n, cause, hcause, hpull⟩⟩ := pull_of_division_nil h hstart
          · have hwhole : extractFrom names ⟨.outside, start⟩ (source.drop start) = .empty := by
              rw [hextract,
                show pullFrom names ⟨.outside, start⟩ (source.drop start) = _ from hpull]
            rw [take, hpull, hwhole]
            exact ⟨source.length, le_rfl, List.drop_length.symm,
              .exhausted (Nat.succ_pos limit) rfl⟩
          · have hwhole : extractFrom names ⟨.outside, start⟩ (source.drop start) =
                ⟨[], some (.unreadable (n + 1) cause)⟩ := by
              rw [hextract,
                show pullFrom names ⟨.outside, start⟩ (source.drop start) = _ from hpull]
            rw [take, hpull, hwhole]
            exact ⟨n + 1, (List.getElem?_eq_some_iff.1 hcause).1, rfl,
              .unreadable (Nat.succ_pos limit) rfl hcause⟩
      | cons places pairs =>
          obtain ⟨literal, hliteral, hpull⟩ := pullFrom_of_division_cons h
          obtain ⟨hend, hrest⟩ : places.2 + 1 ≤ (readable source).length ∧
              Division (readable source) (places.2 + 1) pairs := by
            cases h with
            | literal _ hc hrest => exact ⟨hc.2.1.lt_length, hrest⟩
          rw [take, show pull names ⟨⟨.outside, start⟩, false⟩ (source.drop start) = _ from hpull]
          rw [hpull] at hextract
          cases hshader : literal.extract names with
          | error fault =>
              rw [hshader] at hextract
              rw [hextract]
              exact ⟨places.2 + 1, Nat.le_trans hend hle, rfl,
                .undecodable (Nat.succ_pos limit) rfl rfl hliteral hshader⟩
          | ok shader =>
              rw [hshader] at hextract
              rw [hextract]
              obtain ⟨n, hn, hunread, hstops⟩ := ih hrest hend
              exact ⟨n, hn, hunread, hstops.cons hliteral hshader⟩

/-- How many lines are read until `limit` shaders were obtained, a fault was reported or the lines
ran out. -/
def takeCount (names : Escape.Names) (limit : Nat) (lines : List SourceLine) : Nat :=
  lines.length - (take names limit .start lines).2.length

end Extraction

/-- Pulling for some shaders gives the first ones of all, and the fault only if there are too few;
what was read ends where it must (`StopsAt`), and unless all lines were read in vain, it alone
decides what is given and how much is read. -/
theorem take_start (names : Escape.Names) (limit : Nat) (source : List SourceLine) :
    let whole := extract names source
    let count := Extraction.takeCount names limit source
    (Extraction.take names limit .start source).1 =
        ⟨whole.shaders.take limit, if whole.shaders.length < limit then whole.fault else none⟩ ∧
      (Extraction.take names limit .start source).2 = source.drop count ∧
      (∃ pairs, Division (readable source) 0 pairs ∧
        StopsAt names source 0 pairs whole limit count) ∧
      ((whole.shaders.length < limit → whole.fault ≠ none) →
        ∀ other, other.take count = source.take count →
          (Extraction.take names limit .start other).1 =
              (Extraction.take names limit .start source).1 ∧
            Extraction.takeCount names limit other = count) := by
  intro whole count
  obtain ⟨pairs, hpairs⟩ := exists_division (readable source) 0
  obtain ⟨n, hn, hunread, hstops⟩ :=
    Extraction.stopsAt_of_division names hpairs (Nat.zero_le _) limit
  have hunread : (Extraction.take names limit .start source).2 = source.drop n := hunread
  have hcount : count = n := by
    have hdef : count = source.length - (Extraction.take names limit .start source).2.length := rfl
    rw [hdef, hunread, List.length_drop]
    omega
  rw [hcount]
  refine ⟨Extraction.take_fst names limit .start source, hunread, ⟨pairs, hpairs, hstops⟩, ?_⟩
  intro hfault other hother
  obtain ⟨read, hread, hmore⟩ := Extraction.exists_read_of_take hfault
  have hread : source = read ++ source.drop n := hunread ▸ hread
  have hmore : Extraction.take names limit .start (read ++ other.drop n) =
      ((Extraction.take names limit .start source).1, other.drop n) := hmore _
  -- the lines that were read begin the other source as well
  have htake : read = other.take n := by
    rw [hother]
    refine List.append_cancel_right (hread.symm.trans ?_)
    exact (List.take_append_drop n source).symm
  have hlength : n ≤ other.length := by
    have hlength := congrArg List.length hother
    rw [List.length_take, List.length_take] at hlength
    omega
  rw [htake, List.take_append_drop] at hmore
  refine ⟨by rw [hmore], ?_⟩
  rw [Extraction.takeCount, hmore, List.length_drop]
  omega

end ShaderLiterals
