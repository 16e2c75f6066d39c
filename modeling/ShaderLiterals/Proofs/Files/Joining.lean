import ShaderLiterals.Proofs.Files.Expansion

/-!
# Where the paths of found files lead

A walk finds a file on a way of names, and its path is the path that the walk began at, with these
names behind it.  Whatever links the first part of the path leads through, following it comes to
where the walk began, and from there the names lead straight down (`locate_joinAll`).  For this the
names must be such as a file can have (`Tree.WellNamed`), and the path must not be too long.  Paths
can be expanded unless there is a directory whose own path is (`exists_of_expandAll_eq_error`).
-/

namespace ShaderLiterals

namespace Files

/-! ## Following more names -/

namespace Tree

variable {tree : Tree} {here top : Location} {names dots : List String} {links : Nat}

/-- The name `.` asks for a directory, and stays there. -/
theorem follow_dot (hhere : tree.get? here = some .directory) :
    tree.follow links here ("." :: names) = tree.follow links here names := by
  rw [follow, hhere]
  rfl

theorem follow_dots (hhere : tree.get? here = some .directory) :
    tree.follow links here (".." :: names) = tree.follow links here.dropLast names := by
  rw [follow, hhere]
  rfl

theorem eq_of_follow_dot (h : tree.follow links here ["."] = .ok top) : top = here := by
  by_cases hhere : tree.get? here = some .directory
  · rw [follow_dot hhere, follow_nil] at h
    exact (Except.ok.inj h).symm
  · rw [follow] at h
    rcases hnode : tree.get? here with _ | (_ | _ | _ | _ | _) <;> rw [hnode] at h hhere
    case some.directory => exact absurd rfl hhere
    all_goals cases h

/-- More names are followed from where the first ones lead, with the links that are left; or the
first ones lead nowhere. -/
theorem follow_append (tree : Tree) (links : Nat) (here : Location) (names : List String) :
    (∃ left top, ∀ more, tree.follow links here (names ++ more) = tree.follow left top more) ∨
      ∃ fault, ∀ more, tree.follow links here (names ++ more) = .error fault := by
  -- each name is followed in the same way whatever comes behind it, and the fault is the same
  fun_induction tree.follow links here names with
  | case1 links here => exact .inl ⟨links, here, fun _ => rfl⟩
  | case2 links here name rest hhere =>
      exact .inr ⟨_, fun more => by rw [List.cons_append, follow, hhere]⟩
  | case3 links here rest hhere ih =>
      simpa only [List.cons_append, follow_dot hhere] using ih
  | case4 links here rest hhere hdot ih =>
      simpa only [List.cons_append, follow_dots hhere] using ih
  | case5 links here name rest hhere hdot hdots hlong =>
      refine .inr ⟨.nameTooLong, fun more => ?_⟩
      rw [List.cons_append, follow, hhere]
      dsimp only
      rw [if_neg hdot, if_neg hdots, if_pos hlong]
  | case6 links here name rest hhere hdot hdots hshort hnone =>
      refine .inr ⟨.notFound, fun more => ?_⟩
      rw [List.cons_append, follow_cons ⟨hdot, hdots, Nat.not_lt.1 hshort⟩ hhere, hnone]
  | case7 here name rest hhere hdot hdots hshort target hlink =>
      refine .inr ⟨.tooManyLinks, fun more => ?_⟩
      rw [List.cons_append, follow_cons ⟨hdot, hdots, Nat.not_lt.1 hshort⟩ hhere, hlink]
  | case8 here name rest hhere hdot hdots hshort target hlink links path ih =>
      simpa only [List.cons_append, follow_of_link ⟨hdot, hdots, Nat.not_lt.1 hshort⟩ hlink,
        List.append_assoc] using ih
  | case9 links here name rest hhere hdot hdots hshort node hlink hnode ih =>
      have hstep : ∀ more, tree.follow links here (name :: rest ++ more) =
          tree.follow links (here ++ [name]) (rest ++ more) := fun more => by
        rw [List.cons_append, follow_cons ⟨hdot, hdots, Nat.not_lt.1 hshort⟩ hhere, hnode]
        cases node with
        | link target => exact absurd rfl (hlink target)
        | file | directory | device | pipe => rfl
      simpa only [hstep] using ih
  | case10 links here name rest node hdir hhere =>
      refine .inr ⟨.notDirectory, fun more => ?_⟩
      rw [List.cons_append, follow, hhere]
      cases node with
      | directory => exact absurd rfl hdir
      | file | link | device | pipe => rfl

/-- Other names may take the place of the name that asks for a directory. -/
theorem exists_follow_append (hdots : dots = [] ∨ dots = ["."])
    (h : tree.follow links here (names ++ dots) = .ok top) :
    ∃ left, ∀ more, tree.follow links here (names ++ more) = tree.follow left top more := by
  rcases follow_append tree links here names with ⟨left, mid, hmore⟩ | ⟨fault, hmore⟩
  · have hmid : tree.follow left mid dots = .ok top := (hmore dots).symm.trans h
    obtain rfl : mid = top := by
      rcases hdots with rfl | rfl
      · exact Except.ok.inj ((follow_nil tree left mid).symm.trans hmid)
      · exact (eq_of_follow_dot hmid).symm
    exact ⟨left, hmore⟩
  · cases (hmore dots).symm.trans h

end Tree

/-! ## Joined paths -/

namespace Path

/-- Whether a file in a directory can have the name. -/
structure IsFileName (name : String) : Prop where
  ne_empty : name ≠ ""
  slash : '/' ∉ name.toList
  null : '\x00' ∉ name.toList
  isPlain : IsPlain name

theorem isFileName_iff {name : String} :
    IsFileName name ↔ name ≠ "" ∧ '/' ∉ name.toList ∧ '\x00' ∉ name.toList ∧ IsPlain name :=
  ⟨fun h => ⟨h.1, h.2, h.3, h.4⟩, fun h => ⟨h.1, h.2.1, h.2.2.1, h.2.2.2⟩⟩

instance : DecidablePred IsFileName := fun _ => decidable_of_iff' _ isFileName_iff

theorem join_eq_joinAll (path name : String) : join path name = joinAll path [name] := by
  rw [joinAll, String.intercalate_singleton]

/-- The names between the slashes of a text. -/
def parts (text : List Char) : List String :=
  ((text.splitOn '/').filter (!·.isEmpty)).map String.ofList

@[simp] theorem parts_nil : parts [] = [] := rfl

theorem splitOn_append_slash (before after : List Char) :
    (before ++ '/' :: after).splitOn '/' = before.splitOn '/' ++ after.splitOn '/' :=
  List.splitOnP_append_cons before after (beq_self_eq_true '/')

theorem parts_append_slash (before after : List Char) :
    parts (before ++ '/' :: after) = parts before ++ parts after := by
  rw [parts, splitOn_append_slash, List.filter_append, List.map_append]
  rfl

theorem ofText_eq_parts (text : String) :
    ofText text =
      ⟨text.toList.head? == some '/',
        if text.toList.getLast? == some '/' then parts text.toList ++ ["."]
        else parts text.toList⟩ := rfl

section Way

variable {way : Location}

theorem splitOn_way (hway : ∀ name ∈ way, IsFileName name) (hne : way ≠ []) :
    (String.intercalate "/" way).toList.splitOn '/' = way.map String.toList :=
  splitOn_intercalate (fun name hmem => (hway name hmem).slash) hne

theorem parts_way (hway : ∀ name ∈ way, IsFileName name) (hne : way ≠ []) :
    parts (String.intercalate "/" way).toList = way := by
  have hfilter : (way.map String.toList).filter (!·.isEmpty) = way.map String.toList := by
    refine List.filter_eq_self.2 fun text htext => ?_
    obtain ⟨name, hmem, rfl⟩ := List.mem_map.1 htext
    simpa using (hway name hmem).ne_empty
  rw [parts, splitOn_way hway hne, hfilter, List.map_map]
  refine (List.map_congr_left fun name _ => ?_).trans (List.map_id way)
  exact String.ofList_toList

/-- The text of a way does not end with a slash. -/
theorem getLast?_way (hway : ∀ name ∈ way, IsFileName name) (hne : way ≠ []) (before : List Char) :
    (before ++ '/' :: (String.intercalate "/" way).toList).getLast? ≠ some '/' := by
  have hempty : [] ∉ (String.intercalate "/" way).toList.splitOn '/' := by
    rw [splitOn_way hway hne]
    intro hmem
    obtain ⟨name, hname, htext⟩ := List.mem_map.1 hmem
    exact (hway name hname).ne_empty (String.toList_eq_nil_iff.1 htext)
  generalize (String.intercalate "/" way).toList = text at hempty
  intro hlast
  rcases List.eq_nil_or_concat text with rfl | ⟨init, last, rfl⟩
  · exact hempty List.mem_cons_self
  · rw [List.concat_eq_append] at hempty hlast
    rw [← List.cons_append, ← List.append_assoc, List.getLast?_concat] at hlast
    obtain rfl := Option.some.inj hlast
    rw [splitOn_append_slash] at hempty
    exact hempty (List.mem_append_right _ List.mem_cons_self)

/-- The names of a path with a way behind it: those of the way stand where the path may have had a
name that asks for a directory. -/
theorem exists_ofText_joinAll {path : String} (hpath : path ≠ "")
    (hway : ∀ name ∈ way, IsFileName name) (hne : way ≠ []) :
    ∃ isAbsolute names dots, (dots = [] ∨ dots = ["."]) ∧
      ofText path = ⟨isAbsolute, names ++ dots⟩ ∧
      ofText (joinAll path way) = ⟨isAbsolute, names ++ way⟩ := by
  have hlast := getLast?_way hway hne
  have hparts := parts_way hway hne
  rw [joinAll, join]
  by_cases hslash : path.toList.getLast? = some '/'
  · obtain ⟨before, hbefore⟩ := List.getLast?_eq_some_iff.1 hslash
    refine ⟨path.toList.head? == some '/', parts before, ["."], .inr rfl, ?_, ?_⟩
    · rw [ofText_eq_parts, if_pos (beq_iff_eq.2 hslash), hbefore, parts_append_slash, parts_nil,
        List.append_nil]
    · rw [if_pos (beq_iff_eq.2 hslash), ofText_eq_parts, String.toList_append, hbefore,
        List.append_assoc, List.singleton_append, if_neg (mt beq_iff_eq.1 (hlast before)),
        parts_append_slash, hparts]
      cases before <;> rfl
  · have hcons : path.toList ≠ [] := mt String.toList_eq_nil_iff.1 hpath
    refine ⟨path.toList.head? == some '/', parts path.toList, [], .inl rfl, ?_, ?_⟩
    · rw [ofText_eq_parts, if_neg (mt beq_iff_eq.1 hslash), List.append_nil]
    · have htext : (path ++ "/" ++ String.intercalate "/" way).toList =
          path.toList ++ '/' :: (String.intercalate "/" way).toList := by
        rw [String.toList_append, String.toList_append, List.append_assoc]
        rfl
      rw [if_neg (mt beq_iff_eq.1 hslash), ofText_eq_parts, htext,
        if_neg (mt beq_iff_eq.1 (hlast _)), parts_append_slash, hparts,
        List.head?_append_of_ne_nil _ hcons]

theorem null_notMem_way (hway : ∀ name ∈ way, IsFileName name) :
    '\x00' ∉ (String.intercalate "/" way).toList := by
  rw [String.toList_intercalate]
  induction way with
  | nil => exact List.not_mem_nil
  | cons name rest ih =>
      obtain ⟨hname, hrest⟩ := List.forall_mem_cons.1 hway
      cases rest with
      | nil =>
          rw [List.map_singleton, List.intercalate_singleton]
          exact hname.null
      | cons next rest =>
          rw [List.map_cons, List.map_cons, List.intercalate_cons_cons, ← List.map_cons,
            List.mem_append, List.mem_append]
          rintro ((hmem | hmem) | hmem)
          · exact hname.null hmem
          · cases List.mem_singleton.1 hmem
          · exact ih hrest hmem

end Way

end Path

/-- Every name in the tree is one that a file can have. -/
def Tree.WellNamed (tree : Tree) : Prop :=
  ∀ entry ∈ tree.entries, ∀ name ∈ entry.1, Path.IsFileName name

instance : DecidablePred Tree.WellNamed := fun tree =>
  inferInstanceAs (Decidable (∀ entry ∈ tree.entries, ∀ name ∈ entry.1, Path.IsFileName name))

namespace Tree

variable {tree : Tree} {here way : Location} {node : Node}

theorem WellNamed.of_get? (h : tree.WellNamed) (hnode : tree.get? here = some node) :
    ∀ name ∈ here, Path.IsFileName name := by
  rcases List.eq_nil_or_concat here with rfl | ⟨above, last, rfl⟩
  · exact fun _ hmem => absurd hmem List.not_mem_nil
  · rw [List.concat_eq_append] at hnode ⊢
    obtain ⟨entry, hmem, hentry⟩ := List.mem_map.1 (mem_map_fst_of_get?_concat hnode)
    exact hentry ▸ h entry hmem

theorem Below.isFileName (hbelow : tree.Below here way node) (h : tree.WellNamed) :
    ∀ name ∈ way, Path.IsFileName name :=
  fun name hmem => h.of_get? hbelow.get?_eq name (List.mem_append_right here hmem)

end Tree

end Files

/-! ## What joined paths lead to -/

namespace Machine

open Files

variable {machine : Machine} {path : String} {top way : Location} {node : Node}

theorem of_checkPath_eq_ok (h : checkPath path = .ok ()) :
    '\x00' ∉ path.toList ∧ path ≠ "" := by
  unfold checkPath at h
  split at h
  · cases h
  · next hnull =>
    split at h
    · cases h
    · next hempty =>
      refine ⟨mt List.contains_iff_mem.2 hnull, ?_⟩
      rintro rfl
      exact hempty rfl

theorem checkPath_of_null_notMem (hnull : '\x00' ∉ path.toList) (hne : path ≠ "") :
    checkPath path = if Path.isTooLong path then .error .nameTooLong else .ok () := by
  unfold checkPath
  rw [if_neg (mt List.contains_iff_mem.1 hnull), if_neg (mt String.isEmpty_iff.1 hne)]

/-- A path with a way behind it can stand for something unless it is too long. -/
theorem checkPath_joinAll (hpath : checkPath path = .ok ())
    (hway : ∀ name ∈ way, Path.IsFileName name) :
    checkPath (Path.joinAll path way) =
      if Path.isTooLong (Path.joinAll path way) then .error .nameTooLong else .ok () := by
  obtain ⟨hnull, hne⟩ := of_checkPath_eq_ok hpath
  have hnull' := Path.null_notMem_way hway
  refine checkPath_of_null_notMem ?_ ?_ <;> rw [Path.joinAll, Path.join] <;> split
  · rw [String.toList_append, List.mem_append]
    exact not_or_intro hnull hnull'
  · rw [String.toList_append, String.toList_append, List.mem_append, List.mem_append]
    exact not_or_intro (not_or_intro hnull (by decide)) hnull'
  · exact fun h => hne (String.append_eq_empty_iff.1 h).1
  · exact fun h => hne (String.append_eq_empty_iff.1 (String.append_eq_empty_iff.1 h).1).1

theorem locate_eq_ok_iff {location : Location} :
    machine.locate path = .ok location ↔ checkPath path = .ok () ∧
      machine.tree.follow maxLinks ((Path.ofText path).origin machine.here)
        (Path.ofText path).names = .ok location := by
  unfold locate
  cases checkPath path with
  | error fault => exact ⟨nofun, fun h => nomatch h.1⟩
  | ok => exact ⟨fun h => ⟨rfl, h⟩, fun h => h.2⟩

/-- The path of a way that leads down from where a path leads. -/
theorem locate_joinAll (hlocate : machine.locate path = .ok top)
    (hway : ∀ name ∈ way, Path.IsFileName name) (hne : way ≠ [])
    (hnode : machine.tree.get? (top ++ way) = some node) (hlink : ∀ target, node ≠ .link target) :
    machine.locate (Path.joinAll path way) =
      if Path.isTooLong (Path.joinAll path way) then .error .nameTooLong else .ok (top ++ way) := by
  obtain ⟨hpath, hfollow⟩ := locate_eq_ok_iff.1 hlocate
  obtain ⟨isAbsolute, names, dots, hdots, htext, hjoined⟩ :=
    Path.exists_ofText_joinAll (of_checkPath_eq_ok hpath).2 hway hne
  rw [htext] at hfollow
  obtain ⟨left, hmore⟩ := Tree.exists_follow_append hdots hfollow
  have hlead : machine.tree.follow left top way = .ok (top ++ way) :=
    Tree.follow_of_get? (fun name hmem => (hway name hmem).isPlain) hnode hlink
  have hfound : machine.tree.follow maxLinks (Path.origin ⟨isAbsolute, names ++ way⟩ machine.here)
      (names ++ way) = .ok (top ++ way) := (hmore way).trans hlead
  unfold locate
  rw [checkPath_joinAll hpath hway, hjoined]
  cases Path.isTooLong (Path.joinAll path way) with
  | true => rfl
  | false =>
      rw [if_neg Bool.false_ne_true, if_neg Bool.false_ne_true]
      exact hfound

/-- What stands where a way leads down from where a path leads. -/
theorem find_joinAll (hlocate : machine.locate path = .ok top)
    (hbelow : machine.tree.Below top way node) (hlink : ∀ target, node ≠ .link target)
    (hnamed : machine.tree.WellNamed) :
    machine.find (Path.joinAll path way) =
      if Path.isTooLong (Path.joinAll path way) then .error .nameTooLong else .ok node := by
  unfold find
  rw [locate_joinAll hlocate (hbelow.isFileName hnamed) hbelow.ne_nil hbelow.get?_eq hlink]
  cases Path.isTooLong (Path.joinAll path way) with
  | true => rfl
  | false =>
      rw [if_neg Bool.false_ne_true, if_neg Bool.false_ne_true]
      dsimp only
      rw [hbelow.get?_eq]

/-! ## Expanding paths again -/

variable {extensions paths files : List String} {file : String}

/-- Paths that lead to no directory stand for themselves. -/
theorem expandAll_eq_self (extensions : List String)
    (h : ∀ path ∈ paths, machine.isDirectory path = false) :
    machine.expandAll extensions paths = .ok paths := by
  induction paths with
  | nil => rfl
  | cons path paths ih =>
      obtain ⟨hpath, hpaths⟩ := List.forall_mem_cons.1 h
      exact expandAll_cons_eq_ok_iff.2
        ⟨[path], paths, expand_of_not_isDirectory extensions hpath, ih hpaths, rfl⟩

/-- Paths stand for those of them that lead to no directory, and for files that lie below the
others. -/
theorem cases_of_mem_expandAll (hfiles : machine.expandAll extensions paths = .ok files)
    (h : file ∈ files) :
    (file ∈ paths ∧ machine.isDirectory file = false) ∨
      ∃ path ∈ paths, ∃ top way id, machine.locate path = .ok top ∧
        machine.tree.Below top way (.file id) ∧ file = Path.joinAll path way := by
  induction paths generalizing files with
  | nil =>
      cases hfiles
      exact absurd h List.not_mem_nil
  | cons path paths ih =>
      obtain ⟨first, rest, hfirst, hrest, rfl⟩ := expandAll_cons_eq_ok_iff.1 hfiles
      rcases List.mem_append.1 h with hmem | hmem
      · cases hdirectory : machine.isDirectory path with
        | false =>
            rw [expand_of_not_isDirectory extensions hdirectory] at hfirst
            cases hfirst
            obtain rfl := List.mem_singleton.1 hmem
            exact .inl ⟨List.mem_cons_self, hdirectory⟩
        | true =>
            obtain ⟨top, hlocate, htop⟩ := isDirectory_iff.1 hdirectory
            obtain ⟨-, rfl⟩ := (expand_eq_ok_iff hlocate htop).1 hfirst
            obtain ⟨way, hway, rfl⟩ := List.mem_map.1 hmem
            obtain ⟨id, hbelow⟩ := Tree.mem_filesBelow_iff.1 (List.mem_filter.1 hway).1
            exact .inr ⟨path, List.mem_cons_self, top, way, id, hlocate, hbelow, rfl⟩
      · rcases ih hrest hmem with ⟨hfile, hnot⟩ | ⟨other, hother, hbelow⟩
        · exact .inl ⟨List.mem_cons_of_mem _ hfile, hnot⟩
        · exact .inr ⟨other, List.mem_cons_of_mem _ hother, hbelow⟩

/-- A path that was found leads to a file, if it is not too long. -/
theorem find_of_mem_expandAll (hnamed : machine.tree.WellNamed)
    (hfiles : machine.expandAll extensions paths = .ok files) (h : file ∈ files)
    (hnot : file ∉ paths) :
    ∃ id, machine.find file =
      if Path.isTooLong file then .error .nameTooLong else .ok (.file id) := by
  rcases cases_of_mem_expandAll hfiles h with
    ⟨hmem, -⟩ | ⟨path, -, top, way, id, hlocate, hbelow, rfl⟩
  · exact absurd hmem hnot
  · exact ⟨id, find_joinAll hlocate hbelow nofun hnamed⟩

/-- A path that others stand for leads nowhere only if it is one of them, or too long. -/
theorem mem_or_isTooLong_of_find_error {cause : Fault} (hnamed : machine.tree.WellNamed)
    (hfiles : machine.expandAll extensions paths = .ok files) (h : file ∈ files)
    (hfind : machine.find file = .error cause) : file ∈ paths ∨ Path.isTooLong file = true := by
  by_cases hmem : file ∈ paths
  · exact .inl hmem
  · obtain ⟨id, hfound⟩ := find_of_mem_expandAll hnamed hfiles h hmem
    cases hlong : Path.isTooLong file with
    | true => exact .inr rfl
    | false =>
        rw [hlong] at hfound
        cases hfind.symm.trans hfound

/-- No path that others stand for leads to a directory. -/
theorem isDirectory_of_mem_expandAll (hnamed : machine.tree.WellNamed)
    (hfiles : machine.expandAll extensions paths = .ok files) (h : file ∈ files) :
    machine.isDirectory file = false := by
  rcases cases_of_mem_expandAll hfiles h with
    ⟨-, hfile⟩ | ⟨path, -, top, way, id, hlocate, hbelow, rfl⟩
  · exact hfile
  · rw [isDirectory, find_joinAll hlocate hbelow nofun hnamed]
    cases Path.isTooLong (Path.joinAll path way) <;> rfl

/-- Expanding paths once more changes nothing, whatever the extensions. -/
theorem expandAll_expandAll (hnamed : machine.tree.WellNamed)
    (hfiles : machine.expandAll extensions paths = .ok files) (others : List String) :
    machine.expandAll others files = .ok files :=
  expandAll_eq_self others fun _ h => isDirectory_of_mem_expandAll hnamed hfiles h

/-! ## Paths that cannot be expanded -/

/-- The path of what lies below a path can stand for something unless it is too long. -/
theorem checkPath_of_below (hnamed : machine.tree.WellNamed)
    (hlocate : machine.locate path = .ok top) (hbelow : machine.tree.Below top way node) :
    checkPath (Path.joinAll path way) =
      if Path.isTooLong (Path.joinAll path way) then .error .nameTooLong else .ok () :=
  checkPath_joinAll (locate_eq_ok_iff.1 hlocate).1 (hbelow.isFileName hnamed)

/-- Paths can be expanded unless, below one of them that leads to a directory, there is a directory
whose own path is too long. -/
theorem exists_of_expandAll_eq_error {fault : WalkFault} (hnamed : machine.tree.WellNamed)
    (h : machine.expandAll extensions paths = .error fault) :
    ∃ path ∈ paths, ∃ top way, machine.locate path = .ok top ∧
      machine.tree.Below top way .directory ∧
      Path.isTooLong (Path.joinAll path way) = true ∧
      fault = ⟨path, Path.joinAll path way, .nameTooLong⟩ := by
  induction paths with
  | nil => cases h
  | cons path paths ih =>
      cases hfirst : machine.expand extensions path with
      | ok first =>
          have hrest : machine.expandAll extensions paths = .error fault := by
            rw [expandAll_cons, hfirst] at h
            cases hrest : machine.expandAll extensions paths with
            | error cause =>
                rw [hrest] at h
                exact congrArg _ (Except.error.inj h)
            | ok rest =>
                rw [hrest] at h
                cases h
          obtain ⟨other, hother, hbelow⟩ := ih hrest
          exact ⟨other, List.mem_cons_of_mem _ hother, hbelow⟩
      | error cause =>
          rw [expandAll_cons, hfirst] at h
          cases h
          cases hdirectory : machine.isDirectory path with
          | false =>
              rw [expand_of_not_isDirectory extensions hdirectory] at hfirst
              cases hfirst
          | true =>
              obtain ⟨top, hlocate, htop⟩ := isDirectory_iff.1 hdirectory
              obtain ⟨way, cause, hbelow, hcause, rfl, -⟩ :=
                (expand_eq_error_iff hlocate htop).1 hfirst
              rw [checkPath_of_below hnamed hlocate hbelow] at hcause
              split at hcause
              · next hlong =>
                cases hcause
                exact ⟨path, List.mem_cons_self, top, way, hlocate, hbelow, hlong, rfl⟩
              · cases hcause

end Machine

end ShaderLiterals
