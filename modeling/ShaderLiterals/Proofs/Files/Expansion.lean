import Mathlib.Data.List.Nodup
import ShaderLiterals.Proofs.Files.Lookup
import ShaderLiterals.Proofs.Files.Walk
import ShaderLiterals.Proofs.Text.ByteOrder

/-!
# The files that a directory stands for

A path that leads to a directory stands for the files below it whose names have one of the
extensions.  They come in the order of the ways to them, name by name and byte by byte, which is not
the order of their paths: what is in `a` comes before `a-b`.
-/

namespace ShaderLiterals

namespace Files

/-! ## Extensions -/

namespace Path

/-- A text without a dot is all that comes before one, from whichever end. -/
theorem takeWhile_reverse {text : List Char} (h : '.' ∉ text) (before : List Char) :
    (text.reverse ++ before).takeWhile (· != '.') =
      text.reverse ++ before.takeWhile (· != '.') :=
  List.takeWhile_append_of_pos fun _ hc =>
    bne_iff_ne.2 fun hdot => h (hdot ▸ List.mem_reverse.1 hc)

theorem extension?_of_not_mem {name : String} (h : '.' ∉ name.toList) : extension? name = none := by
  have htake := takeWhile_reverse h []
  rw [List.takeWhile_nil, List.append_nil] at htake
  unfold extension?
  dsimp only
  rw [htake, List.reverse_reverse, if_neg (Nat.not_lt.2 (Nat.le_succ _))]

theorem extension?_append (stem : String) {extension : String} (h : '.' ∉ extension.toList) :
    extension? (stem ++ "." ++ extension) = if stem = "" then none else some extension := by
  have htext : (stem ++ "." ++ extension).toList = stem.toList ++ '.' :: extension.toList := by
    simp
  have htake : (stem ++ "." ++ extension).toList.reverse.takeWhile (· != '.') =
      extension.toList.reverse := by
    rw [htext, List.reverse_append, List.reverse_cons, List.append_assoc, takeWhile_reverse h,
      List.singleton_append, List.takeWhile_cons_of_neg (by simp), List.append_nil]
  have hlength : extension.toList.length + 1 < (stem ++ "." ++ extension).toList.length ↔
      stem ≠ "" := by
    rw [htext, List.length_append, List.length_cons, Nat.lt_add_left_iff_pos, List.length_pos_iff,
      Ne, String.toList_eq_nil_iff]
  unfold extension?
  dsimp only
  rw [htake, List.reverse_reverse, String.ofList_toList]
  simp only [hlength, ite_not]

/-- The extension of a name is what follows its last dot, which may not be its first character. -/
theorem extension?_eq_some_iff {name extension : String} :
    extension? name = some extension ↔
      ∃ stem, name = stem ++ "." ++ extension ∧ stem ≠ "" ∧ '.' ∉ extension.toList := by
  constructor
  · intro h
    by_cases hmem : '.' ∈ name.toList
    · obtain ⟨after, before, hname, hafter⟩ :=
        List.eq_append_cons_of_mem (List.mem_reverse.2 hmem)
      have hsplit : name = String.ofList before.reverse ++ "." ++ String.ofList after.reverse := by
        rw [← String.toList_inj, ← List.reverse_inj, hname]
        simp
      have hdot : '.' ∉ (String.ofList after.reverse).toList := by simpa using hafter
      rw [hsplit, extension?_append _ hdot] at h
      split at h
      · cases h
      · next hstem =>
        obtain rfl := Option.some.inj h
        exact ⟨_, hsplit, hstem, hdot⟩
    · rw [extension?_of_not_mem hmem] at h
      cases h
  · rintro ⟨stem, rfl, hstem, hdot⟩
    rw [extension?_append stem hdot, if_neg hstem]

end Path

theorem hasExtension_iff {extensions : List String} {way : Location} :
    hasExtension extensions way = true ↔
      ∃ above stem extension, way = above ++ [stem ++ "." ++ extension] ∧ stem ≠ "" ∧
        '.' ∉ extension.toList ∧ extension ∈ extensions := by
  unfold hasExtension
  constructor
  · intro h
    split at h
    · next extension hextension =>
      obtain ⟨name, hname, hsome⟩ := Option.bind_eq_some_iff.1 hextension
      obtain ⟨above, rfl⟩ := List.getLast?_eq_some_iff.1 hname
      obtain ⟨stem, rfl, hstem, hdot⟩ := Path.extension?_eq_some_iff.1 hsome
      exact ⟨above, stem, extension, rfl, hstem, hdot, List.contains_iff_mem.1 h⟩
    · cases h
  · rintro ⟨above, stem, extension, rfl, hstem, hdot, hmem⟩
    rw [List.getLast?_concat, Option.bind_some, Path.extension?_append stem hdot, if_neg hstem]
    exact List.contains_iff_mem.2 hmem

/-! ## Paths of ways -/

/-- The names on a way are the pieces of its text, if no name has a slash in it. -/
theorem Path.splitOn_intercalate {way : Location} (hway : ∀ name ∈ way, '/' ∉ name.toList)
    (hne : way ≠ []) :
    (String.intercalate "/" way).toList.splitOn '/' = way.map String.toList := by
  rw [String.toList_intercalate]
  refine List.splitOn_intercalate '/' ?_ (by simpa using hne)
  simpa using hway

/-- Different ways have different paths, if no name has a slash in it. -/
theorem Path.joinAll_inj {path : String} {way other : Location}
    (hway : ∀ name ∈ way, '/' ∉ name.toList) (hother : ∀ name ∈ other, '/' ∉ name.toList)
    (hne : way ≠ []) (hne' : other ≠ []) (h : joinAll path way = joinAll path other) :
    way = other := by
  have hintercalate : String.intercalate "/" way = String.intercalate "/" other := by
    unfold joinAll join at h
    split at h <;> exact (String.append_right_inj _).1 h
  have hmap := Path.splitOn_intercalate hway hne
  rw [hintercalate, Path.splitOn_intercalate hother hne'] at hmap
  exact (List.map_inj_right fun _ _ => String.toList_inj.1).1 hmap.symm

end Files

/-! ## Coming by visits -/

namespace Machine

open Files

section Enter

variable {path : String} {visit : Location × Node} {visits rest : List (Location × Node)}
  {way : Location} {node : Node} {fault : WalkFault}

theorem enter_eq_ok_iff : enter path (way, node) = .ok () ↔
    (node = .directory → checkPath (Path.joinAll path way) = .ok ()) := by
  unfold enter
  cases node <;> cases checkPath (Path.joinAll path way) <;> simp

theorem enter_eq_error_iff : enter path (way, node) = .error fault ↔
    node = .directory ∧
      ∃ cause, checkPath (Path.joinAll path way) = .error cause ∧
        fault = ⟨path, Path.joinAll path way, cause⟩ := by
  unfold enter
  cases node <;> cases checkPath (Path.joinAll path way) <;> simp [eq_comm]

theorem forM_enter_of_error (h : enter path visit = .error fault)
    (rest : List (Location × Node)) : (visit :: rest).forM (enter path) = .error fault := by
  rw [List.forM, h]
  rfl

theorem forM_enter_of_ok (h : enter path visit = .ok ()) :
    (visit :: rest).forM (enter path) = rest.forM (enter path) := by
  rw [List.forM, h]
  rfl

/-- A walk comes to its end if it comes by every visit. -/
theorem forM_enter_eq_ok_iff : visits.forM (enter path) = .ok () ↔
    ∀ visit ∈ visits, enter path visit = .ok () := by
  induction visits with
  | nil => exact iff_of_true rfl fun _ hmem => absurd hmem List.not_mem_nil
  | cons visit rest ih =>
      rw [List.forall_mem_cons, ← ih]
      cases hvisit : enter path visit with
      | error fault =>
          rw [forM_enter_of_error hvisit]
          simp
      | ok =>
          rw [forM_enter_of_ok hvisit]
          simp

/-- A walk ends at the first visit that it does not come by. -/
theorem forM_enter_eq_error_iff : visits.forM (enter path) = .error fault ↔
    ∃ before visit after, visits = before ++ visit :: after ∧
      (∀ earlier ∈ before, enter path earlier = .ok ()) ∧ enter path visit = .error fault := by
  constructor
  · intro h
    induction visits with
    | nil => cases h
    | cons visit rest ih =>
        cases hvisit : enter path visit with
        | error first =>
            rw [forM_enter_of_error hvisit] at h
            exact ⟨[], visit, rest, rfl, fun _ hmem => absurd hmem List.not_mem_nil, hvisit.trans h⟩
        | ok =>
            rw [forM_enter_of_ok hvisit] at h
            obtain ⟨before, next, after, rfl, hbefore, hnext⟩ := ih h
            exact ⟨visit :: before, next, after, rfl,
              List.forall_mem_cons.2 ⟨hvisit, hbefore⟩, hnext⟩
  · rintro ⟨before, visit, after, rfl, hbefore, hvisit⟩
    induction before with
    | nil => exact forM_enter_of_error hvisit after
    | cons first before ih =>
        obtain ⟨hfirst, hbefore⟩ := List.forall_mem_cons.1 hbefore
        exact (forM_enter_of_ok hfirst).trans (ih hbefore)

end Enter

/-! ## What one path stands for -/

section Expand

variable {machine other : Machine} {path : String} {extensions others files : List String}
  {top : Location} {fault : WalkFault}

theorem expand_of_locate (hlocate : machine.locate path = .ok top)
    (hdirectory : machine.tree.get? top = some .directory) (extensions : List String) :
    machine.expand extensions path =
      ((machine.tree.walkBelow top).forM (enter path)).map fun _ =>
        ((machine.tree.filesBelow top).filter (hasExtension extensions)).map
          (Path.joinAll path) := by
  rw [expand, hlocate]
  dsimp only
  rw [if_pos hdirectory]
  cases (machine.tree.walkBelow top).forM (enter path) <;> rfl

/-- A directory stands for files if each directory below it can be read under its own path. -/
theorem expand_eq_ok_iff (hlocate : machine.locate path = .ok top)
    (hdirectory : machine.tree.get? top = some .directory) :
    machine.expand extensions path = .ok files ↔
      (∀ way, machine.tree.Below top way .directory →
          checkPath (Path.joinAll path way) = .ok ()) ∧
        files = ((machine.tree.filesBelow top).filter (hasExtension extensions)).map
          (Path.joinAll path) := by
  have hwalk : (machine.tree.walkBelow top).forM (enter path) = .ok () ↔
      ∀ way, machine.tree.Below top way .directory →
        checkPath (Path.joinAll path way) = .ok () := by
    simp only [forM_enter_eq_ok_iff, Prod.forall, Tree.mem_walkBelow_iff, enter_eq_ok_iff]
    exact ⟨fun h way hbelow => h way .directory hbelow rfl,
      fun h way node hbelow hnode => h way (hnode ▸ hbelow)⟩
  rw [expand_of_locate hlocate hdirectory, ← hwalk]
  rcases (machine.tree.walkBelow top).forM (enter path) with fault | ⟨⟩ <;>
    simp [Except.map, eq_comm]

/-- Otherwise the first directory that cannot be read is at fault. -/
theorem expand_eq_error_iff (hlocate : machine.locate path = .ok top)
    (hdirectory : machine.tree.get? top = some .directory) :
    machine.expand extensions path = .error fault ↔
      ∃ way cause, machine.tree.Below top way .directory ∧
        checkPath (Path.joinAll path way) = .error cause ∧
        fault = ⟨path, Path.joinAll path way, cause⟩ ∧
        ∀ earlier, earlier < way → machine.tree.Below top earlier .directory →
          checkPath (Path.joinAll path earlier) = .ok () := by
  have hexpand : machine.expand extensions path = .error fault ↔
      (machine.tree.walkBelow top).forM (enter path) = .error fault := by
    rw [expand_of_locate hlocate hdirectory]
    rcases (machine.tree.walkBelow top).forM (enter path) with fault | ⟨⟩ <;> simp [Except.map]
  have hsorted := Tree.pairwise_walkBelow machine.tree top
  rw [hexpand, forM_enter_eq_error_iff]
  constructor
  · rintro ⟨before, ⟨way, node⟩, after, hsplit, hbefore, hvisit⟩
    obtain ⟨rfl, cause, hcause, rfl⟩ := enter_eq_error_iff.1 hvisit
    have hmem : ∀ {visit}, visit ∈ machine.tree.walkBelow top ↔
        visit ∈ before ∨ visit = (way, .directory) ∨ visit ∈ after := by
      rw [hsplit]
      simp
    refine ⟨way, cause, Tree.mem_walkBelow_iff.1 (hmem.2 (.inr (.inl rfl))), hcause, rfl,
      fun earlier hlt hbelow => ?_⟩
    rw [hsplit] at hsorted
    rcases hmem.1 (Tree.mem_walkBelow_iff.2 hbelow) with hearlier | hearlier | hearlier
    · exact enter_eq_ok_iff.1 (hbefore _ hearlier) rfl
    · cases hearlier
      exact absurd hlt (List.lt_irrefl _)
    · obtain ⟨-, hrest, -⟩ := List.pairwise_append.1 hsorted
      exact absurd hlt (List.lt_asymm ((List.pairwise_cons.1 hrest).1 _ hearlier))
  · rintro ⟨way, cause, hbelow, hcause, rfl, hearlier⟩
    obtain ⟨before, after, hsplit⟩ := List.append_of_mem (Tree.mem_walkBelow_iff.2 hbelow)
    refine ⟨before, _, after, hsplit, fun ⟨earlier, node⟩ hmem => ?_,
      enter_eq_error_iff.2 ⟨rfl, cause, hcause, rfl⟩⟩
    refine enter_eq_ok_iff.2 fun hnode => hearlier earlier ?_ (hnode ▸ ?_)
    · rw [hsplit] at hsorted
      exact (List.pairwise_append.1 hsorted).2.2 _ hmem _ List.mem_cons_self
    · exact Tree.mem_walkBelow_iff.1 (hsplit ▸ List.mem_append_left _ hmem)

theorem expand_of_not_isDirectory (extensions : List String)
    (h : machine.isDirectory path = false) : machine.expand extensions path = .ok [path] := by
  unfold expand
  cases hlocate : machine.locate path with
  | error fault => rfl
  | ok top =>
      refine if_neg fun hdirectory => Bool.false_ne_true ?_
      exact h.symm.trans (isDirectory_iff.2 ⟨top, hlocate, hdirectory⟩)

/-- The files for a path hang on what stands where and on which extensions there are. -/
theorem expand_congr (hhere : other.here = machine.here)
    (htree : ∀ location, other.tree.get? location = machine.tree.get? location)
    (hextensions : ∀ extension, extension ∈ others ↔ extension ∈ extensions) (path : String) :
    other.expand others path = machine.expand extensions path := by
  have hhas : hasExtension others = hasExtension extensions := funext fun way => by
    rw [Bool.eq_iff_iff, hasExtension_iff, hasExtension_iff]
    simp only [hextensions]
  unfold expand
  rw [locate_congr hhere htree, hhas]
  cases machine.locate path with
  | error fault => rfl
  | ok top => dsimp only; rw [htree, Tree.filesBelow_congr htree, Tree.walkBelow_congr htree]

end Expand

/-! ## What several paths stand for -/

section ExpandAll

variable {machine : Machine} {extensions paths files : List String} {path : String}
  {fault : WalkFault}

theorem expandAll_cons (machine : Machine) (extensions : List String) (path : String)
    (paths : List String) :
    machine.expandAll extensions (path :: paths) = do
      let files ← machine.expand extensions path
      let others ← machine.expandAll extensions paths
      return files ++ others := rfl

theorem expandAll_singleton (machine : Machine) (extensions : List String) (path : String) :
    machine.expandAll extensions [path] = machine.expand extensions path := by
  rw [expandAll_cons]
  cases machine.expand extensions path with
  | error fault => rfl
  | ok files => exact congrArg Except.ok (List.append_nil files)

/-- Some paths and then others stand for what the first do and then for what the others do; the
first fault counts. -/
theorem expandAll_append (machine : Machine) (extensions paths more : List String) :
    machine.expandAll extensions (paths ++ more) = do
      let files ← machine.expandAll extensions paths
      let others ← machine.expandAll extensions more
      return files ++ others := by
  induction paths with
  | nil =>
      rw [List.nil_append]
      cases hmore : machine.expandAll extensions more <;> rfl
  | cons path paths ih =>
      rw [List.cons_append, expandAll_cons, expandAll_cons, ih]
      simp only [bind_assoc, pure_bind, List.append_assoc]

theorem expandAll_cons_eq_ok_iff : machine.expandAll extensions (path :: paths) = .ok files ↔
    ∃ first rest, machine.expand extensions path = .ok first ∧
      machine.expandAll extensions paths = .ok rest ∧ files = first ++ rest := by
  rw [expandAll_cons]
  cases machine.expand extensions path with
  | error fault => exact iff_of_false nofun nofun
  | ok first =>
      cases machine.expandAll extensions paths with
      | error fault => exact iff_of_false nofun nofun
      | ok rest => simp [bind, Except.bind, pure, Except.pure, eq_comm]

/-- Where several paths stand for files, each of them does. -/
theorem exists_expand_of_mem (h : machine.expandAll extensions paths = .ok files)
    (hmem : path ∈ paths) : ∃ first, machine.expand extensions path = .ok first := by
  induction paths generalizing files with
  | nil => exact absurd hmem List.not_mem_nil
  | cons other paths ih =>
      obtain ⟨first, rest, hfirst, hrest, -⟩ := expandAll_cons_eq_ok_iff.1 h
      rcases List.mem_cons.1 hmem with rfl | hmem
      · exact ⟨first, hfirst⟩
      · exact ih hrest hmem

end ExpandAll

end Machine

end ShaderLiterals
