import ShaderLiterals.Proofs.Files.Joining

/-!
# What a path to a directory stands for

The files come in the order of the ways to them, each once, however the tree lists them
(`expandAll_directory`).  The one thing that can go wrong is a directory on the way that cannot be
read under its own path, which the system takes only up to some length (`expandAll_overlong`).
-/

namespace ShaderLiterals.Machine

open Files

variable {machine : Machine} {path : String}

/-- A path to a directory stands for the files below it, on ways without links, whose names have one
of the extensions.  Each comes once, in the byte order of the names on the ways, whatever the order
of the entries of the tree or of the extensions.  The walk succeeds if every directory below can be
read under its own path, and otherwise ends at the first one that cannot; with names that files can
have, that is one whose path is too long. -/
theorem expandAll_directory (extensions : List String) (h : machine.isDirectory path = true) :
    ∃ (top : Location) (ways : List Location), machine.locate path = .ok top ∧
      (∀ files, machine.expandAll extensions [path] = .ok files ↔
        (∀ way, machine.tree.Below top way .directory →
            checkPath (Path.joinAll path way) = .ok ()) ∧
          files = ways.map (Path.joinAll path)) ∧
      (∀ fault, machine.expandAll extensions [path] = .error fault ↔
        ∃ way cause, machine.tree.Below top way .directory ∧
          checkPath (Path.joinAll path way) = .error cause ∧
          fault = ⟨path, Path.joinAll path way, cause⟩ ∧
          ∀ earlier, earlier < way → machine.tree.Below top earlier .directory →
            checkPath (Path.joinAll path earlier) = .ok ()) ∧
      (machine.tree.WellNamed → ∀ way node, machine.tree.Below top way node →
        checkPath (Path.joinAll path way) =
          if Path.isTooLong (Path.joinAll path way) then .error .nameTooLong else .ok ()) ∧
      (∀ way, way ∈ ways ↔ (∃ id, machine.tree.Below top way (.file id)) ∧
        ∃ above stem extension, way = above ++ [stem ++ "." ++ extension] ∧ stem ≠ "" ∧
          '.' ∉ extension.toList ∧ extension ∈ extensions) ∧
      ways.Pairwise (fun way later =>
        way.map (fun name => Utf8.encode name.toList) <
          later.map (fun name => Utf8.encode name.toList)) ∧
      ((∀ way ∈ ways, ∀ name ∈ way, '/' ∉ name.toList) →
        (ways.map (Path.joinAll path)).Nodup) ∧
      ∀ (other : Machine) (others : List String), other.here = machine.here →
        (∀ location, other.tree.get? location = machine.tree.get? location) →
        (∀ extension, extension ∈ others ↔ extension ∈ extensions) →
        other.expandAll others [path] = machine.expandAll extensions [path] := by
  obtain ⟨top, hlocate, htop⟩ := isDirectory_iff.1 h
  simp only [expandAll_singleton]
  have hsorted : ((machine.tree.filesBelow top).filter (hasExtension extensions)).Pairwise
      (· < ·) := (Tree.pairwise_filesBelow machine.tree top).sublist List.filter_sublist
  have hmem : ∀ way, way ∈ (machine.tree.filesBelow top).filter (hasExtension extensions) ↔
      (∃ id, machine.tree.Below top way (.file id)) ∧
        ∃ above stem extension, way = above ++ [stem ++ "." ++ extension] ∧ stem ≠ "" ∧
          '.' ∉ extension.toList ∧ extension ∈ extensions := fun way => by
    rw [List.mem_filter, Tree.mem_filesBelow_iff, hasExtension_iff]
  refine ⟨top, _, hlocate, fun files => expand_eq_ok_iff hlocate htop,
    fun fault => expand_eq_error_iff hlocate htop, fun hnamed way node hbelow =>
      checkPath_of_below hnamed hlocate hbelow, hmem, ?_, fun hslash => ?_, ?_⟩
  · exact hsorted.imp fun hlt =>
      List.map_lt (fun name later hname => Utf8.encode_lt_encode (String.lt_iff.1 hname)) hlt
  · refine (Tree.nodup_of_pairwise_lt hsorted).map_on fun way hway later hlater heq => ?_
    obtain ⟨⟨_, hbelow⟩, -⟩ := (hmem way).1 hway
    obtain ⟨⟨_, hlaterBelow⟩, -⟩ := (hmem later).1 hlater
    exact Path.joinAll_inj (hslash way hway) (hslash later hlater) hbelow.ne_nil
      hlaterBelow.ne_nil heq
  · exact fun other others hhere htree hextensions => expand_congr hhere htree hextensions path

/-- A machine with a link to a directory, in which a link leads back to it. -/
def linked : Machine :=
  { Machine.empty with
    tree := ⟨[(["home", "root", "way"], .link "src"), (["home", "root", "src"], .directory),
      (["home", "root", "src", "a-b.swift"], .file 0), (["home", "root", "src", "a"], .directory),
      (["home", "root", "src", "a", "x.swift"], .file 1),
      (["home", "root", "src", ".swift"], .file 2), (["home", "root", "src", "loop"], .link ".")] ++
        Machine.empty.tree.entries⟩ }

theorem locate_linked : linked.locate "way" = .ok ["home", "root", "src"] := by
  have hcheck : checkPath "way" = .ok () := by decide
  have hpath : Path.ofText "way" = ⟨false, ["way"]⟩ := by decide
  have htarget : Path.ofText "src" = ⟨false, ["src"]⟩ := by decide
  have hlink : linked.tree.get? (["home", "root"] ++ ["way"]) = some (.link "src") := by decide
  have hsource : linked.tree.get? (["home", "root"] ++ ["src"]) = some .directory := by decide
  have horigin : ∀ names, Path.origin ⟨false, names⟩ ["home", "root"] = ["home", "root"] :=
    fun _ => rfl
  have hlinked : linked.here = ["home", "root"] := rfl
  rw [locate, hcheck, hpath, hlinked, maxLinks]
  dsimp only
  rw [horigin, Tree.follow_of_link (by decide) hlink, htarget, horigin, List.append_nil,
    Tree.follow_of_get? (by decide) hsource nofun]
  rfl

theorem isDirectory_linked : linked.isDirectory "way" = true :=
  isDirectory_iff.2 ⟨_, locate_linked, by decide⟩

/-- All that lies below can be read under its path, as far as the length of that goes. -/
theorem checkPath_linked {way : Location} {node : Node}
    (h : linked.tree.Below ["home", "root", "src"] way node) :
    checkPath (Path.joinAll "way" way) = .ok () := by
  have hway : way = ["a-b.swift"] ∨ way = ["a"] ∨ way = ["a", "x.swift"] ∨ way = [".swift"] ∨
      way = ["loop"] := by
    have hne := h.ne_nil
    have hmem := h.mem_map_fst
    simpa [linked, Machine.empty, hne] using hmem
  rcases hway with rfl | rfl | rfl | rfl | rfl <;> decide

theorem expandAll_directory_linked :
    linked.isDirectory "way" = true ∧
      ∃ ways : List Location,
        linked.expandAll ["swift"] ["way"] = .ok (ways.map (Path.joinAll "way")) ∧
        ["a", "x.swift"] ∈ ways ∧ ["a-b.swift"] ∈ ways ∧
        { linked with tree := ⟨linked.tree.entries.reverse⟩ }.expandAll ["swift", "swift"] ["way"] =
          linked.expandAll ["swift"] ["way"] := by
  obtain ⟨top, ways, htop, hpaths, -, -, hmem, -, -, hany⟩ :=
    expandAll_directory ["swift"] isDirectory_linked
  obtain rfl := Except.ok.inj (htop.symm.trans locate_linked)
  have hdirectory : linked.tree.get? (["home", "root", "src"] ++ ["a"]) = some .directory := by
    decide
  refine ⟨isDirectory_linked, ways, ?_, ?_, ?_, ?_⟩
  · exact (hpaths _).2 ⟨fun way hbelow => checkPath_linked hbelow, rfl⟩
  · exact (hmem _).2 ⟨⟨1, .deeper hdirectory (.child (by decide))⟩,
      ["a"], "x", "swift", rfl, by decide, by decide, by decide⟩
  · exact (hmem _).2 ⟨⟨0, .child (by decide)⟩,
      [], "a-b", "swift", rfl, by decide, by decide, by decide⟩
  · exact hany _ _ rfl (Tree.get?_perm (List.reverse_perm _) (by decide)) (by simp)

/-! ## A path with many slashes -/

/-- A path to a directory, with more slashes at its end than it takes. -/
def slashes (n : Nat) : String := "d" ++ String.ofList (List.replicate (n + 1) '/')

theorem toList_slashes (n : Nat) : (slashes n).toList = ['d'] ++ List.replicate n '/' ++ ['/'] := by
  rw [slashes, String.toList_append, List.replicate_succ', List.append_assoc]
  exact congrArg _ String.toList_ofList

theorem utf8ByteSize_slashes (n : Nat) : (slashes n).utf8ByteSize = n + 2 := by
  rw [slashes, String.utf8ByteSize_append]
  have hsize : ∀ m, (String.ofList (List.replicate m '/')).utf8ByteSize = m := by
    intro m
    induction m with
    | zero => rfl
    | succ m ih =>
        rw [List.replicate_succ', String.ofList_append, String.utf8ByteSize_append, ih]
        rfl
  rw [hsize]
  exact Nat.add_comm 1 (n + 1)

theorem getLast?_slashes (n : Nat) : (slashes n).toList.getLast? = some '/' := by
  rw [toList_slashes, List.getLast?_concat]

theorem ofText_slashes (n : Nat) : Path.ofText (slashes n) = ⟨false, ["d", "."]⟩ := by
  have hparts : Path.parts (['d'] ++ List.replicate n '/' ++ ['/']) = ["d"] := by
    rw [Path.parts_append_slash, Path.parts_nil, List.append_nil]
    induction n with
    | zero => decide
    | succ n ih =>
        rw [List.replicate_succ', ← List.append_assoc, Path.parts_append_slash, ih,
          Path.parts_nil, List.append_nil]
  rw [Path.ofText_eq_parts, getLast?_slashes, toList_slashes, hparts]
  rfl

theorem isTooLong_slashes (n : Nat) : Path.isTooLong (slashes n) = decide (4093 < n) := by
  rw [Path.isTooLong, utf8ByteSize_slashes, Path.maxBytes]
  exact decide_eq_decide.2 (by omega)

theorem joinAll_slashes (n : Nat) (way : Location) :
    Path.joinAll (slashes n) way = slashes n ++ String.intercalate "/" way :=
  if_pos (beq_iff_eq.2 (getLast?_slashes n))

theorem checkPath_slashes (n : Nat) :
    checkPath (slashes n) = if Path.isTooLong (slashes n) then .error .nameTooLong else .ok () := by
  refine checkPath_of_null_notMem ?_ ?_
  · rw [toList_slashes, List.mem_append, List.mem_append, List.mem_replicate]
    simp
  · refine mt String.toList_eq_nil_iff.2 ?_
    rw [toList_slashes]
    simp

/-- The slashes lead to the directory, as long as they are not too many. -/
theorem locate_slashes {n : Nat} (hshort : Path.isTooLong (slashes n) = false)
    (hhere : machine.tree.get? machine.here = some .directory)
    (hdirectory : machine.tree.get? (machine.here ++ ["d"]) = some .directory) :
    machine.locate (slashes n) = .ok (machine.here ++ ["d"]) := by
  have hcheck : checkPath (slashes n) = .ok () := by
    rw [checkPath_slashes, hshort]
    rfl
  have horigin : Path.origin ⟨false, ["d", "."]⟩ machine.here = machine.here := rfl
  rw [locate_eq_ok_iff, ofText_slashes, horigin]
  refine ⟨hcheck, ?_⟩
  rw [Tree.follow_cons (by decide) hhere, hdirectory]
  dsimp only
  rw [Tree.follow_dot hdirectory, Tree.follow_nil]

/-- A machine with a file in a directory in a directory. -/
def nested : Machine :=
  { Machine.empty with
    tree := ⟨(["home", "root", "d"], .directory) :: (["home", "root", "d", "sub"], .directory) ::
      (["home", "root", "d", "sub", "x.swift"], .file 0) :: Machine.empty.tree.entries⟩
    store := ⟨[⟨[], 0o644, 0⟩]⟩ }

/-- The walk comes by the directory in the directory, but cannot read it, since its path has more
bytes than a path may have.  So it does not find the file in there. -/
theorem expandAll_overlong :
    let path := slashes 4093
    let place := Path.joinAll path ["sub"]
    nested.tree.WellNamed ∧ nested.isDirectory path = true ∧
      nested.locate path = .ok ["home", "root", "d"] ∧
      nested.tree.Below ["home", "root", "d"] ["sub", "x.swift"] (.file 0) ∧
      nested.expandAll ["swift"] [path] = .error ⟨path, place, .nameTooLong⟩ := by
  intro path place
  have hnamed : nested.tree.WellNamed := by decide
  have hshort : Path.isTooLong path = false := isTooLong_slashes 4093
  have htop : nested.tree.get? ["home", "root", "d"] = some .directory := by decide
  have hlocate : nested.locate path = .ok ["home", "root", "d"] :=
    locate_slashes hshort (by decide) htop
  have hsub : nested.tree.get? (["home", "root", "d"] ++ ["sub"]) = some .directory := by decide
  have hbelow : nested.tree.Below ["home", "root", "d"] ["sub"] .directory := .child hsub
  have hlong : Path.isTooLong place = true := by
    have hname : (String.intercalate "/" ["sub"]).utf8ByteSize = 3 := by decide
    have hsize : place.utf8ByteSize = 4098 := by
      rw [show place = _ from joinAll_slashes 4093 ["sub"], String.utf8ByteSize_append,
        utf8ByteSize_slashes, hname]
    rw [Path.isTooLong, hsize]
    rfl
  have hcheck : checkPath place = .error .nameTooLong := by
    rw [checkPath_of_below hnamed hlocate hbelow, if_pos hlong]
  refine ⟨hnamed, isDirectory_iff.2 ⟨_, hlocate, htop⟩, hlocate,
    .deeper hsub (.child (by decide)), ?_⟩
  rw [expandAll_singleton, expand_eq_error_iff hlocate htop]
  refine ⟨["sub"], .nameTooLong, hbelow, hcheck, rfl, fun earlier hlt hearlier => ?_⟩
  -- there is no directory that comes before this one
  have hway : earlier = ["sub"] ∨ earlier = ["sub", "x.swift"] := by
    have hne := hearlier.ne_nil
    have hmem := hearlier.mem_map_fst
    simpa [nested, Machine.empty, hne] using hmem
  rcases hway with rfl | rfl
  · exact absurd hlt (List.lt_irrefl _)
  · exact absurd hlt (by decide)

end ShaderLiterals.Machine
