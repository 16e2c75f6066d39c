import ShaderLiterals.Machine

/-!
# What a path leads to

Where names lead hangs on what stands where, not on how the tree lists it (`follow_congr`).  Names
without a link among them lead straight down (`follow_of_get?`).
-/

namespace ShaderLiterals

namespace Files

/-- Whether a name is looked up in a directory like any other. -/
def Path.IsPlain (name : String) : Prop :=
  name ≠ "." ∧ name ≠ ".." ∧ name.utf8ByteSize ≤ Path.maxNameBytes

instance : DecidablePred Path.IsPlain := fun _ => inferInstanceAs (Decidable (_ ∧ _))

namespace Tree

variable {tree other : Tree} {here : Location} {name : String} {names rest : List String}
  {links : Nat} {node : Node}

/-! ## Entries in any order -/

theorem lookup_eq_some_iff_mem {entries : List (Location × Node)} {location : Location}
    (hnodup : (entries.map Prod.fst).Nodup) :
    entries.lookup location = some node ↔ (location, node) ∈ entries := by
  constructor
  · intro h
    obtain ⟨before, after, rfl, -⟩ := List.lookup_eq_some_iff.1 h
    exact List.mem_append_right _ List.mem_cons_self
  · intro h
    obtain ⟨before, after, rfl⟩ := List.append_of_mem h
    refine List.lookup_eq_some_iff.2 ⟨before, after, rfl, fun entry hentry => ?_⟩
    rw [List.map_append, List.nodup_append] at hnodup
    have hne := hnodup.2.2 entry.1 (List.mem_map_of_mem hentry) location
      (List.mem_map.2 ⟨_, List.mem_cons_self, rfl⟩)
    exact bne_iff_ne.2 hne.symm

theorem descend_congr
    (h : ∀ place, other.entries.lookup place = tree.entries.lookup place) (here : Location)
    (node : Node) (location : Location) :
    other.descend here node location = tree.descend here node location := by
  induction location generalizing here node with
  | nil => rfl
  | cons name rest ih =>
      cases node with
      | directory =>
          rw [descend, descend, h]
          cases tree.entries.lookup (here ++ [name]) with
          | none => rfl
          | some node => exact ih _ _
      | file | link | device | pipe => rfl

/-- Entries for different places may be listed in any order. -/
theorem get?_perm (hperm : other.entries.Perm tree.entries)
    (hnodup : (tree.entries.map Prod.fst).Nodup) (location : Location) :
    other.get? location = tree.get? location := by
  refine descend_congr (fun place => Option.ext fun node => ?_) [] .directory location
  rw [lookup_eq_some_iff_mem hnodup, lookup_eq_some_iff_mem ((hperm.map _).nodup_iff.2 hnodup),
    hperm.mem_iff]

/-! ## Following names -/

@[simp] theorem follow_nil (tree : Tree) (links : Nat) (here : Location) :
    tree.follow links here [] = .ok here := by rw [follow]

theorem follow_cons (hplain : Path.IsPlain name) (hhere : tree.get? here = some .directory) :
    tree.follow links here (name :: rest) =
      match tree.get? (here ++ [name]), links with
      | none, _ => .error .notFound
      | some (.link _), 0 => .error .tooManyLinks
      | some (.link target), links + 1 =>
          tree.follow links ((Path.ofText target).origin here) ((Path.ofText target).names ++ rest)
      | some _, links => tree.follow links (here ++ [name]) rest := by
  obtain ⟨hdot, hdots, hshort⟩ := hplain
  rw [follow, hhere]
  dsimp only
  rw [if_neg hdot, if_neg hdots, if_neg (Nat.not_lt.2 hshort)]
  rcases tree.get? (here ++ [name]) with _ | (_ | _ | target | _ | _) <;> cases links <;> rfl

/-- A link stands for the names of its target. -/
theorem follow_of_link {target : String} (hplain : Path.IsPlain name)
    (hlink : tree.get? (here ++ [name]) = some (.link target)) :
    tree.follow (links + 1) here (name :: rest) =
      tree.follow links ((Path.ofText target).origin here)
        ((Path.ofText target).names ++ rest) := by
  rw [follow_cons hplain (get?_eq_directory_of_concat hlink), hlink]

/-- Where names lead hangs on what stands where. -/
theorem follow_congr (h : ∀ location, other.get? location = tree.get? location) (links : Nat)
    (here : Location) (names : List String) :
    other.follow links here names = tree.follow links here names := by
  fun_induction tree.follow links here names with
  | case1 => exact follow_nil ..
  | case2 links here name rest hhere => rw [follow, h, hhere]
  | case3 links here rest hhere ih => rw [follow, h, hhere, ← ih]; rfl
  | case4 links here rest hhere hdot ih => rw [follow, h, hhere, ← ih]; rfl
  | case5 links here name rest hhere hdot hdots hlong =>
      rw [follow, h, hhere]
      dsimp only
      rw [if_neg hdot, if_neg hdots, if_pos hlong]
  | case6 links here name rest hhere hdot hdots hshort hnone =>
      rw [follow_cons ⟨hdot, hdots, Nat.not_lt.1 hshort⟩ (by rw [h, hhere]), h, hnone]
  | case7 here name rest hhere hdot hdots hshort target hlink =>
      rw [follow_cons ⟨hdot, hdots, Nat.not_lt.1 hshort⟩ (by rw [h, hhere]), h, hlink]
  | case8 here name rest hhere hdot hdots hshort target hlink links path ih =>
      rw [follow_cons ⟨hdot, hdots, Nat.not_lt.1 hshort⟩ (by rw [h, hhere]), h, hlink]
      exact ih
  | case9 links here name rest hhere hdot hdots hshort node hlink hnode ih =>
      rw [follow_cons ⟨hdot, hdots, Nat.not_lt.1 hshort⟩ (by rw [h, hhere]), h, hnode]
      cases node with
      | link target => exact absurd rfl (hlink target)
      | file | directory | device | pipe => exact ih
  | case10 links here name rest node hdir hhere =>
      rw [follow, h, hhere]
      cases node with
      | directory => exact absurd rfl hdir
      | file | link | device | pipe => rfl

/-- What lies below a location lies in a directory. -/
theorem get?_eq_directory_of_append (h : tree.get? (here ++ name :: rest) = some node) :
    tree.get? here = some .directory := by
  induction rest generalizing here name with
  | nil => exact get?_eq_directory_of_concat h
  | cons next rest ih =>
      rw [List.append_cons] at h
      exact get?_eq_directory_of_concat (ih h)

/-- Names of what stands below a location lead there, if they do not end at a link. -/
theorem follow_of_get? (hplain : ∀ name ∈ names, Path.IsPlain name)
    (hnode : tree.get? (here ++ names) = some node) (hlink : ∀ target, node ≠ .link target) :
    tree.follow links here names = .ok (here ++ names) := by
  induction names generalizing here with
  | nil => rw [follow_nil, List.append_nil]
  | cons name rest ih =>
      have hhere := get?_eq_directory_of_append hnode
      rw [List.append_cons] at hnode ⊢
      have hrest := ih (fun name hmem => hplain name (List.mem_cons_of_mem _ hmem)) hnode
      rw [follow_cons (hplain name List.mem_cons_self) hhere]
      cases rest with
      | nil =>
          rw [List.append_nil] at hnode hrest ⊢
          rw [hnode]
          cases node with
          | link target => exact absurd rfl (hlink target)
          | file | directory | device | pipe => exact hrest
      | cons next rest =>
          rw [get?_eq_directory_of_append hnode]
          exact hrest

end Tree

end Files

namespace Machine

open Files

variable {machine other : Machine} {path name : String} {node : Node}

theorem locate_congr (hhere : other.here = machine.here)
    (htree : ∀ location, other.tree.get? location = machine.tree.get? location) (path : String) :
    other.locate path = machine.locate path := by
  unfold locate
  rw [hhere]
  cases checkPath path with
  | error fault => rfl
  | ok => exact Tree.follow_congr htree _ _ _

theorem isDirectory_iff : machine.isDirectory path = true ↔
    ∃ top, machine.locate path = .ok top ∧ machine.tree.get? top = some .directory := by
  unfold isDirectory find
  cases machine.locate path with
  | error fault => simp
  | ok top =>
      simp only [Except.ok.injEq, exists_eq_left']
      rcases machine.tree.get? top with _ | (_ | _ | _ | _ | _) <;> simp

/-- A path of names without a link among them leads to what stands there. -/
theorem find_of_get? (hpath : checkPath path = .ok ())
    (hplain : ∀ name ∈ (Path.ofText path).names, Path.IsPlain name)
    (hnode : machine.tree.get? ((Path.ofText path).origin machine.here ++
      (Path.ofText path).names) = some node) (hlink : ∀ target, node ≠ .link target) :
    machine.find path = .ok node := by
  unfold find locate
  rw [hpath]
  dsimp only
  rw [Tree.follow_of_get? hplain hnode hlink]
  dsimp only
  rw [hnode]

/-- A path of one name that nothing has leads nowhere. -/
theorem find_of_get?_none (hpath : checkPath path = .ok ())
    (hname : Path.ofText path = ⟨false, [name]⟩) (hplain : Path.IsPlain name)
    (hhere : machine.tree.get? machine.here = some .directory)
    (hnone : machine.tree.get? (machine.here ++ [name]) = none) :
    machine.find path = .error .notFound := by
  unfold find locate
  rw [hpath, hname]
  have horigin : Path.origin ⟨false, [name]⟩ machine.here = machine.here := rfl
  dsimp only
  rw [horigin, Tree.follow_cons hplain hhere, hnone]

end Machine

end ShaderLiterals
