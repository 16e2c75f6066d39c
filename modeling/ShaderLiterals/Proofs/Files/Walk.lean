import Mathlib.Data.List.Nodup
import ShaderLiterals.Files.Walk

/-!
# What a walk visits

A walk visits what lies below a directory (`mem_walk_iff`), each of it once, in the order of the
ways to it (`pairwise_walk`).  That leaves one list that they can come in, however the tree lists
them (`walkBelow_congr`).
-/

namespace ShaderLiterals.Files.Tree

/-! ## Names in a directory -/

section Names

variable {tree : Tree} {here : Location} {name : String}

theorem mem_namesIn_iff :
    name ∈ tree.namesIn here ↔ ∃ node, tree.get? (here ++ [name]) = some node := by
  rw [namesIn, List.mem_eraseDups, List.mem_filterMap]
  refine ⟨?_, fun ⟨node, hnode⟩ => ?_⟩
  · rintro ⟨⟨location, node⟩, -, hname⟩
    dsimp only at hname
    split at hname
    · next h =>
      rw [Bool.and_eq_true, decide_eq_true_iff] at h
      obtain ⟨rfl, hsome⟩ := h
      rw [List.dropLast_append_getLast? name hname]
      exact Option.isSome_iff_exists.1 hsome
    · cases hname
  · obtain ⟨entry, hmem, hentry⟩ := List.mem_map.1 (mem_map_fst_of_get?_concat hnode)
    refine ⟨entry, hmem, ?_⟩
    rw [hentry, List.dropLast_concat, hnode, List.getLast?_concat]
    simp

theorem nodup_eraseDups (names : List String) : names.eraseDups.Nodup := by
  cases names with
  | nil => exact List.nodup_nil
  | cons name rest =>
      rw [List.eraseDups_cons]
      refine List.nodup_cons.2 ⟨fun hmem => ?_, nodup_eraseDups _⟩
      simpa using (List.mem_filter.1 (List.mem_eraseDups.1 hmem)).2
termination_by names.length
decreasing_by exact Nat.lt_succ_of_le (List.length_filter_le _ _)

theorem nodup_namesIn (tree : Tree) (here : Location) : (tree.namesIn here).Nodup :=
  nodup_eraseDups _

/-- The names in a directory, in order, are different from each other. -/
theorem pairwise_sorted_namesIn (tree : Tree) (here : Location) :
    ((tree.namesIn here).mergeSort fun a b => decide (a ≤ b)).Pairwise (· < ·) := by
  have hle : ((tree.namesIn here).mergeSort fun a b => decide (a ≤ b)).Pairwise
      fun a b => decide (a ≤ b) = true :=
    List.pairwise_mergeSort
      (fun a b c hab hbc => by
        rw [decide_eq_true_iff] at hab hbc ⊢
        exact String.le_trans hab hbc)
      (fun a b => by simpa using String.le_total a b) _
  have hne : ((tree.namesIn here).mergeSort fun a b => decide (a ≤ b)).Nodup :=
    (List.mergeSort_perm _ _).nodup_iff.2 (nodup_namesIn tree here)
  refine (hle.and hne).imp fun {a b} h => ?_
  have hab : a ≤ b := of_decide_eq_true h.1
  exact String.not_le.1 fun hba => h.2 (String.le_antisymm hab hba)

end Names

/-! ## What lies below -/

theorem length_le_height_of_mem {tree : Tree} {entry : Location × Node}
    (h : entry ∈ tree.entries) : entry.1.length ≤ tree.height := by
  unfold height
  generalize tree.entries = entries at h
  induction entries with
  | nil => cases h
  | cons first rest ih =>
      rw [List.foldr_cons]
      rcases List.mem_cons.1 h with rfl | hrest
      · exact Nat.le_max_left _ _
      · exact Nat.le_trans (ih hrest) (Nat.le_max_right _ _)

/-- Nothing stands deeper than the longest location. -/
theorem length_le_height_of_get? {tree : Tree} {location : Location} {node : Node}
    (h : tree.get? location = some node) : location.length ≤ tree.height := by
  rcases List.eq_nil_or_concat location with rfl | ⟨above, name, rfl⟩
  · exact Nat.zero_le _
  · rw [List.concat_eq_append] at h ⊢
    obtain ⟨entry, hmem, hentry⟩ := List.mem_map.1 (mem_map_fst_of_get?_concat h)
    exact hentry ▸ length_le_height_of_mem hmem

/-- What lies below a location: the way down to it goes through directories alone, never through a
link. -/
inductive Below (tree : Tree) : Location → Location → Node → Prop
  | child {here name node} (h : tree.get? (here ++ [name]) = some node) :
      Below tree here [name] node
  | deeper {here name way node} (h : tree.get? (here ++ [name]) = some .directory)
      (hbelow : Below tree (here ++ [name]) way node) : Below tree here (name :: way) node

namespace Below

variable {tree other : Tree} {here way : Location} {node : Node}

theorem ne_nil (h : Below tree here way node) : way ≠ [] := by
  cases h <;> exact List.cons_ne_nil _ _

theorem get?_eq (h : Below tree here way node) : tree.get? (here ++ way) = some node := by
  induction h with
  | child h => exact h
  | deeper h hbelow ih => rwa [List.append_cons]

theorem congr (heq : ∀ location, other.get? location = tree.get? location)
    (h : Below tree here way node) : Below other here way node := by
  induction h with
  | child h => exact .child ((heq _).trans h)
  | deeper h hbelow ih => exact .deeper ((heq _).trans h) ih

theorem mem_map_fst (h : Below tree here way node) : here ++ way ∈ tree.entries.map Prod.fst := by
  have hnode := h.get?_eq
  rcases List.eq_nil_or_concat way with rfl | ⟨above, last, rfl⟩
  · exact absurd rfl h.ne_nil
  · rw [List.concat_eq_append, ← List.append_assoc] at hnode ⊢
    exact mem_map_fst_of_get?_concat hnode

theorem length_le_height (h : Below tree here way node) : way.length ≤ tree.height := by
  have hle := length_le_height_of_get? h.get?_eq
  rw [List.length_append] at hle
  exact Nat.le_trans (Nat.le_add_left _ _) hle

end Below

/-! ## The walk -/

section Walk

variable {tree other : Tree} {depth : Nat} {here way : Location} {node : Node} {name : String}
  {below : List (Location × Node)} {found : Option Node}

theorem mem_visits_iff :
    (way, node) ∈ visits name below found ↔
      (way = [name] ∧ found = some node) ∨
        found = some .directory ∧ ∃ rest, way = name :: rest ∧ (rest, node) ∈ below := by
  unfold visits
  split
  · simp
  · simp only [List.mem_cons, List.mem_map, Prod.mk.injEq, Prod.exists, Option.some.injEq,
      true_and]
    constructor
    · rintro (⟨rfl, rfl⟩ | ⟨rest, _, hmem, rfl, rfl⟩)
      · exact .inl ⟨rfl, rfl⟩
      · exact .inr ⟨rest, rfl, hmem⟩
    · rintro (⟨rfl, rfl⟩ | ⟨rest, rfl, hmem⟩)
      · exact .inl ⟨rfl, rfl⟩
      · exact .inr ⟨rest, node, hmem, rfl, rfl⟩
  · next other hdirectory =>
    simp only [List.mem_singleton, Prod.mk.injEq, Option.some.injEq]
    constructor
    · rintro ⟨rfl, rfl⟩
      exact .inl ⟨rfl, rfl⟩
    · rintro (⟨rfl, rfl⟩ | ⟨rfl, -⟩)
      · exact ⟨rfl, rfl⟩
      · exact absurd rfl hdirectory

theorem exists_cons_of_mem_visits {visit : Location × Node} (h : visit ∈ visits name below found) :
    ∃ rest, visit.1 = name :: rest := by
  rcases mem_visits_iff.1 h with ⟨hway, -⟩ | ⟨-, rest, hway, -⟩
  · exact ⟨[], hway⟩
  · exact ⟨rest, hway⟩

/-- A walk visits what lies below, as deep as it goes. -/
theorem mem_walk_iff :
    (way, node) ∈ tree.walk depth here ↔ Below tree here way node ∧ way.length ≤ depth := by
  induction depth generalizing here way with
  | zero =>
      refine ⟨fun h => absurd h List.not_mem_nil, fun ⟨hbelow, hlength⟩ => ?_⟩
      exact absurd (List.eq_nil_of_length_eq_zero (Nat.le_zero.1 hlength)) hbelow.ne_nil
  | succ depth ih =>
      rw [walk, List.mem_flatMap]
      constructor
      · rintro ⟨name, -, hmem⟩
        rcases mem_visits_iff.1 hmem with ⟨rfl, hnode⟩ | ⟨hdirectory, rest, rfl, hrest⟩
        · exact ⟨.child hnode, Nat.succ_le_succ (Nat.zero_le depth)⟩
        · obtain ⟨hbelow, hlength⟩ := ih.1 hrest
          exact ⟨.deeper hdirectory hbelow, Nat.succ_le_succ hlength⟩
      · rintro ⟨hbelow, hlength⟩
        cases hbelow with
        | child hnode =>
            exact ⟨_, List.mem_mergeSort.2 (mem_namesIn_iff.2 ⟨_, hnode⟩),
              mem_visits_iff.2 (.inl ⟨rfl, hnode⟩)⟩
        | deeper hdirectory hbelow =>
            have hrest := ih.2 ⟨hbelow, Nat.le_of_succ_le_succ hlength⟩
            exact ⟨_, List.mem_mergeSort.2 (mem_namesIn_iff.2 ⟨_, hdirectory⟩),
              mem_visits_iff.2 (.inr ⟨hdirectory, _, rfl, hrest⟩)⟩

theorem pairwise_visits (hne : ∀ visit ∈ below, visit.1 ≠ [])
    (hbelow : below.Pairwise fun visit later => visit.1 < later.1) :
    (visits name below found).Pairwise fun visit later => visit.1 < later.1 := by
  unfold visits
  split
  · exact .nil
  · refine List.pairwise_cons.2 ⟨fun later hmem => ?_, List.pairwise_map.2 (hbelow.imp fun h => ?_)⟩
    · obtain ⟨visit, hvisit, rfl⟩ := List.mem_map.1 hmem
      obtain ⟨next, rest, hway⟩ := List.exists_cons_of_ne_nil (hne visit hvisit)
      dsimp only
      rw [hway]
      exact List.cons_lt_cons_iff.2 (.inr ⟨rfl, List.nil_lt_cons _ _⟩)
    · exact List.cons_lt_cons_iff.2 (.inr ⟨rfl, h⟩)
  · exact List.pairwise_singleton _ _

/-- A walk comes by everything in the order of the ways. -/
theorem pairwise_walk (tree : Tree) (depth : Nat) (here : Location) :
    (tree.walk depth here).Pairwise fun visit later => visit.1 < later.1 := by
  induction depth generalizing here with
  | zero => exact .nil
  | succ depth ih =>
      rw [walk]
      refine List.pairwise_flatMap.2 ⟨fun name _ => ?_,
        (pairwise_sorted_namesIn tree here).imp fun hlt visit hvisit later hlater => ?_⟩
      · exact pairwise_visits (fun visit hmem => (mem_walk_iff.1 hmem).1.ne_nil) (ih _)
      · obtain ⟨rest, hway⟩ := exists_cons_of_mem_visits hvisit
        obtain ⟨others, hother⟩ := exists_cons_of_mem_visits hlater
        rw [hway, hother]
        exact List.cons_lt_cons_iff.2 (.inl hlt)

end Walk

/-! ## Walks to the end -/

section WalkBelow

variable {tree other : Tree} {top way : Location} {node : Node}

theorem mem_walkBelow_iff : (way, node) ∈ tree.walkBelow top ↔ Below tree top way node :=
  mem_walk_iff.trans (and_iff_left_of_imp Below.length_le_height)

theorem pairwise_walkBelow (tree : Tree) (top : Location) :
    (tree.walkBelow top).Pairwise fun visit later => visit.1 < later.1 :=
  pairwise_walk tree tree.height top

theorem nodup_of_pairwise_lt {α : Type} {key : α → Location} {as : List α}
    (h : as.Pairwise fun a b => key a < key b) : as.Nodup := by
  refine h.imp fun hlt heq => ?_
  rw [heq] at hlt
  exact List.lt_irrefl _ hlt

/-- Only one list has given members in the order of their keys. -/
theorem eq_of_pairwise_lt {α : Type} {key : α → Location} {as bs : List α}
    (h : as.Pairwise fun a b => key a < key b) (h' : bs.Pairwise fun a b => key a < key b)
    (hmem : ∀ a, a ∈ as ↔ a ∈ bs) : as = bs := by
  refine List.Perm.eq_of_pairwise (fun a b _ _ hlt hlt' => ?_) h h'
    ((List.perm_ext_iff_of_nodup (nodup_of_pairwise_lt h) (nodup_of_pairwise_lt h')).2 hmem)
  exact absurd hlt' (List.lt_asymm hlt)

/-- The same is visited in the same order, however the tree is listed. -/
theorem walkBelow_congr (h : ∀ location, other.get? location = tree.get? location)
    (top : Location) : other.walkBelow top = tree.walkBelow top := by
  refine eq_of_pairwise_lt (pairwise_walkBelow _ _) (pairwise_walkBelow _ _) fun ⟨way, node⟩ => ?_
  rw [mem_walkBelow_iff, mem_walkBelow_iff]
  exact ⟨.congr fun location => (h location).symm, .congr h⟩

/-! ## Files -/

theorem mem_filesBelow_iff : way ∈ tree.filesBelow top ↔ ∃ id, Below tree top way (.file id) := by
  rw [filesBelow, List.mem_filterMap]
  constructor
  · rintro ⟨⟨way', node⟩, hmem, hfile⟩
    cases node with
    | file id =>
        obtain rfl := Option.some.inj hfile
        exact ⟨id, mem_walkBelow_iff.1 hmem⟩
    | directory | link | device | pipe => cases hfile
  · rintro ⟨id, hbelow⟩
    exact ⟨_, mem_walkBelow_iff.2 hbelow, rfl⟩

theorem pairwise_filesBelow (tree : Tree) (top : Location) :
    (tree.filesBelow top).Pairwise (· < ·) := by
  refine (pairwise_walkBelow tree top).filterMap _ ?_
  rintro ⟨way, node⟩ ⟨way', node'⟩ hlt found hfound found' hfound'
  cases node <;> cases node' <;> cases hfound <;> cases hfound'
  exact hlt

/-- The files below a location come in the same order, however the tree is listed. -/
theorem filesBelow_congr (h : ∀ location, other.get? location = tree.get? location)
    (top : Location) : other.filesBelow top = tree.filesBelow top := by
  rw [filesBelow, filesBelow, walkBelow_congr h]

end WalkBelow

end ShaderLiterals.Files.Tree
