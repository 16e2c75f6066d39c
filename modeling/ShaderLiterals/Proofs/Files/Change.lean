import Mathlib.Data.List.Induction
import ShaderLiterals.Proofs.Files.Joining

/-!
# Changes at one place

A tree may be changed at a place where no directory stands, before and after.  Then nothing else in
it changes (`Tree.get?_of_lookup_of_ne`), and names that lead to a directory lead there as before,
since all they pass on their way are directories and links (`Tree.follow_of_keepsWays`).
-/

namespace ShaderLiterals

namespace Files

namespace Tree

variable {tree other : Tree} {location place above here top : Location} {name : String}
  {names : List String} {links : Nat} {node : Node}

/-! ## What stands elsewhere -/

theorem lookup_filter_of_ne (entries : List (Location × Node)) (hne : place ≠ location) :
    (entries.filter (·.1 != location)).lookup place = entries.lookup place := by
  induction entries with
  | nil => rfl
  | cons entry entries ih =>
      obtain ⟨first, node⟩ := entry
      by_cases hfirst : first = location
      · subst hfirst
        rw [List.filter_cons_of_neg (by simp), ih, List.lookup_cons, beq_false_of_ne hne]
      · rw [List.filter_cons_of_pos (by simpa using hfirst), List.lookup_cons, List.lookup_cons, ih]

theorem lookup_filter_self (entries : List (Location × Node)) (location : Location) :
    (entries.filter (·.1 != location)).lookup location = none := by
  rw [List.lookup_eq_none_iff]
  intro entry hentry
  exact bne_iff_ne.2 (bne_iff_ne.1 (List.mem_filter.1 hentry).2).symm

/-- Trees that list the same for every place but one, where neither has a directory, differ
nowhere else. -/
theorem get?_of_lookup_of_ne
    (hlookup : ∀ place, place ≠ location → other.entries.lookup place = tree.entries.lookup place)
    (htree : tree.get? location ≠ some .directory)
    (hother : other.get? location ≠ some .directory) (hne : place ≠ location) :
    other.get? place = tree.get? place := by
  induction place using List.reverseRecOn with
  | nil => rw [get?_root, get?_root]
  | append_singleton above name ih =>
      rw [get?_concat, get?_concat, hlookup _ hne]
      by_cases habove : above = location
      · subst habove
        -- nothing lies below the place itself
        split
        · next h => exact absurd h hother
        · rfl
      · rw [ih habove]

theorem ne_concat (above : Location) (name : String) : above ≠ above ++ [name] :=
  fun h => absurd (congrArg List.length h) (by simp)

theorem get?_insert_ne_directory (htree : tree.get? location ≠ some .directory)
    (hnode : node ≠ .directory) : (tree.insert location node).get? location ≠ some .directory := by
  rcases List.eq_nil_or_concat location with rfl | ⟨above, name, rfl⟩
  · exact absurd (get?_root tree) htree
  · rw [List.concat_eq_append, get?_concat]
    split
    · rw [insert, List.lookup_cons, beq_self_eq_true]
      intro h
      exact hnode (Option.some.inj h)
    · exact nofun

theorem get?_insert_of_ne (htree : tree.get? location ≠ some .directory)
    (hnode : node ≠ .directory) (hne : place ≠ location) :
    (tree.insert location node).get? place = tree.get? place := by
  refine get?_of_lookup_of_ne (fun place hplace => ?_) htree
    (get?_insert_ne_directory htree hnode) hne
  rw [insert, List.lookup_cons, beq_false_of_ne hplace]
  exact lookup_filter_of_ne _ hplace

/-- What is put into a directory stands there. -/
theorem get?_insert_self (habove : tree.get? above = some .directory)
    (htree : tree.get? (above ++ [name]) ≠ some .directory) (hnode : node ≠ .directory) :
    (tree.insert (above ++ [name]) node).get? (above ++ [name]) = some node := by
  rw [get?_concat, get?_insert_of_ne htree hnode (ne_concat above name), habove, insert]
  dsimp only
  rw [List.lookup_cons, beq_self_eq_true]

theorem get?_erase_self (tree : Tree) (above : Location) (name : String) :
    (tree.erase (above ++ [name])).get? (above ++ [name]) = none := by
  rw [get?_concat, erase, lookup_filter_self]
  split <;> rfl

theorem get?_erase_of_ne (htree : tree.get? (above ++ [name]) ≠ some .directory)
    (hne : place ≠ above ++ [name]) :
    (tree.erase (above ++ [name])).get? place = tree.get? place := by
  refine get?_of_lookup_of_ne (fun place hplace => lookup_filter_of_ne _ hplace) htree ?_ hne
  rw [get?_erase_self]
  exact nofun

theorem get?_insert_of_absent (habsent : tree.get? location = none) (hnode : node ≠ .directory)
    (hne : place ≠ location) : (tree.insert location node).get? place = tree.get? place := by
  apply get?_insert_of_ne _ hnode hne
  rw [habsent]
  exact nofun

/-! ## Where names lead to a directory -/

/-- What names may pass on their way is still there in another tree. -/
structure KeepsWays (tree other : Tree) : Prop where
  directory : ∀ place, tree.get? place = some .directory → other.get? place = some .directory
  link : ∀ place target, tree.get? place = some (.link target) →
    other.get? place = some (.link target)

theorem KeepsWays.of_ne
    (hne : ∀ place, place ≠ location → other.get? place = tree.get? place)
    (hdirectory : tree.get? location ≠ some .directory)
    (hlink : ∀ target, tree.get? location ≠ some (.link target)) : tree.KeepsWays other where
  directory place hplace := by
    rw [hne place, hplace]
    rintro rfl
    exact hdirectory hplace
  link place target hplace := by
    rw [hne place, hplace]
    rintro rfl
    exact hlink target hplace

theorem keepsWays_insert (habsent : tree.get? location = none) (hnode : node ≠ .directory) :
    tree.KeepsWays (tree.insert location node) := by
  apply KeepsWays.of_ne (fun _ => get?_insert_of_absent habsent hnode)
  · rw [habsent]
    exact nofun
  · rw [habsent]
    exact nofun

theorem keepsWays_erase {id : Nat} (hfile : tree.get? (above ++ [name]) = some (.file id)) :
    tree.KeepsWays (tree.erase (above ++ [name])) := by
  have hdirectory : tree.get? (above ++ [name]) ≠ some .directory := by
    rw [hfile]
    exact nofun
  apply KeepsWays.of_ne (fun _ => get?_erase_of_ne hdirectory) hdirectory
  rw [hfile]
  exact nofun

/-- Names that lead to a directory start at one. -/
theorem get?_eq_directory_of_follow (h : tree.follow links here names = .ok top)
    (htop : tree.get? top = some .directory) : tree.get? here = some .directory := by
  cases names with
  | nil =>
      rw [follow_nil] at h
      rwa [Except.ok.inj h]
  | cons name rest =>
      rw [follow] at h
      split at h
      · cases h
      · assumption
      · cases h

/-- Names lead to a directory as long as what they pass is still there. -/
theorem follow_of_keepsWays (hways : tree.KeepsWays other) (htop : tree.get? top = some .directory) (h : tree.follow links here names = .ok top) :
    other.follow links here names = .ok top := by
  have hstart := get?_eq_directory_of_follow h htop
  fun_induction tree.follow links here names with
  | case1 => rwa [follow_nil]
  | case2 | case5 | case6 | case7 => cases h
  | case3 links here rest hhere ih =>
      rw [follow_dot (hways.directory _ hhere)]
      exact ih h hhere
  | case4 links here rest hhere hdot ih =>
      rw [follow_dots (hways.directory _ hhere)]
      exact ih h (get?_eq_directory_of_follow h htop)
  | case8 here name rest hhere hdot hdots hshort target hlink links path ih =>
      rw [follow_of_link ⟨hdot, hdots, Nat.not_lt.1 hshort⟩ (hways.link _ _ hlink)]
      exact ih h (get?_eq_directory_of_follow h htop)
  | case9 links here name rest hhere hdot hdots hshort node hlink hnode ih =>
      have hnext := get?_eq_directory_of_follow h htop
      rw [follow_cons ⟨hdot, hdots, Nat.not_lt.1 hshort⟩ (hways.directory _ hhere), hways.directory _ hnext]
      exact ih h hnext
  | case10 links here name rest node hdir hhere =>
      exact absurd (Option.some.inj (hhere.symm.trans hstart)) hdir

end Tree

end Files

namespace Machine

open Files

variable {machine other : Machine} {path : String} {top : Location}

/-- A path leads to a directory as long as what it passes is still there. -/
theorem locate_of_keepsWays (hhere : other.here = machine.here)
    (hways : machine.tree.KeepsWays other.tree)
    (htop : machine.tree.get? top = some .directory) (h : machine.locate path = .ok top) :
    other.locate path = .ok top := by
  obtain ⟨hpath, hfollow⟩ := locate_eq_ok_iff.1 h
  refine locate_eq_ok_iff.2 ⟨hpath, ?_⟩
  rw [hhere]
  exact Tree.follow_of_keepsWays hways htop hfollow

end Machine

end ShaderLiterals
