import Mathlib.Data.List.Nodup
import Mathlib.Data.List.Perm.Subperm
import ShaderLiterals.Check.NumberedFiles
import ShaderLiterals.Proofs.Check.TemporaryFile
import ShaderLiterals.Proofs.Text.Digits

/-!
# Numbers in the names of temporary files

Files with numbers get names that nothing has (`files_lawful`), since different numbers have
different digits (`digits_injective`).  They only run out where there are as many entries as there
are numbers (`exists_letters`).
-/

namespace ShaderLiterals.NumberedFiles

open Files

variable {tree : Tree} {directory : Location} {stage : Stage} {machine : Machine}
  {letters : String} {m n : Nat}

/-! ## Digits -/

theorem toList_digits (n : Nat) :
    (digits n).toList =
      List.replicate (6 - (toString n).length) '0' ++ Nat.toDigits 10 n := by
  have hdigits : digits n =
      String.ofList (List.replicate (6 - (toString n).length) '0') ++ toString n := rfl
  rw [hdigits]
  simp

theorem spells_digits (n : Nat) : Digits.Spells 10 (digits n).toList n := by
  rw [toList_digits]
  exact (Digits.spells_toDigits n).replicate_append (by decide) _

theorem digits_injective (h : digits m = digits n) : m = n := by
  have hm := spells_digits m
  rw [h] at hm
  exact hm.unique (spells_digits n)

theorem isAlphanum_of_mem_digits {c : Char} (h : c ∈ (digits n).toList) : c.isAlphanum := by
  obtain ⟨d, hd, hc⟩ := Digits.isDigit_iff.1 ((spells_digits n).isDigit c h)
  rcases hc with hc | hc
  · interval_cases d <;> cases hc <;> rfl
  · interval_cases d <;> cases hc <;> rfl

/-! ## Names -/

theorem isFree_iff : isFree tree directory stage n = true ↔
    directory ++ [TemporaryFile.nameOf stage (digits n)] ∉ tree.entries.map Prod.fst := by
  simp [isFree]

theorem get?_of_isFree (h : isFree tree directory stage n = true) :
    tree.get? (directory ++ [TemporaryFile.nameOf stage (digits n)]) = none := by
  rw [Option.eq_none_iff_forall_not_mem]
  intro node hnode
  exact isFree_iff.1 h (Tree.mem_map_fst_of_get?_concat hnode)

/-- Among more numbers than there are entries, some number is free. -/
theorem exists_isFree (stage : Stage) (directory : Location) (h : tree.entries.length < n) :
    ∃ m ∈ List.range n, isFree tree directory stage m = true := by
  by_contra hnone
  let name m := directory ++ [TemporaryFile.nameOf stage (digits m)]
  have hinjective : Function.Injective name := by
    intro m m' hname
    apply digits_injective
    exact TemporaryFile.nameOf_injective (List.singleton_inj.1 (List.append_cancel_left hname))
  have htaken : (List.range n).map name ⊆ tree.entries.map Prod.fst := by
    intro place hplace
    obtain ⟨m, hm, rfl⟩ := List.mem_map.1 hplace
    by_contra hfree
    exact hnone ⟨m, hm, isFree_iff.2 hfree⟩
  have hlength := ((List.nodup_range.map hinjective).subperm htaken).length_le
  rw [List.length_map, List.length_map, List.length_range] at hlength
  exact absurd h (Nat.not_lt.2 hlength)

/-- While there are fewer entries than numbers, there is a number for one file more. -/
theorem exists_letters (stage : Stage) (h : machine.tree.entries.length < count) :
    ∃ n < count, NumberedFiles.letters machine stage = .ok (digits n) := by
  have htries : machine.tree.entries.length < min count (machine.tree.entries.length + 1) :=
    Nat.lt_min.2 ⟨h, Nat.lt_succ_self _⟩
  unfold NumberedFiles.letters
  dsimp only
  generalize (machine.locate machine.temp).toOption.getD [] = directory
  obtain ⟨m, hm, hfree⟩ := exists_isFree stage directory htries
  cases hfind : (List.range (min count (machine.tree.entries.length + 1))).find?
      (isFree machine.tree directory stage) with
  | none => exact absurd hfree (List.find?_eq_none.1 hfind m hm)
  | some n =>
      have hn := List.mem_range.1 (List.mem_of_find?_eq_some hfind)
      exact ⟨n, Nat.lt_of_lt_of_le hn (Nat.min_le_left _ _), rfl⟩

theorem exists_of_letters (h : NumberedFiles.letters machine stage = .ok letters) :
    ∃ n, letters = digits n ∧
      isFree machine.tree ((machine.locate machine.temp).toOption.getD []) stage n = true := by
  unfold NumberedFiles.letters at h
  dsimp only at h
  split at h
  · next n hfind =>
    cases h
    exact ⟨n, rfl, List.find?_some hfind⟩
  · cases h

theorem files_lawful : files.Lawful where
  isAlphanum machine stage letters h c hc := by
    obtain ⟨n, rfl, -⟩ := exists_of_letters h
    exact isAlphanum_of_mem_digits hc
  absent machine stage letters directory h hplace := by
    obtain ⟨n, rfl, hfree⟩ := exists_of_letters h
    rw [hplace] at hfree
    exact get?_of_isFree hfree

end ShaderLiterals.NumberedFiles
