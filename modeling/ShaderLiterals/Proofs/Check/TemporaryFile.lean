import ShaderLiterals.Check.External
import ShaderLiterals.Proofs.Files.Change
import ShaderLiterals.Proofs.Files.Walk

/-!
# The directory for temporary files

If new temporary files get names that nothing in the directory has (`TemporaryFiles.Lawful`), then
while one is there the directory holds one file more (`Machine.HoldsOneMore`), and once it is taken
away the directory is as it was (`Machine.SameTemp`).  What happens in between may change anything
but that directory (`IsCreated.sameTemp_remove`).
-/

namespace ShaderLiterals

open Files

/-! ## Machines that are alike at a place -/

namespace Machine

variable {machine other last : Machine} {location place directory top : Location}
  {path name : String} {id mode : Nat} {bytes : List UInt8} {content : Content}

/-- What the file or the pipe at a location holds. -/
def contentAt? (machine : Machine) (location : Location) : Option Content :=
  match machine.tree.get? location with
  | some (.file id) | some (.pipe id) => machine.store.get? id
  | _ => none

/-- The same stands at a location of another machine, and holds what it held. -/
structure KeptAt (machine other : Machine) (location : Location) : Prop where
  node : other.tree.get? location = machine.tree.get? location
  content : ∀ content, machine.contentAt? location = some content →
    other.contentAt? location = some content
  mode : other.directoryModes.lookup location = machine.directoryModes.lookup location

/-- The directory for temporary files is the same on another machine, with all that lies in it. -/
structure SameTemp (machine other : Machine) : Prop where
  temp : other.temp = machine.temp
  locate : other.locate other.temp = machine.locate machine.temp
  below : ∀ directory, machine.locate machine.temp = .ok directory →
    ∀ way, machine.KeptAt other (directory ++ way)

/-- Another machine has one file more in a directory, which holds the bytes, and is the same as to
everything else in it. -/
structure HoldsOneMore (machine other : Machine) (directory : Location) (name : String)
    (bytes : List UInt8) : Prop where
  absent : machine.tree.get? (directory ++ [name]) = none
  present : ∃ id content, other.tree.get? (directory ++ [name]) = some (.file id) ∧
    other.store.get? id = some content ∧ content.bytes = bytes
  others : ∀ way, way ≠ [name] → machine.KeptAt other (directory ++ way)

namespace KeptAt

theorem refl (machine : Machine) (location : Location) : machine.KeptAt machine location :=
  ⟨rfl, fun _ h => h, rfl⟩

theorem trans (h : machine.KeptAt other location) (h' : other.KeptAt last location) :
    machine.KeptAt last location where
  node := h'.node.trans h.node
  content content hcontent := h'.content content (h.content content hcontent)
  mode := h'.mode.trans h.mode

end KeptAt

namespace SameTemp

theorem refl (machine : Machine) : machine.SameTemp machine :=
  ⟨rfl, rfl, fun _ _ _ => .refl machine _⟩

theorem trans (h : machine.SameTemp other) (h' : other.SameTemp last) :
    machine.SameTemp last where
  temp := h'.temp.trans h.temp
  locate := h'.locate.trans h.locate
  below directory hdirectory way := by
    apply (h.below directory hdirectory way).trans
    exact h'.below directory (h.locate.trans hdirectory) way

end SameTemp

theorem contentAt?_eq_some_iff : machine.contentAt? location = some content ↔
    ∃ id, (machine.tree.get? location = some (.file id) ∨
      machine.tree.get? location = some (.pipe id)) ∧ machine.store.get? id = some content := by
  unfold contentAt?
  rcases machine.tree.get? location with _ | (id | _ | _ | _ | id) <;> simp

theorem keptAt_of_node (hnode : other.tree.get? location = machine.tree.get? location)
    (hstore : ∀ id content, machine.store.get? id = some content →
      other.store.get? id = some content)
    (hmodes : other.directoryModes = machine.directoryModes) :
    machine.KeptAt other location where
  node := hnode
  content content h := by
    obtain ⟨id, hplace, hid⟩ := contentAt?_eq_some_iff.1 h
    rw [← hnode] at hplace
    exact contentAt?_eq_some_iff.2 ⟨id, hplace, hstore id content hid⟩
  mode := by rw [hmodes]

/-- Where nothing stands, and nothing stood, all is the same. -/
theorem keptAt_of_absent (habsent : machine.tree.get? location = none)
    (hnone : other.tree.get? location = none)
    (hmode : other.directoryModes.lookup location = machine.directoryModes.lookup location) :
    machine.KeptAt other location where
  node := hnone.trans habsent.symm
  content content h := by
    obtain ⟨id, hnode, -⟩ := contentAt?_eq_some_iff.1 h
    rw [habsent] at hnode
    rcases hnode with hnode | hnode <;> cases hnode
  mode := hmode

/-- What is the same before a file is added to a directory is so afterwards. -/
theorem HoldsOneMore.of_sameTemp (hsame : machine.SameTemp other)
    (hdirectory : machine.locate machine.temp = .ok directory)
    (h : other.HoldsOneMore last directory name bytes) :
    machine.HoldsOneMore last directory name bytes where
  absent := by
    rw [← (hsame.below directory hdirectory [name]).node]
    exact h.absent
  present := h.present
  others way hway := (hsame.below directory hdirectory way).trans (h.others way hway)

/-- Whoever reads the file gets the bytes. -/
theorem HoldsOneMore.read_eq (h : machine.HoldsOneMore other directory name bytes)
    (hleads : other.locate path = .ok (directory ++ [name])) : other.read path = .ok bytes := by
  obtain ⟨id, content, hfile, hid, rfl⟩ := h.present
  unfold read find
  rw [hleads]
  dsimp only
  rw [hfile]
  dsimp only [bytesOf, Store.bytes]
  rw [hid]

/-- One name more can be listed. -/
theorem HoldsOneMore.perm_namesIn (h : machine.HoldsOneMore other directory name bytes) :
    (other.tree.namesIn directory).Perm (name :: machine.tree.namesIn directory) := by
  obtain ⟨id, content, hfile, -⟩ := h.present
  have hnot : name ∉ machine.tree.namesIn directory := by
    rw [Tree.mem_namesIn_iff, h.absent]
    rintro ⟨node, hnode⟩
    cases hnode
  apply (List.perm_ext_iff_of_nodup (Tree.nodup_namesIn _ _)
    (List.nodup_cons.2 ⟨hnot, Tree.nodup_namesIn _ _⟩)).2
  intro file
  rw [List.mem_cons, Tree.mem_namesIn_iff]
  by_cases hfile' : file = name
  · subst hfile'
    exact iff_of_true ⟨_, hfile⟩ (.inl rfl)
  · have hway : [file] ≠ [name] := fun heq => hfile' (List.singleton_inj.1 heq)
    rw [(h.others [file] hway).node, Tree.mem_namesIn_iff]
    simp [hfile']

/-! ## Putting a file -/

/-- A file that was put somewhere without a byte and then written might as well have been put there
with all that it holds. -/
theorem setBytes_putFile (bytes : List UInt8) :
    (machine.putFile location [] mode).setBytes machine.store.nextId bytes =
      machine.putFile location bytes mode := by
  have hget : (machine.store.add ⟨[], mode, machine.clock⟩).get? machine.store.nextId =
      some ⟨[], mode, machine.clock⟩ := Store.get?_add_nextId _ _
  unfold setBytes updateContent putFile
  dsimp only
  rw [hget]
  dsimp only
  rw [Store.set_add_nextId]

theorem locate_putFile (habsent : machine.tree.get? location = none)
    (htop : machine.tree.get? top = some .directory) (h : machine.locate path = .ok top) :
    (machine.putFile location bytes mode).locate path = .ok top := by
  have hhere : (machine.putFile location bytes mode).here = machine.here := rfl
  exact locate_of_keepsWays hhere (Tree.keepsWays_insert habsent nofun) htop h

theorem keptAt_putFile (habsent : machine.tree.get? location = none) (hne : place ≠ location) :
    machine.KeptAt (machine.putFile location bytes mode) place := by
  refine keptAt_of_node (Tree.get?_insert_of_absent habsent nofun hne) ?_ rfl
  intro id content hid
  have hlt : id < machine.store.nextId := (List.getElem?_eq_some_iff.1 hid).1
  exact (Store.get?_add_of_lt _ hlt).trans hid

theorem holdsOneMore_putFile (hdirectory : machine.tree.get? directory = some .directory)
    (habsent : machine.tree.get? (directory ++ [name]) = none) :
    machine.HoldsOneMore (machine.putFile (directory ++ [name]) bytes mode) directory name
      bytes where
  absent := habsent
  present := by
    refine ⟨machine.store.nextId, ⟨bytes, mode, machine.clock⟩, ?_, ?_, rfl⟩
    · refine Tree.get?_insert_self hdirectory ?_ nofun
      rw [habsent]
      exact nofun
    · exact Store.get?_add_nextId _ _
  others way hway := by
    apply keptAt_putFile habsent
    intro h
    exact hway (List.append_cancel_left h)

/-! ## Taking a file away -/

theorem locate_erase (hfile : machine.tree.get? (directory ++ [name]) = some (.file id))
    (htop : machine.tree.get? top = some .directory) (h : machine.locate path = .ok top) :
    (machine.erase (directory ++ [name])).locate path = .ok top := by
  have hhere : (machine.erase (directory ++ [name])).here = machine.here := rfl
  exact locate_of_keepsWays hhere (Tree.keepsWays_erase hfile) htop h

theorem keptAt_erase (hfile : machine.tree.get? (directory ++ [name]) = some (.file id))
    (hne : place ≠ directory ++ [name]) :
    machine.KeptAt (machine.erase (directory ++ [name])) place := by
  refine keptAt_of_node (Tree.get?_erase_of_ne ?_ hne) (fun _ _ h => h) rfl
  rw [hfile]
  exact nofun

end Machine

/-- How fresh files come by their names may be anything, as long as these have letters and digits
only, and nothing in the directory has them yet. -/
structure TemporaryFiles.Lawful (files : TemporaryFiles) : Prop where
  isAlphanum : ∀ machine stage letters, files.letters machine stage = .ok letters →
    ∀ c ∈ letters.toList, c.isAlphanum
  absent : ∀ machine stage letters directory, files.letters machine stage = .ok letters →
    machine.locate machine.temp = .ok directory →
      machine.tree.get? (directory ++ [TemporaryFile.nameOf stage letters]) = none

namespace TemporaryFile

variable {stage : Stage} {letters name : String} {mark : Char} {directory : Location}

/-! ## Names -/

theorem toList_nameOf (stage : Stage) (letters : String) :
    (nameOf stage letters).toList =
      "shader-check-".toList ++ letters.toList ++ '.' :: stage.extension.toList := by
  have hname : nameOf stage letters =
      "shader-check-" ++ letters ++ "." ++ stage.extension := rfl
  rw [hname]
  simp

theorem nameOf_injective {others : String} (h : nameOf stage letters = nameOf stage others) :
    letters = others := by
  have htext := congrArg String.toList h
  rw [toList_nameOf, toList_nameOf] at htext
  have hletters := List.append_cancel_left (List.append_cancel_right htext)
  exact String.toList_injective hletters

theorem notMem_nameOf (hfirst : mark ∉ "shader-check-".toList) (hletters : mark ∉ letters.toList)
    (hlast : mark ∉ '.' :: stage.extension.toList) : mark ∉ (nameOf stage letters).toList := by
  rw [toList_nameOf, List.mem_append, List.mem_append]
  rintro ((h | h) | h)
  · exact hfirst h
  · exact hletters h
  · exact hlast h

theorem head?_nameOf (stage : Stage) (letters : String) :
    (nameOf stage letters).toList.head? = some 's' := by
  rw [toList_nameOf]
  rfl

theorem isFileName_nameOf (hletters : ∀ c ∈ letters.toList, c.isAlphanum)
    (hsize : (nameOf stage letters).utf8ByteSize ≤ Path.maxNameBytes) :
    Path.IsFileName (nameOf stage letters) := by
  have hne : ∀ text : String, text.toList.head? ≠ some 's' → nameOf stage letters ≠ text := by
    rintro text htext rfl
    exact htext (head?_nameOf stage letters)
  have hnot : ∀ mark : Char, mark.isAlphanum = false → mark ∉ letters.toList := by
    intro mark hmark hmem
    cases hmark.symm.trans (hletters mark hmem)
  refine ⟨hne "" (by decide), ?_, ?_, hne "." (by decide), hne ".." (by decide), hsize⟩
  · apply notMem_nameOf _ (hnot _ (by decide)) <;> cases stage <;> decide
  · apply notMem_nameOf _ (hnot _ (by decide)) <;> cases stage <;> decide

/-! ## Making a file, writing it and taking it away -/

variable {files : TemporaryFiles} {machine fresh after : Machine} {bytes : List UInt8}
  {file : TemporaryFile} {fault : Fault}

/-- A temporary file was made in a directory of a machine, and holds some bytes. -/
structure IsCreated (machine : Machine) (stage : Stage) (bytes : List UInt8) (file : TemporaryFile)
    (fresh : Machine) (directory : Location) : Prop where
  locate : machine.locate machine.temp = .ok directory
  isDirectory : machine.tree.get? directory = some .directory
  absent : machine.tree.get? (directory ++ [file.name]) = none
  name : ∃ letters, file.name = nameOf stage letters ∧ ∀ c ∈ letters.toList, c.isAlphanum
  size : file.name.utf8ByteSize ≤ Path.maxNameBytes
  checkPath : Machine.checkPath (Path.join machine.temp file.name) = .ok ()
  id : file.id = machine.store.nextId
  fresh : fresh = machine.putFile (directory ++ [file.name]) bytes mode

/-- All that making a file of a name does. -/
theorem exists_of_createAs (h : createAs name machine = .ok (file, fresh)) :
    ∃ directory, machine.locate machine.temp = .ok directory ∧
      machine.tree.get? directory = some .directory ∧ name.utf8ByteSize ≤ Path.maxNameBytes ∧
        Machine.checkPath (Path.join machine.temp name) = .ok () ∧
          file = ⟨name, machine.store.nextId⟩ ∧
            fresh = machine.putFile (directory ++ [name]) [] mode := by
  unfold createAs at h
  split at h
  · cases h
  · cases h
  · next directory hpath hplace =>
    split at h
    · next hnode =>
      split at h
      · cases h
      · next hsize =>
        cases h
        exact ⟨directory, hplace, hnode, Nat.not_lt.1 hsize, hpath, rfl, rfl⟩
    · cases h
    · cases h

/-- A file can be made in a directory if its name and its path are not too long. -/
theorem createAs_of_short (hplace : machine.locate machine.temp = .ok directory)
    (hnode : machine.tree.get? directory = some .directory) (hname : Path.IsFileName name)
    (hpath : Path.isTooLong (Path.join machine.temp name) = false) :
    createAs name machine =
      .ok (⟨name, machine.store.nextId⟩, machine.putFile (directory ++ [name]) [] mode) := by
  have hway : ∀ file ∈ [name], Path.IsFileName file := by
    intro file hfile
    rw [List.mem_singleton.1 hfile]
    exact hname
  have hcheck : Machine.checkPath (Path.join machine.temp name) = .ok () := by
    rw [Path.join_eq_joinAll, Machine.checkPath_joinAll (Machine.locate_eq_ok_iff.1 hplace).1 hway,
      ← Path.join_eq_joinAll, hpath, if_neg Bool.false_ne_true]
  unfold createAs
  rw [hcheck, hplace]
  dsimp only
  rw [hnode]
  exact if_neg (Nat.not_lt.2 hname.isPlain.2.2)

/-- Where there is a directory, a file cannot be made only if its name or its path is too long. -/
theorem isTooLong_or_of_createAs (hletters : ∀ c ∈ letters.toList, c.isAlphanum)
    (h : createAs (nameOf stage letters) machine = .error fault)
    (hfind : machine.find machine.temp = .ok .directory) :
    Path.isTooLong (Path.join machine.temp (nameOf stage letters)) = true ∨
      Path.maxNameBytes < (nameOf stage letters).utf8ByteSize := by
  obtain ⟨directory, hplace, hnode⟩ : ∃ directory, machine.locate machine.temp = .ok directory ∧
      machine.tree.get? directory = some .directory := by
    rw [← Machine.isDirectory_iff, Machine.isDirectory, hfind]
  by_contra hshort
  obtain ⟨hpath, hsize⟩ := not_or.1 hshort
  have hname := isFileName_nameOf hletters (Nat.not_lt.1 hsize)
  rw [createAs_of_short hplace hnode hname (Bool.eq_false_iff.2 hpath)] at h
  cases h

theorem create_eq_ok_iff : create files stage machine = .ok (file, fresh) ↔
    ∃ letters, files.letters machine stage = .ok letters ∧
      createAs (nameOf stage letters) machine = .ok (file, fresh) := by
  unfold create
  rcases files.letters machine stage with cause | letters
  · simp
  · rcases hcreate : createAs (nameOf stage letters) machine with cause | created
    · simp [Except.mapError, hcreate]
    · simp [Except.mapError, hcreate]

/-- There is no name for a file, or none can be made of that name. -/
theorem create_eq_error_iff {fault : ValidatorFault} :
    create files stage machine = .error fault ↔
      (∃ cause, files.letters machine stage = .error cause ∧
        fault = .noTemporaryFile machine.temp cause) ∨
      ∃ letters cause, files.letters machine stage = .ok letters ∧
        createAs (nameOf stage letters) machine = .error cause ∧
          fault = .noTemporaryFile (Path.join machine.temp (nameOf stage letters)) cause := by
  unfold create
  rcases files.letters machine stage with cause | letters
  · simp [eq_comm]
  · rcases hcreate : createAs (nameOf stage letters) machine with cause | created
    · simp [Except.mapError, hcreate, eq_comm]
    · simp [Except.mapError, hcreate]

/-- All that making a temporary file does. -/
theorem exists_isCreated (hfiles : files.Lawful)
    (h : create files stage machine = .ok (file, fresh)) :
    ∃ directory, IsCreated machine stage [] file fresh directory := by
  obtain ⟨letters, hletters, hcreate⟩ := create_eq_ok_iff.1 h
  obtain ⟨directory, hplace, hnode, hsize, hpath, rfl, rfl⟩ := exists_of_createAs hcreate
  exact ⟨directory, hplace, hnode, hfiles.absent _ _ _ _ hletters hplace,
    ⟨letters, rfl, hfiles.isAlphanum _ _ _ hletters⟩, hsize, hpath, rfl, rfl⟩

theorem remove_eq_erase {id : Nat} (hplace : after.locate after.temp = .ok directory)
    (hfile : after.tree.get? (directory ++ [file.name]) = some (.file id)) :
    file.remove after = after.erase (directory ++ [file.name]) := by
  unfold remove
  rw [hplace]
  dsimp only
  rw [hfile]

namespace IsCreated

variable (h : IsCreated machine stage bytes file fresh directory)

include h

theorem isFileName : Path.IsFileName file.name := by
  obtain ⟨letters, hname, hletters⟩ := h.name
  have hsize := h.size
  rw [hname] at hsize ⊢
  exact isFileName_nameOf hletters hsize

/-- The name tells the stage. -/
theorem exists_stem : ∃ stem, file.name = stem ++ "." ++ stage.extension := by
  obtain ⟨letters, hname, -⟩ := h.name
  refine ⟨"shader-check-" ++ letters, String.toList_injective ?_⟩
  rw [hname, toList_nameOf]
  simp

theorem holdsOneMore : machine.HoldsOneMore fresh directory file.name bytes := by
  rw [h.fresh]
  exact Machine.holdsOneMore_putFile h.isDirectory h.absent

theorem temp_eq : fresh.temp = machine.temp := by
  rw [h.fresh]
  rfl

theorem locate_temp : fresh.locate fresh.temp = .ok directory := by
  rw [h.temp_eq, h.fresh]
  exact Machine.locate_putFile h.absent h.isDirectory h.locate

/-- The path of the file leads to it. -/
theorem locate_file :
    fresh.locate (Path.join fresh.temp file.name) = .ok (directory ++ [file.name]) := by
  obtain ⟨id, content, hfile, -⟩ := h.holdsOneMore.present
  have hway : ∀ name ∈ [file.name], Path.IsFileName name := by
    intro name hname
    rw [List.mem_singleton.1 hname]
    exact h.isFileName
  have hlead := Machine.locate_joinAll h.locate_temp hway (List.cons_ne_nil _ _) hfile nofun
  have hshort := h.checkPath
  rw [← h.temp_eq, Path.join_eq_joinAll,
    Machine.checkPath_joinAll (Machine.locate_eq_ok_iff.1 h.locate_temp).1 hway] at hshort
  rw [Path.join_eq_joinAll, hlead]
  split at hshort
  · cases hshort
  · next hshort' => exact if_neg hshort'

theorem mode_eq (location : Location) :
    fresh.directoryModes.lookup location = machine.directoryModes.lookup location := by
  rw [h.fresh]
  rfl

end IsCreated

/-- Writing to the file changes what it holds, and nothing else. -/
theorem IsCreated.setBytes (h : IsCreated machine stage [] file fresh directory)
    (bytes : List UInt8) :
    IsCreated machine stage bytes file (fresh.setBytes file.id bytes) directory := by
  obtain ⟨hplace, hnode, habsent, hname, hsize, hpath, hid, rfl⟩ := h
  refine ⟨hplace, hnode, habsent, hname, hsize, hpath, hid, ?_⟩
  rw [hid, Machine.setBytes_putFile]

/-- Whatever happened to the rest of the machine, taking the file away leaves the directory as it
was before. -/
theorem IsCreated.sameTemp_remove (h : IsCreated machine stage bytes file fresh directory)
    (hafter : fresh.SameTemp after) : machine.SameTemp (file.remove after) := by
  obtain ⟨id, -, hfile, -⟩ := h.holdsOneMore.present
  have hbelow := hafter.below directory h.locate_temp
  have hplace : after.locate after.temp = .ok directory := hafter.locate.trans h.locate_temp
  have hkept : after.tree.get? (directory ++ [file.name]) = some (.file id) := by
    rw [(hbelow [file.name]).node, hfile]
  have hstill : after.tree.get? directory = some .directory := by
    have hnode := ((h.holdsOneMore.others [] (List.cons_ne_nil _ _).symm).trans (hbelow [])).node
    rwa [List.append_nil, h.isDirectory] at hnode
  rw [remove_eq_erase hplace hkept]
  refine ⟨hafter.temp.trans h.temp_eq, ?_, ?_⟩
  · rw [h.locate]
    exact Machine.locate_erase hkept hstill hplace
  · intro directory' hdirectory' way
    obtain rfl : directory = directory' := Except.ok.inj (h.locate.symm.trans hdirectory')
    by_cases hway : way = [file.name]
    · subst hway
      apply Machine.keptAt_of_absent h.absent
      · exact Tree.get?_erase_self _ _ _
      · exact (hbelow [file.name]).mode.trans (h.mode_eq _)
    · apply (h.holdsOneMore.others way hway).trans
      apply (hbelow way).trans
      apply Machine.keptAt_erase hkept
      intro heq
      exact hway (List.append_cancel_left heq)

end TemporaryFile

end ShaderLiterals
