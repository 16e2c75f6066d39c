import ShaderLiterals.Files.OpenFile
import ShaderLiterals.Literal.Source
import ShaderLiterals.Machine

/-!
# Reading the lines of a path

The lines of a file are read one at a time, so that what a validator writes behind them is read
too.  `lines_advance` says that reading takes lines from the front of those that are still to come.
-/

namespace ShaderLiterals

/-- Where the lines of an open path come from. -/
inductive Reading where
  /-- Lines that nothing changes. -/
  | fixed (lines : List SourceLine)
  | file (file : Files.OpenFile)

namespace Reading

/-- The lines still to come, as the machine stands. -/
def lines (machine : Machine) : Reading → List SourceLine
  | fixed lines => lines
  | file f => linesOfBytes (f.rest (machine.store.bytes f.id))

/-- What is left to read after `n` lines. -/
def advance (machine : Machine) (n : Nat) : Reading → Reading
  | fixed lines => fixed (lines.drop n)
  | file f =>
      let bytes := machine.store.bytes f.id
      let after := Lines.afterLines 0x0A n (f.rest bytes)
      file (f.advance bytes ((f.rest bytes).length - after.length))

theorem lines_advance (machine : Machine) (n : Nat) (reading : Reading) :
    (reading.advance machine n).lines machine = (reading.lines machine).drop n := by
  cases reading with
  | fixed lines => rfl
  | file f =>
      have hs := Lines.afterLines_suffix (0x0A : UInt8) n (f.rest (machine.store.bytes f.id))
      simp only [advance, lines, Files.OpenFile.id_advance]
      rw [Files.OpenFile.rest_advance f (Nat.sub_le _ _), ← List.suffix_iff_eq_drop.1 hs]
      simp only [linesOfBytes, Lines.ofBytes, Lines.lines_afterLines, List.map_drop]

/-- Whether the reading finds the same bytes on both machines. -/
def IsSame (machine other : Machine) : Reading → Prop
  | fixed _ => True
  | file f => other.store.bytes f.id = machine.store.bytes f.id

variable {machine other : Machine} {reading : Reading}

theorem lines_eq (h : reading.IsSame machine other) :
    reading.lines other = reading.lines machine := by
  cases reading with
  | fixed lines => rfl
  | file f => exact congrArg (fun bytes => linesOfBytes (f.rest bytes)) h

theorem IsSame.between {third : Machine} (h : reading.IsSame machine other)
    (h' : reading.IsSame machine third) : reading.IsSame other third := by
  cases reading with
  | fixed lines => trivial
  | file f => exact Eq.trans h' (Eq.symm h)

/-- Reading on changes nothing about it. -/
theorem isSame_advance {standing : Machine} {n : Nat} :
    (reading.advance standing n).IsSame machine other ↔ reading.IsSame machine other := by
  cases reading with
  | fixed lines => rfl
  | file f => simp only [advance, IsSame, Files.OpenFile.id_advance]

end Reading

namespace Machine

/-- Opens a path for reading.  A directory can be opened, but not one line of it can be read. -/
def openPath (machine : Machine) (path : String) : Except Files.Fault Reading :=
  match machine.find path with
  | .error fault => .error fault
  | .ok (.file id) => .ok (.file (.start id))
  | .ok .directory => .ok (.fixed [.error (.files .isDirectory)])
  | .ok node => .ok (.fixed (linesOfBytes (machine.bytesOf node)))

/-- The lines behind a path that can be opened. -/
def lines (machine : Machine) (path : String) : Except Files.Fault (List SourceLine) :=
  (machine.openPath path).map fun reading => reading.lines machine

/-- A file has the lines of all of its bytes. -/
theorem lines_of_find_file {machine : Machine} {path : String} {id : Nat}
    (h : machine.find path = .ok (.file id)) :
    machine.lines path = .ok (linesOfBytes (machine.store.bytes id)) := by
  simp only [lines, openPath, h, Except.map, Reading.lines, Files.OpenFile.rest_start,
    Files.OpenFile.id_start]

/-- A path leads to the same on both machines, and that holds the same bytes. -/
structure SameAt (machine other : Machine) (path : String) : Prop where
  find : other.find path = machine.find path
  bytes : ∀ node, machine.find path = .ok node → other.bytesOf node = machine.bytesOf node

namespace SameAt

variable {machine other : Machine} {path : String}

theorem refl (machine : Machine) (path : String) : machine.SameAt machine path :=
  ⟨rfl, fun _ _ => rfl⟩

theorem between {third : Machine} (h : machine.SameAt other path)
    (h' : machine.SameAt third path) : other.SameAt third path where
  find := h'.find.trans h.find.symm
  bytes node hfind := by
    have hnode : machine.find path = .ok node := h.find.symm.trans hfind
    exact (h'.bytes node hnode).trans (h.bytes node hnode).symm

theorem openPath (h : machine.SameAt other path) : other.openPath path = machine.openPath path := by
  unfold Machine.openPath
  rw [h.find]
  cases hfind : machine.find path with
  | error fault => rfl
  | ok node =>
      cases node with
      | file id => rfl
      | directory => rfl
      | link | device | pipe =>
          exact congrArg (fun bytes => Except.ok (Reading.fixed (linesOfBytes bytes)))
            (h.bytes _ hfind)

/-- What a path was opened for is the same to read. -/
theorem isSame {reading : Reading} (h : machine.SameAt other path)
    (hopen : machine.openPath path = .ok reading) : reading.IsSame machine other := by
  unfold Machine.openPath at hopen
  cases hfind : machine.find path with
  | error fault =>
      rw [hfind] at hopen
      cases hopen
  | ok node =>
      rw [hfind] at hopen
      cases node with
      | file id =>
          cases hopen
          exact h.bytes _ hfind
      | directory | link | device | pipe =>
          cases hopen
          trivial

theorem lines (h : machine.SameAt other path) : other.lines path = machine.lines path := by
  unfold Machine.lines
  rw [h.openPath]
  cases hopen : machine.openPath path with
  | error fault => rfl
  | ok reading => exact congrArg Except.ok (Reading.lines_eq (h.isSame hopen))

end SameAt

end Machine

end ShaderLiterals
