import ShaderLiterals.Literal.Basic
import ShaderLiterals.Literal.Name
import ShaderLiterals.Text.Blank

/-!
# Reading lines

A marker is a line that ends in three quotes, white space apart.  Outside a literal, a marker that
holds a shader name opens one, and every other line is passed over.  Inside a literal, the next
marker closes it, whatever else it holds, and every other line belongs to its body.
-/

namespace ShaderLiterals

def delimiter : List Char := ['"', '"', '"']

def isMarker (line : String) : Bool :=
  delimiter.isSuffixOf (Blank.trimEnd line.toList)

/-- Where a reader of lines stands. -/
inductive Place where
  | outside
  | inside (opening : Opening) (body : Array String)
deriving DecidableEq, Repr

/-- What a line does where it stands. -/
inductive Role where
  /-- It is passed over. -/
  | plain
  /-- It is a marker, but names no shader, and is passed over. -/
  | unnamed
  | opens (opening : Opening)
  /-- It belongs to the body of a literal. -/
  | body
  /-- It ends a literal. -/
  | closes (literal : Literal)
deriving DecidableEq, Repr

/-- A reader of lines. -/
structure Cursor where
  place : Place
  /-- The number of lines read. -/
  line : Nat
deriving DecidableEq, Repr

namespace Cursor

def start : Cursor := ⟨.outside, 0⟩

def isInside (cursor : Cursor) : Bool :=
  match cursor.place with
  | .outside => false
  | .inside _ _ => true

@[simp] theorem isInside_outside (n : Nat) : (Cursor.mk .outside n).isInside = false := rfl

@[simp] theorem isInside_inside (o : Opening) (b : Array String) (n : Nat) :
    (Cursor.mk (.inside o b) n).isInside = true := rfl

/-- Reads the line with the given number outside a literal. -/
def nextOutside (number : Nat) (line : String) : Role × Place :=
  if isMarker line then
    match Name.first? line.toList with
    | none => (.unnamed, .outside)
    | some (name, stage) =>
        let opening := ⟨String.ofList name, stage, number⟩
        (.opens opening, .inside opening #[])
  else (.plain, .outside)

/-- Reads a line inside a literal. -/
def nextInside (opening : Opening) (body : Array String) (line : String) : Role × Place :=
  if isMarker line then (.closes ⟨opening, body.toList⟩, .outside)
  else (.body, .inside opening (body.push line))

/-- Reads a line. -/
def next (cursor : Cursor) (line : String) : Role × Cursor :=
  let (role, place) :=
    match cursor.place with
    | .outside => nextOutside (cursor.line + 1) line
    | .inside opening body => nextInside opening body line
  (role, ⟨place, cursor.line + 1⟩)

@[simp] theorem line_next (cursor : Cursor) (line : String) :
    (cursor.next line).2.line = cursor.line + 1 := rfl

/-- After a line that closes a literal, the reader is outside. -/
theorem place_next_of_closes {cursor : Cursor} {line : String} {literal : Literal}
    (h : (cursor.next line).1 = .closes literal) : (cursor.next line).2.place = .outside := by
  unfold next at h ⊢
  cases hp : cursor.place with
  | outside =>
      simp only [hp, nextOutside] at h
      split at h
      · split at h <;> cases h
      · cases h
  | inside opening body =>
      simp only [hp, nextInside] at h ⊢
      split at h
      · rename_i hm
        simp [hm]
      · cases h

end Cursor

end ShaderLiterals
