import Mathlib

/-!
# Sizes of structures

The members of a structure lie in order, each aligned to the width of its scalar
type, and the structure is padded to the widest of them.
-/

set_option autoImplicit false

namespace EsInverter.Lib

/-- The scalar types, whose alignment is their width. -/
inductive Scalar
  | byte
  | half
  | word
  | double
  deriving DecidableEq, Repr

def Scalar.width : Scalar → Nat
  | byte => 1
  | half => 2
  | word => 4
  | double => 8

theorem Scalar.width_pos (scalar : Scalar) : 0 < scalar.width := by
  cases scalar <;> decide

/-- A member: an array, or a scalar as an array of one element. -/
structure Member where
  scalar : Scalar
  count : Nat
  deriving DecidableEq, Repr

namespace Member

def size (member : Member) : Nat := member.scalar.width * member.count

abbrev uint8 : Member := ⟨.byte, 1⟩
abbrev uint16 : Member := ⟨.half, 1⟩
abbrev uint32 : Member := ⟨.word, 1⟩
abbrev uint64 : Member := ⟨.double, 1⟩
abbrev uint8s (count : Nat) : Member := ⟨.byte, count⟩
abbrev uint16s (count : Nat) : Member := ⟨.half, count⟩
abbrev uint64s (count : Nat) : Member := ⟨.double, count⟩

end Member

/-- The next multiple of `alignment`. -/
def roundUp (offset alignment : Nat) : Nat := (offset + (alignment - 1)) / alignment * alignment

theorem le_roundUp (offset : Nat) {alignment : Nat} (positive : 0 < alignment) :
    offset ≤ roundUp offset alignment := by
  have split := Nat.div_add_mod (offset + (alignment - 1)) alignment
  have small := Nat.mod_lt (offset + (alignment - 1)) positive
  rw [roundUp, Nat.mul_comm]
  omega

abbrev Layout := List Member

namespace Layout

/-- The end of a member that is placed behind `offset`. -/
def place (offset : Nat) (member : Member) : Nat :=
  roundUp offset member.scalar.width + member.size

def alignment (layout : Layout) : Nat :=
  layout.foldr (fun member widest => max member.scalar.width widest) 1

/-- `sizeof` -/
def size (layout : Layout) : Nat := roundUp (layout.foldl place 0) layout.alignment

/-- `offsetof` -/
def offsetOf (layout : Layout) (index : Nat) : Nat :=
  match layout[index]? with
  | none => layout.size
  | some member => roundUp ((layout.take index).foldl place 0) member.scalar.width

/-- `sizeof` of a structure with the attribute `packed`. -/
def packedSize (layout : Layout) : Nat := (layout.map Member.size).sum

theorem alignment_pos (layout : Layout) : 0 < layout.alignment := by
  induction layout with
  | nil => exact Nat.one_pos
  | cons member rest ih => exact lt_of_lt_of_le ih (Nat.le_max_right _ _)

theorem add_packedSize_le_foldl (layout : Layout) (offset : Nat) :
    offset + layout.packedSize ≤ layout.foldl place offset := by
  induction layout generalizing offset with
  | nil => exact le_rfl
  | cons member rest ih =>
      have aligned := le_roundUp offset member.scalar.width_pos
      calc offset + packedSize (member :: rest)
          = offset + member.size + packedSize rest := by
            rw [packedSize, List.map_cons, List.sum_cons, packedSize, Nat.add_assoc]
        _ ≤ place offset member + packedSize rest :=
            Nat.add_le_add_right (Nat.add_le_add_right aligned _) _
        _ ≤ rest.foldl place (place offset member) := ih _

/-- The members of a structure fit into it. -/
theorem packedSize_le_size (layout : Layout) : layout.packedSize ≤ layout.size :=
  calc layout.packedSize = 0 + layout.packedSize := (Nat.zero_add _).symm
    _ ≤ layout.foldl place 0 := layout.add_packedSize_le_foldl 0
    _ ≤ layout.size := le_roundUp _ layout.alignment_pos

end Layout

end EsInverter.Lib
