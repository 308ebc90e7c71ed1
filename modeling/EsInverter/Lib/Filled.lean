import Mathlib

/-!
# Arrays that are filled from the front

An array together with a count of its used cells: writing the cell at the count
and raising the count appends to the list of used cells.
-/

set_option autoImplicit false

namespace EsInverter.Lib

variable {α : Type} {size : Nat}

/-- The first cells of an array. -/
def filled (count : Nat) (cells : Vector α size) : List α := cells.toList.take count

@[simp]
theorem filled_zero (cells : Vector α size) : filled 0 cells = [] := rfl

theorem filled_set {count : Nat} (room : count < size) (value : α) (cells : Vector α size) :
    filled (count + 1) (cells.set count value room) = filled count cells ++ [value] := by
  rw [filled, filled, Vector.toList_set, List.take_succ_eq_append_getElem (by simpa using room),
    List.take_set_of_le le_rfl, List.getElem_set_self]

end EsInverter.Lib
