import Mathlib

/-!
# Arrays that are written from the front

A copy of a few values to the start of an array leaves the cells behind them alone.
-/

set_option autoImplicit false

namespace EsInverter.Lib

variable {α : Type} {size : Nat}

/-- The array with its first cells replaced. -/
def overlay (values : List α) (cells : Vector α size) : Vector α size :=
  Vector.ofFn fun index => values.getD index (cells.get index)

theorem getElem_overlay (values : List α) (cells : Vector α size) {index : Nat}
    (inside : index < size) :
    (overlay values cells)[index] = values.getD index cells[index] := by
  simp [overlay, Vector.get_eq_getElem]

theorem getElem_overlay_left {values : List α} (cells : Vector α size) {index : Nat}
    (inside : index < size) (written : index < values.length) :
    (overlay values cells)[index] = values[index] := by
  rw [getElem_overlay, List.getD_eq_getElem _ _ written]

theorem getElem_overlay_right {values : List α} (cells : Vector α size) {index : Nat}
    (inside : index < size) (kept : values.length ≤ index) :
    (overlay values cells)[index] = cells[index] := by
  rw [getElem_overlay, List.getD_eq_default _ _ kept]

/-- The values are read back from the start of the array. -/
theorem take_overlay {values : List α} (cells : Vector α size) {count : Nat}
    (short : count ≤ values.length) (room : values.length ≤ size) :
    (overlay values cells).toList.take count = values.take count := by
  apply List.ext_getElem
  · rw [List.length_take, List.length_take, Vector.length_toList]
    omega
  · intro index left right
    rw [List.length_take] at right
    rw [List.getElem_take, List.getElem_take, Vector.getElem_toList]
    exact getElem_overlay_left cells (by omega) (by omega)

/-- The values in front of the cells that are kept. -/
theorem toList_overlay {values : List α} (cells : Vector α size) (room : values.length ≤ size) :
    (overlay values cells).toList = values ++ cells.toList.drop values.length := by
  apply List.ext_getElem
  · rw [List.length_append, List.length_drop, Vector.length_toList, Vector.length_toList]
    omega
  · intro index left right
    rw [Vector.length_toList] at left
    rw [Vector.getElem_toList]
    by_cases written : index < values.length
    · rw [getElem_overlay_left cells left written, List.getElem_append_left written]
    · rw [getElem_overlay_right cells left (Nat.not_lt.mp written),
        List.getElem_append_right (Nat.not_lt.mp written), List.getElem_drop, Vector.getElem_toList]
      congr 1
      omega

/-- Two copies of values that are related one by one, over arrays whose cells are related as a
mark on the cell says. -/
theorem overlay_related {μ : Type} (related : μ → α → α → Prop) {marks : Vector μ size}
    {cells others : Vector α size} {values twins : List α} {mark : μ}
    (before : ∀ index (inside : index < size),
      related marks[index] cells[index] others[index])
    (copied : List.Forall₂ (related mark) values twins)
    (index : Nat) (inside : index < size) :
    related (overlay (List.replicate values.length mark) marks)[index]
      (overlay values cells)[index] (overlay twins others)[index] := by
  have paired : values.length = twins.length := copied.length_eq
  have marked : (List.replicate values.length mark).length = values.length :=
    List.length_replicate
  by_cases written : index < values.length
  · rw [getElem_overlay_left cells inside written,
      getElem_overlay_left marks inside (by omega),
      getElem_overlay_left others inside (by omega), List.getElem_replicate]
    exact copied.get written (by omega)
  · rw [getElem_overlay_right cells inside (by omega),
      getElem_overlay_right marks inside (by omega),
      getElem_overlay_right others inside (by omega)]
    exact before index inside

end EsInverter.Lib
