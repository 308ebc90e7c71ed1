import Mathlib

/-!
# Lists without their extreme values

The least and the greatest value of a list stand in it side by side as soon as
it has two values, and what is left when they are taken out lies between them.
-/

set_option autoImplicit false

namespace EsInverter.Lib

section Extremes

variable {α : Type} [LinearOrder α]

/-- The least value of a list and the value that a running minimum starts from. -/
theorem isLeast_foldl_min (start : α) (values : List α) :
    IsLeast {value | value ∈ start :: values} (values.foldl min start) := by
  have found : (start :: values).min? = some (values.foldl min start) := List.min?_cons'
  exact List.min?_eq_some_iff.mp found

theorem isGreatest_foldl_max (start : α) (values : List α) :
    IsGreatest {value | value ∈ start :: values} (values.foldl max start) := by
  have found : (start :: values).max? = some (values.foldl max start) := List.max?_cons'
  exact List.max?_eq_some_iff.mp found

/-- A running minimum that starts high enough forgets where it started. -/
theorem isLeast_of_foldl_min {start : α} {values : List α} (some_ : values ≠ [])
    (high : ∀ value ∈ values, value ≤ start) :
    IsLeast {value | value ∈ values} (values.foldl min start) := by
  obtain ⟨inside, lower⟩ := isLeast_foldl_min start values
  generalize values.foldl min start = least at inside lower
  refine ⟨?_, fun value mem => lower (List.mem_cons_of_mem start mem)⟩
  rcases List.mem_cons.mp inside with rfl | mem
  · obtain ⟨first, mem⟩ := List.exists_mem_of_ne_nil values some_
    have equal : least = first :=
      le_antisymm (lower (List.mem_cons_of_mem least mem)) (high first mem)
    exact equal ▸ mem
  · exact mem

theorem isGreatest_of_foldl_max {start : α} {values : List α} (some_ : values ≠ [])
    (low : ∀ value ∈ values, start ≤ value) :
    IsGreatest {value | value ∈ values} (values.foldl max start) := by
  obtain ⟨inside, upper⟩ := isGreatest_foldl_max start values
  generalize values.foldl max start = greatest at inside upper
  refine ⟨?_, fun value mem => upper (List.mem_cons_of_mem start mem)⟩
  rcases List.mem_cons.mp inside with rfl | mem
  · obtain ⟨first, mem⟩ := List.exists_mem_of_ne_nil values some_
    have equal : greatest = first :=
      le_antisymm (low first mem) (upper (List.mem_cons_of_mem greatest mem))
    exact equal ▸ mem
  · exact mem

/-- The values of a list are its least one, its greatest one and `rest`. -/
structure Trimmed (values : List α) (least greatest : α) (rest : List α) : Prop where
  perm : values.Perm (least :: greatest :: rest)
  low : ∀ value ∈ rest, least ≤ value
  high : ∀ value ∈ rest, value ≤ greatest

theorem exists_trimmed {values : List α} {least greatest : α}
    (isLeast : IsLeast {value | value ∈ values} least)
    (isGreatest : IsGreatest {value | value ∈ values} greatest) (two : 2 ≤ values.length) :
    ∃ rest, Trimmed values least greatest rest := by
  have first : values.Perm (least :: values.erase least) := List.perm_cons_erase isLeast.1
  have later : greatest ∈ values.erase least := by
    by_cases same : greatest = least
    · -- All values are equal, and one of them is left.
      have size := first.length_eq
      rw [List.length_cons] at size
      have positive : 0 < (values.erase least).length := by omega
      obtain ⟨other, inside⟩ := List.exists_mem_of_length_pos positive
      have mem : other ∈ values := List.mem_of_mem_erase inside
      have equal := le_antisymm (isGreatest.2 mem) (same ▸ isLeast.2 mem)
      rwa [equal] at inside
    · exact (List.mem_erase_of_ne same).mpr isGreatest.1
  have inside : ∀ value ∈ (values.erase least).erase greatest, value ∈ values :=
    fun value mem => List.mem_of_mem_erase (List.mem_of_mem_erase mem)
  refine ⟨(values.erase least).erase greatest, ?_, ?_, ?_⟩
  · exact first.trans (.cons least (List.perm_cons_erase later))
  · exact fun value mem => isLeast.2 (inside value mem)
  · exact fun value mem => isGreatest.2 (inside value mem)

theorem Trimmed.length {values rest : List α} {least greatest : α}
    (trimmed : Trimmed values least greatest rest) : values.length = rest.length + 2 :=
  trimmed.perm.length_eq

end Extremes

theorem Trimmed.sum {values rest : List Nat} {least greatest : Nat}
    (trimmed : Trimmed values least greatest rest) :
    values.sum = least + (greatest + rest.sum) := by
  rw [trimmed.perm.sum_eq, List.sum_cons, List.sum_cons]

/-- The average of what is left lies between the values that were taken out. -/
theorem Trimmed.average {values rest : List Nat} {least greatest : Nat}
    (trimmed : Trimmed values least greatest rest) (some_ : 0 < rest.length) :
    least ≤ rest.sum / rest.length ∧ rest.sum / rest.length ≤ greatest := by
  have low := List.card_nsmul_le_sum rest least trimmed.low
  have high := List.sum_le_card_nsmul rest greatest trimmed.high
  rw [smul_eq_mul] at low high
  constructor
  · rw [Nat.le_div_iff_mul_le some_, Nat.mul_comm]
    exact low
  · exact Nat.div_le_of_le_mul high

end EsInverter.Lib
