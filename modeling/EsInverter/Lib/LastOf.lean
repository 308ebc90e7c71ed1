import Mathlib

/-!
# The end of a list

A queue of limited size that drops its oldest elements keeps the end of what was
put into it.
-/

set_option autoImplicit false

namespace EsInverter.Lib

variable {α : Type} {size : Nat}

/-- The last elements of a list, at most `size` of them. -/
def lastOf (size : Nat) (values : List α) : List α := values.drop (values.length - size)

theorem lastOf_of_short {values : List α} (short : values.length ≤ size) :
    lastOf size values = values := by
  rw [lastOf, Nat.sub_eq_zero_of_le short, List.drop_zero]

theorem length_lastOf (size : Nat) (values : List α) :
    (lastOf size values).length = min values.length size := by
  rw [lastOf, List.length_drop]
  omega

/-- What was dropped before makes no difference later. -/
theorem lastOf_lastOf_append (size : Nat) (values more : List α) :
    lastOf size (lastOf size values ++ more) = lastOf size (values ++ more) := by
  by_cases short : values.length ≤ size
  · rw [lastOf_of_short short]
  · rw [lastOf, lastOf, lastOf, ← List.drop_append_of_le_length (by omega), List.drop_drop,
      List.length_drop, List.length_append]
    congr 1
    omega

theorem mem_of_mem_lastOf {value : α} {values : List α} (inside : value ∈ lastOf size values) :
    value ∈ values := List.mem_of_mem_drop inside

end EsInverter.Lib
