import Mathlib

/-!
# Streams that come in pieces

A field of a stream is the same however much of the stream follows.  Copies into
a block write one piece behind the other, and a mask is laid over a stream piece
by piece.
-/

set_option autoImplicit false

namespace EsInverter.Lib

variable {α : Type}

/-! ### Fields of a stream -/

/-- The field of a stream at an offset. -/
def window (offset size : Nat) (stream : List α) : List α := (stream.drop offset).take size

theorem window_append {offset size : Nat} {stream : List α}
    (inside : offset + size ≤ stream.length) (more : List α) :
    window offset size (stream ++ more) = window offset size stream := by
  rw [window, window, List.drop_append_of_le_length (by omega),
    List.take_append_of_le_length (by rw [List.length_drop]; omega)]

/-- The field that begins where a part of the stream ends. -/
theorem window_behind {offset size : Nat} {stream more : List α} (ends : stream.length = offset) :
    window offset size (stream ++ more) = more.take size := by
  rw [window, List.drop_append_of_le_length (Nat.le_of_eq ends.symm), ← ends, List.drop_length,
    List.nil_append]

/-! ### Copies into a block -/

/-- `memcpy` to a place in a block, which the values must not run out of. -/
def splice (offset : Nat) (values cells : List α) : Option (List α) :=
  if offset + values.length ≤ cells.length then
    some (cells.take offset ++ values ++ cells.drop (offset + values.length))
  else none

theorem splice_returns {offset : Nat} {values cells : List α}
    (room : offset + values.length ≤ cells.length) :
    ∃ written, splice offset values cells = some written ∧ written.length = cells.length ∧
      written.take (offset + values.length) = cells.take offset ++ values := by
  refine ⟨_, if_pos room, ?_, ?_⟩
  · simp only [List.length_append, List.length_take, List.length_drop]
    omega
  · refine List.take_left' ?_
    rw [List.length_append, List.length_take]
    omega

/-! ### Masks -/

section Mask

variable (op : α → α → α) (mask : Nat → α)

/-- The values combined with the mask from an offset on. -/
def masked (offset : Nat) (values : List α) : List α :=
  values.mapIdx fun idx value => op value (mask (offset + idx))

@[simp]
theorem length_masked (offset : Nat) (values : List α) :
    (masked op mask offset values).length = values.length := List.length_mapIdx

@[simp]
theorem masked_nil (offset : Nat) : masked op mask offset [] = [] := rfl

theorem masked_append (offset : Nat) (first second : List α) :
    masked op mask offset (first ++ second) =
      masked op mask offset first ++ masked op mask (offset + first.length) second := by
  rw [masked, masked, masked, List.mapIdx_append]
  simp only [Nat.add_assoc, Nat.add_comm first.length]

theorem masked_take (offset count : Nat) (values : List α) :
    masked op mask offset (values.take count) = (masked op mask offset values).take count := by
  conv_rhs => rw [← List.take_append_drop count values, masked_append]
  by_cases short : count ≤ values.length
  · rw [List.take_left' (by rw [length_masked, List.length_take, Nat.min_eq_left short])]
  · have whole : values.take count = values := List.take_of_length_le (by omega)
    have rest : values.drop count = [] := List.drop_of_length_le (by omega)
    rw [whole, rest, masked_nil, List.append_nil, List.take_of_length_le]
    rw [length_masked]
    omega

variable {op mask}

end Mask

end EsInverter.Lib
