import EsInverter.Fault
import EsInverter.Lib.Filled
import EsInverter.Lib.Overlay

/-!
# `buffer_t`

A byte array of fixed size with the number of its bytes that are used.  No function
checks the size, so a write behind the array is a fault, and there is no buffer whose
length is above its capacity.
-/

set_option autoImplicit false

namespace EsInverter.Slip

open Lib

structure Buffer (cap : Nat) where
  data : Vector UInt8 cap
  len : UInt16
  fits : len.toNat ≤ cap

namespace Buffer

variable {cap : Nat}

/-- The bytes that are used. -/
def contents (buffer : Buffer cap) : List UInt8 := filled buffer.len.toNat buffer.data

def byteAt (buffer : Buffer cap) (position : UInt16) (inside : position < buffer.len) : UInt8 :=
  buffer.data.get ⟨position.toNat, (UInt16.lt_iff_toNat_lt.mp inside).trans_le buffer.fits⟩

def bufferClean (buffer : Buffer cap) : Buffer cap :=
  { buffer with len := 0, fits := Nat.zero_le cap }

/-- The array behind `memset`. -/
def zeroed (buffer : Buffer cap) : Buffer cap :=
  { buffer with data := Vector.replicate cap 0 }

def bufferPopFront (buffer : Buffer cap) (num : UInt16) : Buffer cap :=
  if _ : buffer.len.toNat ≤ num.toNat then buffer.bufferClean
  else {
    data := overlay (buffer.contents.drop num.toNat) buffer.data
    len := UInt16.ofNat (buffer.len.toNat - num.toNat)
    fits := by
      rw [UInt16.toNat_ofNat']
      exact (Nat.mod_le _ _).trans ((Nat.sub_le _ _).trans buffer.fits) }

def bufferPush (buffer : Buffer cap) (byte : UInt8) : Except Fault (Buffer cap) :=
  if room : buffer.len.toNat < cap then
    .ok {
      data := buffer.data.set buffer.len.toNat byte room
      len := buffer.len + 1
      fits := by
        rw [UInt16.toNat_add]
        exact (Nat.mod_le _ _).trans room }
  else .error .outOfBounds

/-- `memcpy` behind the used bytes, which then count as used. -/
def append (buffer : Buffer cap) (bytes : List UInt8) : Except Fault (Buffer cap) :=
  if room : buffer.len.toNat + bytes.length ≤ cap then
    .ok {
      data := overlay (buffer.contents ++ bytes) buffer.data
      len := buffer.len + UInt16.ofNat bytes.length
      fits := by
        rw [UInt16.toNat_add, UInt16.toNat_ofNat']
        exact (Nat.mod_le _ _).trans
          ((Nat.add_le_add_left (Nat.mod_le _ _) _).trans room) }
  else .error .outOfBounds

/-! ### The used bytes -/

@[simp]
theorem length_contents (buffer : Buffer cap) : buffer.contents.length = buffer.len.toNat := by
  rw [contents, filled, List.length_take, Vector.length_toList]
  exact min_eq_left buffer.fits

@[simp]
theorem contents_bufferClean (buffer : Buffer cap) : buffer.bufferClean.contents = [] := rfl

theorem contents_of_empty {buffer : Buffer cap} (empty : buffer.len = 0) :
    buffer.contents = [] := by
  rw [contents, empty]
  rfl

theorem drop_contents (buffer : Buffer cap) {position : UInt16} (inside : position < buffer.len) :
    buffer.contents.drop position.toNat =
      buffer.byteAt position inside :: buffer.contents.drop (position.toNat + 1) := by
  have used : position.toNat < buffer.contents.length := by
    rw [length_contents]
    exact UInt16.lt_iff_toNat_lt.mp inside
  rw [List.drop_eq_getElem_cons used]
  simp [contents, filled, byteAt, Vector.get_eq_getElem]

theorem contents_bufferPopFront (small : cap < 65536) (buffer : Buffer cap) (num : UInt16) :
    (buffer.bufferPopFront num).contents = buffer.contents.drop num.toNat := by
  rw [bufferPopFront]
  split
  · rename_i whole
    rw [contents_bufferClean, List.drop_of_length_le]
    rwa [length_contents]
  · have rest : (buffer.contents.drop num.toNat).length = buffer.len.toNat - num.toNat := by
      rw [List.length_drop, length_contents]
    have count : (UInt16.ofNat (buffer.len.toNat - num.toNat)).toNat =
        buffer.len.toNat - num.toNat := by
      have fits := buffer.fits
      rw [UInt16.toNat_ofNat']
      exact Nat.mod_eq_of_lt (by omega)
    have fits := buffer.fits
    rw [contents, filled]
    dsimp only
    rw [count, take_overlay buffer.data (by omega) (by omega), ← rest, List.take_length]

theorem bufferPush_ok (small : cap < 65536) {buffer : Buffer cap}
    (room : buffer.contents.length < cap) (byte : UInt8) :
    ∃ next, buffer.bufferPush byte = .ok next ∧ next.contents = buffer.contents ++ [byte] := by
  rw [length_contents] at room
  rw [bufferPush, dif_pos room]
  refine ⟨_, rfl, ?_⟩
  have count : (buffer.len + 1).toNat = buffer.len.toNat + 1 := by
    rw [UInt16.toNat_add]
    exact Nat.mod_eq_of_lt (by simp; omega)
  rw [contents]
  dsimp only
  rw [count]
  exact filled_set room byte buffer.data

theorem append_ok (small : cap < 65536) {buffer : Buffer cap} {bytes : List UInt8}
    (room : buffer.contents.length + bytes.length ≤ cap) :
    ∃ next, buffer.append bytes = .ok next ∧ next.contents = buffer.contents ++ bytes := by
  rw [length_contents] at room
  rw [append, dif_pos room]
  refine ⟨_, rfl, ?_⟩
  have count : (buffer.len + UInt16.ofNat bytes.length).toNat =
      (buffer.contents ++ bytes).length := by
    rw [UInt16.toNat_add, UInt16.toNat_ofNat', List.length_append, length_contents,
      Nat.mod_eq_of_lt (by omega : bytes.length < 2 ^ 16)]
    exact Nat.mod_eq_of_lt (by omega)
  rw [contents, filled]
  dsimp only
  rw [count, take_overlay buffer.data (Nat.le_refl _)
    (by rwa [List.length_append, length_contents]), List.take_length]

end Buffer

end EsInverter.Slip
