import Mathlib

/-!
# Machine words as integers

The signed and the unsigned reading of a 64-bit word, and bytes read bit by bit.
-/

set_option autoImplicit false

namespace EsInverter.Lib

theorem toNat_toUInt64 (word : Int64) : (word.toUInt64.toNat : Int) = word.toInt % 2 ^ 64 := by
  have bound := word.toBitVec.isLt
  have signed : word.toInt = word.toBitVec.toInt := rfl
  have unsigned : word.toUInt64.toNat = word.toBitVec.toNat := rfl
  rw [signed, unsigned, BitVec.toInt_eq_toNat_cond]
  split <;> omega

/-- The low half of a difference is the difference modulo `2 ^ 32`. -/
theorem toNat_low_sub (first second : Int64) :
    ((first - second).toUInt64.toUInt32.toNat : Int) = (first.toInt - second.toInt) % 2 ^ 32 := by
  have read := toNat_toUInt64 (first - second)
  have wrapped : ((first - second).toInt - (first.toInt - second.toInt)) % 2 ^ 64 = 0 := by
    rw [Int64.toInt_sub, Int.bmod_def]
    split <;> omega
  rw [UInt64.toNat_toUInt32]
  omega

theorem bmod_of_fits {value : Int} (low : -2 ^ 63 ≤ value) (high : value < 2 ^ 63) :
    value.bmod (2 ^ 64) = value := by
  apply Int.bmod_eq_of_le
  · norm_num
    omega
  · norm_num
    omega

theorem ofNat_eq_ofNat_iff {first second : Nat} (firstFits : first < 2 ^ 32)
    (secondFits : second < 2 ^ 32) : UInt32.ofNat first = UInt32.ofNat second ↔ first = second := by
  rw [← UInt32.toNat_inj, UInt32.toNat_ofNat_of_lt' firstFits,
    UInt32.toNat_ofNat_of_lt' secondFits]

theorem byte_of_bits {byte other : UInt8}
    (bits : ∀ place < 8, byte.toBitVec.getLsbD place = other.toBitVec.getLsbD place) :
    byte = other :=
  UInt8.toBitVec_inj.mp (BitVec.eq_of_getLsbD_eq bits)

end EsInverter.Lib
