import Mathlib

/-!
# Converting numbers to machine integers

A fractional number is converted by dropping its fraction; a result that the
target type cannot hold is undefined.  Floating numbers are exact here.
-/

set_option autoImplicit false

namespace EsInverter.Lib

/-- What has no defined result. -/
inductive Undefined
  | divisionByZero
  | outOfRange
  deriving DecidableEq, Repr

/-- Rounding toward zero. -/
def truncate (number : ℚ) : ℤ := if 0 ≤ number then number.floor else -(-number).floor

/-- The conversion to a type that holds the integers from `low` up to `high`. -/
def convert (low high : ℤ) (number : ℚ) : Except Undefined ℤ :=
  if low ≤ truncate number ∧ truncate number < high then .ok (truncate number)
  else .error .outOfRange

def toUInt8 (number : ℚ) : Except Undefined UInt8 :=
  (convert 0 (2 ^ 8) number).map fun value => UInt8.ofNat value.toNat

def toUInt16 (number : ℚ) : Except Undefined UInt16 :=
  (convert 0 (2 ^ 16) number).map fun value => UInt16.ofNat value.toNat

def toInt16 (number : ℚ) : Except Undefined Int16 :=
  (convert (-2 ^ 15) (2 ^ 15) number).map Int16.ofInt

def divide (number divisor : ℚ) : Except Undefined ℚ :=
  if divisor = 0 then .error .divisionByZero else .ok (number / divisor)

theorem truncate_of_nonneg {number : ℚ} (nonneg : 0 ≤ number) :
    truncate number = ⌊number⌋ := if_pos nonneg

theorem truncate_nonneg {number : ℚ} (nonneg : 0 ≤ number) : 0 ≤ truncate number := by
  rw [truncate_of_nonneg nonneg]
  exact Int.floor_nonneg.mpr nonneg

theorem truncate_lt_iff {number : ℚ} (nonneg : 0 ≤ number) (bound : ℤ) :
    truncate number < bound ↔ number < bound := by
  rw [truncate_of_nonneg nonneg]
  exact Int.floor_lt

/-- A number and ten times it have one whole part exactly below a tenth. -/
theorem truncate_eq_truncate_ten_iff {number : ℚ} (nonneg : 0 ≤ number) :
    truncate number = truncate (10 * number) ↔ number < 1 / 10 := by
  have tenfold : 0 ≤ 10 * number := by positivity
  rw [truncate_of_nonneg nonneg, truncate_of_nonneg tenfold]
  constructor
  · intro same
    have whole : 10 * ⌊number⌋ ≤ ⌊10 * number⌋ := by
      apply Int.le_floor.mpr
      have below := Int.floor_le number
      push_cast
      linarith
    have none_ : ⌊10 * number⌋ = 0 := by
      have positive : 0 ≤ ⌊number⌋ := Int.floor_nonneg.mpr nonneg
      omega
    have below := Int.lt_floor_add_one (10 * number)
    rw [none_] at below
    norm_num at below
    linarith
  · intro small
    rw [Int.floor_eq_zero_iff.mpr ⟨nonneg, by linarith⟩,
      Int.floor_eq_zero_iff.mpr ⟨tenfold, by linarith⟩]

theorem bind_eq_ok_iff {ε α β : Type} {first : Except ε α} {next : α → Except ε β} {result : β} :
    first >>= next = .ok result ↔ ∃ value, first = .ok value ∧ next value = .ok result := by
  cases first with
  | error fault => simp [bind, Except.bind]
  | ok value => simp [bind, Except.bind]

theorem divide_eq_ok_iff {number divisor value : ℚ} :
    divide number divisor = .ok value ↔ divisor ≠ 0 ∧ number / divisor = value := by
  rw [divide]
  split <;> simp_all

/-- A conversion succeeds exactly with the truncated number. -/
theorem toUInt8_eq_ok_iff {value : UInt8} {number : ℚ} :
    toUInt8 number = .ok value ↔ (value.toNat : ℤ) = truncate number := by
  have bound := value.toNat_lt
  rw [toUInt8, convert]
  split
  · next fits =>
      obtain ⟨low, high⟩ := fits
      simp only [Except.map, Except.ok.injEq, ← UInt8.toNat_inj, UInt8.toNat_ofNat']
      omega
  · next away =>
      simp only [Except.map, reduceCtorEq, false_iff]
      omega

theorem toUInt16_eq_ok_iff {value : UInt16} {number : ℚ} :
    toUInt16 number = .ok value ↔ (value.toNat : ℤ) = truncate number := by
  have bound := value.toNat_lt
  rw [toUInt16, convert]
  split
  · next fits =>
      obtain ⟨low, high⟩ := fits
      simp only [Except.map, Except.ok.injEq, ← UInt16.toNat_inj, UInt16.toNat_ofNat']
      omega
  · next away =>
      simp only [Except.map, reduceCtorEq, false_iff]
      omega

theorem toInt16_eq_ok_iff {value : Int16} {number : ℚ} :
    toInt16 number = .ok value ↔ value.toInt = truncate number := by
  have low := value.le_toInt
  have high := value.toInt_lt
  rw [toInt16, convert]
  split
  · next fits =>
      have read : (Int16.ofInt (truncate number)).toInt = truncate number :=
        Int16.toInt_ofInt_of_le fits.1 fits.2
      simp only [Except.map, Except.ok.injEq, ← Int16.toInt_inj, read]
      exact eq_comm
  · next away =>
      simp only [Except.map, reduceCtorEq, false_iff]
      omega

end EsInverter.Lib
