import EsInverter.Dispatcher.Handlers

/-!
# The two decimal scalers

`math.c`: one function multiplies by a power of ten, the other gives a
multiplier and a divisor.  A signed product that overflows is taken to wrap, and
a mark is kept that it did.
-/

set_option autoImplicit false

namespace EsInverter.Dispatcher

/-- An `int32_t` and whether a signed operation has overflowed on the way to it. -/
structure Scaled where
  number : Int32
  overflowed : Bool
  deriving DecidableEq, Repr

namespace Scaled

def one : Scaled := ⟨1, false⟩

def times (scaled : Scaled) (factor : Int32) : Scaled :=
  { number := scaled.number * factor
    overflowed :=
      scaled.overflowed || scaled.number.toBitVec.smulOverflow factor.toBitVec }

def negated (scaled : Scaled) : Scaled :=
  { number := -scaled.number
    overflowed := scaled.overflowed || scaled.number == Int32.minValue }

end Scaled

/-- The integers that an `int32_t` holds. -/
def FitsInt32 (number : Int) : Prop := -2 ^ 31 ≤ number ∧ number < 2 ^ 31

instance : DecidablePred FitsInt32 := fun number =>
  inferInstanceAs (Decidable (-2 ^ 31 ≤ number ∧ number < 2 ^ 31))

theorem Scaled.times_overflowed_iff {scaled : Scaled} (clean : scaled.overflowed = false)
    (factor : Int32) :
    (scaled.times factor).overflowed = false ↔ FitsInt32 (scaled.number.toInt * factor.toInt) := by
  have product : scaled.number.toBitVec.toInt * factor.toBitVec.toInt =
      scaled.number.toInt * factor.toInt := rfl
  rw [times, clean, Bool.false_or, BitVec.smulOverflow, product, FitsInt32, Bool.or_eq_false_iff,
    decide_eq_false_iff_not, decide_eq_false_iff_not]
  norm_num
  omega

theorem Scaled.toInt_times {scaled : Scaled} {factor : Int32}
    (fits : FitsInt32 (scaled.number.toInt * factor.toInt)) :
    (scaled.times factor).number.toInt = scaled.number.toInt * factor.toInt := by
  obtain ⟨low, high⟩ := fits
  rw [times, Int32.toInt_mul]
  exact Int.bmod_eq_of_le (by norm_num; omega) (by norm_num; omega)

/-- The loop from `i` on, with a bound on its rounds. -/
def pow10Loop (absFactor : UInt8) : (rounds : Nat) → (i : Int8) → Scaled → Option Scaled
  | 0, _, _ => none
  | rounds + 1, i, scaler =>
      if i.toInt < absFactor.toNat then pow10Loop absFactor rounds (i + 1) (scaler.times 10)
      else some scaler

def emUtilsPow10 (rounds : Nat) (value : Int32) (factor : Int8) : Option Scaled :=
  if factor = 0 then some ⟨value, false⟩
  else
    match pow10Loop (UInt8.ofNat factor.toInt.natAbs) rounds 0 .one with
    | none => none
    | some scaler => some ((if factor < 0 then scaler.negated else scaler).times value)

/-- `count` rounds of the loop on the one of the two numbers that it changes. -/
def decodeLoop : (count : Nat) → Scaled → Scaled
  | 0, number => number
  | count + 1, number => decodeLoop count (number.times 10)

/-- `em_utils_decode_scaler` with the marks of its products. -/
def decodeScaler (scaler : Int8) : Scaled × Scaled :=
  if scaler = 0 then (.one, .one)
  else if 0 < scaler then (decodeLoop scaler.toInt.natAbs .one, .one)
  else (.one, decodeLoop scaler.toInt.natAbs .one)

theorem decodeLoop_number (count : Nat) (scaled : Scaled) :
    (decodeLoop count scaled).number = timesTen count scaled.number := by
  induction count generalizing scaled with
  | zero => rfl
  | succ count ih => exact ih (scaled.times 10)

/-- The numbers are those of the model without marks. -/
theorem decodeScaler_numbers (scaler : Int8) :
    ((decodeScaler scaler).1.number, (decodeScaler scaler).2.number) =
      emUtilsDecodeScaler scaler := by
  rw [decodeScaler, emUtilsDecodeScaler]
  split
  · rfl
  · split <;> rw [decodeLoop_number] <;> rfl

/-! ### Powers of ten -/

theorem decodeLoop_add (first second : Nat) (scaled : Scaled) :
    decodeLoop (first + second) scaled = decodeLoop second (decodeLoop first scaled) := by
  induction first generalizing scaled with
  | zero => rw [Nat.zero_add]; rfl
  | succ first ih =>
      rw [Nat.succ_add]
      exact ih (scaled.times 10)

theorem decodeLoop_overflowed (count : Nat) {scaled : Scaled} (marked : scaled.overflowed = true) :
    (decodeLoop count scaled).overflowed = true := by
  induction count generalizing scaled with
  | zero => exact marked
  | succ count ih =>
      refine ih ?_
      rw [Scaled.times, marked]
      rfl

/-- The powers of ten that an `int32_t` holds. -/
theorem decodeLoop_small {count : Nat} (small : count ≤ 9) :
    (decodeLoop count .one).overflowed = false ∧
      (decodeLoop count .one).number.toInt = 10 ^ count := by
  interval_cases count <;> decide

theorem decodeLoop_large {count : Nat} (large : 10 ≤ count) :
    (decodeLoop count .one).overflowed = true := by
  obtain ⟨more, rfl⟩ := Nat.exists_eq_add_of_le large
  have tenth : (decodeLoop 10 .one).overflowed = true := by decide
  rw [decodeLoop_add]
  exact decodeLoop_overflowed more tenth

theorem pow_lt_iff (count : Nat) : (10 : Int) ^ count < 2 ^ 31 ↔ count ≤ 9 := by
  constructor
  · intro fits
    by_contra large
    have more : (10 : Int) ^ 10 ≤ 10 ^ count := pow_le_pow_right₀ (by decide) (by omega)
    omega
  · intro small
    interval_cases count <;> decide

/-! ### The loop of `em_utils_pow10` -/

theorem pow10Loop_returns {absFactor : UInt8} (small : absFactor.toNat ≤ 127) (count : Nat)
    {i : Int8} (position : i.toInt + count = absFactor.toNat) (scaler : Scaled) :
    pow10Loop absFactor (count + 1) i scaler = some (decodeLoop count scaler) := by
  induction count generalizing i scaler with
  | zero => rw [pow10Loop, if_neg (by omega)]; rfl
  | succ count ih =>
      have low := i.le_toInt
      have next : (i + 1).toInt = i.toInt + 1 := by
        have one : (1 : Int8).toInt = 1 := rfl
        rw [Int8.toInt_add, one]
        exact Int.bmod_eq_of_le (by omega) (by omega)
      rw [pow10Loop, if_pos (by omega)]
      exact ih (by omega) _

/-- The bound on the rounds does not matter once the loop ends. -/
theorem pow10Loop_unique {absFactor : UInt8} {first second : Nat} {i : Int8}
    {scaler result other : Scaled} (ran : pow10Loop absFactor first i scaler = some result)
    (again : pow10Loop absFactor second i scaler = some other) : result = other := by
  induction first generalizing second i scaler with
  | zero => cases ran
  | succ first ih =>
      cases second with
      | zero => cases again
      | succ second =>
          rw [pow10Loop] at ran again
          split at ran
          case isTrue more =>
            rw [if_pos more] at again
            exact ih ran again
          case isFalse done =>
            rw [if_neg done] at again
            exact Option.some.inj (ran.symm.trans again)

/-- A counter of eight bits with a sign never reaches 128. -/
theorem pow10Loop_never (rounds : Nat) (i : Int8) (scaler : Scaled) :
    pow10Loop 128 rounds i scaler = none := by
  induction rounds generalizing i scaler with
  | zero => rfl
  | succ rounds ih =>
      have bound := i.toInt_lt
      have large : (128 : UInt8).toNat = 128 := rfl
      rw [pow10Loop, if_pos (by omega)]
      exact ih _ _

theorem emUtilsPow10_returns {factor : Int8} (other : factor ≠ 0) (small : factor.toInt.natAbs ≤ 127)
    (value : Int32) :
    emUtilsPow10 (factor.toInt.natAbs + 1) value factor =
      some ((if factor < 0 then (decodeLoop factor.toInt.natAbs .one).negated
        else decodeLoop factor.toInt.natAbs .one).times value) := by
  have bound : (UInt8.ofNat factor.toInt.natAbs).toNat = factor.toInt.natAbs :=
    UInt8.toNat_ofNat_of_lt' (Nat.lt_of_le_of_lt small (by decide))
  have zero : (0 : Int8).toInt = 0 := rfl
  have looped : pow10Loop (UInt8.ofNat factor.toInt.natAbs) (factor.toInt.natAbs + 1) 0 .one =
      some (decodeLoop factor.toInt.natAbs .one) :=
    pow10Loop_returns (by omega) factor.toInt.natAbs (by omega) .one
  rw [emUtilsPow10, if_neg other, looped]

theorem emUtilsPow10_unique {value : Int32} {factor : Int8} {first second : Nat}
    {result other : Scaled} (ran : emUtilsPow10 first value factor = some result)
    (again : emUtilsPow10 second value factor = some other) : result = other := by
  rw [emUtilsPow10] at ran again
  by_cases zero : factor = 0
  · rw [if_pos zero] at ran again
    exact Option.some.inj (ran.symm.trans again)
  · rw [if_neg zero] at ran again
    split at ran
    · cases ran
    · next scaler looped =>
      split at again
      · cases again
      · next otherScaler loopedAgain =>
        rw [pow10Loop_unique looped loopedAgain] at ran
        exact Option.some.inj (ran.symm.trans again)

/-- `value * 10 ^ factor`, truncated toward zero. -/
def scaledBy (value : Int32) (factor : Int8) : Int :=
  if 0 ≤ factor.toInt then value.toInt * 10 ^ factor.toInt.natAbs
  else value.toInt.tdiv (10 ^ factor.toInt.natAbs)

structure Agree (value : Int32) (factor : Int8) : Prop where
  returns : ∃ rounds result, emUtilsPow10 rounds value factor = some result
  equal : FitsInt32 (10 ^ factor.toInt.natAbs) → FitsInt32 (scaledBy value factor) →
    ∃ rounds result, emUtilsPow10 rounds value factor = some result ∧
      result.overflowed = false ∧ result.number.toInt = scaledBy value factor ∧
      result.number.toInt = (value.toInt * (decodeScaler factor).1.number.toInt).tdiv
        (decodeScaler factor).2.number.toInt
  quiet : ¬ FitsInt32 (10 ^ factor.toInt.natAbs) →
    (∀ rounds result, emUtilsPow10 rounds value factor = some result →
      result.overflowed = false) ∧
    (decodeScaler factor).1.overflowed = false ∧ (decodeScaler factor).2.overflowed = false

section Small

variable {value : Int32} {factor : Int8}

theorem fitsInt32_pow_iff (count : Nat) : FitsInt32 (10 ^ count) ↔ count ≤ 9 := by
  rw [← pow_lt_iff]
  have positive : (0 : Int) < 10 ^ count := pow_pos (by decide) count
  exact ⟨And.right, fun fits => ⟨by omega, fits⟩⟩

/-- The multiplier and the divisor of a small factor. -/
theorem decodeScaler_small (value : Int32) (small : factor.toInt.natAbs ≤ 9) :
    (decodeScaler factor).1.overflowed = false ∧ (decodeScaler factor).2.overflowed = false ∧
      (value.toInt * (decodeScaler factor).1.number.toInt).tdiv
        (decodeScaler factor).2.number.toInt = scaledBy value factor := by
  obtain ⟨clean, power⟩ := decodeLoop_small small
  have unit : Scaled.one.number.toInt = 1 := rfl
  have zero : (0 : Int8).toInt = 0 := rfl
  rw [decodeScaler, scaledBy]
  by_cases none_ : factor = 0
  · subst none_
    exact ⟨rfl, rfl, Int.tdiv_one _⟩
  · rw [if_neg none_]
    by_cases positive : 0 < factor
    · have sign : 0 ≤ factor.toInt := by
        rw [Int8.lt_iff_toInt_lt, zero] at positive
        exact Int.le_of_lt positive
      rw [if_pos positive, if_pos sign, power, unit, Int.tdiv_one]
      exact ⟨clean, rfl, rfl⟩
    · have sign : ¬ 0 ≤ factor.toInt := by
        intro nonneg
        rw [Int8.lt_iff_toInt_lt, zero] at positive
        exact none_ (Int8.toInt_inj.mp (by omega))
      rw [if_neg positive, if_neg sign, power, unit, Int.mul_one]
      exact ⟨rfl, clean, rfl⟩

/-- A power of ten with its sign turned round. -/
theorem negated_small {count : Nat} (small : count ≤ 9) :
    (decodeLoop count .one).negated.overflowed = false ∧
      (decodeLoop count .one).negated.number.toInt = -10 ^ count := by
  interval_cases count <;> decide

/-- A number that is multiplied instead of divided. -/
theorem zero_of_mul_eq_tdiv {number power : Int} (large : 2 ≤ power)
    (same : -power * number = number.tdiv power) : number = 0 := by
  have sizes : power.natAbs * number.natAbs = number.natAbs / power.natAbs := by
    rw [← Int.natAbs_neg power, ← Int.natAbs_mul, same, Int.natAbs_neg]
    exact Int.natAbs_tdiv number power
  have shrinks : number.natAbs / power.natAbs ≤ number.natAbs := Nat.div_le_self _ _
  have grows : 2 * number.natAbs ≤ power.natAbs * number.natAbs :=
    Nat.mul_le_mul_right _ (by omega)
  omega

theorem fitsInt32_tdiv (value : Int32) {divisor : Int} (large : 2 ≤ divisor) :
    FitsInt32 (value.toInt.tdiv divisor) := by
  have low := value.le_toInt
  have high := value.toInt_lt
  have size : (value.toInt.tdiv divisor).natAbs = value.toInt.natAbs / divisor.natAbs :=
    Int.natAbs_tdiv _ _
  have half : value.toInt.natAbs / divisor.natAbs ≤ value.toInt.natAbs / 2 :=
    Nat.div_le_div_left (by omega) (by decide)
  constructor <;> omega

/-- A factor that is not negative is scaled as the claimed quotient. -/
theorem agree_of_nonneg (sign : 0 ≤ factor.toInt) (small : factor.toInt.natAbs ≤ 9) :
    Agree value factor := by
  obtain ⟨cleanMultiplier, cleanDivisor, quotient⟩ := decodeScaler_small value small
  by_cases none_ : factor = 0
  · subst none_
    have same : scaledBy value 0 = value.toInt := Int.mul_one _
    refine ⟨⟨1, _, rfl⟩, fun _ _ => ⟨1, ⟨value, false⟩, rfl, rfl, same.symm, ?_⟩,
      fun large => absurd ((fitsInt32_pow_iff _).mpr small) large⟩
    rw [quotient, same]
  · have ran := emUtilsPow10_returns none_ (by omega) value
    have positive : ¬ factor < 0 := by
      rw [Int8.lt_iff_toInt_lt]
      exact Int.not_lt.mpr sign
    rw [if_neg positive] at ran
    refine ⟨⟨_, _, ran⟩, fun _ fits => ⟨_, _, ran, ?_⟩,
      fun large => absurd ((fitsInt32_pow_iff _).mpr small) large⟩
    obtain ⟨clean, power⟩ := decodeLoop_small small
    have product : scaledBy value factor =
        (decodeLoop factor.toInt.natAbs .one).number.toInt * value.toInt := by
      rw [scaledBy, if_pos sign, power, Int.mul_comm]
    rw [quotient]
    rw [product] at fits ⊢
    exact ⟨(Scaled.times_overflowed_iff clean value).mpr fits, Scaled.toInt_times fits,
      Scaled.toInt_times fits⟩

/-- With a negative factor only zero is scaled as it should be. -/
theorem agree_neg_iff (sign : factor.toInt < 0) (small : factor.toInt.natAbs ≤ 9) :
    Agree value factor ↔ value = 0 := by
  obtain ⟨cleanMultiplier, cleanDivisor, quotient⟩ := decodeScaler_small value small
  obtain ⟨clean, power⟩ := negated_small small
  have none_ : factor ≠ 0 := by
    rintro rfl
    exact absurd sign (by decide)
  have negative : factor < 0 := by
    rw [Int8.lt_iff_toInt_lt]
    exact sign
  have ran := emUtilsPow10_returns none_ (by omega) value
  rw [if_pos negative] at ran
  have scaled : scaledBy value factor = value.toInt.tdiv (10 ^ factor.toInt.natAbs) :=
    if_neg (Int.not_le.mpr sign)
  have large : (2 : Int) ≤ 10 ^ factor.toInt.natAbs := by
    have more : (10 : Int) ^ 1 ≤ 10 ^ factor.toInt.natAbs :=
      pow_le_pow_right₀ (by decide) (by omega)
    omega
  constructor
  · intro agree
    have fits : FitsInt32 (scaledBy value factor) := by
      rw [scaled]
      exact fitsInt32_tdiv value large
    obtain ⟨rounds, result, ranOther, cleanResult, same, _⟩ :=
      agree.equal ((fitsInt32_pow_iff _).mpr small) fits
    rw [emUtilsPow10_unique ranOther ran] at cleanResult same
    rw [Scaled.times_overflowed_iff clean] at cleanResult
    rw [Scaled.toInt_times cleanResult, power, scaled] at same
    apply Int32.toInt_inj.mp
    exact zero_of_mul_eq_tdiv large same
  · rintro rfl
    have zero : (0 : Int32).toInt = 0 := rfl
    refine ⟨⟨_, _, ran⟩, fun _ fits => ⟨_, _, ran, ?_⟩,
      fun large => absurd ((fitsInt32_pow_iff _).mpr small) large⟩
    have fits_ : FitsInt32 ((decodeLoop factor.toInt.natAbs .one).negated.number.toInt *
        (0 : Int32).toInt) := by
      rw [zero, Int.mul_zero]
      exact ⟨by decide, by decide⟩
    rw [quotient, Scaled.toInt_times fits_, scaled, zero, Int.mul_zero, Int.zero_tdiv]
    exact ⟨(Scaled.times_overflowed_iff clean 0).mpr fits_, rfl, rfl⟩

end Small

/-- The scalers agree exactly on the powers that fit and, where the factor is negative, on zero. -/
theorem agree_iff (value : Int32) (factor : Int8) :
    Agree value factor ↔
      0 ≤ factor.toInt ∧ factor.toInt ≤ 9 ∨
        -9 ≤ factor.toInt ∧ factor.toInt < 0 ∧ value = 0 := by
  by_cases small : factor.toInt.natAbs ≤ 9
  · by_cases sign : 0 ≤ factor.toInt
    · exact iff_of_true (agree_of_nonneg sign small) (.inl ⟨sign, by omega⟩)
    · rw [agree_neg_iff (Int.not_le.mp sign) small]
      constructor
      · intro zero
        exact .inr ⟨by omega, Int.not_le.mp sign, zero⟩
      · rintro (⟨nonneg, _⟩ | ⟨_, _, zero⟩)
        · exact absurd nonneg sign
        · exact zero
  · refine iff_of_false (fun agree => ?_) (by omega)
    obtain ⟨_, multiplier, divisor⟩ := agree.quiet (by rw [fitsInt32_pow_iff]; exact small)
    have marked := decodeLoop_large (Nat.not_le.mp small)
    have none_ : factor ≠ 0 := by
      rintro rfl
      exact small (by decide)
    rw [decodeScaler, if_neg none_] at multiplier divisor
    split at multiplier
    case isTrue positive =>
      rw [marked] at multiplier
      cases multiplier
    case isFalse negative =>
      rw [if_neg negative, marked] at divisor
      cases divisor

/-- A hundred becomes minus ten thousand instead of one. -/
theorem hundred_not_agree :
    emUtilsPow10 3 100 (-2) = some ⟨-10000, false⟩ ∧ scaledBy 100 (-2) = 1 ∧
      ¬ Agree 100 (-2) := by
  have ran : emUtilsPow10 3 100 (-2) = some ⟨-10000, false⟩ := by decide
  refine ⟨ran, by decide, fun agree => ?_⟩
  obtain ⟨rounds, result, ranOther, _, same, _⟩ :=
    agree.equal (by decide) (by decide)
  rw [emUtilsPow10_unique ranOther ran] at same
  revert same
  decide

/-- With the least factor the loop never ends. -/
theorem least_factor_never_returns (rounds : Nat) (value : Int32) :
    emUtilsPow10 rounds value (-128) = none := by
  have counter : UInt8.ofNat (-128 : Int8).toInt.natAbs = 128 := by decide
  rw [emUtilsPow10, if_neg (by decide), counter, pow10Loop_never]

end EsInverter.Dispatcher
