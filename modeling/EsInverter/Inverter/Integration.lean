import EsInverter.Inverter.Conservation

/-!
# Signed integration of the grid and battery power

The state is compared with the list of samples taken so far: what a sample adds
is the power of the previous sample of its channel times the time since then.
-/

set_option autoImplicit false

namespace EsInverter.Inverter

open Lib

/-- The channels whose power has a sign. -/
inductive SignedChannel
  | grid
  | battery
  deriving DecidableEq, Repr

namespace SignedChannel

def power : SignedChannel → Sample → Option Int16
  | grid, .grid _ power _ => some power
  | battery, .battery _ power => some power
  | _, _ => none

def positive : SignedChannel → Accumulator
  | grid => .gridConsumed
  | battery => .batteryCharge

def negative : SignedChannel → Accumulator
  | grid => .gridProvided
  | battery => .batteryDischarge

def product : SignedChannel → Int → Int → Int
  | grid, power, elapsed => power * elapsed + 500
  | battery, power, elapsed => power * elapsed

/-- The signed amount that a power gives over some time. -/
def amount : SignedChannel → Int → Int → Int
  | grid, power, elapsed => (grid.product power elapsed).tdiv 1000
  | battery, power, elapsed => battery.product power elapsed

/-- One sample of a list: the channel's last time and power, and the sum of its signed amounts. -/
def observe (channel : SignedChannel) (seen : Option (Int64 × Int16) × Int)
    (taken : Int64 × Sample) : Option (Int64 × Int16) × Int :=
  match channel.power taken.2, seen.1 with
  | none, _ => seen
  | some power, none => (some (taken.1, power), seen.2)
  | some power, some (since, before) =>
      (some (taken.1, power),
        seen.2 + channel.amount before.toInt (taken.1.toInt - since.toInt))

/-- The time and power of the last sample of the channel. -/
def last (channel : SignedChannel) (samples : List (Int64 × Sample)) : Option (Int64 × Int16) :=
  (samples.foldl channel.observe (none, 0)).1

/-- The sum of the signed amounts of the channel. -/
def signedTotal (channel : SignedChannel) (samples : List (Int64 × Sample)) : Int :=
  (samples.foldl channel.observe (none, 0)).2

end SignedChannel

section

variable {PowerSet PowerHistory : Type}
variable (capacity : Nat) [NeZero capacity] (helpers : Helpers PowerSet PowerHistory)

def afterSamples (samples : List (Int64 × Sample)) : Meters capacity PowerSet PowerHistory :=
  samples.foldl (fun meters taken => takeSample helpers taken.1 meters taken.2) (.initial helpers)

/-- What the samples brought an accumulator to. -/
def measured (samples : List (Int64 × Sample)) (accumulator : Accumulator) : Int :=
  accumulator.current (afterSamples capacity helpers samples).energyMeas

/-- What the channel's accumulators must do at the next sample. -/
def Integrated (channel : SignedChannel) (samples : List (Int64 × Sample))
    (next : Int64 × Sample) : Prop :=
  let before := measured capacity helpers samples
  let after := measured capacity helpers (samples ++ [next])
  match channel.power next.2, channel.last samples with
  | some _, some (since, power) =>
      let amount := channel.amount power.toInt (next.1.toInt - since.toInt)
      after channel.positive = before channel.positive + (if 0 < power.toInt then amount else 0) ∧
        after channel.negative = before channel.negative + (if power.toInt < 0 then |amount| else 0)
  | _, _ =>
      after channel.positive = before channel.positive ∧
        after channel.negative = before channel.negative

/-- The condition on a sample: the clock was set at the channel's previous sample, no grid power
was negative for any time, and the numbers fit their types. -/
def Measurable (channel : SignedChannel) (samples : List (Int64 × Sample))
    (next : Int64 × Sample) : Prop :=
  match channel.power next.2, channel.last samples with
  | some _, some (since, power) =>
      let elapsed := next.1.toInt - since.toInt
      let amount := channel.amount power.toInt elapsed
      let credited := if 0 < power.toInt then channel.positive else channel.negative
      (since ≠ 0 ∨ amount = 0) ∧ (channel = .grid → 0 ≤ power.toInt ∨ elapsed = 0) ∧
        -2 ^ 63 ≤ channel.product power.toInt elapsed ∧
        channel.product power.toInt elapsed < 2 ^ 63 ∧
        measured capacity helpers samples credited + |amount| < 2 ^ 64
  | _, _ => True

end

/-! ### The last sample of a channel -/

namespace SignedChannel

variable (channel : SignedChannel)

@[simp]
theorem last_nil : channel.last [] = none := rfl

theorem last_concat (samples : List (Int64 × Sample)) (next : Int64 × Sample) :
    channel.last (samples ++ [next]) =
      match channel.power next.2 with
      | none => channel.last samples
      | some power => some (next.1, power) := by
  rw [last, last, List.foldl_append, List.foldl_cons, List.foldl_nil, observe]
  cases channel.power next.2 with
  | none => rfl
  | some power => split <;> simp_all

/-- The next sample adds its signed amount. -/
theorem signedTotal_concat (samples : List (Int64 × Sample)) (next : Int64 × Sample) :
    channel.signedTotal (samples ++ [next]) =
      channel.signedTotal samples +
        match channel.power next.2, channel.last samples with
        | some _, some (since, power) => channel.amount power.toInt (next.1.toInt - since.toInt)
        | _, _ => 0 := by
  rw [signedTotal, signedTotal, last, List.foldl_append, List.foldl_cons, List.foldl_nil, observe]
  split <;> simp_all

end SignedChannel

/-! ### What the state remembers of the samples -/

section

variable {PowerSet PowerHistory : Type}
variable (capacity : Nat) [NeZero capacity] (helpers : Helpers PowerSet PowerHistory)

theorem afterSamples_concat (samples : List (Int64 × Sample)) (next : Int64 × Sample) :
    afterSamples capacity helpers (samples ++ [next]) =
      takeSample helpers next.1 (afterSamples capacity helpers samples) next.2 := by
  rw [afterSamples, afterSamples, List.foldl_append, List.foldl_cons, List.foldl_nil]

theorem gridMeas_afterSamples (samples : List (Int64 × Sample)) :
    match SignedChannel.grid.last samples with
    | none => (afterSamples capacity helpers samples).gridMeas.timestamp = 0
    | some (since, power) =>
        (afterSamples capacity helpers samples).gridMeas.timestamp = since ∧
          (afterSamples capacity helpers samples).gridMeas.power = power.toUInt16 := by
  induction samples using List.reverseRecOn with
  | nil => rfl
  | append_singleton samples next ih =>
      rw [afterSamples_concat, SignedChannel.last_concat]
      rcases next with ⟨now, sample⟩
      cases sample with
      | grid voltage power freq => exact ⟨rfl, rfl⟩
      | battery _ _ | acOut _ _ _ _ _ => exact ih
      | pv idx voltage power =>
          rw [takeSample, invSetMeasPv_gridMeas]
          exact ih

theorem batteryMeas_afterSamples (samples : List (Int64 × Sample)) :
    match SignedChannel.battery.last samples with
    | none => (afterSamples capacity helpers samples).batteryMeas.timestamp = 0
    | some (since, power) =>
        (afterSamples capacity helpers samples).batteryMeas.timestamp = since ∧
          (afterSamples capacity helpers samples).batteryMeas.chargePower = power.toInt32 := by
  induction samples using List.reverseRecOn with
  | nil => rfl
  | append_singleton samples next ih =>
      rw [afterSamples_concat, SignedChannel.last_concat]
      rcases next with ⟨now, sample⟩
      cases sample with
      | battery voltage power => exact ⟨rfl, rfl⟩
      | grid _ _ _ | acOut _ _ _ _ _ => exact ih
      | pv idx voltage power =>
          rw [takeSample, invSetMeasPv_batteryMeas]
          exact ih

end

/-! ### The amounts the code computes -/

theorem toInt_stored {power : Int16} (unsigned : 0 ≤ power.toInt) :
    power.toUInt16.toUInt64.toInt64.toInt = power.toInt := by
  have small := power.toBitVec.isLt
  have signed : power.toInt = power.toBitVec.toInt := rfl
  have widened : power.toUInt16.toUInt64.toInt64.toInt =
      power.toUInt16.toUInt64.toInt64.toBitVec.toInt := rfl
  have bits : power.toUInt16.toUInt64.toInt64.toBitVec.toNat = power.toBitVec.toNat :=
    UInt16.toNat_toUInt64 power.toUInt16
  rw [signed, BitVec.toInt_eq_toNat_cond] at unsigned
  rw [widened, signed, BitVec.toInt_eq_toNat_cond, BitVec.toInt_eq_toNat_cond, bits]
  split at unsigned <;> split <;> omega

/-- A grid power that was not negative is multiplied as it is. -/
theorem gridMeas_deltaEnergy {meas : GridMeas} {power : Int16} (now : Int64)
    (same : meas.power = power.toUInt16)
    (unsigned : 0 ≤ power.toInt ∨ now.toInt - meas.timestamp.toInt = 0)
    (low : -2 ^ 63 ≤ SignedChannel.grid.product power.toInt (now.toInt - meas.timestamp.toInt))
    (high : SignedChannel.grid.product power.toInt (now.toInt - meas.timestamp.toInt) < 2 ^ 63) :
    (meas.deltaEnergy now).toInt =
      SignedChannel.grid.amount power.toInt (now.toInt - meas.timestamp.toInt) := by
  have thousand : (1000 : Int64).toInt = 1000 := by decide
  have rounding : (500 : Int64).toInt = 500 := by decide
  have product : power.toUInt16.toUInt64.toInt64.toInt * (now.toInt - meas.timestamp.toInt) =
      power.toInt * (now.toInt - meas.timestamp.toInt) := by
    rcases unsigned with positive | still
    · rw [toInt_stored positive]
    · rw [still, mul_zero, mul_zero]
  have computed :
      (meas.power.toUInt64.toInt64 * (now - meas.timestamp) + 500).toInt =
        SignedChannel.grid.product power.toInt (now.toInt - meas.timestamp.toInt) := by
    rw [same, Int64.toInt_add, Int64.toInt_mul, Int64.toInt_sub, Int.mul_bmod_bmod,
      Int.bmod_add_bmod, rounding, product]
    exact bmod_of_fits low high
  rw [GridMeas.deltaEnergy, Int64.toInt_div_of_ne_right _ _ (by decide), computed, thousand]
  rfl

theorem batteryMeas_deltaEnergy {meas : BatteryMeas} {power : Int16} (now : Int64)
    (same : meas.chargePower = power.toInt32)
    (low : -2 ^ 63 ≤ SignedChannel.battery.product power.toInt (now.toInt - meas.timestamp.toInt))
    (high : SignedChannel.battery.product power.toInt (now.toInt - meas.timestamp.toInt) < 2 ^ 63) :
    (meas.deltaEnergy now).toInt =
      SignedChannel.battery.amount power.toInt (now.toInt - meas.timestamp.toInt) := by
  rw [SignedChannel.product] at low high
  rw [BatteryMeas.deltaEnergy, same, Int64.toInt_mul, Int64.toInt_sub, Int32.toInt_toInt64,
    Int16.toInt_toInt32, Int.mul_bmod_bmod]
  exact bmod_of_fits low high

namespace SignedChannel

variable (channel : SignedChannel)

theorem amount_nonneg {power elapsed : Int} (positive : 0 ≤ power) (forward : 0 ≤ elapsed) :
    0 ≤ channel.amount power elapsed := by
  have product : 0 ≤ power * elapsed := mul_nonneg positive forward
  cases channel with
  | grid => exact Int.tdiv_nonneg (by rw [SignedChannel.product]; omega) (by norm_num)
  | battery => exact product

theorem amount_nonpos {power elapsed : Int} (negative : power ≤ 0) (forward : 0 ≤ elapsed) :
    channel.amount power elapsed ≤ 0 := by
  have product : power * elapsed ≤ 0 := mul_nonpos_of_nonpos_of_nonneg negative forward
  cases channel with
  | grid =>
      calc (power * elapsed + 500).tdiv 1000
          ≤ (500 : Int).tdiv 1000 := Int.tdiv_le_tdiv (by norm_num) (by omega)
        _ = 0 := by decide
  | battery => exact product

theorem amount_zero (elapsed : Int) : channel.amount 0 elapsed = 0 := by
  cases channel with
  | grid =>
      rw [amount, SignedChannel.product, zero_mul]
      decide
  | battery => exact zero_mul elapsed

end SignedChannel

/-! ### What a sample credits -/

section

variable {capacity : Nat} {PowerSet PowerHistory : Type}

/-- The time of the channel's last sample, as the code has it. -/
def SignedChannel.timestamp (meters : Meters capacity PowerSet PowerHistory) :
    SignedChannel → Int64
  | grid => meters.gridMeas.timestamp
  | battery => meters.batteryMeas.timestamp

/-- The amount the code computes. -/
def SignedChannel.delta (now : Int64)
    (meters : Meters capacity PowerSet PowerHistory) : SignedChannel → Int64
  | grid => meters.gridMeas.deltaEnergy now
  | battery => meters.batteryMeas.deltaEnergy now

variable (helpers : Helpers PowerSet PowerHistory)

/-- A sample of another channel credits neither accumulator. -/
theorem credit_other {channel : SignedChannel} {sample : Sample}
    (other : channel.power sample = none) (now : Int64)
    (meters : Meters capacity PowerSet PowerHistory) :
    credit helpers meters (.sample now sample) channel.positive = 0 ∧
      credit helpers meters (.sample now sample) channel.negative = 0 := by
  cases channel <;> cases sample <;> simp [SignedChannel.power] at other <;>
    simp only [credit, creditOf, SignedChannel.positive, SignedChannel.negative] <;>
    constructor <;> grind

theorem credit_unset {channel : SignedChannel} {now : Int64} {sample : Sample}
    {meters : Meters capacity PowerSet PowerHistory} (unset : channel.timestamp meters = 0)
    (taken : channel.power sample ≠ none) (accumulator : Accumulator) :
    credit helpers meters (.sample now sample) accumulator = 0 := by
  cases channel <;> cases sample <;> simp [SignedChannel.power] at taken <;>
    rw [SignedChannel.timestamp] at unset <;> simp [credit, creditOf, unset]

/-- The sign of the computed amount decides which accumulator is credited. -/
theorem credit_set {channel : SignedChannel} {now : Int64} {sample : Sample}
    {meters : Meters capacity PowerSet PowerHistory} (set : channel.timestamp meters ≠ 0)
    (taken : channel.power sample ≠ none) :
    credit helpers meters (.sample now sample) channel.positive =
        max (channel.delta now meters).toInt 0 ∧
      credit helpers meters (.sample now sample) channel.negative =
        max (-(channel.delta now meters).toInt) 0 := by
  have zero : (0 : Int64).toInt = 0 := rfl
  cases channel with
  | grid =>
      rw [SignedChannel.timestamp] at set
      cases sample <;> simp [SignedChannel.power] at taken
      rw [SignedChannel.delta, SignedChannel.positive, SignedChannel.negative, credit, credit,
        creditOf]
      rw [if_neg set]
      by_cases nonneg : 0 ≤ meters.gridMeas.deltaEnergy now
      · rw [if_pos nonneg]
        rw [Int64.le_iff_toInt_le, zero] at nonneg
        simp
        omega
      · rw [if_neg nonneg]
        rw [Int64.le_iff_toInt_le, zero] at nonneg
        simp
        omega
  | battery =>
      rw [SignedChannel.timestamp] at set
      cases sample <;> simp [SignedChannel.power] at taken
      rw [SignedChannel.delta, SignedChannel.positive, SignedChannel.negative, credit, credit,
        creditOf]
      rw [if_neg set]
      by_cases positive : 0 < meters.batteryMeas.deltaEnergy now
      · rw [if_pos positive]
        rw [Int64.lt_iff_toInt_lt, zero] at positive
        simp
        omega
      · rw [if_neg positive]
        rw [Int64.lt_iff_toInt_lt, zero] at positive
        simp
        omega

end

section

variable {PowerSet PowerHistory : Type}
variable (capacity : Nat) [NeZero capacity] (helpers : Helpers PowerSet PowerHistory)

theorem measured_nonneg (samples : List (Int64 × Sample)) (accumulator : Accumulator) :
    0 ≤ measured capacity helpers samples accumulator ∧
      measured capacity helpers samples accumulator < 2 ^ 64 := by
  have small := current_lt (afterSamples capacity helpers samples) accumulator
  rw [measured]
  omega

theorem measured_concat (samples : List (Int64 × Sample)) (next : Int64 × Sample)
    (accumulator : Accumulator) :
    measured capacity helpers (samples ++ [next]) accumulator =
      (measured capacity helpers samples accumulator +
        credit helpers (afterSamples capacity helpers samples) (.sample next.1 next.2)
          accumulator) % 2 ^ 64 := by
  rw [measured, measured, afterSamples_concat]
  exact current_takeSample helpers next.1 next.2 _ accumulator

/-- What the code has of the channel's last sample. -/
theorem timestamp_afterSamples (channel : SignedChannel) (samples : List (Int64 × Sample)) :
    channel.timestamp (afterSamples capacity helpers samples) =
      match channel.last samples with
      | none => 0
      | some (since, _) => since := by
  cases channel with
  | grid =>
      have remembered := gridMeas_afterSamples capacity helpers samples
      rw [SignedChannel.timestamp]
      split <;> simp_all
  | battery =>
      have remembered := batteryMeas_afterSamples capacity helpers samples
      rw [SignedChannel.timestamp]
      split <;> simp_all

theorem delta_afterSamples {channel : SignedChannel} {samples : List (Int64 × Sample)}
    {since : Int64} {power : Int16} (previous : channel.last samples = some (since, power))
    (now : Int64)
    (unsigned : channel = .grid → 0 ≤ power.toInt ∨ now.toInt - since.toInt = 0)
    (low : -2 ^ 63 ≤ channel.product power.toInt (now.toInt - since.toInt))
    (high : channel.product power.toInt (now.toInt - since.toInt) < 2 ^ 63) :
    (channel.delta now (afterSamples capacity helpers samples)).toInt =
      channel.amount power.toInt (now.toInt - since.toInt) := by
  cases channel with
  | grid =>
      have remembered := gridMeas_afterSamples capacity helpers samples
      rw [previous] at remembered
      obtain ⟨atTime, samePower⟩ := remembered
      rw [SignedChannel.delta]
      rw [← atTime] at unsigned low high ⊢
      exact gridMeas_deltaEnergy now samePower (unsigned rfl) low high
  | battery =>
      have remembered := batteryMeas_afterSamples capacity helpers samples
      rw [previous] at remembered
      obtain ⟨atTime, samePower⟩ := remembered
      rw [SignedChannel.delta]
      rw [← atTime] at low high ⊢
      exact batteryMeas_deltaEnergy now samePower low high

theorem last_before {channel : SignedChannel} {samples : List (Int64 × Sample)} {now : Int64}
    {since : Int64} {power : Int16} (previous : channel.last samples = some (since, power))
    (ordered : ∀ taken ∈ samples, taken.1 ≤ now) : since ≤ now := by
  induction samples using List.reverseRecOn with
  | nil => cases previous
  | append_singleton samples last ih =>
      rw [SignedChannel.last_concat] at previous
      split at previous
      · exact ih previous fun taken inside => ordered taken (by simp [inside])
      · cases previous
        exact ordered last (by simp)

/-- The step: a measurable sample is integrated. -/
theorem integrated_of_measurable (channel : SignedChannel) (samples : List (Int64 × Sample))
    (next : Int64 × Sample) (ordered : ∀ taken ∈ samples, taken.1 ≤ next.1)
    (measurable : Measurable capacity helpers channel samples next) :
    Integrated capacity helpers channel samples next := by
  have positiveBound := measured_nonneg capacity helpers samples channel.positive
  have negativeBound := measured_nonneg capacity helpers samples channel.negative
  have since := timestamp_afterSamples capacity helpers channel samples
  rw [Integrated, measured_concat, measured_concat]
  rw [Measurable] at measurable
  cases taken : channel.power next.2 with
  | none =>
      obtain ⟨noPositive, noNegative⟩ :=
        credit_other helpers taken next.1 (afterSamples capacity helpers samples)
      rw [noPositive, noNegative]
      dsimp only
      omega
  | some power =>
      cases previous : channel.last samples with
      | none =>
          rw [previous] at since
          rw [credit_unset helpers since (by simp [taken]),
            credit_unset helpers since (by simp [taken])]
          dsimp only
          omega
      | some last =>
          rcases last with ⟨before, lastPower⟩
          rw [previous] at since measurable
          rw [taken] at measurable
          dsimp only at since measurable ⊢
          obtain ⟨wasSet, unsigned, low, high, fits⟩ := measurable
          have forward : 0 ≤ next.1.toInt - before.toInt := by
            have order := Int64.le_iff_toInt_le.mp (last_before previous ordered)
            omega
          have computed := delta_afterSamples capacity helpers previous next.1 unsigned low high
          have upward (positive : 0 ≤ lastPower.toInt) :=
            channel.amount_nonneg positive forward
          have downward (negative : lastPower.toInt ≤ 0) :=
            channel.amount_nonpos negative forward
          generalize channel.amount lastPower.toInt (next.1.toInt - before.toInt) = amount at *
          by_cases unset : before = 0
          · have nothing : amount = 0 := wasSet.resolve_left fun set => set unset
            rw [unset] at since
            rw [credit_unset helpers since (by simp [taken]),
              credit_unset helpers since (by simp [taken]), nothing]
            simp
            omega
          · rw [← since] at unset
            obtain ⟨onPositive, onNegative⟩ :=
              credit_set helpers unset (by simp [taken] : channel.power next.2 ≠ none)
            rw [onPositive, onNegative, computed]
            rcases lt_trichotomy lastPower.toInt 0 with negative | zero | positive
            · have down := downward negative.le
              rw [if_neg (by omega), abs_of_nonpos down] at fits
              rw [if_neg (by omega), if_pos negative, abs_of_nonpos down]
              omega
            · have down := downward zero.le
              have up := upward zero.ge
              rw [if_neg (by omega), if_neg (by omega)]
              omega
            · have up := upward positive.le
              rw [if_pos positive, abs_of_nonneg up] at fits
              rw [if_pos positive, if_neg (by omega)]
              omega

/-! ### Sequences of samples -/

/-- A growth of the accumulators is one of the two, and never a loss. -/
theorem grows_of_integrated {channel : SignedChannel} {samples : List (Int64 × Sample)}
    {next : Int64 × Sample} (ordered : ∀ taken ∈ samples, taken.1 ≤ next.1)
    (integrated : Integrated capacity helpers channel samples next) :
    measured capacity helpers samples channel.positive ≤
        measured capacity helpers (samples ++ [next]) channel.positive ∧
      measured capacity helpers samples channel.negative ≤
        measured capacity helpers (samples ++ [next]) channel.negative := by
  rw [Integrated] at integrated
  split at integrated
  · next since power taken previous =>
      obtain ⟨positive, negative⟩ := integrated
      rw [positive, negative]
      have forward : 0 ≤ next.1.toInt - since.toInt := by
        have order := Int64.le_iff_toInt_le.mp (last_before previous ordered)
        omega
      constructor
      · split
        · next consumed =>
            have up := channel.amount_nonneg consumed.le forward
            omega
        · omega
      · split
        · next provided =>
            have size := abs_nonneg (channel.amount power.toInt (next.1.toInt - since.toInt))
            omega
        · omega
  · exact ⟨integrated.1.ge, integrated.2.ge⟩

/-- The difference of the accumulators moves by the signed amount. -/
theorem difference_of_integrated {channel : SignedChannel} {samples : List (Int64 × Sample)}
    {next : Int64 × Sample} (ordered : ∀ taken ∈ samples, taken.1 ≤ next.1)
    (integrated : Integrated capacity helpers channel samples next)
    (before : measured capacity helpers samples channel.positive -
      measured capacity helpers samples channel.negative = channel.signedTotal samples) :
    measured capacity helpers (samples ++ [next]) channel.positive -
        measured capacity helpers (samples ++ [next]) channel.negative =
      channel.signedTotal (samples ++ [next]) := by
  rw [SignedChannel.signedTotal_concat, ← before]
  rw [Integrated] at integrated
  split at integrated
  · next since power taken previous =>
      obtain ⟨positive, negative⟩ := integrated
      have forward : 0 ≤ next.1.toInt - since.toInt := by
        have order := Int64.le_iff_toInt_le.mp (last_before previous ordered)
        omega
      rw [positive, negative]
      rcases lt_trichotomy power.toInt 0 with provided | zero | consumed
      · rw [if_neg (by omega), if_pos provided,
          abs_of_nonpos (channel.amount_nonpos provided.le forward)]
        omega
      · rw [if_neg (by omega), if_neg (by omega), zero, channel.amount_zero]
        omega
      · rw [if_pos consumed, if_neg (by omega)]
        omega
  · obtain ⟨positive, negative⟩ := integrated
    rw [positive, negative]
    omega

/-- Samples at times that never go back are integrated with their sign, if each is measurable. -/
theorem integrated_of_measurables (samples : List (Int64 × Sample))
    (ordered : samples.Pairwise fun earlier later => earlier.1 ≤ later.1)
    (measurable : ∀ channel earlier next, earlier ++ [next] <+: samples →
      Measurable capacity helpers channel earlier next) (channel : SignedChannel) :
    (∀ earlier next, earlier ++ [next] <+: samples →
      Integrated capacity helpers channel earlier next ∧
        measured capacity helpers earlier channel.positive ≤
          measured capacity helpers (earlier ++ [next]) channel.positive ∧
        measured capacity helpers earlier channel.negative ≤
          measured capacity helpers (earlier ++ [next]) channel.negative) ∧
      ∀ earlier, earlier <+: samples →
        measured capacity helpers earlier channel.positive -
          measured capacity helpers earlier channel.negative = channel.signedTotal earlier := by
  have before {earlier : List (Int64 × Sample)} {next : Int64 × Sample}
      (reached : earlier ++ [next] <+: samples) : ∀ taken ∈ earlier, taken.1 ≤ next.1 := by
    have part := ordered.sublist reached.sublist
    intro taken inside
    exact (List.pairwise_append.mp part).2.2 taken inside next (by simp)
  have step {earlier : List (Int64 × Sample)} {next : Int64 × Sample}
      (reached : earlier ++ [next] <+: samples) :
      Integrated capacity helpers channel earlier next :=
    integrated_of_measurable capacity helpers channel earlier next (before reached)
      (measurable channel earlier next reached)
  constructor
  · intro earlier next reached
    exact ⟨step reached, grows_of_integrated capacity helpers (before reached) (step reached)⟩
  · intro earlier reached
    induction earlier using List.reverseRecOn with
    | nil =>
        cases channel <;> rfl
    | append_singleton earlier next ih =>
        exact difference_of_integrated capacity helpers (before reached) (step reached)
          (ih ((List.prefix_append _ _).trans reached))

end

/-- A minute of 1000 W taken from the grid. -/
def takingOut : List (Int64 × Sample) :=
  [(100, .grid 2300 1000 500), (160, .grid 2300 0 500)]

theorem integrated_takingOut :
    measured 96 lastPower takingOut .gridConsumed - measured 96 lastPower takingOut .gridProvided =
      SignedChannel.grid.signedTotal takingOut := by
  refine (integrated_of_measurables 96 lastPower takingOut
    (by simp only [takingOut]; decide) ?_ .grid).2 _ (List.prefix_refl _)
  intro channel earlier next reached
  obtain ⟨rest, whole⟩ := reached
  rcases earlier with - | ⟨first, - | ⟨second, more⟩⟩
  · obtain ⟨rfl, -⟩ := List.cons.inj whole
    cases channel <;> exact trivial
  · obtain ⟨rfl, later⟩ := List.cons.inj whole
    obtain ⟨rfl, -⟩ := List.cons.inj later
    cases channel with
    | grid =>
        refine ⟨.inl (by decide), fun _ => .inl (by decide), by decide, by decide, ?_⟩
        have fits : measured 96 lastPower [(100, .grid 2300 1000 500)] .gridConsumed + |60| <
            2 ^ 64 := by
          decide +kernel
        exact fits
    | battery => exact trivial
  · have lengths := congrArg List.length whole
    simp [takingOut] at lengths

/-! ### A house that feeds in -/

/-- A minute of 1000 W provided to the grid, and then consumed. -/
def feedingIn : List (Int64 × Sample) :=
  [(100, .grid 2300 (-1000) 500), (160, .grid 2300 1000 500)]

theorem feedingIn_not_integrated :
    feedingIn.Pairwise (fun earlier later => earlier.1 ≤ later.1) ∧
      ¬ ∀ channel earlier next, earlier ++ [next] <+: feedingIn →
        Integrated 96 lastPower channel earlier next := by
  refine ⟨by simp only [feedingIn]; decide, ?_⟩
  intro integrated
  have last := integrated .grid [(100, .grid 2300 (-1000) 500)] (160, .grid 2300 1000 500)
    (List.prefix_refl _)
  have consumed : measured 96 lastPower
      ([(100, .grid 2300 (-1000) 500)] ++ [(160, .grid 2300 1000 500)]) .gridConsumed =
        measured 96 lastPower [(100, .grid 2300 (-1000) 500)] .gridConsumed + 0 := last.1
  revert consumed
  decide +kernel

end EsInverter.Inverter
