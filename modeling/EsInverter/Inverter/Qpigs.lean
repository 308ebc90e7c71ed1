import EsInverter.Inverter.Energy
import EsInverter.Lib.Truncation
import EsInverter.Rs232.SubParsers

/-!
# Handing QPIGS to the inverter module

The handler scales the fields of a reply and passes them to the four setters and
to the status.  Its floating numbers are taken as exact.
-/

set_option autoImplicit false

namespace EsInverter.Inverter

open Lib Rs232

/-- The number that a decimal stands for; only finite ones lie within a width. -/
def number : Decimal → ℚ
  | .finite negative digits exponent =>
      (if negative then -(digits : ℚ) else digits) * 10 ^ exponent
  | .infinite _ | .nan => 0

/-- What the handler calls. -/
inductive QpigsCall
  | sample (taken : Sample)
  | invSetStatus (statusFlags : UInt32)
  | invStoreEnergyMeas
  deriving DecidableEq, Repr

def batterySample (rsp : QpigsResponse) : Except Undefined Sample :=
  if 0 < rsp.batteryDischargingCurrent then do
    let chargePower ← toInt16 (rsp.batteryDischargingCurrent.toInt * number rsp.batteryVoltage)
    let voltage ← toUInt16 (10 * number rsp.batteryVoltage)
    return .battery voltage (-chargePower)
  else do
    let chargePower ← toInt16 (rsp.batteryChargingCurrent.toInt * number rsp.batteryVoltage)
    let voltage ← toUInt16 (10 * number rsp.batteryVoltage)
    return .battery voltage chargePower

def invMeasQpigsHandler (rsp : QpigsResponse) : Except Undefined (List QpigsCall) := do
  let ratio ← divide (100 * rsp.acOutputActivePower.toInt) rsp.acOutputAppearentPower.toInt
  let powerFactor ← toUInt8 ratio
  let battery ← batterySample rsp
  let gridVoltage ← toUInt16 (10 * number rsp.gridVoltage)
  let gridFreq ← toUInt16 (number rsp.gridFrequency)
  let outVoltage ← toUInt16 (10 * number rsp.acOutputVoltage)
  let outFreq ← toUInt16 (number rsp.acOutputFrequency)
  let pvVoltage ← toUInt16 (10 * number rsp.pvInputVoltage)
  let outPower := rsp.acOutputActivePower.toUInt32.toUInt16
  let load := rsp.outputLoadPercent.toUInt32.toUInt8
  let status := rsp.deviceStatus1.toUInt32 + rsp.deviceStatus2.toUInt32 <<< 16
  return [
    .sample battery,
    .sample (.grid gridVoltage 0 gridFreq),
    .sample (.acOut outVoltage outPower outFreq load powerFactor),
    .sample (.pv 0 pvVoltage rsp.pvInputPower.toUInt32.toUInt16),
    .invSetStatus status,
    .invStoreEnergyMeas]

/-! ### What the setters document -/

/-- A call of a setter with the numbers that its arguments stand for. -/
inductive Measured
  | grid (voltage power freq : ℤ)
  | battery (voltage power : ℤ)
  | acOut (voltage power freq load powerFactor : ℤ)
  | pv (idx voltage power : ℤ)
  deriving DecidableEq, Repr

def Sample.measured : Sample → Measured
  | .grid voltage power freq => .grid voltage.toNat power.toInt freq.toNat
  | .battery voltage power => .battery voltage.toNat power.toInt
  | .acOut voltage power freq load powerFactor =>
      .acOut voltage.toNat power.toNat freq.toNat load.toNat powerFactor.toNat
  | .pv idx voltage power => .pv idx.toNat voltage.toNat power.toNat

def QpigsCall.measured : QpigsCall → Option Measured
  | .sample taken => some taken.measured
  | .invSetStatus _ | .invStoreEnergyMeas => none

/-- The battery power, negative while the battery is discharged. -/
def batteryPower (rsp : QpigsResponse) : ℤ :=
  if 0 < rsp.batteryDischargingCurrent then
    -truncate (rsp.batteryDischargingCurrent.toInt * number rsp.batteryVoltage)
  else truncate (rsp.batteryChargingCurrent.toInt * number rsp.batteryVoltage)

/-- Voltages and frequencies in tenths, powers in watts, the power factor in hundredths. -/
def documented (rsp : QpigsResponse) : List Measured :=
  [.battery (truncate (10 * number rsp.batteryVoltage)) (batteryPower rsp),
    .grid (truncate (10 * number rsp.gridVoltage)) 0 (truncate (10 * number rsp.gridFrequency)),
    .acOut (truncate (10 * number rsp.acOutputVoltage)) rsp.acOutputActivePower.toInt
      (truncate (10 * number rsp.acOutputFrequency)) rsp.outputLoadPercent.toInt
      (truncate (100 * rsp.acOutputActivePower.toInt / rsp.acOutputAppearentPower.toInt)),
    .pv 0 (truncate (10 * number rsp.pvInputVoltage)) rsp.pvInputPower.toInt]

/-- No division by zero, and every setter gets the field in its documented unit. -/
def Unchanged (rsp : QpigsResponse) : Prop :=
  ∃ calls, invMeasQpigsHandler rsp = .ok calls ∧ calls.filterMap QpigsCall.measured = documented rsp

/-- The fields are within the widths of the format. -/
structure WithinWidths (rsp : QpigsResponse) : Prop where
  gridVoltage : 0 ≤ number rsp.gridVoltage ∧ number rsp.gridVoltage ≤ 9999 / 10
  gridFrequency : 0 ≤ number rsp.gridFrequency ∧ number rsp.gridFrequency ≤ 999 / 10
  acOutputVoltage : 0 ≤ number rsp.acOutputVoltage ∧ number rsp.acOutputVoltage ≤ 9999 / 10
  acOutputFrequency : 0 ≤ number rsp.acOutputFrequency ∧ number rsp.acOutputFrequency ≤ 999 / 10
  batteryVoltage : 0 ≤ number rsp.batteryVoltage ∧ number rsp.batteryVoltage ≤ 9999 / 100
  pvInputVoltage : 0 ≤ number rsp.pvInputVoltage ∧ number rsp.pvInputVoltage ≤ 9999 / 10
  activePower : 0 ≤ rsp.acOutputActivePower.toInt ∧ rsp.acOutputActivePower.toInt ≤ 9999
  appearentPower : 0 ≤ rsp.acOutputAppearentPower.toInt ∧ rsp.acOutputAppearentPower.toInt ≤ 9999
  chargingCurrent : 0 ≤ rsp.batteryChargingCurrent.toInt ∧ rsp.batteryChargingCurrent.toInt ≤ 999
  dischargingCurrent :
    0 ≤ rsp.batteryDischargingCurrent.toInt ∧ rsp.batteryDischargingCurrent.toInt ≤ 999
  pvPower : 0 ≤ rsp.pvInputPower.toInt ∧ rsp.pvInputPower.toInt ≤ 99999
  load : 0 ≤ rsp.outputLoadPercent.toInt ∧ rsp.outputLoadPercent.toInt ≤ 100

/-- The current that the battery power is computed from. -/
def batteryCurrent (rsp : QpigsResponse) : ℤ :=
  if 0 < rsp.batteryDischargingCurrent then rsp.batteryDischargingCurrent.toInt
  else rsp.batteryChargingCurrent.toInt

/-- A load, no frequency, and powers and a power factor that fit their types. -/
structure Fitting (rsp : QpigsResponse) : Prop where
  loaded : rsp.acOutputAppearentPower.toInt ≠ 0
  factor : 100 * rsp.acOutputActivePower.toInt < 256 * rsp.acOutputAppearentPower.toInt
  battery : batteryCurrent rsp * number rsp.batteryVoltage < 2 ^ 15
  gridFrequency : number rsp.gridFrequency < 1 / 10
  outFrequency : number rsp.acOutputFrequency < 1 / 10
  pvPower : rsp.pvInputPower.toInt < 2 ^ 16

/-! ### One conversion -/

/-- A voltage in tenths always fits. -/
theorem exists_toUInt16 {number : ℚ} (nonneg : 0 ≤ number) (small : number < 2 ^ 16) :
    ∃ value, toUInt16 number = .ok value ∧ (value.toNat : ℤ) = truncate number := by
  have low := truncate_nonneg nonneg
  have high : truncate number < 2 ^ 16 := (truncate_lt_iff nonneg _).mpr (by exact_mod_cast small)
  have read : ((UInt16.ofNat (truncate number).toNat).toNat : ℤ) = truncate number := by
    rw [UInt16.toNat_ofNat']
    omega
  exact ⟨_, toUInt16_eq_ok_iff.mpr read, read⟩

theorem exists_toInt16_iff {number : ℚ} (nonneg : 0 ≤ number) :
    (∃ value, toInt16 number = .ok value) ↔ number < 2 ^ 15 := by
  have low := truncate_nonneg nonneg
  have bound : truncate number < 2 ^ 15 ↔ number < 2 ^ 15 := by
    rw [truncate_lt_iff nonneg]
    norm_num
  rw [← bound]
  constructor
  · rintro ⟨value, converted⟩
    have same := toInt16_eq_ok_iff.mp converted
    have high := value.toInt_lt
    omega
  · intro small
    have read : (Int16.ofInt (truncate number)).toInt = truncate number :=
      Int16.toInt_ofInt_of_le (by omega) small
    exact ⟨_, toInt16_eq_ok_iff.mpr read⟩

theorem exists_toUInt8_iff {number : ℚ} (nonneg : 0 ≤ number) :
    (∃ value, toUInt8 number = .ok value) ↔ number < 256 := by
  have low := truncate_nonneg nonneg
  have bound : truncate number < 256 ↔ number < 256 := by
    rw [truncate_lt_iff nonneg]
    norm_num
  rw [← bound]
  constructor
  · rintro ⟨value, converted⟩
    have same := toUInt8_eq_ok_iff.mp converted
    have high := value.toNat_lt
    omega
  · intro small
    have read : ((UInt8.ofNat (truncate number).toNat).toNat : ℤ) = truncate number := by
      rw [UInt8.toNat_ofNat']
      omega
    exact ⟨_, toUInt8_eq_ok_iff.mpr read⟩

/-! ### The handler -/

variable {rsp : QpigsResponse}

theorem tenfold_fits {number : ℚ} (bounds : 0 ≤ number ∧ number ≤ 9999 / 10) :
    0 ≤ 10 * number ∧ 10 * number < 2 ^ 16 := by
  obtain ⟨low, high⟩ := bounds
  constructor
  · positivity
  · linarith

theorem WithinWidths.battery_nonneg (widths : WithinWidths rsp) (current : Int32)
    (nonneg : 0 ≤ current.toInt) : 0 ≤ (current.toInt : ℚ) * number rsp.batteryVoltage :=
  mul_nonneg (by exact_mod_cast nonneg) widths.batteryVoltage.1

theorem measured_batterySample (widths : WithinWidths rsp) {sample : Sample}
    (sampled : batterySample rsp = .ok sample) :
    sample.measured =
      .battery (truncate (10 * number rsp.batteryVoltage)) (batteryPower rsp) := by
  rw [batterySample] at sampled
  rw [batteryPower]
  split at sampled
  · next discharging =>
      simp only [bind_eq_ok_iff, pure, Except.pure, Except.ok.injEq, toInt16_eq_ok_iff,
        toUInt16_eq_ok_iff] at sampled
      obtain ⟨chargePower, power, voltage, tenths, rfl⟩ := sampled
      have nonneg := truncate_nonneg
        (widths.battery_nonneg rsp.batteryDischargingCurrent widths.dischargingCurrent.1)
      have negated : (-chargePower).toInt = -chargePower.toInt := by
        have high := chargePower.toInt_lt
        rw [← power] at nonneg
        rw [Int16.toInt_neg]
        exact Int.bmod_eq_of_le (by norm_num; omega) (by norm_num; omega)
      rw [if_pos discharging, Sample.measured, negated, power, tenths]
  · next charging =>
      simp only [bind_eq_ok_iff, pure, Except.pure, Except.ok.injEq, toInt16_eq_ok_iff,
        toUInt16_eq_ok_iff] at sampled
      obtain ⟨chargePower, power, voltage, tenths, rfl⟩ := sampled
      rw [if_neg charging, Sample.measured, power, tenths]

theorem exists_batterySample_iff (widths : WithinWidths rsp) :
    (∃ sample, batterySample rsp = .ok sample) ↔
      batteryCurrent rsp * number rsp.batteryVoltage < 2 ^ 15 := by
  obtain ⟨voltage, converted, -⟩ : ∃ voltage, toUInt16 (10 * number rsp.batteryVoltage) =
      .ok voltage ∧ _ := by
    have bounds := widths.batteryVoltage
    exact exists_toUInt16 (by linarith) (by linarith)
  rw [batterySample, batteryCurrent]
  split
  · next discharging =>
      rw [← exists_toInt16_iff (widths.battery_nonneg _ widths.dischargingCurrent.1)]
      simp [bind_eq_ok_iff, converted, pure, Except.pure]
  · next charging =>
      rw [← exists_toInt16_iff (widths.battery_nonneg _ widths.chargingCurrent.1)]
      simp [bind_eq_ok_iff, converted, pure, Except.pure]

theorem toNat_toUInt32 {value : Int32} (nonneg : 0 ≤ value.toInt) :
    (value.toUInt32.toNat : ℤ) = value.toInt := by
  have signed : value.toInt = value.toBitVec.toInt := rfl
  have unsigned : value.toUInt32.toNat = value.toBitVec.toNat := rfl
  have bound := value.toBitVec.isLt
  rw [signed, BitVec.toInt_eq_toNat_cond] at nonneg
  rw [signed, unsigned, BitVec.toInt_eq_toNat_cond]
  by_cases low : 2 * value.toBitVec.toNat < 2 ^ 32
  · rw [if_pos low]
  · rw [if_neg low] at nonneg
    omega

/-- What the handler gives the setters. -/
theorem invMeasQpigsHandler_eq_ok_iff {calls : List QpigsCall} :
    invMeasQpigsHandler rsp = .ok calls ↔
      (rsp.acOutputAppearentPower.toInt : ℚ) ≠ 0 ∧
        ∃ powerFactor, toUInt8
            (100 * rsp.acOutputActivePower.toInt / rsp.acOutputAppearentPower.toInt) =
              .ok powerFactor ∧
        ∃ battery, batterySample rsp = .ok battery ∧
        ∃ gridVoltage, toUInt16 (10 * number rsp.gridVoltage) = .ok gridVoltage ∧
        ∃ gridFreq, toUInt16 (number rsp.gridFrequency) = .ok gridFreq ∧
        ∃ outVoltage, toUInt16 (10 * number rsp.acOutputVoltage) = .ok outVoltage ∧
        ∃ outFreq, toUInt16 (number rsp.acOutputFrequency) = .ok outFreq ∧
        ∃ pvVoltage, toUInt16 (10 * number rsp.pvInputVoltage) = .ok pvVoltage ∧
          [.sample battery, .sample (.grid gridVoltage 0 gridFreq),
            .sample (.acOut outVoltage rsp.acOutputActivePower.toUInt32.toUInt16 outFreq
              rsp.outputLoadPercent.toUInt32.toUInt8 powerFactor),
            .sample (.pv 0 pvVoltage rsp.pvInputPower.toUInt32.toUInt16),
            .invSetStatus (rsp.deviceStatus1.toUInt32 + rsp.deviceStatus2.toUInt32 <<< 16),
            .invStoreEnergyMeas] = calls := by
  simp only [invMeasQpigsHandler, bind_eq_ok_iff, divide_eq_ok_iff, pure, Except.pure,
    Except.ok.injEq, and_assoc, exists_and_left, exists_eq_left']

/-- The four calls as their setters read them. -/
theorem measured_eq_documented_iff (widths : WithinWidths rsp) {battery : Sample}
    {gridVoltage gridFreq outVoltage outFreq pvVoltage : UInt16} {powerFactor : UInt8}
    {status : UInt32} (sampled : batterySample rsp = .ok battery) :
    [QpigsCall.sample battery, .sample (.grid gridVoltage 0 gridFreq),
      .sample (.acOut outVoltage rsp.acOutputActivePower.toUInt32.toUInt16 outFreq
        rsp.outputLoadPercent.toUInt32.toUInt8 powerFactor),
      .sample (.pv 0 pvVoltage rsp.pvInputPower.toUInt32.toUInt16),
      .invSetStatus status, .invStoreEnergyMeas].filterMap QpigsCall.measured = documented rsp ↔
      (gridVoltage.toNat = truncate (10 * number rsp.gridVoltage) ∧
        gridFreq.toNat = truncate (10 * number rsp.gridFrequency)) ∧
      (outVoltage.toNat = truncate (10 * number rsp.acOutputVoltage) ∧
        outFreq.toNat = truncate (10 * number rsp.acOutputFrequency) ∧
        powerFactor.toNat = truncate
          (100 * rsp.acOutputActivePower.toInt / rsp.acOutputAppearentPower.toInt)) ∧
      pvVoltage.toNat = truncate (10 * number rsp.pvInputVoltage) ∧
        rsp.pvInputPower.toInt < 2 ^ 16 := by
  have power := toNat_toUInt32 widths.activePower.1
  have powerBound := widths.activePower.2
  have load := toNat_toUInt32 widths.load.1
  have loadBound := widths.load.2
  have pvPower := toNat_toUInt32 widths.pvPower.1
  have outPower : (rsp.acOutputActivePower.toUInt32.toUInt16.toNat : ℤ) =
      rsp.acOutputActivePower.toInt := by
    rw [UInt32.toNat_toUInt16]
    omega
  have outLoad : (rsp.outputLoadPercent.toUInt32.toUInt8.toNat : ℤ) =
      rsp.outputLoadPercent.toInt := by
    rw [UInt32.toNat_toUInt8]
    omega
  have pvFits : (rsp.pvInputPower.toUInt32.toUInt16.toNat : ℤ) = rsp.pvInputPower.toInt ↔
      rsp.pvInputPower.toInt < 2 ^ 16 := by
    rw [UInt32.toNat_toUInt16]
    omega
  have first : (QpigsCall.sample battery).measured = some (.battery
      (truncate (10 * number rsp.batteryVoltage)) (batteryPower rsp)) :=
    congrArg some (measured_batterySample widths sampled)
  have noPower : Int16.toInt 0 = 0 := rfl
  have noIdx : ((UInt8.toNat 0 : ℕ) : ℤ) = 0 := rfl
  rw [List.filterMap_cons, first]
  simp only [List.filterMap_cons, List.filterMap_nil, QpigsCall.measured, Sample.measured,
    documented, List.cons.injEq, Measured.grid.injEq, Measured.acOut.injEq, Measured.pv.injEq,
    outPower, outLoad, pvFits, noPower, noIdx, true_and, and_true]

theorem WithinWidths.factor_nonneg (widths : WithinWidths rsp) :
    (0 : ℚ) ≤ 100 * rsp.acOutputActivePower.toInt / rsp.acOutputAppearentPower.toInt := by
  have active : (0 : ℚ) ≤ rsp.acOutputActivePower.toInt := by exact_mod_cast widths.activePower.1
  have apparent : (0 : ℚ) ≤ rsp.acOutputAppearentPower.toInt := by
    exact_mod_cast widths.appearentPower.1
  positivity

theorem WithinWidths.factor_lt_iff (widths : WithinWidths rsp)
    (loaded : rsp.acOutputAppearentPower.toInt ≠ 0) :
    (100 * rsp.acOutputActivePower.toInt / rsp.acOutputAppearentPower.toInt : ℚ) < 256 ↔
      100 * rsp.acOutputActivePower.toInt < 256 * rsp.acOutputAppearentPower.toInt := by
  have positive : (0 : ℚ) < rsp.acOutputAppearentPower.toInt := by
    have nonneg := widths.appearentPower.1
    exact_mod_cast (by omega : 0 < rsp.acOutputAppearentPower.toInt)
  rw [div_lt_iff₀ positive]
  exact_mod_cast Iff.rfl

theorem Unchanged.fitting (unchanged : Unchanged rsp) (widths : WithinWidths rsp) :
    Fitting rsp := by
  obtain ⟨calls, handled, measured⟩ := unchanged
  obtain ⟨loaded, powerFactor, factor, battery, sampled, gridVoltage, -, gridFreq, grid,
    outVoltage, -, outFreq, out, pvVoltage, -, rfl⟩ := invMeasQpigsHandler_eq_ok_iff.mp handled
  obtain ⟨⟨-, gridTenths⟩, ⟨-, outTenths, -⟩, -, pvFits⟩ :=
    (measured_eq_documented_iff widths sampled).mp measured
  have apparent : rsp.acOutputAppearentPower.toInt ≠ 0 := by exact_mod_cast loaded
  refine ⟨apparent, ?_, (exists_batterySample_iff widths).mp ⟨battery, sampled⟩, ?_, ?_, pvFits⟩
  · exact (widths.factor_lt_iff apparent).mp
      ((exists_toUInt8_iff widths.factor_nonneg).mp ⟨powerFactor, factor⟩)
  · rw [← truncate_eq_truncate_ten_iff widths.gridFrequency.1, ← gridTenths]
    exact (toUInt16_eq_ok_iff.mp grid).symm
  · rw [← truncate_eq_truncate_ten_iff widths.acOutputFrequency.1, ← outTenths]
    exact (toUInt16_eq_ok_iff.mp out).symm

/-- The numbers reach the setters unchanged exactly if they fit and there is a load. -/
theorem unchanged_iff_fitting (widths : WithinWidths rsp) : Unchanged rsp ↔ Fitting rsp := by
  constructor
  · exact fun unchanged => unchanged.fitting widths
  · intro fitting
    have gridBounds := widths.gridFrequency
    have outBounds := widths.acOutputFrequency
    obtain ⟨powerFactor, factor⟩ := (exists_toUInt8_iff widths.factor_nonneg).mpr
      ((widths.factor_lt_iff fitting.loaded).mpr fitting.factor)
    obtain ⟨battery, sampled⟩ := (exists_batterySample_iff widths).mpr fitting.battery
    obtain ⟨gridVoltage, grid, gridRead⟩ :=
      exists_toUInt16 (tenfold_fits widths.gridVoltage).1 (tenfold_fits widths.gridVoltage).2
    obtain ⟨outVoltage, out, outRead⟩ :=
      exists_toUInt16 (tenfold_fits widths.acOutputVoltage).1 (tenfold_fits widths.acOutputVoltage).2
    obtain ⟨pvVoltage, pv, pvRead⟩ :=
      exists_toUInt16 (tenfold_fits widths.pvInputVoltage).1 (tenfold_fits widths.pvInputVoltage).2
    obtain ⟨gridFreq, gridHertz, gridFreqRead⟩ :=
      exists_toUInt16 gridBounds.1 (by linarith)
    obtain ⟨outFreq, outHertz, outFreqRead⟩ := exists_toUInt16 outBounds.1 (by linarith)
    refine ⟨_, invMeasQpigsHandler_eq_ok_iff.mpr ⟨by exact_mod_cast fitting.loaded, powerFactor,
      factor, battery, sampled, gridVoltage, grid, gridFreq, gridHertz, outVoltage, out, outFreq,
      outHertz, pvVoltage, pv, rfl⟩, ?_⟩
    refine (measured_eq_documented_iff widths sampled).mpr ⟨⟨gridRead, ?_⟩, ⟨outRead, ?_, ?_⟩,
      pvRead, fitting.pvPower⟩
    · rw [gridFreqRead]
      exact (truncate_eq_truncate_ten_iff gridBounds.1).mpr fitting.gridFrequency
    · rw [outFreqRead]
      exact (truncate_eq_truncate_ten_iff outBounds.1).mpr fitting.outFrequency
    · exact toUInt8_eq_ok_iff.mp factor

/-- A number of tenths or hundredths, as it is scanned. -/
def scaled (digits : Nat) (places : Nat) : Decimal := .finite false digits (-places)

/-- "237.3 50.0 220.4 50.0 0242 0067 005 455 27.80 000 100 0029 01.7 088.6 00.00 00000 ..." -/
def dayReply : QpigsResponse :=
  { gridVoltage := scaled 2373 1, gridFrequency := scaled 500 1, acOutputVoltage := scaled 2204 1
    acOutputFrequency := scaled 500 1, acOutputActivePower := 67, acOutputAppearentPower := 242
    outputLoadPercent := 5, busVoltage := 455, batteryVoltage := scaled 2780 2
    batteryChargingCurrent := 0, batteryDischargingCurrent := 0
    batteryVoltageFromScc := scaled 0 2, batteryCapacity := 100, temperature := 29
    pvInputCurrent := scaled 17 1, pvInputVoltage := scaled 886 1, pvInputPower := 157
    deviceStatus1 := 0xD6, batteryOffset := 0, eepromVersion := 0, deviceStatus2 := 6 }

theorem dayReply_withinWidths : WithinWidths dayReply where
  gridVoltage := by norm_num [dayReply, scaled, number]
  gridFrequency := by norm_num [dayReply, scaled, number]
  acOutputVoltage := by norm_num [dayReply, scaled, number]
  acOutputFrequency := by norm_num [dayReply, scaled, number]
  batteryVoltage := by norm_num [dayReply, scaled, number]
  pvInputVoltage := by norm_num [dayReply, scaled, number]
  activePower := by decide
  appearentPower := by decide
  chargingCurrent := by decide
  dischargingCurrent := by decide
  pvPower := by decide
  load := by decide

theorem dayReply_unchanged_iff : Unchanged dayReply ↔ Fitting dayReply :=
  unchanged_iff_fitting dayReply_withinWidths

/-- A grid of 50 Hz is handed over as one of 5 Hz. -/
theorem dayReply_changed : WithinWidths dayReply ∧ ¬ Unchanged dayReply := by
  refine ⟨dayReply_withinWidths, fun unchanged => ?_⟩
  have small := (unchanged.fitting dayReply_withinWidths).gridFrequency
  norm_num [dayReply, scaled, number] at small

end EsInverter.Inverter
