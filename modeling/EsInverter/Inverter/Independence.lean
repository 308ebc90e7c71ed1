import EsInverter.Lib.Unwinding
import EsInverter.Inverter.Integration

/-!
# Independence of the energy channels

Three channels are unwound on their own variables.  The AC output takes the time
of the last sample from the PV channel: with the times of the PV samples weighed
by the powers of the AC output added to it, its accumulator is unwound as well.
-/

set_option autoImplicit false

namespace EsInverter.Inverter

open Lib

inductive Channel
  | grid
  | battery
  | acOut
  | pv
  deriving DecidableEq, Repr

def Sample.channel : Sample → Channel
  | .grid _ _ _ => .grid
  | .battery _ _ => .battery
  | .acOut _ _ _ _ _ => .acOut
  | .pv _ _ _ => .pv

def Channel.accumulators : Channel → EnergyMeas → List Energy
  | grid, meas => [meas.gridConsumed, meas.gridProvided]
  | battery, meas => [meas.batteryCharge, meas.batteryDischarge]
  | acOut, meas => [meas.acOutput]
  | pv, meas => [meas.pv]

/-- The calls of one channel, with their times. -/
def Channel.mine (channel : Channel) (taken : Int64 × Sample) : Bool :=
  taken.2.channel = channel

section

variable {capacity : Nat} {PowerSet PowerHistory : Type}
variable (helpers : Helpers PowerSet PowerHistory)

def sampleStep (meters : Meters capacity PowerSet PowerHistory) (taken : Int64 × Sample) :
    Meters capacity PowerSet PowerHistory :=
  takeSample helpers taken.1 meters taken.2

/-- The power before an AC output sample times the time of the last PV sample. -/
def pvShare (meters : Meters capacity PowerSet PowerHistory) (taken : Int64 × Sample) : UInt64 :=
  match taken.2 with
  | .acOut _ _ _ _ _ =>
      if meters.acOutputMeas.timestamp = 0 then 0
      else
        ((helpers.lastEntry meters.acOutPowerHistory).toInt64 * meters.pvMeas.timestamp).toUInt64
  | _ => 0

/-- The state with the sum of the shares. -/
def sampleStepWithShare (state : Meters capacity PowerSet PowerHistory × UInt64)
    (taken : Int64 × Sample) : Meters capacity PowerSet PowerHistory × UInt64 :=
  (sampleStep helpers state.1 taken, state.2 + pvShare helpers state.1 taken)

variable (capacity) in
/-- The times of the PV samples before the AC output samples, weighed by the powers there. -/
def pvShares [NeZero capacity] (samples : List (Int64 × Sample)) : UInt64 :=
  (samples.foldl (sampleStepWithShare helpers)
    ((.initial helpers : Meters capacity PowerSet PowerHistory), 0)).2

/-! ### The three channels with clocks of their own -/

def gridView (meters : Meters capacity PowerSet PowerHistory) : GridMeas × List Energy :=
  (meters.gridMeas, Channel.grid.accumulators meters.energyMeas)

def batteryView (meters : Meters capacity PowerSet PowerHistory) : BatteryMeas × List Energy :=
  (meters.batteryMeas, Channel.battery.accumulators meters.energyMeas)

def pvView (meters : Meters capacity PowerSet PowerHistory) :
    PvMeas PowerSet × PowerHistory × List Energy :=
  (meters.pvMeas, meters.pvPowerHistory, Channel.pv.accumulators meters.energyMeas)

/-- A sample of a channel leaves the variables of the other channels as they were. -/
theorem sampleStep_frame (meters : Meters capacity PowerSet PowerHistory)
    (taken : Int64 × Sample) :
    (Channel.grid.mine taken = false →
        gridView (sampleStep helpers meters taken) = gridView meters) ∧
      (Channel.battery.mine taken = false →
        batteryView (sampleStep helpers meters taken) = batteryView meters) ∧
      (Channel.pv.mine taken = false →
        pvView (sampleStep helpers meters taken) = pvView meters) := by
  rcases taken with ⟨now, sample⟩
  simp only [gridView, batteryView, pvView, Channel.accumulators, sampleStep]
  cases sample with
  | grid _ _ _ =>
      refine ⟨fun other => (by cases other), ?_⟩
      simp only [takeSample, invSetMeasGrid, creditGrid]
      grind
  | battery _ _ =>
      refine ⟨?_, fun other => (by cases other), ?_⟩ <;>
        simp only [takeSample, invSetMeasBattery, creditBattery] <;> grind
  | acOut _ _ _ _ _ =>
      simp only [takeSample, invSetMeasAcOut, creditAcOut]
      grind
  | pv _ _ _ =>
      refine ⟨?_, ?_, fun other => (by cases other)⟩ <;>
        simp only [takeSample, invSetMeasPv, creditPv] <;> grind

theorem gridView_consistent (meters others : Meters capacity PowerSet PowerHistory)
    (taken : Int64 × Sample) (mine : Channel.grid.mine taken = true)
    (same : gridView meters = gridView others) :
    gridView (sampleStep helpers meters taken) = gridView (sampleStep helpers others taken) := by
  rcases taken with ⟨now, sample⟩
  cases sample with
  | grid voltage power freq =>
      simp only [gridView, Channel.accumulators, Prod.mk.injEq] at same
      simp only [gridView, sampleStep, takeSample, invSetMeasGrid, creditGrid,
        Channel.accumulators]
      grind
  | battery _ _ | acOut _ _ _ _ _ | pv _ _ _ => cases mine

theorem batteryView_consistent (meters others : Meters capacity PowerSet PowerHistory)
    (taken : Int64 × Sample) (mine : Channel.battery.mine taken = true)
    (same : batteryView meters = batteryView others) :
    batteryView (sampleStep helpers meters taken) =
      batteryView (sampleStep helpers others taken) := by
  rcases taken with ⟨now, sample⟩
  cases sample with
  | battery voltage power =>
      simp only [batteryView, Channel.accumulators, Prod.mk.injEq] at same
      simp only [batteryView, sampleStep, takeSample, invSetMeasBattery, creditBattery,
        Channel.accumulators]
      grind
  | grid _ _ _ | acOut _ _ _ _ _ | pv _ _ _ => cases mine

theorem pvView_consistent (meters others : Meters capacity PowerSet PowerHistory)
    (taken : Int64 × Sample) (mine : Channel.pv.mine taken = true)
    (same : pvView meters = pvView others) :
    pvView (sampleStep helpers meters taken) = pvView (sampleStep helpers others taken) := by
  rcases taken with ⟨now, sample⟩
  cases sample with
  | pv idx voltage power =>
      simp only [pvView, Channel.accumulators, Prod.mk.injEq] at same
      simp only [pvView, sampleStep, takeSample, invSetMeasPv, creditPv, Channel.accumulators]
      grind
  | grid _ _ _ | battery _ _ | acOut _ _ _ _ _ => cases mine

/-! ### The AC output -/

/-- The AC output's own variables, with the shares of the PV times taken out again. -/
def acOutView (state : Meters capacity PowerSet PowerHistory × UInt64) :
    AcOutputMeas PowerSet × PowerHistory × Int64 × UInt64 :=
  (state.1.acOutputMeas, state.1.acOutPowerHistory, state.1.energyMeas.acOutput.timestamp,
    state.1.energyMeas.acOutput.energy + state.2)

theorem acOutView_hidden (state : Meters capacity PowerSet PowerHistory × UInt64)
    (taken : Int64 × Sample) (other : Channel.acOut.mine taken = false) :
    acOutView (sampleStepWithShare helpers state taken) = acOutView state := by
  rcases taken with ⟨now, sample⟩
  cases sample with
  | grid _ _ _ =>
      simp only [acOutView, sampleStepWithShare, pvShare, sampleStep, takeSample, invSetMeasGrid,
        creditGrid]
      grind
  | battery _ _ =>
      simp only [acOutView, sampleStepWithShare, pvShare, sampleStep, takeSample,
        invSetMeasBattery, creditBattery]
      grind
  | acOut _ _ _ _ _ => cases other
  | pv _ _ _ =>
      simp only [acOutView, sampleStepWithShare, pvShare, sampleStep, takeSample, invSetMeasPv,
        creditPv]
      grind

/-- What an AC output sample adds is its time, weighed by the power, less its share. -/
theorem toUInt64_deltaEnergy (now timestamp : Int64) (history : PowerHistory) :
    (deltaEnergy helpers now timestamp history).toUInt64 +
        ((helpers.lastEntry history).toInt64 * timestamp).toUInt64 =
      ((helpers.lastEntry history).toInt64 * now).toUInt64 := by
  rw [deltaEnergy, ← Int64.toUInt64_add]
  congr 1
  grind

theorem acOutView_consistent (state others : Meters capacity PowerSet PowerHistory × UInt64)
    (taken : Int64 × Sample) (mine : Channel.acOut.mine taken = true)
    (same : acOutView state = acOutView others) :
    acOutView (sampleStepWithShare helpers state taken) =
      acOutView (sampleStepWithShare helpers others taken) := by
  rcases taken with ⟨now, sample⟩
  cases sample with
  | acOut voltage power freq load powerFactor =>
      have mineAdds := toUInt64_deltaEnergy helpers now state.1.pvMeas.timestamp
        state.1.acOutPowerHistory
      have othersAdd := toUInt64_deltaEnergy helpers now others.1.pvMeas.timestamp
        others.1.acOutPowerHistory
      simp only [acOutView, Prod.mk.injEq] at same
      simp only [acOutView, sampleStepWithShare, pvShare, sampleStep, takeSample,
        invSetMeasAcOut, creditAcOut, Energy.add]
      grind
  | grid _ _ _ | battery _ _ | pv _ _ _ => cases mine

/-! ### Two runs -/

theorem foldl_sampleStepWithShare (samples : List (Int64 × Sample))
    (state : Meters capacity PowerSet PowerHistory × UInt64) :
    (samples.foldl (sampleStepWithShare helpers) state).1 =
      samples.foldl (sampleStep helpers) state.1 := by
  induction samples generalizing state with
  | nil => rfl
  | cons taken rest ih => exact ih (sampleStepWithShare helpers state taken)

variable (capacity) [NeZero capacity]

/-- The AC output and its shares together depend on the AC output's calls only. -/
theorem acOutput_add_pvShares {samples others : List (Int64 × Sample)}
    (same : samples.filter Channel.acOut.mine = others.filter Channel.acOut.mine) :
    (afterSamples capacity helpers samples).energyMeas.acOutput.timestamp =
        (afterSamples capacity helpers others).energyMeas.acOutput.timestamp ∧
      (afterSamples capacity helpers samples).energyMeas.acOutput.energy +
          pvShares capacity helpers samples =
        (afterSamples capacity helpers others).energyMeas.acOutput.energy +
          pvShares capacity helpers others := by
  have views := view_foldl_eq (acOutView_consistent helpers) (acOutView_hidden helpers) same
    (Eq.refl (acOutView ((.initial helpers : Meters capacity PowerSet PowerHistory), 0)))
  simp only [acOutView, Prod.mk.injEq, foldl_sampleStepWithShare] at views
  exact views.2.2

/-- Same calls of a channel give the same accumulators, for the AC output exactly if the times of
the PV samples weigh the same. -/
theorem independent_iff (channel : Channel) (samples others : List (Int64 × Sample))
    (same : samples.filter channel.mine = others.filter channel.mine) :
    channel.accumulators (afterSamples capacity helpers samples).energyMeas =
        channel.accumulators (afterSamples capacity helpers others).energyMeas ↔
      (channel = .acOut → pvShares capacity helpers samples = pvShares capacity helpers others) := by
  cases channel with
  | grid =>
      have views := view_foldl_eq (gridView_consistent helpers)
        (fun meters taken => (sampleStep_frame helpers meters taken).1) same
        (Eq.refl (gridView (.initial helpers : Meters capacity PowerSet PowerHistory)))
      simp only [gridView, Prod.mk.injEq] at views
      constructor
      · intro _ other
        cases other
      · intro _
        exact views.2
  | battery =>
      have views := view_foldl_eq (batteryView_consistent helpers)
        (fun meters taken => (sampleStep_frame helpers meters taken).2.1) same
        (Eq.refl (batteryView (.initial helpers : Meters capacity PowerSet PowerHistory)))
      simp only [batteryView, Prod.mk.injEq] at views
      constructor
      · intro _ other
        cases other
      · intro _
        exact views.2
  | pv =>
      have views := view_foldl_eq (pvView_consistent helpers)
        (fun meters taken => (sampleStep_frame helpers meters taken).2.2) same
        (Eq.refl (pvView (.initial helpers : Meters capacity PowerSet PowerHistory)))
      simp only [pvView, Prod.mk.injEq] at views
      constructor
      · intro _ other
        cases other
      · intro _
        exact views.2.2
  | acOut =>
      obtain ⟨timestamps, sums⟩ := acOutput_add_pvShares capacity helpers same
      constructor
      · intro accumulators _
        have meters := (List.cons.inj accumulators).1
        rw [meters] at sums
        exact (add_right_inj _).mp sums
      · intro shares
        rw [shares rfl] at sums
        have energies := (add_left_inj _).mp sums
        exact congrArg (fun meter => [meter]) (Energy.ext timestamps energies)

end

/-! ### AC output samples behind PV samples -/

/-- Behind a PV sample, a minute of 1000 W on the AC output. -/
def acBehindPv : List (Int64 × Sample) :=
  [(900, .pv 0 3000 400), (1000, .acOut 2300 1000 500 20 100), (1060, .acOut 2300 700 500 20 100)]

/-- The same AC output, with the last PV sample at the same time and the other channels at work. -/
def acBehindOthers : List (Int64 × Sample) :=
  [(850, .grid 2300 300 500), (880, .pv 0 3000 200), (900, .pv 0 3100 900),
    (1000, .acOut 2300 1000 500 20 100), (1030, .battery 520 (-500)), (1040, .grid 2300 250 500),
    (1060, .acOut 2300 700 500 20 100), (1090, .pv 0 3000 100)]

theorem acOutput_agrees :
    (afterSamples 96 lastPower acBehindPv).energyMeas.acOutput.energy = 160000 ∧
      Channel.acOut.accumulators (afterSamples 96 lastPower acBehindPv).energyMeas =
        Channel.acOut.accumulators (afterSamples 96 lastPower acBehindOthers).energyMeas := by
  have samePv : pvShares 96 lastPower acBehindPv = pvShares 96 lastPower acBehindOthers := by
    decide +kernel
  refine ⟨by decide +kernel, ?_⟩
  exact (independent_iff 96 lastPower .acOut acBehindPv acBehindOthers (by decide)).mpr
    fun _ => samePv

/-! ### A PV sample between two AC output samples -/

/-- A minute of 1000 W on the AC output. -/
def acOnly : List (Int64 × Sample) :=
  [(1000, .acOut 2300 1000 500 20 100), (1060, .acOut 2300 1000 500 20 100)]

def acWithPv : List (Int64 × Sample) :=
  [(1000, .acOut 2300 1000 500 20 100), (1055, .pv 0 3000 400),
    (1060, .acOut 2300 1000 500 20 100)]

theorem acOutput_depends_on_pv :
    acOnly.filter Channel.acOut.mine = acWithPv.filter Channel.acOut.mine ∧
      Channel.acOut.accumulators (afterSamples 96 lastPower acOnly).energyMeas ≠
        Channel.acOut.accumulators (afterSamples 96 lastPower acWithPv).energyMeas := by
  constructor
  · decide
  · decide +kernel

end EsInverter.Inverter
