import Mathlib

/-!
# The energy meters of the inverter module

Four setters integrate the power of their channel over time into the
accumulators of `inv_energy_meas_t`; `inv_store_energy_meas` moves them into a
history.  The helpers `power_history_*` and `em_utils_set_uint16_*` are a
parameter: they work on the object they are given.  Arithmetic on `time_t`
wraps, as the compiled code does.
-/

set_option autoImplicit false

namespace EsInverter.Inverter

/-- `MAX_PV_INPUTS` -/
def maxPvInputs : UInt8 := 1

/-- `min_energy_diff` -/
def minEnergyDiff : UInt64 := 250 * 3600

/-- `energy_t` -/
@[ext]
structure Energy where
  timestamp : Int64
  energy : UInt64
  deriving DecidableEq, Repr, Inhabited

namespace Energy

def zero : Energy := { timestamp := 0, energy := 0 }

/-- `energy += delta_energy` -/
def add (delta : Int64) (meter : Energy) : Energy :=
  { meter with energy := meter.energy + delta.toUInt64 }

/-- `energy -= delta_energy` -/
def sub (delta : Int64) (meter : Energy) : Energy :=
  { meter with energy := meter.energy - delta.toUInt64 }

end Energy

/-- `inv_energy_meas_t` -/
structure EnergyMeas where
  gridConsumed : Energy
  gridProvided : Energy
  acOutput : Energy
  pv : Energy
  batteryCharge : Energy
  batteryDischarge : Energy
  deriving DecidableEq, Repr

def EnergyMeas.zero : EnergyMeas :=
  { gridConsumed := .zero, gridProvided := .zero, acOutput := .zero, pv := .zero,
    batteryCharge := .zero, batteryDischarge := .zero }

/-- `inv_grid_meas_t` -/
structure GridMeas where
  timestamp : Int64
  voltage : UInt16
  power : UInt16
  freq : UInt16
  deriving DecidableEq, Repr

/-- `inv_battery_meas_t` -/
structure BatteryMeas where
  timestamp : Int64
  voltage : UInt16
  chargePower : Int32
  deriving DecidableEq, Repr

/-- `inv_ac_output_meas_t` -/
structure AcOutputMeas (PowerSet : Type) where
  timestamp : Int64
  voltage : UInt16
  power : PowerSet
  freq : UInt16
  outputLoad : UInt8
  powerFactor : UInt8
  deriving DecidableEq, Repr

/-- `inv_pv_meas_t` -/
structure PvMeas (PowerSet : Type) where
  timestamp : Int64
  voltage : UInt16
  power : PowerSet
  deriving DecidableEq, Repr

/-- The helpers that work on a set of power samples and on a power history. -/
structure Helpers (PowerSet PowerHistory : Type) where
  emptySet : PowerSet
  emptyHistory : PowerHistory
  /-- `em_utils_set_uint16_add`; it says whether the set is full. -/
  setAdd : PowerSet → UInt16 → PowerSet × Bool
  /-- `em_utils_set_uint16_avg` -/
  setAvg : PowerSet → UInt16
  /-- `em_utils_set_uint16_clear` -/
  setClear : PowerSet → PowerSet
  /-- `power_history_last_entry`, converted to `int16_t` -/
  lastEntry : PowerHistory → Int16
  /-- `power_history_add_entry` -/
  addEntry : PowerHistory → Int64 → UInt16 → PowerHistory × Int
  /-- The assignment `size = 0` -/
  clearHistory : PowerHistory → PowerHistory

/-- The arrays of `energy_history`. -/
structure Cells (capacity : Nat) where
  grid : Vector Energy capacity
  acOutput : Vector Energy capacity
  pv : Vector Energy capacity
  batteryCharge : Vector Energy capacity
  batteryDischarge : Vector Energy capacity
  timeOffset : Vector Int64 capacity
  deriving DecidableEq, Repr

/-- `energy_history`: between two calls it is never full. -/
structure EnergyHistory (capacity : Nat) where
  size : Fin capacity
  refTimestamp : Int64
  refGrid : Energy
  refAcOutput : Energy
  refPv : Energy
  refBatteryCharge : Energy
  refBatteryDischarge : Energy
  cells : Cells capacity
  deriving DecidableEq, Repr

/-- The module's variables. -/
structure Meters (capacity : Nat) (PowerSet PowerHistory : Type) where
  gridMeas : GridMeas
  batteryMeas : BatteryMeas
  acOutputMeas : AcOutputMeas PowerSet
  pvMeas : PvMeas PowerSet
  energyMeas : EnergyMeas
  acOutPowerHistory : PowerHistory
  pvPowerHistory : PowerHistory
  energyHistory : EnergyHistory capacity
  deriving DecidableEq, Repr

section

variable {capacity : Nat} {PowerSet PowerHistory : Type}

def Cells.zero : Cells capacity :=
  { grid := .replicate capacity .zero, acOutput := .replicate capacity .zero,
    pv := .replicate capacity .zero, batteryCharge := .replicate capacity .zero,
    batteryDischarge := .replicate capacity .zero, timeOffset := .replicate capacity 0 }

def EnergyHistory.initial [NeZero capacity] : EnergyHistory capacity :=
  { size := 0, refTimestamp := 0, refGrid := .zero, refAcOutput := .zero, refPv := .zero,
    refBatteryCharge := .zero, refBatteryDischarge := .zero, cells := .zero }

def Meters.initial [NeZero capacity] (helpers : Helpers PowerSet PowerHistory) :
    Meters capacity PowerSet PowerHistory :=
  { gridMeas := { timestamp := 0, voltage := 0, power := 0, freq := 0 }
    batteryMeas := { timestamp := 0, voltage := 0, chargePower := 0 }
    acOutputMeas := { timestamp := 0, voltage := 0, power := helpers.emptySet, freq := 0,
                      outputLoad := 0, powerFactor := 0 }
    pvMeas := { timestamp := 0, voltage := 0, power := helpers.emptySet }
    energyMeas := .zero
    acOutPowerHistory := helpers.emptyHistory
    pvPowerHistory := helpers.emptyHistory
    energyHistory := .initial }

/-! ### Grid and battery -/

/-- `(grid_meas.power * (now - grid_meas.timestamp) + 500) / 1000` -/
def GridMeas.deltaEnergy (now : Int64) (meas : GridMeas) : Int64 :=
  (meas.power.toUInt64.toInt64 * (now - meas.timestamp) + 500) / 1000

def creditGrid (now : Int64) (meas : GridMeas) (energyMeas : EnergyMeas) : EnergyMeas :=
  if meas.timestamp = 0 then energyMeas
  else if 0 ≤ meas.deltaEnergy now then
    { energyMeas with gridConsumed := energyMeas.gridConsumed.add (meas.deltaEnergy now) }
  else { energyMeas with gridProvided := energyMeas.gridProvided.sub (meas.deltaEnergy now) }

def invSetMeasGrid (now : Int64) (voltage : UInt16) (power : Int16) (freq : UInt16)
    (meters : Meters capacity PowerSet PowerHistory) : Meters capacity PowerSet PowerHistory :=
  { meters with
    energyMeas := creditGrid now meters.gridMeas meters.energyMeas
    gridMeas := { timestamp := now, voltage, power := power.toUInt16, freq } }

/-- `battery_meas.charge_power * (now - battery_meas.timestamp)` -/
def BatteryMeas.deltaEnergy (now : Int64) (meas : BatteryMeas) : Int64 :=
  meas.chargePower.toInt64 * (now - meas.timestamp)

def creditBattery (now : Int64) (meas : BatteryMeas) (energyMeas : EnergyMeas) : EnergyMeas :=
  if meas.timestamp = 0 then energyMeas
  else if 0 < meas.deltaEnergy now then
    { energyMeas with batteryCharge := energyMeas.batteryCharge.add (meas.deltaEnergy now) }
  else
    { energyMeas with batteryDischarge := energyMeas.batteryDischarge.sub (meas.deltaEnergy now) }

def invSetMeasBattery (now : Int64) (voltage : UInt16) (power : Int16)
    (meters : Meters capacity PowerSet PowerHistory) : Meters capacity PowerSet PowerHistory :=
  { meters with
    energyMeas := creditBattery now meters.batteryMeas meters.energyMeas
    batteryMeas := { timestamp := now, voltage, chargePower := power.toInt32 } }

/-! ### AC output and photovoltaics -/

variable (helpers : Helpers PowerSet PowerHistory)

/-- A full set of samples gives an entry of the power history, which is sent when it is full. -/
def samplePower (now : Int64) (power : UInt16) (set : PowerSet) (history : PowerHistory) :
    PowerSet × PowerHistory :=
  let (set, powerReady) := helpers.setAdd set power
  if powerReady then
    let avgPower := helpers.setAvg set
    let set := helpers.setClear set
    let (history, res) := helpers.addEntry history now avgPower
    if res < 0 then (set, helpers.clearHistory history) else (set, history)
  else (set, history)

/-- `prev_power * (now - timestamp)` -/
def deltaEnergy (now timestamp : Int64) (history : PowerHistory) : Int64 :=
  (helpers.lastEntry history).toInt64 * (now - timestamp)

/-- The time of the last sample is taken from `pv_meas` here. -/
def creditAcOut (now : Int64) (meas : AcOutputMeas PowerSet) (pvMeas : PvMeas PowerSet)
    (history : PowerHistory) (energyMeas : EnergyMeas) : EnergyMeas :=
  if meas.timestamp = 0 then energyMeas
  else
    { energyMeas with
      acOutput := energyMeas.acOutput.add (deltaEnergy helpers now pvMeas.timestamp history) }

def invSetMeasAcOut (now : Int64) (voltage power freq : UInt16) (load powerFactor : UInt8)
    (meters : Meters capacity PowerSet PowerHistory) : Meters capacity PowerSet PowerHistory :=
  let (set, history) :=
    samplePower helpers now power meters.acOutputMeas.power meters.acOutPowerHistory
  { meters with
    energyMeas :=
      creditAcOut helpers now meters.acOutputMeas meters.pvMeas meters.acOutPowerHistory
        meters.energyMeas
    acOutputMeas := { timestamp := now, voltage, power := set, freq, outputLoad := load, powerFactor }
    acOutPowerHistory := history }

def creditPv (now : Int64) (meas : PvMeas PowerSet) (history : PowerHistory)
    (energyMeas : EnergyMeas) : EnergyMeas :=
  if meas.timestamp = 0 then energyMeas
  else
    { energyMeas with
      pv := energyMeas.pv.add (deltaEnergy helpers now meas.timestamp history) }

def invSetMeasPv (now : Int64) (idx : UInt8) (voltage power : UInt16)
    (meters : Meters capacity PowerSet PowerHistory) : Meters capacity PowerSet PowerHistory :=
  if maxPvInputs ≤ idx then meters
  else
    let (set, history) := samplePower helpers now power meters.pvMeas.power meters.pvPowerHistory
    { meters with
      energyMeas := creditPv helpers now meters.pvMeas meters.pvPowerHistory meters.energyMeas
      pvMeas := { timestamp := now, voltage, power := set }
      pvPowerHistory := history }

/-! ### The energy history -/

variable {helpers}

/-- The first entry's reference values. -/
def EnergyHistory.referTo (now : Int64) (meas : EnergyMeas) (history : EnergyHistory capacity) :
    EnergyHistory capacity :=
  { history with
    refTimestamp := now, refGrid := meas.gridConsumed, refAcOutput := meas.acOutput,
    refPv := meas.pv, refBatteryCharge := meas.batteryCharge,
    refBatteryDischarge := meas.batteryDischarge }

/-- The five meters looked at before an entry is stored. -/
def EnergyMeas.belowMin (meas : EnergyMeas) : Bool :=
  meas.gridConsumed.energy < minEnergyDiff && meas.acOutput.energy < minEnergyDiff &&
    meas.pv.energy < minEnergyDiff && meas.batteryCharge.energy < minEnergyDiff &&
    meas.batteryDischarge.energy < minEnergyDiff

def Cells.put (idx : Fin capacity) (offset : Int64) (meas : EnergyMeas) (cells : Cells capacity) :
    Cells capacity :=
  { grid := cells.grid.set idx meas.gridConsumed
    acOutput := cells.acOutput.set idx meas.acOutput
    pv := cells.pv.set idx meas.pv
    batteryCharge := cells.batteryCharge.set idx meas.batteryCharge
    batteryDischarge := cells.batteryDischarge.set idx meas.batteryDischarge
    timeOffset := cells.timeOffset.set idx offset }

/-- `inv_store_energy_meas` from `++energy_history.size` on.  A full history is handed to nobody: the
call that would send it is commented out, and only the size is reset. -/
def storeEntry (now : Int64) (meters : Meters capacity PowerSet PowerHistory) :
    Meters capacity PowerSet PowerHistory :=
  let history := meters.energyHistory
  let cells := history.cells.put history.size (now - history.refTimestamp) meters.energyMeas
  if room : history.size + 1 < capacity then
    { meters with
      energyHistory := { history with size := ⟨history.size + 1, room⟩, cells }, energyMeas := .zero }
  else
    { meters with
      energyHistory := { history with size := ⟨0, by have := history.size.isLt; omega⟩, cells }
      energyMeas := .zero }

def invStoreEnergyMeas (now : Int64) (meters : Meters capacity PowerSet PowerHistory) :
    Meters capacity PowerSet PowerHistory :=
  if meters.energyHistory.size.val = 0 then
    storeEntry now
      { meters with energyHistory := meters.energyHistory.referTo now meters.energyMeas }
  else if meters.energyMeas.belowMin then meters
  else storeEntry now meters

/-- A call of one of the four setters, by its channel. -/
inductive Sample
  | grid (voltage : UInt16) (power : Int16) (freq : UInt16)
  | battery (voltage : UInt16) (power : Int16)
  | acOut (voltage power freq : UInt16) (load powerFactor : UInt8)
  | pv (idx : UInt8) (voltage power : UInt16)
  deriving DecidableEq, Repr

variable (helpers)

@[simp]
theorem invSetMeasPv_gridMeas (now : Int64) (idx : UInt8) (voltage power : UInt16)
    (meters : Meters capacity PowerSet PowerHistory) :
    (invSetMeasPv helpers now idx voltage power meters).gridMeas = meters.gridMeas := by
  rw [invSetMeasPv]
  split <;> rfl

@[simp]
theorem invSetMeasPv_batteryMeas (now : Int64) (idx : UInt8) (voltage power : UInt16)
    (meters : Meters capacity PowerSet PowerHistory) :
    (invSetMeasPv helpers now idx voltage power meters).batteryMeas = meters.batteryMeas := by
  rw [invSetMeasPv]
  split <;> rfl

def takeSample (now : Int64) (meters : Meters capacity PowerSet PowerHistory) :
    Sample → Meters capacity PowerSet PowerHistory
  | .grid voltage power freq => invSetMeasGrid now voltage power freq meters
  | .battery voltage power => invSetMeasBattery now voltage power meters
  | .acOut voltage power freq load powerFactor =>
      invSetMeasAcOut helpers now voltage power freq load powerFactor meters
  | .pv idx voltage power => invSetMeasPv helpers now idx voltage power meters

inductive Call
  | sample (now : Int64) (sample : Sample)
  | store (now : Int64)
  deriving DecidableEq, Repr

def call (meters : Meters capacity PowerSet PowerHistory) :
    Call → Meters capacity PowerSet PowerHistory
  | .sample now sample => takeSample helpers now meters sample
  | .store now => invStoreEnergyMeas now meters

end

end EsInverter.Inverter
