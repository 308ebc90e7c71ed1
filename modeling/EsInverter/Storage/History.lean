import EsInverter.Lib.Filled

/-!
# The measurement history

Meter entries are kept with their time as a 32-bit offset from the first one;
energy entries are kept in 32-bit cells with one interval for all of them.  The
compile time that a time is checked against is a parameter.
-/

set_option autoImplicit false

namespace EsInverter.Storage

open Lib

/-- `MAX_METER_ENTRIES` -/
def maxMeterEntries : Nat := 48

/-- `MAX_ENERGY_ENTRIES` -/
def maxEnergyEntries : Nat := 4 * 24

/-- `meastype_t`, as far as the storage knows it. -/
def MeasType.voltageRms : UInt16 := 0
def MeasType.currentRms : UInt16 := 1
def MeasType.powerActive : UInt16 := 2

/-- `storage_meter_t`; `len` never exceeds the arrays. -/
structure StorageMeter where
  len : Fin (maxMeterEntries + 1)
  currentVal : Int32
  currentValTime : Int64
  refTimestamp : Int64
  entries : Vector Int32 maxMeterEntries
  tOffset : Vector UInt32 maxMeterEntries
  deriving DecidableEq, Repr

/-- `storage_energy_t` -/
structure StorageEnergy where
  len : Fin (maxEnergyEntries + 1)
  refTimestamp : Int64
  interval : UInt32
  entries : Vector UInt32 maxEnergyEntries
  deriving DecidableEq, Repr

/-- The histories in `database_t`. -/
structure Histories where
  meterVoltage : StorageMeter
  meterCurrent : StorageMeter
  meterPower : StorageMeter
  meterEnergy : StorageEnergy
  deriving DecidableEq, Repr

def StorageMeter.zero : StorageMeter :=
  { len := 0, currentVal := 0, currentValTime := 0, refTimestamp := 0,
    entries := .replicate maxMeterEntries 0, tOffset := .replicate maxMeterEntries 0 }

/-- `factory_config` -/
def Histories.factory : Histories :=
  { meterVoltage := .zero, meterCurrent := .zero, meterPower := .zero,
    meterEnergy := { len := 0, refTimestamp := 0, interval := 0,
                     entries := .replicate maxEnergyEntries 0 } }

/-! ### Current values -/

def StorageMeter.setValue (datetime : Int64) (value : Int32) (meter : StorageMeter) :
    StorageMeter :=
  { meter with currentVal := value, currentValTime := datetime }

def storageSetMeterValue (datetime : Int64) (measType : UInt16) (value : Int32)
    (histories : Histories) : Histories × Int :=
  if measType = MeasType.voltageRms then
    ({ histories with meterVoltage := histories.meterVoltage.setValue datetime value }, 0)
  else if measType = MeasType.currentRms then
    ({ histories with meterCurrent := histories.meterCurrent.setValue datetime value }, 0)
  else if measType = MeasType.powerActive then
    ({ histories with meterPower := histories.meterPower.setValue datetime value }, 0)
  else (histories, -1)

/-- The part of `storage_add_meter_entry` under the mutex; it says whether the meter is full. -/
def StorageMeter.add (datetime : Int64) (value : Int32) (meter : StorageMeter) :
    StorageMeter × Bool :=
  if room : meter.len < maxMeterEntries then
    let refTimestamp := if meter.len.val = 0 then datetime else meter.refTimestamp
    let len := meter.len.val + 1
    ({ meter with
        len := ⟨len, Nat.succ_lt_succ room⟩, refTimestamp
        tOffset := meter.tOffset.set meter.len (datetime - refTimestamp).toUInt64.toUInt32 room
        entries := meter.entries.set meter.len value room },
      decide (maxMeterEntries ≤ len))
  else (meter, true)

def storageAddMeterEntry (compileTime datetime : Int64) (measType : UInt16) (value : Int32)
    (histories : Histories) : Histories × Bool :=
  if datetime < compileTime then (histories, false)
  else if measType = MeasType.voltageRms then
    let (meterVoltage, flush) := histories.meterVoltage.add datetime value
    ({ histories with meterVoltage }, flush)
  else if measType = MeasType.powerActive then
    let (meterPower, flush) := histories.meterPower.add datetime value
    ({ histories with meterPower }, flush)
  else (histories, false)

/-- The part of `storage_add_energy_entry` under the mutex; a time that is not the expected one is
only logged. -/
def StorageEnergy.add (datetime : Int64) (value : UInt64) (energy : StorageEnergy) :
    StorageEnergy × Bool :=
  if room : energy.len < maxEnergyEntries then
    let refTimestamp := if energy.len.val = 0 then datetime else energy.refTimestamp
    let interval :=
      if energy.len.val = 0 then energy.interval
      else if energy.interval = 0 then (datetime - energy.refTimestamp).toUInt64.toUInt32
      else energy.interval
    let len := energy.len.val + 1
    ({ len := ⟨len, Nat.succ_lt_succ room⟩, refTimestamp, interval
       entries := energy.entries.set energy.len value.toUInt32 room },
      decide (maxEnergyEntries ≤ len))
  else (energy, true)

def storageAddEnergyEntry (compileTime datetime : Int64) (value : UInt64)
    (histories : Histories) : Histories × Bool :=
  if datetime < compileTime then (histories, false)
  else
    let (meterEnergy, flush) := histories.meterEnergy.add datetime value
    ({ histories with meterEnergy }, flush)

/-! ### Reading back -/

/-- The times and values of a meter, as its arrays give them. -/
def StorageMeter.readBack (meter : StorageMeter) : List (Int × Int32) :=
  ((filled meter.len meter.tOffset).map fun offset => meter.refTimestamp.toInt + offset.toNat).zip
    (filled meter.len meter.entries)

/-- The times and values of the energy history: entry `i` is `i` intervals behind the first. -/
def StorageEnergy.readBack (energy : StorageEnergy) : List (Int × Nat) :=
  (filled energy.len energy.entries).zipIdx.map fun entry =>
    (energy.refTimestamp.toInt + entry.2 * energy.interval.toNat, entry.1.toNat)

inductive Call
  | meter (datetime : Int64) (measType : UInt16) (value : Int32)
  | energy (datetime : Int64) (value : UInt64)
  deriving DecidableEq, Repr

def addEntry (compileTime : Int64) (histories : Histories) : Call → Histories
  | .meter datetime measType value =>
      (storageAddMeterEntry compileTime datetime measType value histories).1
  | .energy datetime value => (storageAddEnergyEntry compileTime datetime value histories).1

def afterCalls (compileTime : Int64) (calls : List Call) : Histories :=
  calls.foldl (addEntry compileTime) .factory

end EsInverter.Storage
