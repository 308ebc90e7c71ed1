import EsInverter.Storage.Readback

/-!
# The capacity of the histories

The calls that set a current value or add an entry share one database.  Each
history is seen without the current value that lies beside it: a call that its
checks let through fills the next cell of its history or finds it full.
-/

set_option autoImplicit false

namespace EsInverter.Storage

open Lib

/-- A history without the current value that lies beside it. -/
structure HistoryRecord where
  len : Nat
  refTimestamp : Int64
  interval : UInt32
  offsets : List UInt32
  cells : List Int
  deriving DecidableEq, Repr

def StorageMeter.record (meter : StorageMeter) : HistoryRecord :=
  { len := meter.len, refTimestamp := meter.refTimestamp, interval := 0
    offsets := meter.tOffset.toList, cells := meter.entries.toList.map Int32.toInt }

def StorageEnergy.record (energy : StorageEnergy) : HistoryRecord :=
  { len := energy.len, refTimestamp := energy.refTimestamp, interval := energy.interval
    offsets := [], cells := energy.entries.toList.map fun cell => (cell.toNat : Int) }

inductive HistoryName
  | voltage
  | current
  | power
  | energy
  deriving DecidableEq, Repr

/-- A call of `storage_set_meter_value`, or one that adds an entry. -/
inductive StorageCall
  | setValue (datetime : Int64) (measType : UInt16) (value : Int32)
  | add (call : Call)
  deriving DecidableEq, Repr

/-- The histories after a call, and what a call that adds an entry returns. -/
def StorageCall.run (compileTime : Int64) (histories : Histories) :
    StorageCall → Histories × Option Bool
  | .setValue datetime measType value =>
      ((storageSetMeterValue datetime measType value histories).1, none)
  | .add (.meter datetime measType value) =>
      let (next, flush) := storageAddMeterEntry compileTime datetime measType value histories
      (next, some flush)
  | .add (.energy datetime value) =>
      let (next, flush) := storageAddEnergyEntry compileTime datetime value histories
      (next, some flush)

def afterStorageCalls (compileTime : Int64) (calls : List StorageCall) : Histories :=
  calls.foldl (fun histories call => (call.run compileTime histories).1) .factory

namespace HistoryName

def record (histories : Histories) : HistoryName → HistoryRecord
  | voltage => histories.meterVoltage.record
  | current => histories.meterCurrent.record
  | power => histories.meterPower.record
  | energy => histories.meterEnergy.record

/-- The number of cells of a history. -/
def size : HistoryName → Nat
  | energy => maxEnergyEntries
  | _ => maxMeterEntries

/-- The value cell of a call that passes the checks for the history. -/
def written (compileTime : Int64) : HistoryName → StorageCall → Option Int
  | voltage, .add call => (Metered.voltage.entry compileTime call).map fun entry => entry.2.toInt
  | power, .add call => (Metered.power.entry compileTime call).map fun entry => entry.2.toInt
  | energy, .add call =>
      (energyEntry compileTime call).map fun entry => (entry.2.toUInt32.toNat : Int)
  | _, _ => none

end HistoryName

/--
The histories after some calls, and what one more call does: every history holds
what the first calls for it wrote, nothing overwrites it, and a call for it says
whether it is full.
-/
structure CapacityLaw (compileTime : Int64) (calls : List StorageCall) : Prop where
  bounded : ∀ name : HistoryName,
    (name.record (afterStorageCalls compileTime calls)).len ≤ name.size
  counted : ∀ name : HistoryName, (name.record (afterStorageCalls compileTime calls)).len =
    min name.size (calls.filterMap (name.written compileTime)).length
  holds : ∀ name : HistoryName,
    let record := name.record (afterStorageCalls compileTime calls)
    record.cells.take record.len = (calls.filterMap (name.written compileTime)).take record.len
  kept : ∀ (name : HistoryName) (more : List StorageCall),
    let record := name.record (afterStorageCalls compileTime calls)
    (name.record (afterStorageCalls compileTime (calls ++ more))).cells.take record.len =
      record.cells.take record.len
  frame : ∀ (name : HistoryName) (call : StorageCall), name.written compileTime call = none →
    name.record (call.run compileTime (afterStorageCalls compileTime calls)).1 =
      name.record (afterStorageCalls compileTime calls)
  full : ∀ (name : HistoryName) (call : StorageCall), (name.written compileTime call).isSome →
    ((call.run compileTime (afterStorageCalls compileTime calls)).2 = some true ↔
      (name.record (call.run compileTime (afterStorageCalls compileTime calls)).1).len =
        name.size)

/-- A call that its checks let through fills the next cell, or finds the history full. -/
structure Fills (size : Nat) (value : Int) (before after : HistoryRecord) (flush : Bool) :
    Prop where
  room : before.len < size →
    after.len = before.len + 1 ∧ after.cells = before.cells.set before.len value
  same : ¬ before.len < size → after = before
  flush : flush = true ↔ after.len = size

theorem StorageMeter.add_fills (datetime : Int64) (value : Int32) (meter : StorageMeter) :
    Fills maxMeterEntries value.toInt meter.record (meter.add datetime value).1.record
      (meter.add datetime value).2 := by
  have bound : meter.len.val ≤ maxMeterEntries := Nat.le_of_lt_succ meter.len.isLt
  rw [StorageMeter.add]
  split
  · next room =>
      refine ⟨fun _ => ⟨rfl, ?_⟩, fun full => absurd room full, ?_⟩
      · simp only [StorageMeter.record]
        rw [Vector.toList_set, List.map_set]
      · simp only [decide_eq_true_eq, StorageMeter.record]
        omega
  · next full =>
      refine ⟨fun room => absurd room full, fun _ => rfl, ?_⟩
      simp only [StorageMeter.record, true_iff]
      omega

theorem StorageEnergy.add_fills (datetime : Int64) (value : UInt64) (energy : StorageEnergy) :
    Fills maxEnergyEntries value.toUInt32.toNat energy.record
      (energy.add datetime value).1.record (energy.add datetime value).2 := by
  have bound : energy.len.val ≤ maxEnergyEntries := Nat.le_of_lt_succ energy.len.isLt
  rw [StorageEnergy.add]
  split
  · next room =>
      refine ⟨fun _ => ⟨rfl, ?_⟩, fun full => absurd room full, ?_⟩
      · simp only [StorageEnergy.record]
        rw [Vector.toList_set, List.map_set]
      · simp only [decide_eq_true_eq, StorageEnergy.record]
        omega
  · next full =>
      refine ⟨fun room => absurd room full, fun _ => rfl, ?_⟩
      simp only [StorageEnergy.record, true_iff]
      omega

namespace HistoryName

variable (compileTime : Int64) (histories : Histories)

omit compileTime in
theorem record_setMeterValue (name : HistoryName) (datetime : Int64) (measType : UInt16)
    (value : Int32) :
    name.record (storageSetMeterValue datetime measType value histories).1 =
      name.record histories := by
  rw [storageSetMeterValue]
  split_ifs <;> cases name <;> rfl

theorem run_add (call : Call) :
    ((StorageCall.add call).run compileTime histories).1 =
      addEntry compileTime histories call := by
  cases call <;> rfl

theorem meterCurrent_addEntry (call : Call) :
    (addEntry compileTime histories call).meterCurrent = histories.meterCurrent := by
  cases call with
  | energy datetime value =>
      rw [addEntry, storageAddEnergyEntry]
      split <;> rfl
  | meter datetime measType value =>
      rw [addEntry, storageAddMeterEntry]
      split_ifs <;> rfl

/-- A call that is not let through for a history leaves it as it is. -/
theorem record_run_of_none {name : HistoryName} {call : StorageCall}
    (refused : name.written compileTime call = none) :
    name.record (call.run compileTime histories).1 = name.record histories := by
  cases call with
  | setValue datetime measType value => exact record_setMeterValue histories name _ _ _
  | add call =>
      rw [run_add]
      cases name with
      | voltage =>
          have none_ := Option.map_eq_none_iff.mp refused
          have kept := meter_addEntry compileTime .voltage histories call
          rw [none_] at kept
          exact congrArg StorageMeter.record kept
      | power =>
          have none_ := Option.map_eq_none_iff.mp refused
          have kept := meter_addEntry compileTime .power histories call
          rw [none_] at kept
          exact congrArg StorageMeter.record kept
      | current => exact congrArg StorageMeter.record (meterCurrent_addEntry _ _ call)
      | energy =>
          have none_ := Option.map_eq_none_iff.mp refused
          have kept := meterEnergy_addEntry compileTime histories call
          rw [none_] at kept
          exact congrArg StorageEnergy.record kept

omit histories in
theorem entry_eq_some {metered : Metered} {call : Call} {entry : Int64 × Int32}
    (valid : metered.entry compileTime call = some entry) :
    call = .meter entry.1 metered.measType entry.2 ∧ ¬ entry.1 < compileTime := by
  cases call with
  | energy datetime value => cases valid
  | meter datetime measType value =>
      rw [Metered.entry] at valid
      split at valid
      · next passes =>
          cases valid
          exact ⟨by rw [passes.2], passes.1⟩
      · cases valid

omit histories in
theorem energyEntry_eq_some {call : Call} {entry : Int64 × UInt64}
    (valid : energyEntry compileTime call = some entry) :
    call = .energy entry.1 entry.2 ∧ ¬ entry.1 < compileTime := by
  cases call with
  | meter datetime measType value => cases valid
  | energy datetime value =>
      rw [energyEntry] at valid
      split at valid
      · cases valid
      · next late =>
          cases valid
          exact ⟨rfl, late⟩

/-- A call that is let through fills the next cell of its history. -/
theorem fills_run {name : HistoryName} {call : StorageCall} {value : Int}
    (accepted : name.written compileTime call = some value) :
    ∃ flush, (call.run compileTime histories).2 = some flush ∧
      Fills name.size value (name.record histories)
        (name.record (call.run compileTime histories).1) flush := by
  cases call with
  | setValue datetime measType value => cases name <;> cases accepted
  | add call =>
      cases name with
      | current => cases accepted
      | voltage =>
          obtain ⟨entry, valid, rfl⟩ := Option.map_eq_some_iff.mp accepted
          obtain ⟨rfl, late⟩ := entry_eq_some compileTime valid
          have fills := histories.meterVoltage.add_fills entry.1 entry.2
          rw [StorageCall.run, storageAddMeterEntry, if_neg late, Metered.measType, if_pos rfl]
          exact ⟨_, rfl, fills⟩
      | power =>
          obtain ⟨entry, valid, rfl⟩ := Option.map_eq_some_iff.mp accepted
          obtain ⟨rfl, late⟩ := entry_eq_some compileTime valid
          have other : Metered.power.measType ≠ MeasType.voltageRms := by decide
          have fills := histories.meterPower.add_fills entry.1 entry.2
          rw [StorageCall.run, storageAddMeterEntry, if_neg late, if_neg other, Metered.measType,
            if_pos rfl]
          exact ⟨_, rfl, fills⟩
      | energy =>
          obtain ⟨entry, valid, rfl⟩ := Option.map_eq_some_iff.mp accepted
          obtain ⟨rfl, late⟩ := energyEntry_eq_some compileTime valid
          have fills := histories.meterEnergy.add_fills entry.1 entry.2
          rw [StorageCall.run, storageAddEnergyEntry, if_neg late]
          exact ⟨_, rfl, fills⟩

end HistoryName

/-- A history holds the front of what was written to it. -/
structure Holds (size : Nat) (written : List Int) (record : HistoryRecord) : Prop where
  len : record.len = min size written.length
  whole : record.cells.length = size
  cells : record.cells.take record.len = written.take record.len

theorem Holds.fills {size : Nat} {written : List Int} {before after : HistoryRecord}
    {value : Int} {flush : Bool} (holds : Holds size written before)
    (fills : Fills size value before after flush) : Holds size (written ++ [value]) after := by
  have len := holds.len
  by_cases room : before.len < size
  · obtain ⟨longer, stored⟩ := fills.room room
    have all : before.len = written.length := by omega
    refine ⟨by rw [longer, List.length_append]; simp; omega, ?_, ?_⟩
    · rw [stored, List.length_set, holds.whole]
    · have front := holds.cells
      rw [all, List.take_length] at front
      rw [longer, stored, all, List.take_succ_eq_append_getElem (by simp [holds.whole]; omega),
        List.take_set_of_le le_rfl, List.getElem_set_self, front]
      simp
  · rw [fills.same room]
    refine ⟨by rw [List.length_append]; simp; omega, holds.whole, ?_⟩
    rw [holds.cells, List.take_append_of_le_length (by omega)]

theorem holds_afterStorageCalls (compileTime : Int64) (calls : List StorageCall)
    (name : HistoryName) :
    Holds name.size (calls.filterMap (name.written compileTime))
      (name.record (afterStorageCalls compileTime calls)) := by
  induction calls using List.reverseRecOn with
  | nil => cases name <;> exact ⟨by simp [afterStorageCalls]; rfl, rfl, rfl⟩
  | append_singleton calls call ih =>
      rw [afterStorageCalls, List.foldl_append, ← afterStorageCalls, List.filterMap_append]
      cases written : name.written compileTime call with
      | none => simpa [written, HistoryName.record_run_of_none _ _ written] using ih
      | some value =>
          obtain ⟨flush, -, fills⟩ :=
            HistoryName.fills_run compileTime (afterStorageCalls compileTime calls) written
          simpa [written] using ih.fills fills

/-- The law holds after every sequence of calls from the factory state. -/
theorem capacityLaw (compileTime : Int64) (calls : List StorageCall) :
    CapacityLaw compileTime calls := by
  have held (name : HistoryName) := holds_afterStorageCalls compileTime calls name
  refine
    { bounded := fun name => ?_, counted := fun name => (held name).len,
      holds := fun name => (held name).cells, kept := fun name more => ?_,
      frame := fun name call refused => name.record_run_of_none _ _ refused,
      full := fun name call accepted => ?_ }
  · rw [(held name).len]
    exact Nat.min_le_left _ _
  · have later := holds_afterStorageCalls compileTime (calls ++ more) name
    have shorter : (name.record (afterStorageCalls compileTime calls)).len ≤
        (name.record (afterStorageCalls compileTime (calls ++ more))).len := by
      rw [(held name).len, later.len, List.filterMap_append, List.length_append]
      omega
    have fits : (name.record (afterStorageCalls compileTime calls)).len ≤
        (calls.filterMap (name.written compileTime)).length := by
      rw [(held name).len]
      exact Nat.min_le_right _ _
    have cells := congrArg
      (List.take (name.record (afterStorageCalls compileTime calls)).len) later.cells
    rw [List.take_take, List.take_take, Nat.min_eq_left shorter, List.filterMap_append,
      List.take_append_of_le_length fits] at cells
    exact cells.trans (held name).cells.symm
  · obtain ⟨value, written⟩ := Option.isSome_iff_exists.mp accepted
    obtain ⟨flush, returned, fills⟩ :=
      name.fills_run compileTime (afterStorageCalls compileTime calls) written
    rw [returned, Option.some.injEq]
    exact fills.flush

end EsInverter.Storage
