import EsInverter.Lib.Words
import EsInverter.Storage.History

/-!
# Reading the history back

The arrays are compared with the accepted calls: they are exactly their offsets,
cells and interval, so that what is read back is what was accepted exactly where
these fit 32 bits and one interval.
-/

set_option autoImplicit false

namespace EsInverter.Storage

open Lib

/-- The meters that have a history. -/
inductive Metered
  | voltage
  | power
  deriving DecidableEq, Repr

namespace Metered

def measType : Metered → UInt16
  | voltage => MeasType.voltageRms
  | power => MeasType.powerActive

def meter (histories : Histories) : Metered → StorageMeter
  | voltage => histories.meterVoltage
  | power => histories.meterPower

/-- A call that is valid for the meter. -/
def entry (compileTime : Int64) (metered : Metered) : Call → Option (Int64 × Int32)
  | .meter datetime measType value =>
      if ¬ datetime < compileTime ∧ measType = metered.measType then some (datetime, value)
      else none
  | .energy _ _ => none

/-- The accepted calls: the valid ones, until the arrays are full. -/
def accepted (compileTime : Int64) (calls : List Call) (metered : Metered) :
    List (Int64 × Int32) :=
  (calls.filterMap (metered.entry compileTime)).take maxMeterEntries

end Metered

def energyEntry (compileTime : Int64) : Call → Option (Int64 × UInt64)
  | .meter _ _ _ => none
  | .energy datetime value => if datetime < compileTime then none else some (datetime, value)

def acceptedEnergy (compileTime : Int64) (calls : List Call) : List (Int64 × UInt64) :=
  (calls.filterMap (energyEntry compileTime)).take maxEnergyEntries

/-- Every accepted entry can be read back. -/
def Faithful (compileTime : Int64) (calls : List Call) : Prop :=
  (∀ metered : Metered,
      (metered.meter (afterCalls compileTime calls)).readBack =
        (metered.accepted compileTime calls).map fun entry => (entry.1.toInt, entry.2)) ∧
    (afterCalls compileTime calls).meterEnergy.readBack =
      (acceptedEnergy compileTime calls).map fun entry => (entry.1.toInt, entry.2.toNat)

/-- No entry is before the first one or 2^32 seconds behind it. -/
def OffsetsFit (accepted : List (Int64 × Int32)) : Prop :=
  ∀ first ∈ accepted.head?, ∀ entry ∈ accepted,
    first.1.toInt ≤ entry.1.toInt ∧ entry.1.toInt < first.1.toInt + 2 ^ 32

/-- Times at one interval below 2^32 seconds, and energies below 2^32. -/
def EvenlySpaced (accepted : List (Int64 × UInt64)) : Prop :=
  (∀ entry ∈ accepted, entry.2.toNat < 2 ^ 32) ∧
    ∃ interval < 2 ^ 32, ∀ first ∈ accepted.head?, ∀ entry ∈ accepted.zipIdx,
      entry.1.1.toInt = first.1.toInt + entry.2 * (interval : Nat)

/-! ### Lists that are cut off -/

theorem take_concat {α : Type} (list : List α) (last : α) (count : Nat) :
    (list ++ [last]).take count =
      if list.length < count then list.take count ++ [last] else list.take count := by
  split
  · next room =>
      rw [List.take_of_length_le (by simp; omega), List.take_of_length_le (by omega)]
  · next full => rw [List.take_append_of_le_length (by omega)]

/-- The arrays are the offsets and values of the entries. -/
structure Holding (entries : List (Int64 × Int32)) (meter : StorageMeter) : Prop where
  len : meter.len.val = entries.length
  ref : ∀ first ∈ entries.head?, meter.refTimestamp = first.1
  values : filled meter.len meter.entries = entries.map Prod.snd
  offsets : filled meter.len meter.tOffset =
    entries.map fun entry => (entry.1 - meter.refTimestamp).toUInt64.toUInt32

theorem holding_zero : Holding [] .zero where
  len := rfl
  ref := by simp
  values := rfl
  offsets := rfl

theorem Holding.add {entries : List (Int64 × Int32)} {meter : StorageMeter}
    (holding : Holding entries meter) (room : entries.length < maxMeterEntries)
    (datetime : Int64) (value : Int32) :
    Holding (entries ++ [(datetime, value)]) (meter.add datetime value).1 := by
  have below : meter.len.val < maxMeterEntries := by rwa [holding.len]
  have len := holding.len
  rw [StorageMeter.add, dif_pos below]
  cases entries with
  | nil =>
      have empty : meter.len.val = 0 := len
      refine ⟨?_, ?_, ?_, ?_⟩
      · simp [empty]
      · simp [empty]
      · dsimp only
        rw [filled_set below, holding.values]
        rfl
      · dsimp only
        rw [filled_set below, holding.offsets]
        rfl
  | cons first rest =>
      have some_ : ¬ meter.len.val = 0 := by
        rw [len]
        simp
      refine ⟨?_, ?_, ?_, ?_⟩
      · simp [len]
      · simpa [some_] using holding.ref
      · dsimp only
        rw [filled_set below, holding.values, List.map_append]
        rfl
      · dsimp only
        rw [if_neg some_, filled_set below, holding.offsets, List.map_append]
        rfl

theorem Holding.add_full {entries : List (Int64 × Int32)} {meter : StorageMeter}
    (holding : Holding entries meter) (full : entries.length = maxMeterEntries)
    (datetime : Int64) (value : Int32) : (meter.add datetime value).1 = meter := by
  rw [StorageMeter.add, dif_neg]
  rw [holding.len, full]
  exact lt_irrefl _

/-- What a meter reads back is right exactly where the offsets fit. -/
theorem Holding.readBack_iff {entries : List (Int64 × Int32)} {meter : StorageMeter}
    (holding : Holding entries meter) :
    (meter.readBack = entries.map fun entry => (entry.1.toInt, entry.2)) ↔
      OffsetsFit entries := by
  rw [StorageMeter.readBack, holding.values, holding.offsets, List.map_map, List.zip_map',
    List.map_inj_left, OffsetsFit]
  have offset (entry : Int64 × Int32) := toNat_low_sub entry.1 meter.refTimestamp
  constructor
  · intro read first head entry inside
    have same := congrArg Prod.fst (read entry inside)
    have low := offset entry
    rw [← holding.ref first head]
    dsimp only [Function.comp_apply] at same
    omega
  · intro fit entry inside
    obtain ⟨first, head⟩ : ∃ first, entries.head? = some first := by
      cases entries with
      | nil => cases inside
      | cons first rest => exact ⟨first, rfl⟩
    have fits := fit first head entry inside
    have low := offset entry
    rw [← holding.ref first head] at fits
    have same : meter.refTimestamp.toInt +
        ((entry.1 - meter.refTimestamp).toUInt64.toUInt32.toNat : Int) = entry.1.toInt := by
      omega
    exact Prod.ext same rfl

/-! ### The energy history -/

def offsetOf (ref datetime : Int64) : UInt32 := (datetime - ref).toUInt64.toUInt32

/-- The first offset that is not zero. -/
def intervalOf (ref : Int64) (entries : List (Int64 × UInt64)) : UInt32 :=
  ((entries.map fun entry => offsetOf ref entry.1).find? (· ≠ 0)).getD 0

/-- The array and the interval come from the entries. -/
structure HoldingEnergy (entries : List (Int64 × UInt64)) (energy : StorageEnergy) : Prop where
  len : energy.len.val = entries.length
  ref : ∀ first ∈ entries.head?, energy.refTimestamp = first.1
  values : filled energy.len energy.entries = entries.map fun entry => entry.2.toUInt32
  interval : energy.interval = intervalOf energy.refTimestamp entries

theorem holdingEnergy_zero : HoldingEnergy [] Histories.factory.meterEnergy where
  len := rfl
  ref := by simp
  values := rfl
  interval := rfl

@[simp]
theorem offsetOf_self (datetime : Int64) : offsetOf datetime datetime = 0 := by
  rw [offsetOf, Int64.sub_self]
  rfl

/-- The interval is set by the first entry that gives one. -/
theorem intervalOf_concat (ref : Int64) (entries : List (Int64 × UInt64)) (datetime : Int64)
    (value : UInt64) :
    intervalOf ref (entries ++ [(datetime, value)]) =
      if intervalOf ref entries = 0 then offsetOf ref datetime else intervalOf ref entries := by
  rw [intervalOf, intervalOf, List.map_append, List.find?_append]
  cases found : (entries.map fun entry => offsetOf ref entry.1).find? (· ≠ 0) with
  | none =>
      by_cases zero : offsetOf ref datetime = 0 <;> simp [zero]
  | some interval =>
      have nonzero := List.find?_some found
      simp at nonzero
      simp [nonzero]

theorem HoldingEnergy.add {entries : List (Int64 × UInt64)} {energy : StorageEnergy}
    (holding : HoldingEnergy entries energy) (room : entries.length < maxEnergyEntries)
    (datetime : Int64) (value : UInt64) :
    HoldingEnergy (entries ++ [(datetime, value)]) (energy.add datetime value).1 := by
  have below : energy.len.val < maxEnergyEntries := by rwa [holding.len]
  have len := holding.len
  rw [StorageEnergy.add, dif_pos below]
  cases entries with
  | nil =>
      have empty : energy.len.val = 0 := len
      refine ⟨?_, ?_, ?_, ?_⟩
      · simp [empty]
      · simp [empty]
      · dsimp only
        rw [filled_set below, holding.values]
        rfl
      · have none_ := holding.interval
        simp [empty, none_, intervalOf]
  | cons first rest =>
      have some_ : ¬ energy.len.val = 0 := by
        rw [len]
        simp
      refine ⟨?_, ?_, ?_, ?_⟩
      · simp [len]
      · simpa [some_] using holding.ref
      · dsimp only
        rw [filled_set below, holding.values, List.map_append]
        rfl
      · dsimp only
        rw [if_neg some_, if_neg some_, intervalOf_concat, ← holding.interval, offsetOf]

theorem HoldingEnergy.add_full {entries : List (Int64 × UInt64)} {energy : StorageEnergy}
    (holding : HoldingEnergy entries energy) (full : entries.length = maxEnergyEntries)
    (datetime : Int64) (value : UInt64) : (energy.add datetime value).1 = energy := by
  rw [StorageEnergy.add, dif_neg]
  rw [holding.len, full]
  exact lt_irrefl _

/-- The energy history read back, entry by entry. -/
theorem HoldingEnergy.readBack_eq_iff {entries : List (Int64 × UInt64)} {energy : StorageEnergy}
    (holding : HoldingEnergy entries energy) :
    (energy.readBack = entries.map fun entry => (entry.1.toInt, entry.2.toNat)) ↔
      ∀ entry ∈ entries.zipIdx,
        energy.refTimestamp.toInt + entry.2 * energy.interval.toNat = entry.1.1.toInt ∧
          entry.1.2.toNat < 2 ^ 32 := by
  have whole : (entries.map fun entry => (entry.1.toInt, entry.2.toNat)) =
      entries.zipIdx.map fun entry => (entry.1.1.toInt, entry.1.2.toNat) := by
    rw [← List.zipIdx_map_fst 0 entries, List.map_map, List.zipIdx_map_fst]
    rfl
  rw [StorageEnergy.readBack, holding.values, whole, List.zipIdx_map, List.map_map,
    List.map_inj_left]
  refine forall₂_congr fun entry inside => ?_
  have low := UInt64.toNat_toUInt32 entry.1.2
  simp only [Function.comp_apply, Prod.map, Prod.mk.injEq, id]
  refine and_congr_right fun _ => ?_
  omega

/-- Entries at one interval set it. -/
theorem intervalOf_evenly {first second : Int64 × UInt64} {rest : List (Int64 × UInt64)}
    {interval : Nat} (small : interval < 2 ^ 32)
    (spaced : ∀ entry ∈ (first :: second :: rest).zipIdx,
      entry.1.1.toInt = first.1.toInt + entry.2 * (interval : Nat)) :
    (intervalOf first.1 (first :: second :: rest)).toNat = interval := by
  have secondAt := spaced (second, 1) (by simp [List.zipIdx_cons])
  have offset : (offsetOf first.1 second.1).toNat = interval := by
    have low := toNat_low_sub second.1 first.1
    rw [offsetOf]
    push_cast at secondAt
    omega
  rw [intervalOf, List.map_cons, offsetOf_self, List.find?_cons_of_neg (by simp), List.map_cons]
  by_cases zero : interval = 0
  · have still : ∀ entry ∈ second :: rest, offsetOf first.1 entry.1 = 0 := by
      intro entry inside
      obtain ⟨index, found⟩ := List.getElem?_of_mem (List.mem_cons_of_mem first inside)
      have at_ := spaced (entry, index) (List.mem_zipIdx_iff_getElem?.mpr found)
      have same : entry.1 = first.1 := by
        apply Int64.toInt_inj.mp
        rw [at_, zero]
        simp
      rw [same, offsetOf_self]
    have none_ : ((second :: rest).map fun entry => offsetOf first.1 entry.1).find? (· ≠ 0) =
        none := by
      rw [List.find?_eq_none]
      intro value inside
      obtain ⟨entry, member, rfl⟩ := List.mem_map.mp inside
      simp [still entry member]
    rw [List.map_cons] at none_
    rw [none_, zero]
    rfl
  · have nonzero : offsetOf first.1 second.1 ≠ 0 := by
      intro none_
      rw [none_] at offset
      exact zero offset.symm
    rw [List.find?_cons_of_pos (by simpa using nonzero)]
    exact offset

/-- What the energy history reads back is right exactly for even times and small energies. -/
theorem HoldingEnergy.readBack_iff {entries : List (Int64 × UInt64)} {energy : StorageEnergy}
    (holding : HoldingEnergy entries energy) :
    (energy.readBack = entries.map fun entry => (entry.1.toInt, entry.2.toNat)) ↔
      EvenlySpaced entries := by
  rw [holding.readBack_eq_iff, EvenlySpaced]
  constructor
  · intro read
    refine ⟨?_, energy.interval.toNat, energy.interval.toNat_lt, ?_⟩
    · intro entry inside
      obtain ⟨index, found⟩ := List.getElem?_of_mem inside
      exact (read (entry, index) (List.mem_zipIdx_iff_getElem?.mpr found)).2
    · intro first head entry inside
      rw [← holding.ref first head]
      exact (read entry inside).1.symm
  · rintro ⟨small, interval, below, spaced⟩ ⟨entry, index⟩ inside
    have found := List.mem_zipIdx_iff_getElem?.mp inside
    refine ⟨?_, small entry (List.mem_of_getElem? found)⟩
    cases entries with
    | nil => cases inside
    | cons first rest =>
        have ref := holding.ref first rfl
        have evenly := spaced first rfl
        have at_ := evenly (entry, index) inside
        rw [ref, at_]
        cases rest with
        | nil =>
            have start : index = 0 := by
              have bound := (List.getElem?_eq_some_iff.mp found).1
              simpa using bound
            rw [start]
            simp
        | cons second rest =>
            rw [holding.interval, ref, intervalOf_evenly below evenly]

theorem take_filterMap_concat {α β : Type} (select : α → Option β) (count : Nat) (calls : List α)
    (call : α) :
    ((calls ++ [call]).filterMap select).take count =
      match select call with
      | none => (calls.filterMap select).take count
      | some entry =>
          if ((calls.filterMap select).take count).length < count then
            (calls.filterMap select).take count ++ [entry]
          else (calls.filterMap select).take count := by
  rw [List.filterMap_append]
  cases selected : select call with
  | none => simp [selected]
  | some entry =>
      have last : [call].filterMap select = [entry] := by simp [selected]
      rw [last, take_concat, List.length_take]
      dsimp only
      congr 1
      rw [eq_iff_iff]
      omega

theorem length_take_eq {α : Type} {list : List α} {count : Nat}
    (full : ¬ (list.take count).length < count) : (list.take count).length = count := by
  rw [List.length_take] at full ⊢
  omega

theorem meter_addEntry (compileTime : Int64) (metered : Metered) (histories : Histories)
    (call : Call) :
    metered.meter (addEntry compileTime histories call) =
      match metered.entry compileTime call with
      | none => metered.meter histories
      | some entry => ((metered.meter histories).add entry.1 entry.2).1 := by
  cases call with
  | energy datetime value =>
      rw [addEntry, storageAddEnergyEntry]
      cases metered <;> split <;> rfl
  | meter datetime measType value =>
      have distinct : MeasType.voltageRms ≠ MeasType.powerActive := by decide
      rw [addEntry, storageAddMeterEntry, Metered.entry]
      by_cases early : datetime < compileTime
      · simp [early]
      · by_cases voltage : measType = MeasType.voltageRms
        · cases metered <;> simp [early, voltage, Metered.measType, Metered.meter, distinct]
        · by_cases power : measType = MeasType.powerActive
          · cases metered <;>
              simp [early, power, Metered.measType, Metered.meter, distinct.symm]
          · cases metered <;> simp [early, voltage, power, Metered.measType, Metered.meter]

theorem meterEnergy_addEntry (compileTime : Int64) (histories : Histories) (call : Call) :
    (addEntry compileTime histories call).meterEnergy =
      match energyEntry compileTime call with
      | none => histories.meterEnergy
      | some entry => (histories.meterEnergy.add entry.1 entry.2).1 := by
  cases call with
  | energy datetime value =>
      rw [addEntry, storageAddEnergyEntry, energyEntry]
      split <;> rfl
  | meter datetime measType value =>
      rw [addEntry, storageAddMeterEntry, energyEntry]
      grind

theorem afterCalls_concat (compileTime : Int64) (calls : List Call) (call : Call) :
    afterCalls compileTime (calls ++ [call]) =
      addEntry compileTime (afterCalls compileTime calls) call := by
  rw [afterCalls, afterCalls, List.foldl_append, List.foldl_cons, List.foldl_nil]

/-- After any calls a meter holds its accepted ones. -/
theorem holding_afterCalls (compileTime : Int64) (calls : List Call) (metered : Metered) :
    Holding (metered.accepted compileTime calls)
      (metered.meter (afterCalls compileTime calls)) := by
  induction calls using List.reverseRecOn with
  | nil =>
      cases metered <;> exact holding_zero
  | append_singleton calls call ih =>
      rw [Metered.accepted] at ih
      rw [afterCalls_concat, meter_addEntry, Metered.accepted, take_filterMap_concat]
      cases valid : metered.entry compileTime call with
      | none => exact ih
      | some entry =>
          dsimp only
          split
          · next room => exact ih.add room entry.1 entry.2
          · next full =>
              rw [ih.add_full (length_take_eq full)]
              exact ih

theorem holdingEnergy_afterCalls (compileTime : Int64) (calls : List Call) :
    HoldingEnergy (acceptedEnergy compileTime calls)
      (afterCalls compileTime calls).meterEnergy := by
  induction calls using List.reverseRecOn with
  | nil => exact holdingEnergy_zero
  | append_singleton calls call ih =>
      rw [acceptedEnergy] at ih
      rw [afterCalls_concat, meterEnergy_addEntry, acceptedEnergy, take_filterMap_concat]
      cases valid : energyEntry compileTime call with
      | none => exact ih
      | some entry =>
          dsimp only
          split
          · next room => exact ih.add room entry.1 entry.2
          · next full =>
              rw [ih.add_full (length_take_eq full)]
              exact ih

/-- The history is faithful exactly if the meters' offsets fit and the energies are even and
small. -/
theorem faithful_iff (compileTime : Int64) (calls : List Call) :
    Faithful compileTime calls ↔
      (∀ metered : Metered, OffsetsFit (metered.accepted compileTime calls)) ∧
        EvenlySpaced (acceptedEnergy compileTime calls) := by
  refine and_congr (forall_congr' fun metered => ?_) ?_
  · exact (holding_afterCalls compileTime calls metered).readBack_iff
  · exact (holdingEnergy_afterCalls compileTime calls).readBack_iff

/-- Two voltages, with the clock set back by a minute in between. -/
def clockSetBack : List Call := [.meter 1000 MeasType.voltageRms 2300,
  .meter 940 MeasType.voltageRms 2310]

theorem clockSetBack_not_faithful : ¬ Faithful 0 clockSetBack := by
  rintro ⟨meters, -⟩
  have voltages := meters .voltage
  revert voltages
  decide +kernel

end EsInverter.Storage
