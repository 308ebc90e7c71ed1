import EsInverter.Inverter.Energy
import EsInverter.Lib.Filled
import EsInverter.Lib.Words

/-!
# Where measured energy goes

What was ever credited to an accumulator is compared with what the accumulator
and the history hold; the sender is handed nothing.  Each call is treated on its
own; a run adds the calls up.
-/

set_option autoImplicit false

namespace EsInverter.Inverter

open Lib

/-- The members of `inv_energy_meas_t`. -/
inductive Accumulator
  | gridConsumed
  | gridProvided
  | acOutput
  | pv
  | batteryCharge
  | batteryDischarge
  deriving DecidableEq, Repr

instance : Fintype Accumulator where
  elems := {.gridConsumed, .gridProvided, .acOutput, .pv, .batteryCharge, .batteryDischarge}
  complete accumulator := by
    cases accumulator <;> decide

/-- The energies of a column of the history, summed over its first cells. -/
def sumOfFirst {capacity : Nat} (count : Nat) (column : Vector Energy capacity) : Nat :=
  ((column.toList.take count).map fun cell => cell.energy.toNat).sum

namespace Accumulator

variable {capacity : Nat} {PowerSet PowerHistory : Type}

def current : Accumulator → EnergyMeas → Nat
  | gridConsumed, meas => meas.gridConsumed.energy.toNat
  | gridProvided, meas => meas.gridProvided.energy.toNat
  | acOutput, meas => meas.acOutput.energy.toNat
  | pv, meas => meas.pv.energy.toNat
  | batteryCharge, meas => meas.batteryCharge.energy.toNat
  | batteryDischarge, meas => meas.batteryDischarge.energy.toNat

/-- The amount in the first cells of the accumulator's array; one of them has no array. -/
def stored (count : Nat) (cells : Cells capacity) : Accumulator → Nat
  | gridConsumed => sumOfFirst count cells.grid
  | gridProvided => 0
  | acOutput => sumOfFirst count cells.acOutput
  | pv => sumOfFirst count cells.pv
  | batteryCharge => sumOfFirst count cells.batteryCharge
  | batteryDischarge => sumOfFirst count cells.batteryDischarge

/-- What the accumulator and the history hold. -/
def held (meters : Meters capacity PowerSet PowerHistory) (accumulator : Accumulator) : Nat :=
  accumulator.current meters.energyMeas +
    accumulator.stored meters.energyHistory.size meters.energyHistory.cells

end Accumulator

section

variable {capacity : Nat} {PowerSet PowerHistory : Type}
variable (helpers : Helpers PowerSet PowerHistory)

/-- The accumulator that a call credits, and the amount. -/
def creditOf (meters : Meters capacity PowerSet PowerHistory) : Call → Option (Accumulator × Int)
  | .sample now (.grid _ _ _) =>
      let delta := meters.gridMeas.deltaEnergy now
      if meters.gridMeas.timestamp = 0 then none
      else if 0 ≤ delta then some (.gridConsumed, delta.toInt)
      else some (.gridProvided, -delta.toInt)
  | .sample now (.battery _ _) =>
      let delta := meters.batteryMeas.deltaEnergy now
      if meters.batteryMeas.timestamp = 0 then none
      else if 0 < delta then some (.batteryCharge, delta.toInt)
      else some (.batteryDischarge, -delta.toInt)
  | .sample now (.acOut _ _ _ _ _) =>
      if meters.acOutputMeas.timestamp = 0 then none
      else
        some (.acOutput,
          (deltaEnergy helpers now meters.pvMeas.timestamp meters.acOutPowerHistory).toInt)
  | .sample now (.pv idx _ _) =>
      if maxPvInputs ≤ idx then none
      else if meters.pvMeas.timestamp = 0 then none
      else
        some (.pv, (deltaEnergy helpers now meters.pvMeas.timestamp meters.pvPowerHistory).toInt)
  | .store _ => none

def credit (meters : Meters capacity PowerSet PowerHistory) (made : Call)
    (accumulator : Accumulator) : Int :=
  match creditOf helpers meters made with
  | none => 0
  | some (credited, amount) => if credited = accumulator then amount else 0

/-- The total credited to an accumulator by calls from a state on. -/
def totalCredit (accumulator : Accumulator) :
    Meters capacity PowerSet PowerHistory → List Call → Int
  | _, [] => 0
  | meters, made :: rest =>
      credit helpers meters made accumulator +
        totalCredit accumulator (call helpers meters made) rest

variable (capacity) in
def afterCalls [NeZero capacity] (calls : List Call) : Meters capacity PowerSet PowerHistory :=
  calls.foldl (call helpers) (.initial helpers)

variable (capacity) in
/-- No measured energy was lost by the calls. -/
def Conserved [NeZero capacity] (calls : List Call) : Prop :=
  ∀ accumulator : Accumulator,
    totalCredit helpers accumulator (.initial helpers : Meters capacity PowerSet PowerHistory)
      calls = accumulator.held (afterCalls capacity helpers calls)

/-- An entry is stored: the history is empty or some meter reached the threshold. -/
def Meters.Stores (meters : Meters capacity PowerSet PowerHistory) : Prop :=
  meters.energyHistory.size.val = 0 ∨ meters.energyMeas.belowMin = false

instance (meters : Meters capacity PowerSet PowerHistory) : Decidable meters.Stores :=
  inferInstanceAs (Decidable (_ ∨ _))

/-- The next entry is the last one the history has room for. -/
def Meters.Fills (meters : Meters capacity PowerSet PowerHistory) : Prop :=
  meters.energyHistory.size.val + 1 = capacity

/-- The condition on a call: an entry is stored only while nothing was provided to the grid, it
fills the history only if it and the whole history are zero, and a credited accumulator does not
wrap. -/
def Keeps (meters : Meters capacity PowerSet PowerHistory) : Call → Prop
  | .store _ => meters.Stores →
      meters.energyMeas.gridProvided.energy = 0 ∧
        (meters.Fills → ∀ accumulator : Accumulator, accumulator.held meters = 0)
  | .sample now sample =>
      ∀ accumulator : Accumulator,
        0 ≤ accumulator.current meters.energyMeas +
            credit helpers meters (.sample now sample) accumulator ∧
          accumulator.current meters.energyMeas +
            credit helpers meters (.sample now sample) accumulator < 2 ^ 64

instance (meters : Meters capacity PowerSet PowerHistory) : Decidable meters.Fills :=
  inferInstanceAs (Decidable (_ = _))

instance (meters : Meters capacity PowerSet PowerHistory) (made : Call) :
    Decidable (Keeps helpers meters made) := by
  unfold Keeps
  split <;> infer_instance

/-- The condition on each call of a run. -/
def KeepsAll (meters : Meters capacity PowerSet PowerHistory) : List Call → Prop
  | [] => True
  | made :: rest => Keeps helpers meters made ∧ KeepsAll (call helpers meters made) rest

instance decidableKeepsAll : (meters : Meters capacity PowerSet PowerHistory) →
    (calls : List Call) → Decidable (KeepsAll helpers meters calls)
  | _, [] => isTrue trivial
  | meters, made :: rest =>
      have := decidableKeepsAll (call helpers meters made) rest
      inferInstanceAs (Decidable (_ ∧ _))

/-! ### A sample credits one accumulator -/

theorem Energy.toNat_add (delta : Int64) (meter : Energy) :
    ((meter.add delta).energy.toNat : Int) = (meter.energy.toNat + delta.toInt) % 2 ^ 64 := by
  have read := toNat_toUInt64 delta
  rw [Energy.add, UInt64.toNat_add]
  omega

theorem Energy.toNat_sub (delta : Int64) (meter : Energy) :
    ((meter.sub delta).energy.toNat : Int) = (meter.energy.toNat + -delta.toInt) % 2 ^ 64 := by
  have read := toNat_toUInt64 delta
  have bound := delta.toUInt64.toNat_lt
  have small := meter.energy.toNat_lt
  rw [Energy.sub, UInt64.toNat_sub]
  omega

variable {helpers} in
theorem current_lt (meters : Meters capacity PowerSet PowerHistory) (accumulator : Accumulator) :
    accumulator.current meters.energyMeas < 2 ^ 64 := by
  cases accumulator <;> exact UInt64.toNat_lt _

/-- Setting one accumulator to a value leaves the others alone. -/
theorem current_takeSample (now : Int64) (sample : Sample)
    (meters : Meters capacity PowerSet PowerHistory) (accumulator : Accumulator) :
    (accumulator.current (takeSample helpers now meters sample).energyMeas : Int) =
      (accumulator.current meters.energyMeas +
        credit helpers meters (.sample now sample) accumulator) % 2 ^ 64 := by
  have small := current_lt meters accumulator
  have unchanged : (accumulator.current meters.energyMeas : Int) =
      (accumulator.current meters.energyMeas + 0) % 2 ^ 64 := by omega
  rw [credit]
  cases sample with
  | grid voltage power freq =>
      rw [takeSample, invSetMeasGrid, creditOf, creditGrid]
      dsimp only
      split
      · exact unchanged
      · split
        · cases accumulator <;> first | exact unchanged | exact Energy.toNat_add _ _
        · cases accumulator <;> first | exact unchanged | exact Energy.toNat_sub _ _
  | battery voltage power =>
      rw [takeSample, invSetMeasBattery, creditOf, creditBattery]
      dsimp only
      split
      · exact unchanged
      · split
        · cases accumulator <;> first | exact unchanged | exact Energy.toNat_add _ _
        · cases accumulator <;> first | exact unchanged | exact Energy.toNat_sub _ _
  | acOut voltage power freq load powerFactor =>
      rw [takeSample, invSetMeasAcOut, creditOf, creditAcOut]
      dsimp only
      split
      · exact unchanged
      · cases accumulator <;> first | exact unchanged | exact Energy.toNat_add _ _
  | pv idx voltage power =>
      rw [takeSample, invSetMeasPv, creditOf]
      dsimp only
      split
      · exact unchanged
      · dsimp only [creditPv]
        split
        · exact unchanged
        · cases accumulator <;> first | exact unchanged | exact Energy.toNat_add _ _

/-! ### What is held after a call -/

@[simp]
theorem takeSample_energyHistory (now : Int64) (sample : Sample)
    (meters : Meters capacity PowerSet PowerHistory) :
    (takeSample helpers now meters sample).energyHistory = meters.energyHistory := by
  cases sample with
  | grid _ _ _ | battery _ _ | acOut _ _ _ _ _ => rfl
  | pv idx _ _ =>
      rw [takeSample, invSetMeasPv]
      split <;> rfl

/-- A sample is kept exactly if the accumulator it credits does not wrap. -/
theorem keeps_sample_iff (now : Int64) (sample : Sample)
    (meters : Meters capacity PowerSet PowerHistory) :
    Keeps helpers meters (.sample now sample) ↔
      ∀ accumulator : Accumulator,
        (accumulator.held (takeSample helpers now meters sample) : Int) =
          accumulator.held meters + credit helpers meters (.sample now sample) accumulator := by
  rw [Keeps]
  refine forall_congr' fun accumulator => ?_
  have moved := current_takeSample helpers now sample meters accumulator
  rw [Accumulator.held, Accumulator.held, takeSample_energyHistory]
  push_cast
  omega

theorem sumOfFirst_set (idx : Fin capacity) (meter : Energy) (column : Vector Energy capacity) :
    sumOfFirst (idx + 1) (column.set idx meter idx.isLt) =
      sumOfFirst idx column + meter.energy.toNat := by
  have taken := filled_set idx.isLt meter column
  rw [filled, filled] at taken
  rw [sumOfFirst, sumOfFirst, taken, List.map_append, List.sum_append]
  simp

/-- An entry holds what the accumulators held, all but the energy provided to the grid. -/
theorem stored_put (idx : Fin capacity) (offset : Int64) (meas : EnergyMeas)
    (cells : Cells capacity) (accumulator : Accumulator) :
    accumulator.stored (idx + 1) (cells.put idx offset meas) =
      accumulator.stored idx cells +
        if accumulator = .gridProvided then 0 else accumulator.current meas := by
  cases accumulator <;>
    simp [Accumulator.stored, Accumulator.current, Cells.put, sumOfFirst_set]

@[simp]
theorem stored_zero (cells : Cells capacity) (accumulator : Accumulator) :
    accumulator.stored 0 cells = 0 := by
  cases accumulator <;> simp [Accumulator.stored, sumOfFirst]

@[simp]
theorem current_zero (accumulator : Accumulator) : accumulator.current .zero = 0 := by
  cases accumulator <;> rfl

/-- What a stored entry loses: everything when it fills the history, else the energy provided to the
grid. -/
def Meters.lost (meters : Meters capacity PowerSet PowerHistory)
    (accumulator : Accumulator) : Nat :=
  if meters.energyHistory.size.val + 1 < capacity then
    if accumulator = .gridProvided then accumulator.current meters.energyMeas else 0
  else accumulator.held meters

/-- Storing an entry moves the accumulators; what it does not move is lost. -/
theorem held_storeEntry (now : Int64) (meters : Meters capacity PowerSet PowerHistory)
    (accumulator : Accumulator) :
    accumulator.held (storeEntry now meters) + meters.lost accumulator =
      accumulator.held meters := by
  have entry :=
    stored_put meters.energyHistory.size (now - meters.energyHistory.refTimestamp)
      meters.energyMeas meters.energyHistory.cells accumulator
  rw [storeEntry, Meters.lost]
  split
  · rw [Accumulator.held, Accumulator.held]
    dsimp only
    rw [entry, current_zero]
    split <;> omega
  · -- The size is reset, and with it the whole history is gone.
    rw [Accumulator.held]
    dsimp only
    rw [current_zero, stored_zero, Nat.zero_add]

/-- What is held changes at a stored entry only. -/
theorem held_store (now : Int64) (meters : Meters capacity PowerSet PowerHistory)
    (accumulator : Accumulator) :
    accumulator.held (invStoreEnergyMeas now meters) +
        (if meters.Stores then meters.lost accumulator else 0) =
      accumulator.held meters := by
  rw [invStoreEnergyMeas]
  split
  · next empty =>
      rw [if_pos (.inl empty)]
      exact held_storeEntry now
        { meters with energyHistory := meters.energyHistory.referTo now meters.energyMeas }
        accumulator
  · next occupied =>
      split
      · next below =>
          rw [if_neg (by simp [Meters.Stores, occupied, below]), Nat.add_zero]
      · next reached =>
          rw [if_pos (.inr (by simpa using reached))]
          exact held_storeEntry now meters accumulator

theorem lost_eq_zero_iff (meters : Meters capacity PowerSet PowerHistory) :
    (∀ accumulator : Accumulator, meters.lost accumulator = 0) ↔
      meters.energyMeas.gridProvided.energy = 0 ∧
        (meters.Fills → ∀ accumulator : Accumulator, accumulator.held meters = 0) := by
  have inside := meters.energyHistory.size.isLt
  constructor
  · intro nothing
    have provided := nothing .gridProvided
    rw [Meters.lost, if_pos rfl] at provided
    have none : Accumulator.gridProvided.current meters.energyMeas = 0 := by
      split at provided
      · exact provided
      · rw [Accumulator.held] at provided
        omega
    refine ⟨UInt64.toNat.inj none, fun fills accumulator => ?_⟩
    have lost := nothing accumulator
    rw [Meters.Fills] at fills
    rw [Meters.lost, if_neg (by omega)] at lost
    exact lost
  · rintro ⟨provided, fills⟩ accumulator
    rw [Meters.lost]
    split
    · split
      · next same => rw [same, Accumulator.current, provided, UInt64.toNat_zero]
      · rfl
    · next full =>
        have filled : meters.Fills := by
          rw [Meters.Fills]
          omega
        exact fills filled accumulator

/-- A call to store is kept exactly if nothing is lost with the entry. -/
theorem keeps_store_iff (now : Int64) (meters : Meters capacity PowerSet PowerHistory) :
    Keeps helpers meters (.store now) ↔
      ∀ accumulator : Accumulator,
        (accumulator.held (invStoreEnergyMeas now meters) : Int) =
          accumulator.held meters + credit helpers meters (.store now) accumulator := by
  have nothing (accumulator : Accumulator) :
      credit helpers meters (.store now) accumulator = 0 := rfl
  rw [Keeps, ← lost_eq_zero_iff]
  constructor
  · intro kept accumulator
    have moved := held_store now meters accumulator
    rw [nothing]
    split at moved
    · next stores =>
        have none := kept stores accumulator
        omega
    · omega
  · intro kept stores accumulator
    have moved := held_store now meters accumulator
    have same := kept accumulator
    rw [nothing] at same
    rw [if_pos stores] at moved
    omega

theorem keeps_iff (meters : Meters capacity PowerSet PowerHistory) (made : Call) :
    Keeps helpers meters made ↔
      ∀ accumulator : Accumulator,
        (accumulator.held (call helpers meters made) : Int) =
          accumulator.held meters + credit helpers meters made accumulator := by
  cases made with
  | sample now sample => exact keeps_sample_iff helpers now sample meters
  | store now => exact keeps_store_iff helpers now meters

/-! ### Runs of calls -/

theorem totalCredit_concat (accumulator : Accumulator) (calls : List Call) (last : Call)
    (meters : Meters capacity PowerSet PowerHistory) :
    totalCredit helpers accumulator meters (calls ++ [last]) =
      totalCredit helpers accumulator meters calls +
        credit helpers (calls.foldl (call helpers) meters) last accumulator := by
  induction calls generalizing meters with
  | nil => simp [totalCredit]
  | cons made rest ih =>
      rw [List.cons_append, totalCredit, totalCredit, ih, List.foldl_cons]
      omega

theorem conserved_nil [NeZero capacity] : Conserved capacity helpers [] := by
  intro accumulator
  have none := stored_zero (Cells.zero : Cells capacity) accumulator
  rw [totalCredit, afterCalls, List.foldl_nil, Accumulator.held]
  simp [Meters.initial, EnergyHistory.initial, none]

theorem conserved_concat_iff [NeZero capacity] {calls : List Call}
    (before : Conserved capacity helpers calls) (last : Call) :
    Conserved capacity helpers (calls ++ [last]) ↔
      Keeps helpers (afterCalls capacity helpers calls) last := by
  rw [keeps_iff, Conserved]
  refine forall_congr' fun accumulator => ?_
  rw [totalCredit_concat, before accumulator, afterCalls, afterCalls, List.foldl_append]
  exact eq_comm

theorem keepsAll_prefix (meters : Meters capacity PowerSet PowerHistory) {calls : List Call}
    (keeps : KeepsAll helpers meters calls) {earlier : List Call} {made : Call}
    (reached : earlier ++ [made] <+: calls) :
    Keeps helpers (earlier.foldl (call helpers) meters) made := by
  induction calls generalizing meters earlier with
  | nil => simp at reached
  | cons first rest ih =>
      cases earlier with
      | nil =>
          obtain rfl := (List.cons_prefix_cons.mp reached).1
          exact keeps.1
      | cons second more =>
          obtain ⟨rfl, later⟩ := List.cons_prefix_cons.mp reached
          exact ih (call helpers meters second) keeps.2 later

/-- Energy is conserved after every call of a run exactly if each call keeps it. -/
theorem conserved_iff [NeZero capacity] (calls : List Call) :
    (∀ earlier, earlier <+: calls → Conserved capacity helpers earlier) ↔
      ∀ earlier made, earlier ++ [made] <+: calls →
        Keeps helpers (afterCalls capacity helpers earlier) made := by
  constructor
  · intro conserved earlier made reached
    have before := conserved earlier ((List.prefix_append _ _).trans reached)
    exact (conserved_concat_iff helpers before made).mp (conserved _ reached)
  · intro keeps earlier reached
    induction earlier using List.reverseRecOn with
    | nil => exact conserved_nil helpers
    | append_singleton earlier made ih =>
        have before := ih ((List.prefix_append _ _).trans reached)
        exact (conserved_concat_iff helpers before made).mpr (keeps earlier made reached)

end

/-! ### A clock that is set back -/

/-- Sets that are full after one sample, and histories that keep the last entry. -/
def lastPower : Helpers UInt16 Int16 where
  emptySet := 0
  emptyHistory := 0
  setAdd _ power := (power, true)
  setAvg power := power
  setClear _ := 0
  lastEntry power := power
  addEntry _ _ power := (power.toInt16, 1)
  clearHistory _ := 0

/-- A battery is charged and discharged; two entries are stored on the way. -/
def twoEntries : List Call :=
  [.sample 1000 (.battery 520 1000), .sample 2000 (.battery 520 (-500)),
    .sample 4000 (.battery 520 900), .store 4000, .sample 5000 (.battery 520 0), .store 5000]

theorem conserved_twoEntries :
    Accumulator.batteryCharge.held (afterCalls 96 lastPower twoEntries) = 1900000 ∧
      Conserved 96 lastPower twoEntries := by
  have keeps : KeepsAll lastPower (.initial lastPower : Meters 96 UInt16 Int16) twoEntries := by
    decide +kernel
  refine ⟨by decide +kernel, (conserved_iff lastPower twoEntries).mpr ?_ _ (List.prefix_refl _)⟩
  intro earlier made reached
  exact keepsAll_prefix lastPower _ keeps reached

/-- Two grid samples with the clock set back in between, and an entry. -/
def setBack : List Call :=
  [.sample 20000 (.grid 2300 1000 500), .sample 10000 (.grid 2300 1000 500), .store 10000]

theorem setBack_not_conserved : ¬ Conserved 96 lastPower setBack := by
  intro conserved
  have provided := conserved .gridProvided
  have held : Accumulator.gridProvided.held (afterCalls 96 lastPower setBack) = 0 := by
    decide +kernel
  have credited : totalCredit lastPower .gridProvided
      (.initial lastPower : Meters 96 UInt16 Int16) setBack = 9999 := by
    decide +kernel
  rw [held, credited] at provided
  simp at provided

end EsInverter.Inverter
