import EsInverter.SerialClient.Payloads

/-!
# The ledger of the payloads

Of a request the ledger keeps whether it is active, what it is known by, where
its payload is and how long it is said to be.  Every command leaves the ledger
alone, enters a fresh block for the request that it carries, or strikes the block
of a request that it deactivates.
-/

set_option autoImplicit false

namespace EsInverter.SerialClient.Payloads

open Lib Rs232

structure Entry where
  active : Bool
  rqId : UInt16
  payload : Option Nat
  payloadLen : UInt8
  deriving DecidableEq, Repr

structure Ledger where
  entries : List Entry
  heap : Heap Nat (List UInt8)

def Slot.entry (slot : Slot) : Entry := ⟨slot.active, slot.rqId, slot.payload, slot.payloadLen⟩

def Impl.ledger (sc : Impl) : Ledger := ⟨sc.rq.map Slot.entry, sc.heap⟩

namespace Entry

def filled (rqId : UInt16) (address : Nat) (packet : Packet) : Entry :=
  ⟨true, rqId, some address, UInt8.ofNat (serialized packet).length⟩

def vacated (entry : Entry) : Entry := { entry with active := false, payload := none }

/-- The block holds a serialized packet, and the entry has its length. -/
def Describes (entry : Entry) (block : List UInt8) : Prop :=
  entry.payloadLen.toNat = block.length ∧ ∃ packet, block = serialized packet

end Entry

theorem length_serialized (packet : Packet) :
    (serialized packet).length = packet.val.length + 3 := by
  simp [serialized, crcBytes]

/-- A serialized packet is short enough for the member that keeps its length. -/
theorem toNat_length_serialized (packet : Packet) :
    (UInt8.ofNat (serialized packet).length).toNat = (serialized packet).length := by
  have fits : packet.val.length ≤ 64 := packet.property
  rw [UInt8.toNat_ofNat', length_serialized]
  omega

theorem Entry.describes_filled (rqId : UInt16) (address : Nat) (packet : Packet) :
    (filled rqId address packet).Describes (serialized packet) :=
  ⟨toNat_length_serialized packet, packet, rfl⟩

namespace Ledger

/-- Exactly the active requests have a payload, and the payloads are the live blocks. -/
structure Balanced (ledger : Ledger) : Prop where
  paired {entry : Entry} (inside : entry ∈ ledger.entries) :
    entry.active = entry.payload.isSome
  owned : Heap.OwnedBy Entry.payload Entry.Describes ledger.entries ledger.heap

/-- `carried` is the request that a command has with it, by its identifier. -/
inductive Move (carried : Option (UInt16 × Packet)) (ledger : Ledger) : Ledger → Prop
  | keep : Move carried ledger ledger
  | enter {idx address : Nat} {before : Entry} {rqId : UInt16} {packet : Packet}
      (carries : carried = some (rqId, packet)) (at_ : ledger.entries[idx]? = some before)
      (inactive : before.active = false) (fresh : ledger.heap.block address = none) :
      Move carried ledger ⟨ledger.entries.set idx (.filled rqId address packet),
        ledger.heap.store address (serialized packet)⟩
  | strike {idx address : Nat} {before : Entry} (at_ : ledger.entries[idx]? = some before)
      (points : before.payload = some address) :
      Move carried ledger
        ⟨ledger.entries.set idx before.vacated, ledger.heap.without address⟩

variable {ledger next : Ledger} {carried : Option (UInt16 × Packet)}

theorem Balanced.payload_eq_none (balanced : ledger.Balanced) {entry : Entry}
    (inside : entry ∈ ledger.entries) (inactive : entry.active = false) : entry.payload = none := by
  have paired := balanced.paired inside
  rw [inactive] at paired
  exact Option.not_isSome_iff_eq_none.mp (by rw [← paired]; exact Bool.false_ne_true)

theorem Balanced.active_of_points (balanced : ledger.Balanced) {entry : Entry} {address : Nat}
    (inside : entry ∈ ledger.entries) (points : entry.payload = some address) :
    entry.active = true := by
  rw [balanced.paired inside, points]
  rfl

theorem Balanced.move (balanced : ledger.Balanced) (moved : ledger.Move carried next) :
    next.Balanced := by
  cases moved with
  | keep => exact balanced
  | enter _ at_ inactive fresh =>
      have vacant := balanced.payload_eq_none (List.mem_of_getElem? at_) inactive
      refine ⟨fun inside => ?_, ?_⟩
      · rcases List.mem_or_eq_of_mem_set inside with earlier | rfl
        · exact balanced.paired earlier
        · rfl
      · exact balanced.owned.store fresh at_ vacant rfl (Entry.describes_filled ..)
  | strike at_ points =>
      refine ⟨fun inside => ?_, balanced.owned.without at_ points rfl⟩
      rcases List.mem_or_eq_of_mem_set inside with earlier | rfl
      · exact balanced.paired earlier
      · rfl

/-- An entry that a move leaves alone keeps its block. -/
theorem Balanced.block_eq (balanced : ledger.Balanced) (moved : ledger.Move carried next)
    {idx : Nat} {entry : Entry} (at_ : ledger.entries[idx]? = some entry)
    (later : next.entries[idx]? = some entry) :
    entry.payload.bind next.heap.block = entry.payload.bind ledger.heap.block := by
  cases points : entry.payload with
  | none => rfl
  | some address =>
      rw [Option.bind_some, Option.bind_some]
      cases moved with
      | keep => rfl
      | enter _ _ _ fresh =>
          exact Heap.block_store_of_ne (balanced.owned.ne_of_fresh fresh at_ points)
      | strike struck leads =>
          refine Heap.block_without_of_ne ?_
          rintro rfl
          cases balanced.owned.once at_ struck points leads
          have gone := (Heap.getElem?_set_of_some struck _).symm.trans later
          cases gone
          cases points

/-- A request goes from active to inactive. -/
def Deactivates (ledger next : Ledger) (idx address : Nat) : Prop :=
  ∃ before after, ledger.entries[idx]? = some before ∧ next.entries[idx]? = some after ∧
    before.payload = some address ∧ before.active = true ∧ after.active = false

/-- A request goes from inactive to active. -/
def Activates (ledger next : Ledger) (idx address : Nat) : Prop :=
  ∃ before after, ledger.entries[idx]? = some before ∧ next.entries[idx]? = some after ∧
    after.payload = some address ∧ before.active = false ∧ after.active = true

/-- A block is freed by the move that deactivates its request, and by no other. -/
theorem Balanced.freed_iff (balanced : ledger.Balanced) (moved : ledger.Move carried next)
    {address : Nat} :
    (ledger.heap.block address ≠ none ∧ next.heap.block address = none) ↔
      ∃ idx, ledger.Deactivates next idx address := by
  cases moved with
  | keep =>
      constructor
      · rintro ⟨live, dead⟩
        exact absurd dead live
      · rintro ⟨idx, before, after, at_, later, _, active, inactive⟩
        cases at_.symm.trans later
        cases active.symm.trans inactive
  | @enter place fresh_address entry _ _ _ place_at vacant fresh =>
      constructor
      · rintro ⟨live, dead⟩
        by_cases same : address = fresh_address
        · subst same
          exact absurd fresh live
        · rw [Heap.block_store_of_ne same] at dead
          exact absurd dead live
      · rintro ⟨idx, before, after, at_, later, _, active, inactive⟩
        rcases Heap.getElem?_set_cases later with ⟨rfl, rfl⟩ | ⟨_, earlier⟩
        · cases inactive
        · cases at_.symm.trans earlier
          cases active.symm.trans inactive
  | @strike place freed entry place_at points =>
      constructor
      · rintro ⟨live, dead⟩
        have same : address = freed := by
          by_contra apart
          rw [Heap.block_without_of_ne apart] at dead
          exact live dead
        subst same
        have active := balanced.active_of_points (List.mem_of_getElem? place_at) points
        exact ⟨place, entry, entry.vacated, place_at, Heap.getElem?_set_of_some place_at _, points,
          active, rfl⟩
      · rintro ⟨idx, before, after, at_, later, leads, active, inactive⟩
        rcases Heap.getElem?_set_cases later with ⟨rfl, rfl⟩ | ⟨_, earlier⟩
        · cases place_at.symm.trans at_
          cases points.symm.trans leads
          obtain ⟨block, live, -⟩ := balanced.owned.live at_ leads
          exact ⟨by rw [live]; simp, Heap.block_without⟩
        · cases at_.symm.trans earlier
          cases active.symm.trans inactive

/-- A block is taken by the move that activates its request, and by no other. -/
theorem Move.taken_iff (moved : ledger.Move carried next) {address : Nat} :
    (ledger.heap.block address = none ∧ next.heap.block address ≠ none) ↔
      ∃ idx, ledger.Activates next idx address := by
  cases moved with
  | keep =>
      constructor
      · rintro ⟨dead, live⟩
        exact absurd dead live
      · rintro ⟨idx, before, after, at_, later, _, inactive, active⟩
        cases at_.symm.trans later
        cases active.symm.trans inactive
  | @enter place fresh_address entry _ _ _ place_at vacant fresh =>
      constructor
      · rintro ⟨dead, live⟩
        have same : address = fresh_address := by
          by_contra apart
          rw [Heap.block_store_of_ne apart] at live
          exact live dead
        subst same
        exact ⟨place, entry, _, place_at, Heap.getElem?_set_of_some place_at _, rfl, vacant, rfl⟩
      · rintro ⟨idx, before, after, at_, later, leads, inactive, active⟩
        rcases Heap.getElem?_set_cases later with ⟨rfl, rfl⟩ | ⟨_, earlier⟩
        · cases leads
          exact ⟨fresh, by rw [Heap.block_store]; simp⟩
        · cases at_.symm.trans earlier
          cases active.symm.trans inactive
  | @strike place freed entry place_at points =>
      constructor
      · rintro ⟨dead, live⟩
        by_cases same : address = freed
        · subst same
          exact absurd Heap.block_without live
        · rw [Heap.block_without_of_ne same] at live
          exact absurd dead live
      · rintro ⟨idx, before, after, at_, later, leads, inactive, active⟩
        rcases Heap.getElem?_set_cases later with ⟨rfl, rfl⟩ | ⟨_, earlier⟩
        · cases active
        · cases at_.symm.trans earlier
          cases active.symm.trans inactive

end Ledger

theorem balanced_zeroed : Impl.zeroed.ledger.Balanced := by
  have vacant : ∀ entry ∈ Impl.zeroed.ledger.entries, entry = Slot.zero.entry := by
    intro entry inside
    obtain ⟨slot, slot_inside, rfl⟩ := List.mem_map.mp inside
    rw [List.eq_of_mem_replicate slot_inside]
  refine ⟨fun inside => ?_, Heap.ownedBy_empty fun entry inside => ?_⟩
  · rw [vacant _ inside]
    rfl
  · rw [vacant _ inside]
    rfl

/-! ### The functions one by one -/

variable {sc : Impl} {idx : Nat} {before slot : Slot}

theorem entry_at (at_ : sc.rq[idx]? = some slot) : sc.ledger.entries[idx]? = some slot.entry := by
  rw [Impl.ledger, List.getElem?_map, at_]
  rfl

theorem entry_mem (at_ : sc.rq[idx]? = some slot) : slot.entry ∈ sc.ledger.entries :=
  List.mem_of_getElem? (entry_at at_)

/-- A slot that keeps its entry leaves the ledger alone. -/
theorem map_entry_set {rqs : List Slot} (at_ : rqs[idx]? = some before)
    (same : slot.entry = before.entry) :
    (rqs.set idx slot).map Slot.entry = rqs.map Slot.entry := by
  rw [List.map_set, same]
  apply List.ext_getElem?
  intro place
  by_cases here : idx = place
  · subst here
    rw [List.getElem?_set_self', List.getElem?_map, at_]
    rfl
  · rw [List.getElem?_set_ne here]

@[simp]
theorem ledger_startTimer (calls : TimerCalls) (durationMs : UInt32) (sc : Impl) :
    (startTimer calls durationMs sc).1.ledger = sc.ledger := by
  unfold startTimer
  split
  · rfl
  · dsimp only
    split
    · rfl
    · rfl

@[simp]
theorem entry_waited (delayMs : Int32) (slot : Slot) :
    (slot.waited delayMs).entry = slot.entry := by
  unfold Slot.waited
  split
  · rfl
  · rfl

@[simp]
theorem entry_sent (slot : Slot) : slot.sent.entry = slot.entry := by
  unfold Slot.sent
  dsimp only
  split
  · split
    · rfl
    · rfl
  · split
    · rfl
    · rfl

@[simp]
theorem ledger_scheduleNextTimerEvt (calls : TimerCalls) (delayMs : Int32) (sc : Impl) :
    (scheduleNextTimerEvt calls delayMs sc).ledger = sc.ledger := by
  unfold scheduleNextTimerEvt
  split
  · have same := ledger_startTimer calls delayMs.toUInt32 sc
    have waited : Slot.entry ∘ Slot.waited delayMs = Slot.entry := funext (entry_waited delayMs)
    rw [Impl.ledger, Ledger.mk.injEq] at same
    rw [Impl.ledger, List.map_map, waited, same.1, same.2]
  · rfl

theorem deactivateRq_returns (balanced : sc.ledger.Balanced) (at_ : sc.rq[idx]? = some slot) :
    ∃ heap, deactivateRq idx sc = .ok { sc with rq := sc.rq.set idx slot.vacated, heap } ∧
      sc.ledger.Move none ⟨(sc.rq.set idx slot.vacated).map Slot.entry, heap⟩ := by
  rw [deactivateRq, at_]
  dsimp only
  cases points : slot.payload with
  | none =>
      have inactive : slot.active = false := by
        have paired := balanced.paired (entry_mem at_)
        rwa [Slot.entry, points] at paired
      have same : slot.vacated = slot := by
        rw [Slot.vacated, ← points, ← inactive]
      refine ⟨sc.heap, rfl, ?_⟩
      rw [same, map_entry_set at_ rfl]
      exact .keep
  | some address =>
      obtain ⟨block, live, -⟩ := balanced.owned.live (entry_at at_) points
      have freed : sc.heap.free address = some (sc.heap.without address) := Heap.free_of_live live
      dsimp only
      rw [freed, List.map_set]
      exact ⟨_, rfl, .strike (entry_at at_) points⟩

theorem settle_returns (balanced : sc.ledger.Balanced) (at_ : sc.rq[idx]? = some before)
    (same : slot.entry = before.entry) (done : Bool) :
    ∃ heap,
      settle idx slot done sc =
        .ok { sc with rq := sc.rq.set idx (if done then slot.vacated else slot), heap } ∧
      sc.ledger.Move none
        ⟨(sc.rq.set idx (if done then slot.vacated else slot)).map Slot.entry, heap⟩ := by
  have kept : Impl.ledger { sc with rq := sc.rq.set idx slot } = sc.ledger := by
    rw [Impl.ledger, map_entry_set at_ same]
    rfl
  cases done with
  | false =>
      refine ⟨sc.heap, rfl, ?_⟩
      have alone : sc.ledger.Move none sc.ledger := .keep
      rwa [← kept] at alone ⊢
  | true =>
      have there := Heap.getElem?_set_of_some at_ slot
      have returned := @deactivateRq_returns { sc with rq := sc.rq.set idx slot } idx slot
        (by rw [kept]; exact balanced) there
      rw [kept, List.set_set] at returned
      exact returned

/-- The ledger behind a request that was added, whether or not the timer starts. -/
theorem move_added {rqId : UInt16} {address : Nat} {packet : Packet}
    (at_ : sc.rq[idx]? = some before) (inactive : before.active = false)
    (fresh : sc.heap.block address = none)
    (filled : slot.entry = .filled rqId address packet) (calls : TimerCalls) (durationMs : UInt32) :
    sc.ledger.Move (some (rqId, packet)) (startTimer calls durationMs { sc with
      rq := sc.rq.set idx slot, heap := sc.heap.store address (serialized packet) }).1.ledger := by
  have carries : some (rqId, packet) = some (rqId, packet) := rfl
  have moved := Ledger.Move.enter carries (entry_at at_) inactive fresh
  rw [← filled, Impl.ledger, ← List.map_set] at moved
  rw [ledger_startTimer]
  exact moved

/-- A slot that `add_rq` may take. -/
def Impl.hasFree (sc : Impl) : Bool := sc.rq.any fun slot => !slot.active

theorem addRequest_returns {offset : Nat → UInt32} {periodic : Bool} {serializing : Serializing}
    {calls : TimerCalls} {rqId : UInt16} {packet : Packet} {timeout : UInt32} {maxRetries : UInt8}
    (balanced : sc.ledger.Balanced)
    (fresh : ∀ address, serializing = .block address → sc.heap.block address = none) :
    (∃ next result,
        addRequest offset periodic serializing calls rqId packet timeout maxRetries sc =
          .ok (next, result) ∧ ¬ (sc.hasFree ∧ serializing = .asserted) ∧
        sc.ledger.Move (some (rqId, packet)) next.ledger) ∨
      (addRequest offset periodic serializing calls rqId packet timeout maxRetries sc =
          .error (.assertion .serialized) ∧ sc.hasFree ∧ serializing = .asserted) := by
  rw [addRequest]
  split
  · next full =>
      have taken : ¬ sc.hasFree := by
        rw [Impl.hasFree, ← List.findIdx?_isSome, full]
        exact Bool.false_ne_true
      exact .inl ⟨sc, -1, rfl, fun stopped => taken stopped.1, .keep⟩
  · next idx found =>
      obtain ⟨inside, inactive, -⟩ := List.findIdx?_eq_some_iff_getElem.mp found
      have at_ := List.getElem?_eq_getElem inside
      have unused : sc.rq[idx].active = false := by simpa using inactive
      have vacant : sc.rq[idx].payload = none :=
        balanced.payload_eq_none (entry_mem at_) unused
      have free : sc.hasFree := by
        rw [Impl.hasFree, ← List.findIdx?_isSome, found]
        rfl
      rw [at_]
      dsimp only
      rw [if_neg (not_not.mpr vacant)]
      cases serializing with
      | asserted => exact .inr ⟨rfl, free, rfl⟩
      | null => exact .inl ⟨sc, -2, rfl, fun stopped => Serializing.noConfusion stopped.2, .keep⟩
      | block address =>
          refine .inl ?_
          dsimp only
          have moved (slot : Slot) (filled : slot.entry = .filled rqId address packet) :=
            move_added at_ unused (fresh address rfl) filled calls 2000
          split
          · exact ⟨_, -3, rfl, fun stopped => Serializing.noConfusion stopped.2, moved _ rfl⟩
          · exact ⟨_, idx, rfl, fun stopped => Serializing.noConfusion stopped.2, moved _ rfl⟩

theorem removePeriodicRq_returns (balanced : sc.ledger.Balanced) (rqId : UInt16) :
    ∃ next result, removePeriodicRq rqId sc = .ok (next, result) ∧
      sc.ledger.Move none next.ledger := by
  rw [removePeriodicRq]
  split
  · exact ⟨sc, -1, rfl, .keep⟩
  · next idx found =>
      obtain ⟨inside, -⟩ := List.findIdx?_eq_some_iff_getElem.mp found
      obtain ⟨heap, removed, moved⟩ :=
        deactivateRq_returns balanced (List.getElem?_eq_getElem inside)
      rw [removed, ok_bind]
      split
      · exact ⟨_, 0, rfl, moved⟩
      · exact ⟨_, 0, rfl, moved⟩

theorem ackRsp_returns (balanced : sc.ledger.Balanced) (correspondingRq : UInt16) :
    ∃ next, ackRsp correspondingRq sc = .ok next ∧ sc.ledger.Move none next.ledger := by
  rw [ackRsp]
  obtain ⟨forgotten, same, ledger⟩ : ∃ forgotten : Impl,
      (if sc.lastRqId = correspondingRq then { sc with lastRqId := expRspInvalid } else sc) =
        forgotten ∧ forgotten.ledger = sc.ledger := by
    refine ⟨_, rfl, ?_⟩
    split
    · rfl
    · rfl
  rw [same]
  rw [← ledger] at balanced ⊢
  split
  · exact ⟨forgotten, rfl, .keep⟩
  · next idx found =>
      obtain ⟨inside, -⟩ := List.findIdx?_eq_some_iff_getElem.mp found
      have at_ := List.getElem?_eq_getElem inside
      have acked : forgotten.rq[idx].acked.entry = forgotten.rq[idx].entry := rfl
      obtain ⟨heap, settled, moved⟩ := settle_returns balanced at_ acked
        (decide (forgotten.rq[idx].maxRetries > 0))
      rw [at_]
      dsimp only
      exact ⟨_, settled, moved⟩

theorem active_of_shown {rq : Rq} (active : ActiveAt sc.shown.rq idx rq) :
    ∃ slot, sc.rq[idx]? = some slot ∧ slot.shown sc.heap = rq ∧ slot.active = true := by
  obtain ⟨at_, used⟩ := active
  rw [Impl.shown, List.getElem?_map, Option.map_eq_some_iff] at at_
  obtain ⟨slot, at_, rfl⟩ := at_
  exact ⟨slot, at_, rfl, used⟩

/-- The payload of an active request can be read in full, and it is not empty. -/
theorem readPayload_returns (balanced : sc.ledger.Balanced) (at_ : sc.rq[idx]? = some slot)
    (active : slot.active = true) :
    slot.payloadLen ≠ 0 ∧ ∃ packet, slot.payload.bind sc.heap.block = some (serialized packet) ∧
      readPayload slot sc.heap = .ok (serialized packet) := by
  have paired : slot.active = slot.payload.isSome := balanced.paired (entry_mem at_)
  rw [active] at paired
  obtain ⟨address, points⟩ := Option.isSome_iff_exists.mp paired.symm
  obtain ⟨block, live, described, packet, rfl⟩ := balanced.owned.live (entry_at at_) points
  have length : slot.payloadLen.toNat = (serialized packet).length := described
  constructor
  · intro empty
    have zero : slot.payloadLen.toNat = 0 := by rw [empty]; rfl
    have positive := length_serialized packet
    omega
  · have found : slot.payload.bind sc.heap.block = some (serialized packet) := by
      rw [points]
      exact live
    refine ⟨packet, found, ?_⟩
    rw [readPayload, found]
    dsimp only
    rw [if_neg (Nat.not_lt.mpr (Nat.le_of_eq length)), length, List.take_length]

theorem nextDelay_returns (balanced : sc.ledger.Balanced) (sent : Bool) :
    ∃ next delayMs, nextDelay sent sc = .ok (next, delayMs) ∧ sc.ledger.Move none next.ledger := by
  rw [nextDelay]
  rcases findEarliest_cases sc.shown.rq with ⟨same, -⟩ | ⟨idx, rq, same, selected, -⟩
  · rw [same]
    exact ⟨sc, _, rfl, .keep⟩
  · obtain ⟨slot, at_, rfl, active⟩ := active_of_shown selected.active
    rw [same]
    dsimp only
    split
    · exact ⟨sc, _, rfl, .keep⟩
    · obtain ⟨filled, packet, points, read⟩ := readPayload_returns balanced at_ active
      rw [Option.bind_some, at_, Option.map_some]
      dsimp only
      rw [if_neg filled, read, ok_bind]
      cases sent with
      | false => exact ⟨_, _, rfl, .keep⟩
      | true =>
          obtain ⟨next, settled, moved⟩ : ∃ next,
              settle idx slot.sent slot.exhausted
                { sc with
                  lastRqId := slot.rqId, written := sc.written ++ [serialized packet] } = .ok next ∧
              sc.ledger.Move none next.ledger := by
            obtain ⟨heap, settled, moved⟩ := @settle_returns
              { sc with lastRqId := slot.rqId, written := sc.written ++ [serialized packet] } idx
              slot slot.sent
              balanced at_ (entry_sent slot) slot.exhausted
            exact ⟨_, settled, moved⟩
          rw [if_neg (by simp), settled, ok_bind]
          split
          · exact ⟨_, _, rfl, moved⟩
          · exact ⟨_, _, rfl, moved⟩

theorem sendRq_returns (balanced : sc.ledger.Balanced) (sent : Bool) (calls : TimerCalls) :
    ∃ next, sendRq sent calls sc = .ok next ∧ sc.ledger.Move none next.ledger := by
  obtain ⟨next, delayMs, delayed, moved⟩ := nextDelay_returns balanced sent
  rw [sendRq, delayed, ok_bind]
  refine ⟨_, rfl, ?_⟩
  rw [ledger_scheduleNextTimerEvt]
  exact moved

/-- The request that a command adds. -/
def Command.carried : Command → Option (UInt16 × Packet)
  | .addRq _ _ rqId packet .. => some (rqId, packet)
  | .addPeriodicRq _ _ rqId packet _ => some (rqId, packet)
  | _ => none

/-- The assertion that a command runs into: the one on the period, or that of the serializer. -/
def stoppedAt (sc : Impl) : Command → Option Assert
  | .addRq serializing .. =>
      if sc.hasFree ∧ serializing = .asserted then some .serialized else none
  | .addPeriodicRq serializing _ _ _ period =>
      if period ≤ 1 then some .period
      else if sc.hasFree ∧ serializing = .asserted then some .serialized else none
  | _ => none

theorem perform_returns {command : Command} (balanced : sc.ledger.Balanced)
    (fresh : Fresh sc command) :
    (∃ next, perform sc command = .ok next ∧ stoppedAt sc command = none ∧
        sc.ledger.Move command.carried next.ledger) ∨
      ∃ failed, perform sc command = .error (.assertion failed) ∧
        stoppedAt sc command = some failed := by
  cases command with
  | addRq serializing calls rqId packet timeout retries =>
      have unused : ∀ address, serializing = .block address → sc.heap.block address = none := by
        rintro address rfl
        exact fresh address rfl
      rw [perform, addRq, stoppedAt]
      rcases addRequest_returns balanced unused with
        ⟨next, result, added, goes, moved⟩ | ⟨stopped, asserted⟩
      · rw [added, if_neg goes]
        exact .inl ⟨next, rfl, rfl, moved⟩
      · rw [stopped, if_pos asserted]
        exact .inr ⟨.serialized, rfl, rfl⟩
  | addPeriodicRq serializing calls rqId packet period =>
      have unused : ∀ address, serializing = .block address → sc.heap.block address = none := by
        rintro address rfl
        exact fresh address rfl
      rw [perform, addPeriodicRq, stoppedAt]
      by_cases short : period ≤ 1
      · rw [if_pos short, if_pos short]
        exact .inr ⟨.period, rfl, rfl⟩
      · rw [if_neg short, if_neg short]
        rcases addRequest_returns balanced unused with
          ⟨next, result, added, goes, moved⟩ | ⟨stopped, asserted⟩
        · rw [added, if_neg goes]
          exact .inl ⟨next, rfl, rfl, moved⟩
        · rw [stopped, if_pos asserted]
          exact .inr ⟨.serialized, rfl, rfl⟩
  | removePeriodicRq rqId =>
      obtain ⟨next, result, removed, moved⟩ := removePeriodicRq_returns balanced rqId
      refine .inl ⟨next, ?_, rfl, moved⟩
      rw [perform, removed]
      rfl
  | ackRsp correspondingRq =>
      obtain ⟨next, acked, moved⟩ := ackRsp_returns balanced correspondingRq
      exact .inl ⟨next, acked, rfl, moved⟩
  | sendRq sent calls =>
      obtain ⟨next, ran, moved⟩ := sendRq_returns balanced sent calls
      exact .inl ⟨next, ran, rfl, moved⟩

theorem perform_error_iff {command : Command} {fault : Fault} (balanced : sc.ledger.Balanced)
    (fresh : Fresh sc command) :
    perform sc command = .error fault ↔
      ∃ failed, stoppedAt sc command = some failed ∧ fault = .assertion failed := by
  rcases perform_returns balanced fresh with ⟨next, performed, goes, -⟩ | ⟨failed, ends, stopped⟩
  · rw [performed, goes]
    exact iff_of_false (fun same => by cases same) fun ⟨failed, same, _⟩ => by cases same
  · rw [ends, stopped, Except.error.injEq]
    constructor
    · rintro rfl
      exact ⟨failed, rfl, rfl⟩
    · rintro ⟨again, same, rfl⟩
      cases same
      rfl

theorem stoppedAt_cases {command : Command} {failed : Assert}
    (stopped : stoppedAt sc command = some failed) : failed = .period ∨ failed = .serialized := by
  unfold stoppedAt at stopped
  split at stopped
  · split at stopped
    · cases stopped
      exact .inr rfl
    · cases stopped
  · split at stopped
    · cases stopped
      exact .inl rfl
    · split at stopped
      · cases stopped
        exact .inr rfl
      · cases stopped
  · cases stopped

theorem ok_of_map {α β : Type} {run : Except Fault (α × β)} {value : α}
    (mapped : run.map Prod.fst = .ok value) : ∃ result, run = .ok (value, result) := by
  cases run with
  | error fault => cases mapped
  | ok pair =>
      cases mapped
      exact ⟨pair.2, rfl⟩

variable {next : Impl} {command : Command}

theorem moves_of_step (balanced : sc.ledger.Balanced)
    (stepped : commands.step sc command = some next) :
    perform sc command = .ok next ∧ sc.ledger.Move command.carried next.ledger := by
  unfold commands at stepped
  dsimp only at stepped
  split at stepped
  · next fresh =>
      rcases perform_returns balanced fresh with
        ⟨returned, performed, _, moved⟩ | ⟨assertion, failed, _⟩
      · rw [performed] at stepped
        cases stepped
        exact ⟨performed, moved⟩
      · rw [failed] at stepped
        cases stepped
  · cases stepped

def Impl.Balanced (sc : Impl) : Prop := sc.ledger.Balanced

theorem Impl.Balanced.step (balanced : sc.Balanced)
    (stepped : commands.step sc command = some next) : next.Balanced :=
  Ledger.Balanced.move balanced (moves_of_step balanced stepped).2

theorem balanced_of_run {trace : List (Impl × Command)}
    (run : commands.Run .zeroed trace sc) : sc.Balanced :=
  run.always balanced_zeroed Impl.Balanced.step

/-! ### The request-slot invariant -/

theorem Impl.Balanced.active_iff (balanced : sc.Balanced) (inside : slot ∈ sc.rq) :
    slot.active = true ↔ slot.payload ≠ none := by
  have paired : slot.active = slot.payload.isSome :=
    Ledger.Balanced.paired balanced (List.mem_map_of_mem (f := Slot.entry) inside)
  rw [paired, Option.isSome_iff_ne_none]

theorem Impl.Balanced.stored (balanced : sc.Balanced) (inside : slot ∈ sc.rq) {address : Nat}
    (points : slot.payload = some address) :
    ∃ packet, sc.heap.block address = some (serialized packet) ∧
      slot.payloadLen.toNat = (serialized packet).length := by
  obtain ⟨idx, at_⟩ := List.mem_iff_getElem?.mp inside
  obtain ⟨block, live, length, packet, rfl⟩ :=
    (Ledger.Balanced.owned balanced).live (entry_at at_) points
  exact ⟨packet, live, length⟩

/-- In every state that the commands reach, with whatever serializers and timers failed: a slot is
active if and only if it has a payload, whose length it says; the assertions on the payload and on
the index never fail; and a payload is freed exactly when its slot is deactivated. -/
theorem slots_paired {trace : List (Impl × Command)} (run : commands.Run .zeroed trace sc) :
    (∀ slot ∈ sc.rq, slot.active = true ↔ slot.payload ≠ none) ∧
    (∀ slot ∈ sc.rq, ∀ address, slot.payload = some address →
      ∃ packet, sc.heap.block address = some (serialized packet) ∧
        slot.payloadLen.toNat = (serialized packet).length) ∧
    (∀ command, Fresh sc command →
      perform sc command ≠ .error (.assertion .rqPayload) ∧
        perform sc command ≠ .error (.assertion .sendIdx)) ∧
    ∀ command next, commands.step sc command = some next → ∀ address,
      (sc.heap.block address ≠ none ∧ next.heap.block address = none) ↔
        ∃ idx, sc.ledger.Deactivates next.ledger idx address := by
  have balanced := balanced_of_run run
  refine ⟨fun slot inside => balanced.active_iff inside,
    fun slot inside address points => balanced.stored inside points, ?_, ?_⟩
  · intro command fresh
    have stops (failed : Assert) (ends : perform sc command = .error (.assertion failed)) :
        failed = .period ∨ failed = .serialized := by
      obtain ⟨again, stopped, same⟩ := (perform_error_iff balanced fresh).mp ends
      cases same
      exact stoppedAt_cases stopped
    constructor
    · intro ends
      rcases stops .rqPayload ends with same | same
      · cases same
      · cases same
    · intro ends
      rcases stops .sendIdx ends with same | same
      · cases same
      · cases same
  · intro command next stepped address
    exact Ledger.Balanced.freed_iff balanced (moves_of_step balanced stepped).2

def qvfw : Packet := ⟨[81, 86, 70, 87], by decide⟩

def qpigs : Packet := ⟨[81, 80, 73, 71, 83], by decide⟩

/-- A request that there is no memory for, one whose timer does not start, its single try, and one
that is answered at once. -/
def firmwareCommands : List Command :=
  [.addPeriodicRq .null ⟨true, true⟩ 3 qvfw 10000, .addRq (.block 7) ⟨false, true⟩ 3 qvfw 100 0,
    .sendRq true ⟨true, false⟩, .addRq (.block 7) ⟨true, true⟩ 9 qpigs 0 2, .ackRsp 9]

theorem slots_paired_firmwareCommands :
    ∃ sc next, commands.exec .zeroed (firmwareCommands.take 4) = some sc ∧
      commands.step sc (.ackRsp 9) = some next ∧
      (∃ slot ∈ sc.rq, slot.active = true ∧ slot.payload = some 7) ∧
      ((sc.heap.block 7 ≠ none ∧ next.heap.block 7 = none) ↔
        ∃ idx, sc.ledger.Deactivates next.ledger idx 7) := by
  obtain ⟨sc, next, executed, stepped, held⟩ : ∃ sc next,
      commands.exec .zeroed (firmwareCommands.take 4) = some sc ∧
      commands.step sc (.ackRsp 9) = some next ∧
      ∃ slot ∈ sc.rq, slot.active = true ∧ slot.payload = some 7 :=
    ⟨_, _, rfl, rfl, by decide⟩
  have paired := slots_paired (Machine.run_of_exec executed)
  exact ⟨sc, next, executed, stepped, held, paired.2.2.2 (.ackRsp 9) next stepped 7⟩

/-! ### The memory of the payloads -/

/-- In every state that the commands reach, with whatever serializers and timers failed: the active
requests are those with a payload, each payload is a live block of its own that holds a serialized
packet of the length that its request says, no command fails but at the assertions of the period and
of the serializer, and a block is allocated and freed with the activation and the deactivation of its
request. -/
theorem payloads_balanced {trace : List (Impl × Command)} (run : commands.Run .zeroed trace sc) :
    (∀ slot ∈ sc.rq, slot.active = true ↔ slot.payload ≠ none) ∧
    (∀ slot ∈ sc.rq, ∀ address, slot.payload = some address →
      ∃ packet, sc.heap.block address = some (serialized packet) ∧
        slot.payloadLen.toNat = (serialized packet).length) ∧
    (∀ address, sc.heap.block address ≠ none →
      ∃! idx : Nat, ∃ slot : Slot, sc.rq[idx]? = some slot ∧ slot.payload = some address) ∧
    (∀ command fault, Fresh sc command →
      (perform sc command = .error fault ↔
        ∃ failed, stoppedAt sc command = some failed ∧ fault = .assertion failed)) ∧
    ∀ command next, commands.step sc command = some next → ∀ address,
      ((sc.heap.block address ≠ none ∧ next.heap.block address = none) ↔
        ∃ idx, sc.ledger.Deactivates next.ledger idx address) ∧
      ((sc.heap.block address = none ∧ next.heap.block address ≠ none) ↔
        ∃ idx, sc.ledger.Activates next.ledger idx address) := by
  have balanced : sc.ledger.Balanced := balanced_of_run run
  refine ⟨fun slot inside => (balanced_of_run run).active_iff inside,
    fun slot inside address points => (balanced_of_run run).stored inside points, ?_,
    fun command fault fresh => perform_error_iff balanced fresh, ?_⟩
  · intro address live
    obtain ⟨block, live⟩ := Option.ne_none_iff_exists'.mp live
    obtain ⟨idx, entry, entry_at_, points⟩ := balanced.owned.held live
    obtain ⟨slot, at_, rfl⟩ := Option.map_eq_some_iff.mp (List.getElem?_map ▸ entry_at_)
    refine ⟨idx, ⟨slot, at_, points⟩, ?_⟩
    rintro other ⟨otherSlot, other_at, again⟩
    exact balanced.owned.once (entry_at other_at) entry_at_ again points
  · intro command next stepped address
    have moved := (moves_of_step balanced stepped).2
    exact ⟨balanced.freed_iff moved, moved.taken_iff⟩

theorem payloads_balanced_firmwareCommands :
    ∃ sc, commands.exec .zeroed (firmwareCommands.take 4) = some sc ∧
      sc.heap.block 7 ≠ none ∧
      ∃! idx : Nat, ∃ slot : Slot, sc.rq[idx]? = some slot ∧ slot.payload = some 7 := by
  obtain ⟨sc, executed, live⟩ : ∃ sc,
      commands.exec .zeroed (firmwareCommands.take 4) = some sc ∧ sc.heap.block 7 ≠ none :=
    ⟨_, rfl, by decide⟩
  exact ⟨sc, executed, live, (payloads_balanced (Machine.run_of_exec executed)).2.2.1 7 live⟩

end EsInverter.SerialClient.Payloads
