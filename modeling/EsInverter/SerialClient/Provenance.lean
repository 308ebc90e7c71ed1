import EsInverter.SerialClient.Ledger

/-!
# The requests behind the frames

A frame that the client writes is the packet of an earlier command, and the
request of that command has been active in its slot ever since.
-/

set_option autoImplicit false

namespace EsInverter.SerialClient.Payloads

open Lib Rs232

namespace Ledger

/-- An active request is in the slot. -/
def Holds (ledger : Ledger) (idx : Nat) (rqId : UInt16) : Prop :=
  ∃ entry, ledger.entries[idx]? = some entry ∧ entry.active = true ∧ entry.rqId = rqId

def Vacant (ledger : Ledger) (idx : Nat) : Prop :=
  ∃ entry, ledger.entries[idx]? = some entry ∧ entry.active = false

variable {ledger next : Ledger} {carried : Option (UInt16 × Packet)}

/-- A request that is active behind a move was so before it or was carried by its command. -/
theorem Balanced.origin (balanced : ledger.Balanced) (moved : ledger.Move carried next) {idx : Nat}
    {entry : Entry} (at_ : next.entries[idx]? = some entry) (active : entry.active = true) :
    (ledger.entries[idx]? = some entry ∧
        entry.payload.bind next.heap.block = entry.payload.bind ledger.heap.block) ∨
      ∃ packet, ledger.Vacant idx ∧ carried = some (entry.rqId, packet) ∧
        entry.payload.bind next.heap.block = some (serialized packet) := by
  cases moved with
  | keep => exact .inl ⟨at_, rfl⟩
  | enter carries vacant_at inactive fresh =>
      rcases Heap.getElem?_set_cases at_ with ⟨rfl, rfl⟩ | ⟨_, earlier⟩
      · exact .inr ⟨_, ⟨_, vacant_at, inactive⟩, carries, Heap.block_store⟩
      · have moved : ledger.Move carried _ := .enter carries vacant_at inactive fresh
        exact .inl ⟨earlier, balanced.block_eq moved earlier at_⟩
  | strike struck_at points =>
      rcases Heap.getElem?_set_cases at_ with ⟨rfl, rfl⟩ | ⟨_, earlier⟩
      · cases active
      · have moved : ledger.Move carried _ := .strike struck_at points
        exact .inl ⟨earlier, balanced.block_eq moved earlier at_⟩

end Ledger

/-- A command of the trace added the request to the slot, which has held it ever since. -/
def Stems (trace : List (Impl × Command)) (idx : Nat) (rqId : UInt16) (packet : Packet) : Prop :=
  ∃ earlier sc command later, trace = earlier ++ (sc, command) :: later ∧
    command.carried = some (rqId, packet) ∧ sc.ledger.Vacant idx ∧
    ∀ taken ∈ later, taken.1.ledger.Holds idx rqId

def Sourced (trace : List (Impl × Command)) (sc : Impl) : Prop :=
  ∀ idx entry, sc.ledger.entries[idx]? = some entry → entry.active = true →
    ∃ packet, entry.payload.bind sc.heap.block = some (serialized packet) ∧
      Stems trace idx entry.rqId packet

variable {trace : List (Impl × Command)} {sc next : Impl} {command : Command} {idx : Nat}

theorem Stems.snoc {rqId : UInt16} {packet : Packet} (stems : Stems trace idx rqId packet)
    (holds : sc.ledger.Holds idx rqId) : Stems (trace ++ [(sc, command)]) idx rqId packet := by
  obtain ⟨earlier, adding, adder, later, rfl, carries, vacant, held⟩ := stems
  refine ⟨earlier, adding, adder, later ++ [(sc, command)], by simp, carries, vacant, ?_⟩
  intro taken inside
  rcases List.mem_append.mp inside with before | last
  · exact held taken before
  · cases List.mem_singleton.mp last
    exact holds

theorem sourced_of_run (run : commands.Run .zeroed trace sc) : Sourced trace sc := by
  induction run with
  | nil =>
      intro idx entry at_ active
      obtain ⟨slot, slot_at, rfl⟩ := Option.map_eq_some_iff.mp (List.getElem?_map ▸ at_)
      cases List.eq_of_mem_replicate (List.mem_of_getElem? slot_at)
      cases active
  | @snoc trace sc next command run stepped ih =>
      intro idx entry at_ active
      obtain ⟨_, moved⟩ := moves_of_step (balanced_of_run run) stepped
      rcases (balanced_of_run run).origin moved at_ active with
        ⟨earlier, same⟩ | ⟨packet, vacant, carries, block⟩
      · obtain ⟨packet, block, stems⟩ := ih idx entry earlier active
        exact ⟨packet, same.trans block, stems.snoc ⟨entry, earlier, active, rfl⟩⟩
      · exact ⟨packet, block, trace, sc, command, [], rfl, carries, vacant, by simp⟩

/-! ### What the functions write -/

/-- Nothing was written, or the payload of an active request was. -/
def Impl.Writes (sc next : Impl) : Prop :=
  next.written = sc.written ∨
    ∃ (idx : Nat) (slot : Slot) (block : List UInt8), sc.rq[idx]? = some slot ∧
      slot.active = true ∧ slot.payload.bind sc.heap.block = some block ∧
      next.written = sc.written ++ [block] ∧ next.lastRqId = slot.rqId

theorem deactivateRq_writes (deactivated : deactivateRq idx sc = .ok next) :
    next.written = sc.written ∧ next.lastRqId = sc.lastRqId := by
  rw [deactivateRq] at deactivated
  split at deactivated
  · cases deactivated
  · split at deactivated
    · cases deactivated
      exact ⟨rfl, rfl⟩
    · split at deactivated
      · cases deactivated
      · cases deactivated
        exact ⟨rfl, rfl⟩

theorem settle_writes {slot : Slot} {done : Bool} (settled : settle idx slot done sc = .ok next) :
    next.written = sc.written ∧ next.lastRqId = sc.lastRqId := by
  rw [settle] at settled
  split at settled
  · have writes := deactivateRq_writes settled
    exact writes
  · cases settled
    exact ⟨rfl, rfl⟩

theorem startTimer_writes (calls : TimerCalls) (durationMs : UInt32) (sc : Impl) :
    (startTimer calls durationMs sc).1.written = sc.written ∧
      (startTimer calls durationMs sc).1.lastRqId = sc.lastRqId := by
  unfold startTimer
  split
  · exact ⟨rfl, rfl⟩
  · dsimp only
    split
    · exact ⟨rfl, rfl⟩
    · exact ⟨rfl, rfl⟩

theorem scheduleNextTimerEvt_writes (calls : TimerCalls) (delayMs : Int32) (sc : Impl) :
    (scheduleNextTimerEvt calls delayMs sc).written = sc.written ∧
      (scheduleNextTimerEvt calls delayMs sc).lastRqId = sc.lastRqId := by
  unfold scheduleNextTimerEvt
  split
  · exact startTimer_writes calls delayMs.toUInt32 sc
  · exact ⟨rfl, rfl⟩

theorem addRequest_writes {offset : Nat → UInt32} {periodic : Bool} {serializing : Serializing}
    {calls : TimerCalls} {rqId : UInt16} {packet : Packet} {timeout : UInt32} {maxRetries : UInt8}
    {result : Int}
    (added : addRequest offset periodic serializing calls rqId packet timeout maxRetries sc =
      .ok (next, result)) : next.written = sc.written := by
  rw [addRequest] at added
  split at added
  · cases added
    rfl
  · split at added
    · cases added
    · split at added
      · cases added
      · split at added
        · cases added
        · cases added
          rfl
        · dsimp only at added
          split at added
          · cases added
            exact (startTimer_writes ..).1
          · cases added
            exact (startTimer_writes ..).1

/-- Only a successful send writes, and it writes the payload of an active request. -/
theorem nextDelay_writes {sent : Bool} {delayMs : Int32} (balanced : sc.ledger.Balanced)
    (delayed : nextDelay sent sc = .ok (next, delayMs)) : sc.Writes next := by
  rw [nextDelay] at delayed
  rcases findEarliest_cases sc.shown.rq with ⟨same, -⟩ | ⟨idx, rq, same, selected, -⟩
  · rw [same] at delayed
    cases delayed
    exact .inl rfl
  · obtain ⟨slot, at_, rfl, active⟩ := active_of_shown selected.active
    obtain ⟨filled, packet, points, read⟩ := readPayload_returns balanced at_ active
    rw [same] at delayed
    dsimp only at delayed
    split at delayed
    · cases delayed
      exact .inl rfl
    · rw [Option.bind_some, at_, Option.map_some] at delayed
      dsimp only at delayed
      rw [if_neg filled, read, ok_bind] at delayed
      cases sent with
      | false =>
          cases delayed
          exact .inl rfl
      | true =>
          rw [if_neg (by simp)] at delayed
          obtain ⟨after, settled, rest⟩ := bind_ok delayed
          have writes := settle_writes settled
          refine .inr ⟨idx, slot, serialized packet, at_, active, points, ?_⟩
          split at rest
          · cases rest
            exact writes
          · cases rest
            exact writes

theorem perform_writes (balanced : sc.ledger.Balanced)
    (performed : perform sc command = .ok next) : sc.Writes next := by
  cases command with
  | addRq serializing calls rqId packet timeout retries =>
      obtain ⟨result, added⟩ := ok_of_map performed
      exact .inl (addRequest_writes added)
  | addPeriodicRq serializing calls rqId packet period =>
      obtain ⟨result, added⟩ := ok_of_map performed
      rw [addPeriodicRq] at added
      split at added
      · cases added
      · exact .inl (addRequest_writes added)
  | removePeriodicRq rqId =>
      obtain ⟨result, removed⟩ := ok_of_map performed
      rw [removePeriodicRq] at removed
      split at removed
      · cases removed
        exact .inl rfl
      · obtain ⟨after, deactivated, rest⟩ := bind_ok removed
        have writes := (deactivateRq_writes deactivated).1
        split at rest
        · cases rest
          exact .inl writes
        · cases rest
          exact .inl writes
  | ackRsp correspondingRq =>
      rw [perform, ackRsp] at performed
      have forgotten : ∀ id : UInt16,
          (if sc.lastRqId = id then { sc with lastRqId := expRspInvalid } else sc).written =
            sc.written := by
        intro id
        split
        · rfl
        · rfl
      split at performed
      · cases performed
        exact .inl (forgotten correspondingRq)
      · split at performed
        · cases performed
        · exact .inl ((settle_writes performed).1.trans (forgotten correspondingRq))
  | sendRq sent calls =>
      rw [perform, sendRq] at performed
      obtain ⟨⟨after, delayMs⟩, delayed, rest⟩ := bind_ok performed
      cases rest
      obtain ⟨written, lastRqId⟩ := scheduleNextTimerEvt_writes calls delayMs after
      rw [Impl.Writes, written, lastRqId]
      exact nextDelay_writes balanced delayed

/-- In every run: a command writes nothing, or it writes one frame, the serialized packet of an
earlier command whose request was free to be taken when it was added, has been active in every state
since, and is the one whose response is waited for then. -/
theorem frames_sourced (run : commands.Run .zeroed trace sc)
    (stepped : commands.step sc command = some next) :
    next.written = sc.written ∨
      ∃ idx packet, next.written = sc.written ++ [serialized packet] ∧
        sc.ledger.Holds idx next.lastRqId ∧ Stems trace idx next.lastRqId packet := by
  obtain ⟨performed, _⟩ := moves_of_step (balanced_of_run run) stepped
  rcases perform_writes (balanced_of_run run) performed with
    same | ⟨idx, slot, block, at_, active, points, written, lastRqId⟩
  · exact .inl same
  · obtain ⟨packet, stored, stems⟩ := sourced_of_run run idx slot.entry (entry_at at_) active
    cases points.symm.trans stored
    rw [lastRqId]
    exact .inr ⟨idx, packet, written, ⟨slot.entry, entry_at at_, active, rfl⟩, stems⟩

theorem frames_sourced_firmwareCommands :
    ∃ sc next idx packet, commands.exec .zeroed (firmwareCommands.take 2) = some sc ∧
      commands.step sc (.sendRq true ⟨true, false⟩) = some next ∧
      next.written = sc.written ++ [serialized packet] ∧ sc.ledger.Holds idx next.lastRqId := by
  obtain ⟨sc, next, executed, stepped, grown⟩ : ∃ sc next,
      commands.exec .zeroed (firmwareCommands.take 2) = some sc ∧
      commands.step sc (.sendRq true ⟨true, false⟩) = some next ∧ next.written ≠ sc.written :=
    ⟨_, _, rfl, rfl, by decide⟩
  rcases frames_sourced (Machine.run_of_exec executed) stepped with
    same | ⟨idx, packet, written, holds, -⟩
  · exact absurd same grown
  · exact ⟨sc, next, idx, packet, executed, stepped, written, holds⟩

end EsInverter.SerialClient.Payloads
