import EsInverter.SerialClient.Requests

/-!
# The commands of the task, case by case

What each command leaves behind when no assertion fails.  The invariants of the
request table, of its timer and of the last request are derived from these cases.
-/

set_option autoImplicit false

namespace EsInverter.SerialClient

open Lib Rs232

/-- The slot that `ack_rsp` changes. -/
def ackedSlot (correspondingRq : UInt16) (client : Client) : Option Nat :=
  client.rq.findIdx? fun rq => rq.active && rq.rqId == correspondingRq

/-- The request that `send_rq` sends, with its slot. -/
def chosen (client : Client) : Option (Nat × Rq) :=
  match findEarliest client.rq 0 Int32.maxValue none with
  | (earliest, sendIdx) =>
      if earliest > 50 then none else sendIdx.bind fun idx => client.rq[idx]?.map (idx, ·)

/-- The client behind a successful `em_uart_send`. -/
def Client.sent (client : Client) (idx : Nat) (rq : Rq) : Client :=
  { client with
    lastRqId := rq.rqId
    rq := client.rq.modify idx Rq.sent
    written := client.written ++ [(rq.payload.getD []).take rq.payloadLen.toNat] }

/-! ### The active slots -/

def ActiveAt (rqs : List Rq) (idx : Nat) (rq : Rq) : Prop :=
  rqs[idx]? = some rq ∧ rq.active = true

theorem activeAt_of_mem {rqs : List Rq} {rq : Rq} (inside : rq ∈ rqs) (active : rq.active = true) :
    ∃ idx, ActiveAt rqs idx rq := by
  obtain ⟨idx, at_⟩ := List.mem_iff_getElem?.mp inside
  exact ⟨idx, at_, active⟩

theorem ActiveAt.mem {rqs : List Rq} {idx : Nat} {rq : Rq} (active : ActiveAt rqs idx rq) :
    rq ∈ rqs := List.mem_of_getElem? active.1

/-- Every slot that is active afterwards was active before, with the same identifier. -/
def Fewer (rqs next : List Rq) : Prop :=
  ∀ idx rq, ActiveAt next idx rq → ∃ before, ActiveAt rqs idx before ∧ before.rqId = rq.rqId

theorem Fewer.refl (rqs : List Rq) : Fewer rqs rqs := fun _ rq active => ⟨rq, active, rfl⟩

theorem Fewer.trans {first second third : List Rq} (left : Fewer first second)
    (right : Fewer second third) : Fewer first third := by
  intro idx rq active
  obtain ⟨middle, activeMiddle, same⟩ := right idx rq active
  obtain ⟨before, activeBefore, again⟩ := left idx middle activeMiddle
  exact ⟨before, activeBefore, again.trans same⟩

/-- A change of one slot that may switch it off. -/
def SwitchesOff (change : Rq → Rq) : Prop :=
  ∀ rq, (change rq).rqId = rq.rqId ∧ ((change rq).active = true → rq.active = true)

theorem switchesOff_sent : SwitchesOff Rq.sent := by
  intro rq
  rw [Rq.sent]
  dsimp only
  split
  · split
    · exact ⟨rfl, fun active => absurd active Bool.false_ne_true⟩
    · exact ⟨rfl, id⟩
  · split
    · exact ⟨rfl, id⟩
    · exact ⟨rfl, id⟩

theorem switchesOff_deactivated : SwitchesOff Rq.deactivated :=
  fun _ => ⟨rfl, fun active => absurd active Bool.false_ne_true⟩

theorem switchesOff_acked : SwitchesOff Rq.acked := by
  intro rq
  rw [Rq.acked]
  dsimp only
  split
  · exact ⟨rfl, fun active => absurd active Bool.false_ne_true⟩
  · exact ⟨rfl, id⟩

theorem switchesOff_waited (delayMs : Int32) : SwitchesOff (Rq.waited delayMs) := by
  intro rq
  rw [Rq.waited]
  split
  · exact ⟨rfl, id⟩
  · exact ⟨rfl, id⟩

theorem fewer_modify {change : Rq → Rq} (off : SwitchesOff change) (rqs : List Rq) (idx : Nat) :
    Fewer rqs (rqs.modify idx change) := by
  rintro other rq ⟨at_, active⟩
  rw [List.getElem?_modify, Option.map_eq_map, Option.map_eq_some_iff] at at_
  obtain ⟨before, at_, rfl⟩ := at_
  split at active
  · next same =>
      rw [if_pos same]
      exact ⟨before, ⟨at_, (off before).2 active⟩, (off before).1.symm⟩
  · next different =>
      rw [if_neg different]
      exact ⟨before, ⟨at_, active⟩, rfl⟩

theorem fewer_map {change : Rq → Rq} (off : SwitchesOff change) (rqs : List Rq) :
    Fewer rqs (rqs.map change) := by
  rintro other rq ⟨at_, active⟩
  rw [List.getElem?_map, Option.map_eq_some_iff] at at_
  obtain ⟨before, at_, rfl⟩ := at_
  exact ⟨before, ⟨at_, (off before).2 active⟩, (off before).1.symm⟩

/-! ### The commands one by one -/

variable {client next : Client}

/-- A request that was added is in the first free slot, and every other slot is as before. -/
theorem addRequest_cases {offset : Nat → UInt32} {periodic allocated : Bool} {rqId : UInt16}
    {payload : List UInt8} {timeout : UInt32} {maxRetries : UInt8} {result : Int}
    (added : addRequest offset periodic allocated rqId payload timeout maxRetries client =
      .ok (next, result)) :
    (result = -1 ∧ next = client ∧ client.rq.findIdx? (fun rq => !rq.active) = none) ∨
      ∃ (free : Nat) (serialized : List UInt8), result = free ∧
        client.rq.findIdx? (fun rq => !rq.active) = some free ∧
        rs232Serialize allocated payload = .ok serialized ∧
        next = Client.startTimer 2000 { client with
          rq := client.rq.set free
            { payload := some serialized, rqId, timeout := timeout.toUInt16,
              sinceLastSent := (timeout - offset free).toInt32, retries := 0, maxRetries,
              payloadLen := UInt8.ofNat serialized.length, active := true, periodic } } := by
  rw [addRequest] at added
  split at added
  · next none_ =>
      cases added
      exact .inl ⟨rfl, rfl, none_⟩
  · next free found =>
      split at added
      · cases added
      · split at added
        · cases added
        · split at added
          · cases added
          · next done =>
              cases added
              exact .inr ⟨free, _, rfl, found, done, rfl⟩

theorem addRequest_of_addPeriodicRq {allocated : Bool} {rqId : UInt16} {payload : List UInt8}
    {period : UInt32} {result : Int}
    (added : addPeriodicRq allocated rqId payload period client = .ok (next, result)) :
    addRequest (fun idx => UInt32.ofNat ((idx + 1) * 500)) true allocated rqId payload period 0
      client = .ok (next, result) := by
  rw [addPeriodicRq] at added
  split at added
  · cases added
  · exact added

/-- Only the slot that the scan stops at changes, and the timer if no request is left. -/
theorem removePeriodicRq_cases (rqId : UInt16) (client : Client) :
    (client.rq.findIdx? (fun rq => rq.periodic && rq.rqId == rqId) = none ∧
        removePeriodicRq rqId client = (client, -1)) ∨
      ∃ idx, client.rq.findIdx? (fun rq => rq.periodic && rq.rqId == rqId) = some idx ∧
        removePeriodicRq rqId client =
          ({ client with
              rq := client.rq.modify idx Rq.deactivated
              timer := if (client.rq.modify idx Rq.deactivated).any Rq.active then client.timer
                else none }, 0) := by
  rw [removePeriodicRq]
  split
  · next none_ => exact .inl ⟨none_, rfl⟩
  · next idx found =>
      refine .inr ⟨idx, found, ?_⟩
      dsimp only [deactivateRq]
      split
      · rfl
      · rfl

/-- Only the acknowledged slot changes, and the last request may be forgotten. -/
theorem ackRsp_cases (correspondingRq : UInt16) (client : Client) :
    ∃ lastRqId, (lastRqId = client.lastRqId ∨ lastRqId = expRspInvalid) ∧
      ((ackedSlot correspondingRq client = none ∧
          ackRsp correspondingRq client = { client with lastRqId }) ∨
        ∃ idx, ackedSlot correspondingRq client = some idx ∧
          ackRsp correspondingRq client =
            { client with lastRqId, rq := client.rq.modify idx Rq.acked }) := by
  rw [ackRsp, ackedSlot]
  by_cases last : client.lastRqId = correspondingRq
  · rw [if_pos last]
    refine ⟨expRspInvalid, .inr rfl, ?_⟩
    split
    · next none_ => exact .inl ⟨none_, rfl⟩
    · next idx found => exact .inr ⟨idx, found, rfl⟩
  · rw [if_neg last]
    refine ⟨client.lastRqId, .inl rfl, ?_⟩
    split
    · next none_ => exact .inl ⟨none_, rfl⟩
    · next idx found => exact .inr ⟨idx, found, rfl⟩

/-- Up to the timer, `send_rq` finds nothing to send, fails to send a request or sends it. -/
theorem nextDelay_cases {sent : Bool} {delayMs : Int32}
    (result : nextDelay sent client = .ok (next, delayMs)) :
    (chosen client = none ∧ next = client) ∨
      ∃ idx rq, chosen client = some (idx, rq) ∧ client.rq[idx]? = some rq ∧ rq.payloadLen ≠ 0 ∧
        ((sent = false ∧ next = { client with lastRqId := rq.rqId }) ∨
          (sent = true ∧ next = client.sent idx rq)) := by
  rw [nextDelay] at result
  rw [chosen]
  generalize findEarliest client.rq 0 Int32.maxValue none = earliest at result ⊢
  dsimp only at result ⊢
  split at result
  · next later =>
      cases result
      exact .inl ⟨if_pos later, rfl⟩
  · next due =>
      rw [if_neg due]
      split at result
      · cases result
      · next idx rq bound =>
          have there : client.rq[idx]? = some rq := by
            obtain ⟨place, -, mapped⟩ := Option.bind_eq_some_iff.mp bound
            obtain ⟨_, there, same⟩ := Option.map_eq_some_iff.mp mapped
            cases same
            exact there
          split at result
          · cases result
          · next filled =>
              refine .inr ⟨idx, rq, bound, there, filled, ?_⟩
              cases sent with
              | false =>
                  cases result
                  exact .inl ⟨rfl, rfl⟩
              | true =>
                  rw [if_neg (by simp)] at result
                  right
                  refine ⟨rfl, ?_⟩
                  split at result
                  · cases result
                    rfl
                  · cases result
                    rfl

/-- Behind that, `send_rq` books the delay and arms the timer with it. -/
theorem sendRq_cases {sent : Bool} (result : sendRq sent client = .ok next) :
    ∃ before delayMs, nextDelay sent client = .ok (before, delayMs) ∧
      next = scheduleNextTimerEvt delayMs before := by
  rw [sendRq] at result
  split at result
  · cases result
  · next before delayMs delayed =>
      cases result
      exact ⟨before, delayMs, delayed, rfl⟩

/-- A command of the task that no assertion stops. -/
inductive Taken (client : Client) : Event → Client → Prop
  | addRq {allocated : Bool} {rqId : UInt16} {payload : List UInt8} {timeout : UInt32}
      {retries : UInt8} {next : Client} {result : Int} (fits : payload.length ≤ maxPacketLen)
      (added : addRequest (fun idx => UInt32.ofNat (idx * 100)) false allocated rqId payload
        timeout retries client = .ok (next, result)) :
      Taken client (.addRq allocated rqId payload timeout retries) next
  | addPeriodicRq {allocated : Bool} {rqId : UInt16} {payload : List UInt8} {period : UInt32}
      {next : Client} {result : Int} (fits : payload.length ≤ maxPacketLen)
      (added : addRequest (fun idx => UInt32.ofNat ((idx + 1) * 500)) true allocated rqId payload
        period 0 client = .ok (next, result)) :
      Taken client (.addPeriodicRq allocated rqId payload period) next
  | removePeriodicRq (rqId : UInt16) :
      Taken client (.removePeriodicRq rqId) (removePeriodicRq rqId client).1
  | ackRsp (correspondingRq : UInt16) :
      Taken client (.ackRsp correspondingRq) (ackRsp correspondingRq client)
  | timer {sent : Bool} {next : Client} (result : sendRq sent client = .ok next) :
      Taken client (.timer sent) next

theorem taken_of_step {event : Event} (stepped : client.step event = some next) :
    Taken client event next := by
  unfold Client.step at stepped
  cases event with
  | addRq allocated rqId payload timeout retries =>
      dsimp only at stepped
      split at stepped
      · next fits =>
          split at stepped
          · next added =>
              cases stepped
              exact .addRq fits added
          · cases stepped
      · cases stepped
  | addPeriodicRq allocated rqId payload period =>
      dsimp only at stepped
      split at stepped
      · next fits =>
          split at stepped
          · next added =>
              cases stepped
              exact .addPeriodicRq fits (addRequest_of_addPeriodicRq added)
          · cases stepped
      · cases stepped
  | removePeriodicRq rqId =>
      cases stepped
      exact .removePeriodicRq rqId
  | ackRsp correspondingRq =>
      cases stepped
      exact .ackRsp correspondingRq
  | timer sent =>
      dsimp only at stepped
      cases result : sendRq sent client with
      | error fault =>
          rw [result] at stepped
          cases stepped
      | ok after =>
          rw [result] at stepped
          cases stepped
          exact .timer result

end EsInverter.SerialClient
