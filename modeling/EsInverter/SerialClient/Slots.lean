import EsInverter.SerialClient.Credit

/-!
# One slot of the request table

What a command of the task can do to one slot, whatever the other slots hold.
The laws of single requests are derived from these turns.
-/

set_option autoImplicit false

namespace EsInverter.SerialClient

open Lib

/-- What the end of `send_rq` does to a slot. -/
def Rq.scheduled (delayMs : Int32) (rq : Rq) : Rq :=
  if delayMs ≠ Int32.maxValue then rq.waited delayMs else rq

/-- The command adds a request. -/
def Event.adds : Event → Bool
  | .addRq .. | .addPeriodicRq .. => true
  | _ => false

/-- What becomes of the request in slot `idx`. -/
inductive Turn (client : Client) (idx : Nat) (rq : Rq) : Event → Rq → Prop
  | untouched {event : Event} (idle : ∀ sent, event ≠ .timer sent) : Turn client idx rq event rq
  | reused {event : Event} (adds : event.adds = true)
      (free : client.rq.findIdx? (fun rq => !rq.active) = some idx) (added : Rq)
      (active : added.active = true) : Turn client idx rq event added
  | removed {rqId : UInt16} (periodic : rq.periodic = true) (same : rq.rqId = rqId) :
      Turn client idx rq (.removePeriodicRq rqId) rq.deactivated
  | acked {correspondingRq : UInt16} (found : ackedSlot correspondingRq client = some idx) :
      Turn client idx rq (.ackRsp correspondingRq) rq.acked
  | sent {before : Client} {delayMs : Int32} (found : chosen client = some (idx, rq))
      (filled : rq.payloadLen ≠ 0)
      (result : nextDelay true client = .ok (before, delayMs)) :
      Turn client idx rq (.timer true) (rq.sent.scheduled delayMs)
  | waited {sent : Bool} {before : Client} {delayMs : Int32}
      (spared : sent = true → ∀ other, chosen client ≠ some (idx, other))
      (result : nextDelay sent client = .ok (before, delayMs)) :
      Turn client idx rq (.timer sent) (rq.scheduled delayMs)

/-! ### The commands one by one -/

variable {client next : Client} {idx : Nat} {rq : Rq}

theorem getElem?_schedule (delayMs : Int32) (before : Client) (idx : Nat) :
    (scheduleNextTimerEvt delayMs before).rq[idx]? = before.rq[idx]?.map (Rq.scheduled delayMs) := by
  rw [scheduleNextTimerEvt]
  by_cases waits : delayMs ≠ Int32.maxValue
  · have same : Rq.scheduled delayMs = Rq.waited delayMs := by
      funext rq
      rw [Rq.scheduled, if_pos waits]
    rw [if_pos waits, same]
    exact List.getElem?_map
  · have same : Rq.scheduled delayMs = id := by
      funext rq
      rw [Rq.scheduled, if_neg waits]
      rfl
    rw [if_neg waits, same, Option.map_id]
    rfl

theorem getElem?_modify_cases {rqs : List Rq} (at_ : rqs[idx]? = some rq) (place : Nat)
    (change : Rq → Rq) :
    (place = idx ∧ (rqs.modify place change)[idx]? = some (change rq)) ∨
      (place ≠ idx ∧ (rqs.modify place change)[idx]? = some rq) := by
  rw [List.getElem?_modify, at_, Option.map_eq_map, Option.map_some]
  by_cases same : place = idx
  · exact .inl ⟨same, by rw [if_pos same]⟩
  · exact .inr ⟨same, by rw [if_neg same]⟩

theorem turn_of_addRequest {offset : Nat → UInt32} {periodic allocated : Bool} {rqId : UInt16}
    {payload : List UInt8} {timeout : UInt32} {maxRetries : UInt8} {result : Int} {event : Event}
    (adds : event.adds = true) (at_ : client.rq[idx]? = some rq)
    (added : addRequest offset periodic allocated rqId payload timeout maxRetries client =
      .ok (next, result)) :
    ∃ after, next.rq[idx]? = some after ∧ Turn client idx rq event after := by
  have idle : ∀ sent, event ≠ .timer sent := by
    rintro sent rfl
    cases adds
  rcases addRequest_cases added with ⟨_, rfl, _⟩ | ⟨free, serialized, _, found, _, rfl⟩
  · exact ⟨rq, at_, .untouched idle⟩
  · have inside : idx < client.rq.length := (List.getElem?_eq_some_iff.mp at_).1
    unfold Client.startTimer
    by_cases same : free = idx
    · subst same
      exact ⟨_, List.getElem?_set_self inside, .reused adds found _ rfl⟩
    · exact ⟨rq, by rw [List.getElem?_set_ne same]; exact at_, .untouched idle⟩

theorem turn_of_removePeriodicRq (at_ : client.rq[idx]? = some rq) (rqId : UInt16) :
    ∃ after, (removePeriodicRq rqId client).1.rq[idx]? = some after ∧
      Turn client idx rq (.removePeriodicRq rqId) after := by
  rcases removePeriodicRq_cases rqId client with ⟨_, same⟩ | ⟨place, found, removed⟩
  · rw [same]
    exact ⟨rq, at_, .untouched (by intro sent same; cases same)⟩
  · rw [List.findIdx?_eq_some_iff_getElem] at found
    obtain ⟨inside, matched, -⟩ := found
    rw [Bool.and_eq_true, beq_iff_eq] at matched
    rw [removed]
    rcases getElem?_modify_cases at_ place Rq.deactivated with ⟨rfl, changed⟩ | ⟨_, kept⟩
    · have same : client.rq[place] = rq := by
        rw [List.getElem?_eq_getElem inside] at at_
        exact Option.some.inj at_
      rw [same] at matched
      exact ⟨_, changed, .removed matched.1 matched.2⟩
    · exact ⟨rq, kept, .untouched (by intro sent same; cases same)⟩

/-- The acknowledged request. -/
theorem slot_ackRsp {correspondingRq : UInt16} (found : ackedSlot correspondingRq client = some idx)
    (at_ : client.rq[idx]? = some rq) :
    (ackRsp correspondingRq client).rq[idx]? = some rq.acked := by
  obtain ⟨_, _, ⟨none_, _⟩ | ⟨place, acked, changed⟩⟩ := ackRsp_cases correspondingRq client
  · rw [none_] at found
    cases found
  · rw [acked] at found
    cases found
    rw [changed, List.getElem?_modify_eq, at_]
    rfl

theorem turn_of_ackRsp (at_ : client.rq[idx]? = some rq) (correspondingRq : UInt16) :
    ∃ after, (ackRsp correspondingRq client).rq[idx]? = some after ∧
      Turn client idx rq (.ackRsp correspondingRq) after := by
  obtain ⟨_, _, ⟨_, same⟩ | ⟨place, acked, changed⟩⟩ := ackRsp_cases correspondingRq client
  · rw [same]
    exact ⟨rq, at_, .untouched (by intro sent same; cases same)⟩
  · rw [changed]
    rcases getElem?_modify_cases at_ place Rq.acked with ⟨rfl, changed⟩ | ⟨_, kept⟩
    · exact ⟨_, changed, .acked acked⟩
    · exact ⟨rq, kept, .untouched (by intro sent same; cases same)⟩

/-- Up to the timer, `send_rq` changes only the slot of the request it sent. -/
theorem slot_nextDelay {sent : Bool} {before : Client} {delayMs : Int32}
    (at_ : client.rq[idx]? = some rq) (result : nextDelay sent client = .ok (before, delayMs)) :
    (sent = true ∧ chosen client = some (idx, rq) ∧ rq.payloadLen ≠ 0 ∧
        before.rq[idx]? = some rq.sent) ∨
      ((sent = true → ∀ other, chosen client ≠ some (idx, other)) ∧
        before.rq[idx]? = some rq) := by
  rcases nextDelay_cases result with
    ⟨none_, rfl⟩ | ⟨place, found, chose, there, filled, ⟨rfl, rfl⟩ | ⟨rfl, rfl⟩⟩
  · refine .inr ⟨fun _ other same => ?_, at_⟩
    rw [none_] at same
    cases same
  · exact .inr ⟨fun impossible => absurd impossible Bool.false_ne_true, at_⟩
  · unfold Client.sent
    rcases getElem?_modify_cases at_ place Rq.sent with ⟨rfl, changed⟩ | ⟨apart, kept⟩
    · rw [at_] at there
      cases there
      exact .inl ⟨rfl, chose, filled, changed⟩
    · refine .inr ⟨fun _ other same => ?_, kept⟩
      rw [chose] at same
      cases same
      exact apart rfl

theorem turn_of_sendRq {sent : Bool} (at_ : client.rq[idx]? = some rq)
    (result : sendRq sent client = .ok next) :
    ∃ after, next.rq[idx]? = some after ∧ Turn client idx rq (.timer sent) after := by
  obtain ⟨before, delayMs, delayed, rfl⟩ := sendRq_cases result
  rw [getElem?_schedule]
  rcases slot_nextDelay at_ delayed with ⟨rfl, found, filled, changed⟩ | ⟨spared, kept⟩
  · rw [changed]
    exact ⟨_, rfl, .sent found filled delayed⟩
  · rw [kept]
    exact ⟨_, rfl, .waited spared delayed⟩

/-- Every command takes a turn at every slot. -/
theorem turn_of_step {event : Event} (at_ : client.rq[idx]? = some rq)
    (stepped : requests.step client event = some next) :
    ∃ after, next.rq[idx]? = some after ∧ Turn client idx rq event after := by
  cases taken_of_step stepped with
  | addRq _ added => exact turn_of_addRequest rfl at_ added
  | addPeriodicRq _ added => exact turn_of_addRequest rfl at_ added
  | removePeriodicRq rqId => exact turn_of_removePeriodicRq at_ rqId
  | ackRsp correspondingRq => exact turn_of_ackRsp at_ correspondingRq
  | timer result => exact turn_of_sendRq at_ result

end EsInverter.SerialClient
