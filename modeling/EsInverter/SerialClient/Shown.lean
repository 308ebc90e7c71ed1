import EsInverter.SerialClient.Ledger

/-!
# The requests that a table with payload pointers shows

Where every allocation and every timer succeeds, a command on the table with
pointers does to the requests that the table shows what the command of the plain
table does.
-/

set_option autoImplicit false

namespace EsInverter.SerialClient.Payloads

open Lib Rs232

variable {sc next : Impl} {idx : Nat} {before slot : Slot}

/-- A change of one slot is a change of one shown request. -/
theorem shown_set {heap : Heap Nat (List UInt8)} (balanced : sc.ledger.Balanced)
    {carried : Option (UInt16 × Packet)}
    (moved : sc.ledger.Move carried ⟨(sc.rq.set idx slot).map Slot.entry, heap⟩) :
    (sc.rq.set idx slot).map (Slot.shown heap) = sc.shown.rq.set idx (slot.shown heap) := by
  rw [List.map_set]
  apply List.ext_getElem?
  intro place
  by_cases same : idx = place
  · subst same
    rw [List.getElem?_set_self', List.getElem?_set_self', List.getElem?_map, Impl.shown,
      List.getElem?_map]
    cases sc.rq[idx]? with
    | none => rfl
    | some slot => rfl
  · rw [List.getElem?_set_ne same, List.getElem?_set_ne same, Impl.shown, List.getElem?_map,
      List.getElem?_map]
    cases at_ : sc.rq[place]? with
    | none => rfl
    | some other =>
        have later : ((sc.rq.set idx slot).map Slot.entry)[place]? = some other.entry := by
          rw [List.getElem?_map, List.getElem?_set_ne same, at_]
          rfl
        have block := balanced.block_eq moved (entry_at at_) later
        rw [Option.map_some, Option.map_some, Slot.shown, Slot.shown]
        exact congrArg some (congrArg (fun payload => Rq.mk payload ..) block)

/-! ### The functions one by one -/

theorem shown_at (at_ : sc.rq[idx]? = some slot) :
    sc.shown.rq[idx]? = some (slot.shown sc.heap) := by
  rw [Impl.shown, List.getElem?_map, at_]
  rfl

theorem modify_shown (at_ : sc.rq[idx]? = some slot) (change : Rq → Rq) :
    sc.shown.rq.modify idx change = sc.shown.rq.set idx (change (slot.shown sc.heap)) := by
  rw [List.modify_eq_set_getElem?, shown_at at_]
  rfl

theorem deactivateRq_shown (balanced : sc.ledger.Balanced) (at_ : sc.rq[idx]? = some slot) :
    ∃ next, deactivateRq idx sc = .ok next ∧
      next.shown = SerialClient.deactivateRq idx sc.shown := by
  obtain ⟨heap, deactivated, moved⟩ := deactivateRq_returns balanced at_
  refine ⟨_, deactivated, ?_⟩
  have rqs := (shown_set balanced moved).trans (modify_shown at_ Rq.deactivated).symm
  rw [SerialClient.deactivateRq, ← rqs]
  rfl

theorem settle_shown (balanced : sc.ledger.Balanced) (at_ : sc.rq[idx]? = some before)
    (same : slot.entry = before.entry) {done : Bool} {change : Rq → Rq}
    (shows : (if done then slot.vacated else slot).shown sc.heap = change (before.shown sc.heap)) :
    ∃ next, settle idx slot done sc = .ok next ∧
      next.shown = { sc.shown with rq := sc.shown.rq.modify idx change } := by
  rw [modify_shown at_, ← shows]
  obtain ⟨heap, settled, moved⟩ := settle_returns balanced at_ same done
  refine ⟨_, settled, ?_⟩
  have rqs := shown_set balanced moved
  cases done with
  | false =>
      have heap_eq : heap = sc.heap := by
        rw [settle] at settled
        cases settled
        rfl
      subst heap_eq
      rw [← rqs]
      rfl
  | true =>
      have vacant : slot.vacated.shown sc.heap = slot.vacated.shown heap := rfl
      rw [if_pos rfl] at rqs ⊢
      rw [vacant, ← rqs]
      rfl

theorem shown_sent (heap : Heap Nat (List UInt8)) (slot : Slot) :
    (if slot.exhausted then slot.sent.vacated else slot.sent).shown heap =
      (slot.shown heap).sent := by
  unfold Slot.exhausted Slot.sent Rq.sent Slot.shown
  dsimp only
  cases slot.periodic with
  | true =>
      by_cases given_up : slot.retries + 1 > 2
      · simp [given_up]
      · simp [given_up]
  | false =>
      by_cases spent : slot.retries + 1 > slot.maxRetries
      · simp [spent, Slot.vacated, Rq.deactivated]
      · simp [spent]

theorem shown_acked (heap : Heap Nat (List UInt8)) (slot : Slot) :
    (if decide (slot.maxRetries > 0) then slot.acked.vacated else slot.acked).shown heap =
      (slot.shown heap).acked := by
  have maxRetries : (slot.shown heap).maxRetries = slot.maxRetries := rfl
  rw [Rq.acked]
  dsimp only
  rw [maxRetries]
  by_cases tried : slot.maxRetries > 0
  · rw [if_pos tried, if_pos (decide_eq_true tried)]
    rfl
  · rw [if_neg tried, if_neg (by simpa using tried)]
    rfl

theorem shown_waited (heap : Heap Nat (List UInt8)) (delayMs : Int32) (slot : Slot) :
    (slot.waited delayMs).shown heap = (slot.shown heap).waited delayMs := by
  have active : (slot.shown heap).active = slot.active := rfl
  rw [Slot.waited, Rq.waited, active]
  split
  · rfl
  · rfl

theorem startTimer_started (durationMs : UInt32) (sc : Impl) :
    startTimer ⟨true, true⟩ durationMs sc =
      ({ sc with timer := some durationMs, started := sc.started ++ [durationMs] }, 0) := by
  rw [startTimer, if_neg (by simp)]
  rfl

theorem scheduleNextTimerEvt_shown (delayMs : Int32) (sc : Impl) :
    (scheduleNextTimerEvt ⟨true, true⟩ delayMs sc).shown =
      SerialClient.scheduleNextTimerEvt delayMs sc.shown := by
  rw [scheduleNextTimerEvt, SerialClient.scheduleNextTimerEvt]
  split
  · have waited : Slot.shown sc.heap ∘ Slot.waited delayMs =
        Rq.waited delayMs ∘ Slot.shown sc.heap := funext (shown_waited sc.heap delayMs)
    rw [startTimer_started, Impl.shown, List.map_map, waited, ← List.map_map]
    rfl
  · rfl

theorem addRequest_shown {offset : Nat → UInt32} {periodic : Bool} {address : Nat}
    {rqId : UInt16} {packet : Packet} {timeout : UInt32} {maxRetries : UInt8} {result : Int}
    (balanced : sc.ledger.Balanced) (fresh : sc.heap.block address = none)
    (added : addRequest offset periodic (.block address) ⟨true, true⟩ rqId packet timeout maxRetries
      sc = .ok (next, result)) :
    SerialClient.addRequest offset periodic true rqId packet.val timeout maxRetries sc.shown =
      .ok (next.shown, result) := by
  have find : (sc.shown.rq.findIdx? fun rq => !rq.active) =
      sc.rq.findIdx? fun slot => !slot.active := List.findIdx?_map
  rw [addRequest] at added
  rw [SerialClient.addRequest, find]
  cases found : sc.rq.findIdx? fun slot => !slot.active with
  | none =>
      rw [found] at added
      cases added
      rfl
  | some idx =>
      rw [found] at added
      dsimp only at added ⊢
      obtain ⟨inside, inactive, -⟩ := List.findIdx?_eq_some_iff_getElem.mp found
      have at_ := List.getElem?_eq_getElem inside
      have unused : sc.rq[idx].active = false := by simpa using inactive
      have vacant : sc.rq[idx].payload = none :=
        balanced.payload_eq_none (entry_mem at_) unused
      have empty : (sc.rq[idx].shown sc.heap).payload = none := by
        rw [Slot.shown, vacant]
        rfl
      rw [shown_at at_]
      dsimp only
      rw [if_neg (not_not.mpr empty)]
      rw [at_] at added
      dsimp only at added
      rw [if_neg (not_not.mpr vacant), startTimer_started, if_neg (not_not.mpr rfl)] at added
      cases added
      have done : rs232Serialize true packet.val = .ok (serialized packet) := rfl
      have carries : some (rqId, packet) = some (rqId, packet) := rfl
      have moved := Ledger.Move.enter carries (entry_at at_) unused fresh
      have entered : ∀ slot : Slot, slot.entry = .filled rqId address packet →
          (sc.rq.set idx slot).map (Slot.shown (sc.heap.store address (serialized packet))) =
            sc.shown.rq.set idx
              { slot.shown sc.heap with payload := some (serialized packet) } := by
        intro slot filled
        have points : slot.payload = some address := congrArg Entry.payload filled
        rw [← filled, Impl.ledger, ← List.map_set] at moved
        rw [shown_set balanced moved, Slot.shown, points, Option.bind_some, Heap.block_store]
        rfl
      have rqs := entered
        { payload := some address, rqId, timeout := timeout.toUInt16,
          sinceLastSent := (timeout - offset idx).toInt32, retries := 0, maxRetries,
          payloadLen := UInt8.ofNat (serialized packet).length, active := true, periodic } rfl
      rw [done]
      exact congrArg (fun rqs => Except.ok (Client.mk sc.lastRqId rqs (some 2000)
        (sc.started ++ [2000]) sc.written, (idx : Int))) rqs.symm

theorem removePeriodicRq_shown {rqId : UInt16} {result : Int} (balanced : sc.ledger.Balanced)
    (removed : removePeriodicRq rqId sc = .ok (next, result)) :
    SerialClient.removePeriodicRq rqId sc.shown = (next.shown, result) := by
  have find : (sc.shown.rq.findIdx? fun rq => rq.periodic && rq.rqId == rqId) =
      sc.rq.findIdx? fun slot => slot.periodic && slot.rqId == rqId := List.findIdx?_map
  rw [removePeriodicRq] at removed
  rw [SerialClient.removePeriodicRq, find]
  cases found : sc.rq.findIdx? fun slot => slot.periodic && slot.rqId == rqId with
  | none =>
      rw [found] at removed
      cases removed
      rfl
  | some idx =>
      rw [found] at removed
      dsimp only at removed ⊢
      obtain ⟨inside, -⟩ := List.findIdx?_eq_some_iff_getElem.mp found
      obtain ⟨after, deactivated, shows⟩ :=
        deactivateRq_shown balanced (List.getElem?_eq_getElem inside)
      have any : after.shown.rq.any Rq.active = after.rq.any Slot.active := List.any_map
      rw [deactivated, ok_bind] at removed
      rw [← shows, any]
      split at removed
      · next some_ =>
          cases removed
          rw [if_pos some_]
      · next none_ =>
          cases removed
          rw [if_neg none_]
          rfl

theorem ackRsp_shown {correspondingRq : UInt16} (balanced : sc.ledger.Balanced)
    (acked : ackRsp correspondingRq sc = .ok next) :
    SerialClient.ackRsp correspondingRq sc.shown = next.shown := by
  rw [ackRsp] at acked
  rw [SerialClient.ackRsp]
  obtain ⟨forgotten, same, ledger, shows⟩ : ∃ forgotten : Impl,
      (if sc.lastRqId = correspondingRq then { sc with lastRqId := expRspInvalid } else sc) =
        forgotten ∧ forgotten.ledger = sc.ledger ∧
      (if sc.shown.lastRqId = correspondingRq then { sc.shown with lastRqId := expRspInvalid }
        else sc.shown) = forgotten.shown := by
    have lastRqId : sc.shown.lastRqId = sc.lastRqId := rfl
    rw [lastRqId]
    by_cases last : sc.lastRqId = correspondingRq
    · rw [if_pos last, if_pos last]
      exact ⟨_, rfl, rfl, rfl⟩
    · rw [if_neg last, if_neg last]
      exact ⟨_, rfl, rfl, rfl⟩
  have find : (forgotten.shown.rq.findIdx? fun rq => rq.active && rq.rqId == correspondingRq) =
      forgotten.rq.findIdx? fun slot => slot.active && slot.rqId == correspondingRq :=
    List.findIdx?_map
  rw [← ledger] at balanced
  rw [same] at acked
  rw [shows]
  rw [find]
  cases found : forgotten.rq.findIdx? fun slot => slot.active && slot.rqId == correspondingRq with
  | none =>
      rw [found] at acked
      cases acked
      rfl
  | some idx =>
      rw [found] at acked
      dsimp only at acked ⊢
      obtain ⟨inside, -⟩ := List.findIdx?_eq_some_iff_getElem.mp found
      have at_ := List.getElem?_eq_getElem inside
      have same : forgotten.rq[idx].acked.entry = forgotten.rq[idx].entry := rfl
      obtain ⟨after, settled, shown⟩ := settle_shown balanced at_ same (shown_acked _ _)
      rw [at_] at acked
      dsimp only at acked
      cases settled.symm.trans acked
      exact shown.symm

theorem frame_of_readPayload {heap : Heap Nat (List UInt8)} {frame : List UInt8}
    (read : readPayload slot heap = .ok frame) :
    ((slot.shown heap).payload.getD []).take slot.payloadLen.toNat = frame := by
  rw [readPayload] at read
  split at read
  · cases read
  · next block points =>
      split at read
      · cases read
      · cases read
        rw [Slot.shown, points]
        rfl

/-- The request that is sent is the one that the table shows to be due first. -/
theorem nextDelay_shown {sent : Bool} {delayMs : Int32} (balanced : sc.ledger.Balanced)
    (delayed : nextDelay sent sc = .ok (next, delayMs)) :
    SerialClient.nextDelay sent sc.shown = .ok (next.shown, delayMs) := by
  rw [nextDelay] at delayed
  rw [SerialClient.nextDelay]
  rcases findEarliest_cases sc.shown.rq with ⟨same, -⟩ | ⟨idx, rq, same, selected, -⟩
  · rw [same] at delayed ⊢
    cases delayed
    rfl
  · obtain ⟨slot, at_, rfl, active⟩ := active_of_shown selected.active
    obtain ⟨filled, packet, points, read⟩ := readPayload_returns balanced at_ active
    rw [same] at delayed ⊢
    dsimp only at delayed ⊢
    split at delayed
    · next later =>
        cases delayed
        rw [if_pos later]
    · next due =>
        rw [Option.bind_some, at_, Option.map_some] at delayed
        dsimp only at delayed
        rw [if_neg filled, read, ok_bind] at delayed
        rw [if_neg due, Option.bind_some, shown_at at_, Option.map_some]
        dsimp only
        have length : (slot.shown sc.heap).payloadLen ≠ 0 := filled
        rw [if_neg length]
        cases sent with
        | false =>
            cases delayed
            rfl
        | true =>
            obtain ⟨after, settled, shown⟩ := @settle_shown
              { sc with lastRqId := slot.rqId, written := sc.written ++ [serialized packet] } idx
              slot slot.sent
              balanced at_ (entry_sent slot) _ _ (shown_sent sc.heap slot)
            have frame_eq := frame_of_readPayload read
            rw [if_neg (by simp), settled, ok_bind] at delayed
            rw [if_neg (by simp)]
            have behind : sc.shown.sent idx (slot.shown sc.heap) = after.shown := by
              rw [shown, ← frame_eq]
              rfl
            have rqs : after.shown.rq = sc.shown.rq.modify idx Rq.sent :=
              congrArg Client.rq behind.symm
            rw [rqs] at delayed
            split at delayed
            · next short =>
                cases delayed
                rw [if_pos short, ← behind]
                rfl
            · next long =>
                cases delayed
                rw [if_neg long, ← behind]
                rfl

theorem sendRq_shown {sent : Bool} (balanced : sc.ledger.Balanced)
    (ran : sendRq sent ⟨true, true⟩ sc = .ok next) :
    SerialClient.sendRq sent sc.shown = .ok next.shown := by
  rw [sendRq] at ran
  obtain ⟨⟨after, delayMs⟩, delayed, rest⟩ := bind_ok ran
  cases rest
  rw [SerialClient.sendRq, nextDelay_shown balanced delayed, scheduleNextTimerEvt_shown]

variable {command : Command} {event : Event}

/-- What is asked of the plain table where every call of the command succeeds. -/
inductive Plain : Command → Event → Prop
  | addRq (address : Nat) (rqId : UInt16) (packet : Packet) (timeout : UInt32) (retries : UInt8) :
      Plain (.addRq (.block address) ⟨true, true⟩ rqId packet timeout retries)
        (.addRq true rqId packet.val timeout retries)
  | addPeriodicRq (address : Nat) (rqId : UInt16) (packet : Packet) (period : UInt32) :
      Plain (.addPeriodicRq (.block address) ⟨true, true⟩ rqId packet period)
        (.addPeriodicRq true rqId packet.val period)
  | removePeriodicRq (rqId : UInt16) : Plain (.removePeriodicRq rqId) (.removePeriodicRq rqId)
  | ackRsp (correspondingRq : UInt16) : Plain (.ackRsp correspondingRq) (.ackRsp correspondingRq)
  | sendRq (sent : Bool) : Plain (.sendRq sent ⟨true, true⟩) (.timer sent)

theorem step_shown (balanced : sc.ledger.Balanced) (plain : Plain command event)
    (stepped : commands.step sc command = some next) :
    requests.step sc.shown event = some next.shown := by
  have fresh : Fresh sc command := by
    by_contra stale
    unfold commands at stepped
    dsimp only at stepped
    rw [if_neg stale] at stepped
    cases stepped
  obtain ⟨performed, -⟩ := moves_of_step balanced stepped
  unfold requests
  dsimp only
  cases plain with
  | addRq address rqId packet timeout retries =>
      obtain ⟨result, added⟩ := ok_of_map performed
      have shown := addRequest_shown balanced (fresh address rfl) added
      rw [Client.step, if_pos packet.property, SerialClient.addRq, shown]
  | addPeriodicRq address rqId packet period =>
      obtain ⟨result, added⟩ := ok_of_map performed
      rw [addPeriodicRq] at added
      rw [Client.step, if_pos packet.property, SerialClient.addPeriodicRq]
      split at added
      · cases added
      · next long =>
          have shown := addRequest_shown balanced (fresh address rfl) added
          rw [if_neg long, shown]
  | removePeriodicRq rqId =>
      obtain ⟨result, removed⟩ := ok_of_map performed
      rw [Client.step, removePeriodicRq_shown balanced removed]
  | ackRsp correspondingRq =>
      exact congrArg some (ackRsp_shown balanced performed)
  | sendRq sent =>
      rw [Client.step, sendRq_shown balanced performed]
      rfl

/-- A run on the table with pointers in which no allocation and no timer fails is a run of the plain
table, state by state. -/
theorem run_shown {trace : List (Impl × Command)} (run : commands.Run .zeroed trace sc)
    (plain : ∀ taken ∈ trace, ∃ event, Plain taken.2 event) :
    ∃ shownTrace, requests.Run .initial shownTrace sc.shown ∧
      List.Forall₂ (fun taken shown => shown.1 = taken.1.shown ∧ Plain taken.2 shown.2)
        trace shownTrace := by
  induction run with
  | nil => exact ⟨[], .nil, .nil⟩
  | @snoc trace state next command run stepped ih =>
      obtain ⟨shownTrace, earlier, related⟩ := ih fun taken inside => plain taken (by simp [inside])
      obtain ⟨event, last⟩ := plain (state, command) (by simp)
      have shown := step_shown (balanced_of_run run) last stepped
      exact ⟨shownTrace ++ [(state.shown, event)], earlier.snoc shown,
        List.rel_append related (.cons ⟨rfl, last⟩ .nil)⟩

/-- A request and its answer. -/
def answeredRequest : List Command :=
  [.addRq (.block 7) ⟨true, true⟩ 3 qvfw 100 1, .ackRsp 3]

theorem run_shown_answeredRequest : ∃ sc shownTrace,
    commands.exec .zeroed answeredRequest = some sc ∧
      requests.Run .initial shownTrace sc.shown := by
  have executed : commands.exec .zeroed answeredRequest = some _ := rfl
  have plain : ∀ taken ∈ commands.tracing .zeroed answeredRequest,
      ∃ event, Plain taken.2 event := by
    have commanded : (commands.tracing .zeroed answeredRequest).map Prod.snd =
        answeredRequest := rfl
    intro taken inside
    have listed := List.mem_map_of_mem (f := Prod.snd) inside
    rw [commanded] at listed
    rcases List.mem_cons.mp listed with same | later
    · rw [same]
      exact ⟨_, .addRq ..⟩
    · rw [List.mem_singleton.mp later]
      exact ⟨_, .ackRsp 3⟩
  obtain ⟨shownTrace, run, -⟩ := run_shown (Machine.run_of_exec executed) plain
  exact ⟨_, shownTrace, executed, run⟩

end EsInverter.SerialClient.Payloads
