import EsInverter.SerialClient.Slots

/-!
# The retries of a one-shot request

A one-shot request counts its transmissions in a byte and is given up once the
count exceeds its limit, which a limit of 255 prevents.  An acknowledgement ends
the request only if its limit is not zero.
-/

set_option autoImplicit false

namespace EsInverter.SerialClient

open Lib

/-- The command transmits the request of the slot. -/
def transmits (idx : Nat) (taken : Client × Event) : Bool :=
  taken.2 == .timer true && (chosen taken.1).map Prod.fst == some idx

def transmissions (idx : Nat) (trace : List (Client × Event)) : Nat :=
  trace.countP (transmits idx)

/-- The command acknowledges the request of the slot. -/
def acknowledges (idx : Nat) (taken : Client × Event) : Bool :=
  match taken.2 with
  | .ackRsp correspondingRq => ackedSlot correspondingRq taken.1 == some idx
  | _ => false

/-- The command adds another request in the slot. -/
def reuses (idx : Nat) (taken : Client × Event) : Bool :=
  taken.2.adds && taken.1.rq.findIdx? (fun rq => !rq.active) == some idx

def Inactive (client : Client) (idx : Nat) : Prop :=
  ∃ rq, client.rq[idx]? = some rq ∧ rq.active = false

/-- The count of the request that is sent is not 255, and the limit of the one that is
acknowledged is not zero. -/
def Bounded (idx : Nat) (taken : Client × Event) : Prop :=
  (transmits idx taken = true → ∀ rq ∈ taken.1.rq[idx]?, rq.retries ≠ 255) ∧
    (acknowledges idx taken = true → ∀ rq ∈ taken.1.rq[idx]?, rq.maxRetries ≠ 0)

instance (idx : Nat) (taken : Client × Event) : Decidable (Bounded idx taken) :=
  inferInstanceAs (Decidable (_ ∧ _))

/-! ### Transmissions -/

theorem transmissions_snoc (idx : Nat) (trace : List (Client × Event)) (taken : Client × Event) :
    transmissions idx (trace ++ [taken]) =
      transmissions idx trace + if transmits idx taken then 1 else 0 := by
  rw [transmissions, transmissions, List.countP_append, List.countP_singleton]

variable {client next : Client} {event : Event} {idx : Nat} {rq : Rq}

theorem transmits_iff :
    transmits idx (client, event) = true ↔
      event = .timer true ∧ ∃ rq, chosen client = some (idx, rq) := by
  rw [transmits, Bool.and_eq_true, beq_iff_eq, beq_iff_eq, Option.map_eq_some_iff]
  simp

theorem Turn.transmits_sent (found : chosen client = some (idx, rq)) :
    transmits idx (client, .timer true) = true :=
  transmits_iff.mpr ⟨rfl, rq, found⟩

theorem not_transmits_of_idle (idle : ∀ sent, event ≠ .timer sent) :
    transmits idx (client, event) = false := by
  rw [← Bool.not_eq_true, transmits_iff]
  rintro ⟨same, _⟩
  exact idle true same

theorem not_transmits_of_spared {sent : Bool}
    (spared : sent = true → ∀ other, chosen client ≠ some (idx, other)) :
    transmits idx (client, .timer sent) = false := by
  rw [← Bool.not_eq_true, transmits_iff]
  rintro ⟨same, rq, found⟩
  cases same
  exact spared rfl rq found

theorem reuses_of_free (adds : event.adds = true)
    (free : client.rq.findIdx? (fun rq => !rq.active) = some idx) :
    reuses idx (client, event) = true := by
  rw [reuses, Bool.and_eq_true, beq_iff_eq]
  exact ⟨adds, free⟩

theorem acknowledges_iff :
    acknowledges idx (client, event) = true ↔
      ∃ correspondingRq, event = .ackRsp correspondingRq ∧
        ackedSlot correspondingRq client = some idx := by
  rw [acknowledges]
  cases event <;> simp

/-- What waiting leaves as it was. -/
theorem Rq.scheduled_same (delayMs : Int32) (rq : Rq) :
    (rq.scheduled delayMs).active = rq.active ∧ (rq.scheduled delayMs).periodic = rq.periodic ∧
      (rq.scheduled delayMs).retries = rq.retries ∧
      (rq.scheduled delayMs).maxRetries = rq.maxRetries ∧
      (rq.scheduled delayMs).timeout = rq.timeout := by
  rw [Rq.scheduled]
  split
  · rw [Rq.waited]
    split <;> exact ⟨rfl, rfl, rfl, rfl, rfl⟩
  · exact ⟨rfl, rfl, rfl, rfl, rfl⟩

/-! ### A slot that is free -/

/-- Without a new request, a slot that is free stays free and sends nothing. -/
theorem inactive_step (free : Inactive client idx) (kept : reuses idx (client, event) = false)
    (stepped : requests.step client event = some next) :
    Inactive next idx ∧ transmits idx (client, event) = false := by
  obtain ⟨rq, at_, inactive⟩ := free
  obtain ⟨after, there, turn⟩ := turn_of_step at_ stepped
  cases turn with
  | untouched idle => exact ⟨⟨rq, there, inactive⟩, not_transmits_of_idle idle⟩
  | reused adds found =>
      rw [reuses_of_free adds found] at kept
      cases kept
  | removed => exact ⟨⟨_, there, rfl⟩, rfl⟩
  | acked found =>
      obtain ⟨other, active, _⟩ := activeAt_of_ackedSlot found
      rw [active.1] at at_
      cases at_
      rw [active.2] at inactive
      cases inactive
  | sent found =>
      rw [(activeAt_of_chosen found).2] at inactive
      cases inactive
  | @waited _ _ delayMs spared =>
      exact ⟨⟨_, there, (rq.scheduled_same delayMs).1.trans inactive⟩,
        not_transmits_of_spared spared⟩

theorem inactive_run {trace : List (Client × Event)} (free : Inactive client idx)
    (run : requests.Run client trace next) (kept : ∀ taken ∈ trace, reuses idx taken = false) :
    Inactive next idx ∧ transmissions idx trace = 0 := by
  induction run with
  | nil => exact ⟨free, rfl⟩
  | @snoc trace state after event run stepped ih =>
      obtain ⟨before, none_⟩ := ih fun taken inside => kept taken (List.mem_append_left _ inside)
      obtain ⟨stays, silent⟩ := inactive_step before (kept (state, event) (by simp)) stepped
      refine ⟨stays, ?_⟩
      rw [transmissions_snoc, none_, silent]
      rfl

/-! ### A request with a limit -/

/-- The request that was added, after it was sent `count` times: it waits for an answer and was
not sent too often, or it is done. -/
def Pending (limit : UInt8) (idx count : Nat) (client : Client) : Prop :=
  ∃ rq, client.rq[idx]? = some rq ∧
    ((rq.active = true ∧ rq.periodic = false ∧ rq.maxRetries = limit ∧
        rq.retries.toNat = count ∧ count ≤ limit.toNat) ∨
      (rq.active = false ∧ count ≤ limit.toNat + 1))

theorem Rq.acked_active_iff (rq : Rq) :
    rq.acked.active = true ↔ rq.active = true ∧ rq.maxRetries = 0 := by
  have limit : rq.maxRetries > 0 ↔ rq.maxRetries ≠ 0 := UInt8.pos_iff_ne_zero
  rw [Rq.acked]
  dsimp only
  split
  · next limited => exact iff_of_false Bool.false_ne_true fun both => limit.mp limited both.2
  · next unlimited =>
      rw [limit, not_not] at unlimited
      exact ⟨fun active => ⟨active, unlimited⟩, fun both => both.1⟩

/-- A one-shot request that is sent counts it, or is given up. -/
theorem Rq.sent_oneShot {rq : Rq} (oneShot : rq.periodic = false) (counted : rq.retries ≠ 255) :
    (rq.sent.active = false ∧ rq.maxRetries.toNat < rq.retries.toNat + 1) ∨
      (rq.sent.active = rq.active ∧ rq.sent.periodic = false ∧
        rq.sent.maxRetries = rq.maxRetries ∧ rq.sent.retries.toNat = rq.retries.toNat + 1 ∧
        rq.retries.toNat + 1 ≤ rq.maxRetries.toNat) := by
  have count : (rq.retries + 1).toNat = rq.retries.toNat + 1 := by
    have small := rq.retries.toNat_lt
    have notMax : rq.retries.toNat ≠ 255 := fun same => counted (UInt8.toNat_inj.mp same)
    rw [UInt8.toNat_add]
    exact Nat.mod_eq_of_lt (by change rq.retries.toNat + 1 < 256; omega)
  by_cases often : rq.retries + 1 > rq.maxRetries
  · left
    have more := UInt8.lt_iff_toNat_lt.mp often
    rw [count] at more
    exact ⟨Rq.sent_of_drops ⟨oneShot, often⟩, more⟩
  · right
    have less := UInt8.le_iff_toNat_le.mp (UInt8.not_lt.mp often)
    rw [count] at less
    have sent : rq.sent = { rq with retries := rq.retries + 1, sinceLastSent := 0 } := by
      simp [Rq.sent, oneShot, often]
    rw [sent]
    exact ⟨rfl, oneShot, rfl, count, less⟩

theorem pending_step {limit : UInt8} {count : Nat} (pending : Pending limit idx count client)
    (kept : reuses idx (client, event) = false) (bounded : Bounded idx (client, event))
    (stepped : requests.step client event = some next) :
    Pending limit idx (count + if transmits idx (client, event) then 1 else 0) next := by
  obtain ⟨rq, at_, ⟨active, oneShot, same, counts, few⟩ | ⟨inactive, few⟩⟩ := pending
  · obtain ⟨after, there, turn⟩ := turn_of_step at_ stepped
    cases turn with
    | untouched idle =>
        rw [not_transmits_of_idle idle]
        exact ⟨rq, there, .inl ⟨active, oneShot, same, counts, few⟩⟩
    | reused adds found =>
        rw [reuses_of_free adds found] at kept
        cases kept
    | removed periodic =>
        rw [oneShot] at periodic
        cases periodic
    | acked found =>
        have limited := bounded.2 (acknowledges_iff.mpr ⟨_, rfl, found⟩) rq at_
        have done : rq.acked.active = false := by
          rw [Bool.eq_false_iff]
          intro stays
          exact limited (rq.acked_active_iff.mp stays).2
        rw [not_transmits_of_idle (by intro sent equal; cases equal)]
        exact ⟨_, there, .inr ⟨done, Nat.le_succ_of_le few⟩⟩
    | @sent _ delayMs found =>
        have transmitted := Turn.transmits_sent found
        have counted := bounded.1 transmitted rq at_
        obtain ⟨on, once, most, retries, -⟩ := rq.sent.scheduled_same delayMs
        rw [transmitted, if_pos rfl]
        refine ⟨_, there, ?_⟩
        rw [on, once, most, retries]
        rcases Rq.sent_oneShot oneShot counted with
          ⟨done, _⟩ | ⟨stays, still, unchanged, counts', bound⟩
        · exact .inr ⟨done, by omega⟩
        · rw [counts] at counts' bound
          rw [same] at bound
          exact .inl ⟨stays.trans active, still, unchanged.trans same, counts', bound⟩
    | @waited _ _ delayMs spared =>
        obtain ⟨on, once, most, retries, -⟩ := rq.scheduled_same delayMs
        rw [not_transmits_of_spared spared]
        refine ⟨_, there, .inl ?_⟩
        rw [on, once, most, retries]
        exact ⟨active, oneShot, same, counts, few⟩
  · obtain ⟨⟨after, there, still⟩, silent⟩ := inactive_step ⟨rq, at_, inactive⟩ kept stepped
    rw [silent]
    exact ⟨after, there, .inr ⟨still, few⟩⟩

theorem pending_run {limit : UInt8} {trace : List (Client × Event)} {start finish : Client}
    (pending : Pending limit idx 0 start) (run : requests.Run start trace finish)
    (kept : ∀ taken ∈ trace, reuses idx taken = false) (bounded : ∀ taken ∈ trace, Bounded idx taken) :
    Pending limit idx (transmissions idx trace) finish := by
  induction run with
  | nil => exact pending
  | @snoc trace state after event run stepped ih =>
      have before := ih (fun taken inside => kept taken (List.mem_append_left _ inside))
        fun taken inside => bounded taken (List.mem_append_left _ inside)
      rw [transmissions_snoc]
      exact pending_step before (kept (state, event) (by simp)) (bounded (state, event) (by simp))
        stepped

theorem pending_addRq {allocated : Bool} {rqId : UInt16} {payload : List UInt8}
    {timeout : UInt32} {retries : UInt8}
    (added : addRq allocated rqId payload timeout retries client = .ok (next, (idx : Int))) :
    Pending retries idx 0 next := by
  rw [addRq] at added
  rcases addRequest_cases added with ⟨impossible, _⟩ | ⟨free, serialized, same, found, _, rfl⟩
  · omega
  · obtain rfl : idx = free := Int.ofNat_inj.mp same
    rw [List.findIdx?_eq_some_iff_getElem] at found
    obtain ⟨inside, -⟩ := found
    exact ⟨_, List.getElem?_set_self inside, .inl ⟨rfl, rfl, rfl, rfl, Nat.zero_le _⟩⟩

/-- In a run whose steps are all bounded, a one-shot request is transmitted at most once more than
its limit and is given up then, and an acknowledgement ends it. -/
theorem retryLaw_of_bounded {allocated : Bool} {rqId : UInt16} {payload : List UInt8}
    {timeout : UInt32} {retries : UInt8} {start finish : Client} {trace : List (Client × Event)}
    (added : addRq allocated rqId payload timeout retries client = .ok (start, (idx : Int)))
    (run : requests.Run start trace finish) (kept : ∀ taken ∈ trace, reuses idx taken = false)
    (bounded : ∀ taken ∈ trace, Bounded idx taken) :
    transmissions idx trace ≤ retries.toNat + 1 ∧
      (transmissions idx trace = retries.toNat + 1 → Inactive finish idx) ∧
      ∀ before taken later, trace = before ++ taken :: later → acknowledges idx taken = true →
        Inactive finish idx ∧ transmissions idx later = 0 := by
  have pending := pending_run (pending_addRq added) run kept bounded
  refine ⟨?_, ?_, ?_⟩
  · obtain ⟨rq, _, ⟨_, _, _, _, few⟩ | ⟨_, few⟩⟩ := pending
    · omega
    · exact few
  · intro all
    obtain ⟨rq, at_, ⟨_, _, _, _, few⟩ | ⟨inactive, _⟩⟩ := pending
    · omega
    · exact ⟨rq, at_, inactive⟩
  · rintro before ⟨state, event⟩ later rfl acknowledged
    obtain ⟨next, ran, stepped, rest⟩ := run.at_
    obtain ⟨correspondingRq, same, found⟩ := acknowledges_iff.mp acknowledged
    obtain ⟨rq, active, _⟩ := activeAt_of_ackedSlot found
    have limited := (bounded (state, event) (by simp)).2 acknowledged rq active.1
    subst same
    have ended : Inactive next idx := by
      cases stepped
      refine ⟨_, slot_ackRsp found active.1, ?_⟩
      rw [Bool.eq_false_iff]
      exact fun stays => limited (rq.acked_active_iff.mp stays).2
    exact inactive_run ended rest fun taken inside =>
      kept taken (List.mem_append_right _ (List.mem_cons_of_mem _ inside))

/-- The client with a request that is sent twice at most. -/
def polled : Client :=
  { lastRqId := expRspInvalid, timer := some 2000, started := [2000], written := [],
    rq := [
      { Rq.zero with
        payload := some [81, 80, 73, 71, 83, 0xb7, 0xa9, 13], rqId := 9, timeout := 1000,
        sinceLastSent := 1000, maxRetries := 1, payloadLen := 8, active := true },
      .zero, .zero, .zero, .zero] }

/-- It is sent, and then it is acknowledged. -/
def answeredPoll : List Event := [.timer true, .ackRsp 9, .timer true]

theorem retryLaw_of_bounded_answeredPoll :
    ∃ finish, transmissions 0 (requests.tracing polled answeredPoll) ≤ (1 : UInt8).toNat + 1 ∧
      (transmissions 0 (requests.tracing polled answeredPoll) = (1 : UInt8).toNat + 1 →
        Inactive finish 0) := by
  have added : addRq true 9 [81, 80, 73, 71, 83] 1000 1 .initial = .ok (polled, ((0 : Nat) : Int)) := by
    decide +kernel
  obtain ⟨finish, executed⟩ : ∃ finish, requests.exec polled answeredPoll = some finish :=
    ⟨_, rfl⟩
  have law := retryLaw_of_bounded added (Machine.run_of_exec executed) (by decide +kernel)
    (by decide +kernel)
  exact ⟨finish, law.1, law.2.1⟩

/-- A request with the greatest limit, and a timer that expires without an answer. -/
def insistent : List Event :=
  .addRq true 9 [81, 80, 73, 71, 83] 100 255 :: List.replicate 257 (.timer true)

/-- A count of 255 wraps, so the request is sent once more than its limit allows, and again. -/
theorem insistent_again :
    (requests.exec .initial insistent).map (fun client =>
      (client.written.length, client.rq.any Rq.active)) = some (257, true) := by
  decide +kernel

end EsInverter.SerialClient
