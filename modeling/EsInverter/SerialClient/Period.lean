import EsInverter.SerialClient.Retries

/-!
# The period of a request

Virtual time runs on between the commands of the task.  The waiting of a request
is booked when the timer is armed, so it is real only if no command lets the
timer expire earlier.
-/

set_option autoImplicit false

namespace EsInverter.SerialClient

open Lib

/-! ### Virtual time -/

/-- The task at a moment of virtual time, in milliseconds. -/
structure Timed where
  client : Client
  now : Nat
  /-- Not in the code: the time up to which the active requests are taken to have waited. -/
  booked : Int
  deriving DecidableEq, Repr

/-- A command, and the time that elapses before it is taken up. -/
structure TimedEvent where
  elapsed : Nat
  event : Event
  deriving DecidableEq, Repr

/-- The time up to which waiting is booked behind a command: `send_rq` books its delay. -/
def bookedAfter (client : Client) (now : Nat) (booked : Int) : Event → Int
  | .timer sent =>
      match nextDelay sent client with
      | .error _ => booked
      | .ok (_, delayMs) => if delayMs ≠ Int32.maxValue then now + delayMs.toInt else booked
  | _ => booked

def Timed.step (timed : Timed) (taken : TimedEvent) : Option Timed :=
  match timed.client.step taken.event with
  | none => none
  | some client =>
      let now := timed.now + taken.elapsed
      some ⟨client, now, bookedAfter timed.client now timed.booked taken.event⟩

/-- Every command may be taken up at any time; the expiries of the timer are among them. -/
def timedRequests : Machine Timed TimedEvent := ⟨Timed.step⟩

/-- The command without its time. -/
def untimed (taken : Timed × TimedEvent) : Client × Event := (taken.1.client, taken.2.event)

/-- When the command is taken up. -/
def moment (taken : Timed × TimedEvent) : Nat := taken.1.now + taken.2.elapsed

theorem moment_mk (timed : Timed) (taken : TimedEvent) :
    moment (timed, taken) = timed.now + taken.elapsed := rfl

/-- The waiting of an active request is not far from zero. -/
def Moderate (client : Client) : Prop :=
  ∀ rq ∈ client.rq, rq.active = true →
    -2 ^ 30 ≤ rq.sinceLastSent.toInt ∧ rq.sinceLastSent.toInt ≤ 2 ^ 30

def Event.isTimer : Event → Bool
  | .timer _ => true
  | _ => false

instance (client : Client) : Decidable (Moderate client) :=
  inferInstanceAs (Decidable (∀ rq ∈ client.rq, _ → _))

/-- A timer that expires does so when the booked waiting is over, and then the waiting of no
request is far from zero. -/
def Punctual (taken : Timed × TimedEvent) : Prop :=
  taken.2.event.isTimer = true → taken.1.booked ≤ moment taken ∧ Moderate taken.1.client

instance (taken : Timed × TimedEvent) : Decidable (Punctual taken) :=
  inferInstanceAs (Decidable (_ → _))

/-! ### Delays -/

theorem toInt_toUInt32 (timeout : UInt16) : timeout.toUInt32.toInt32.toInt = timeout.toNat := by
  have small := timeout.toNat_lt
  have signed : timeout.toUInt32.toInt32.toInt = timeout.toUInt32.toBitVec.toInt := rfl
  have unsigned : timeout.toUInt32.toBitVec.toNat = timeout.toNat := by simp
  rw [signed, BitVec.toInt_eq_toNat_cond, unsigned]
  split <;> omega

/-- Without an overflow, the delay is what is left of the timeout. -/
theorem Rq.delay_eq {rq : Rq} (low : -2 ^ 31 + 65536 ≤ rq.sinceLastSent.toInt) :
    rq.delay.toInt = rq.timeout.toNat - rq.sinceLastSent.toInt := by
  have small := rq.timeout.toNat_lt
  have high := rq.sinceLastSent.toInt_lt
  rw [Rq.delay, Int32.toInt_sub, toInt_toUInt32]
  exact Int.bmod_eq_of_le (by omega) (by omega)

/-- A sum that does not fall below the least number is at most the sum of the numbers. -/
theorem toInt_add_le {first second : Int32} (low : -2 ^ 31 ≤ first.toInt + second.toInt) :
    (first + second).toInt ≤ first.toInt + second.toInt := by
  rw [Int32.toInt_add, Int.bmod_def]
  split <;> omega

theorem Rq.sent_since (rq : Rq) :
    rq.sent.sinceLastSent = 0 ∨ rq.sent.sinceLastSent = rq.sinceLastSent - 100 := by
  have earlier : (rq.sinceLastSent.toUInt32 - responseDelayMs).toInt32 =
      rq.sinceLastSent - 100 := by
    rw [UInt32.toInt32_sub, Int32.toInt32_toUInt32]
    rfl
  rw [Rq.sent]
  dsimp only
  split
  · split
    · exact .inl rfl
    · exact .inl rfl
  · split
    · exact .inl rfl
    · exact .inr earlier

theorem nextRqDelay_low {rqs : List Rq}
    (low : ∀ idx rq, ActiveAt rqs idx rq → -2 ^ 30 ≤ rq.delay.toInt) :
    -2 ^ 30 ≤ (nextRqDelay rqs Int32.maxValue).toInt := by
  have top := Int32.toInt_maxValue
  rw [nextRqDelay_eq rqs 0 Int32.maxValue none]
  rcases findEarliest_cases rqs with ⟨none_, -⟩ | ⟨idx, rq, selects, selected, -⟩
  · rw [none_]
    dsimp only
    omega
  · rw [selects]
    exact low idx rq selected.active

/-- The delay of the next call is bounded by the waiting of the requests. -/
theorem delayMs_low {sent : Bool} {client before : Client} {delayMs : Int32}
    (moderate : Moderate client) (result : nextDelay sent client = .ok (before, delayMs)) :
    -2 ^ 30 ≤ delayMs.toInt := by
  have fifty : (50 : Int32).toInt = 50 := rfl
  have hundred : (100 : Int32).toInt = 100 := rfl
  have kept {idx : Nat} {rq : Rq} (active : ActiveAt client.rq idx rq) :
      -2 ^ 30 ≤ rq.delay.toInt := by
    obtain ⟨low, high⟩ := moderate rq active.mem active.2
    rw [Rq.delay_eq (by omega)]
    omega
  rcases findEarliest_cases client.rq with ⟨none_, -⟩ | ⟨idx, rq, selects, selected, -⟩
  · rw [nextDelay_of_none none_] at result
    cases result
    decide
  · by_cases later : rq.delay > 50
    · rw [nextDelay_of_later selects later] at result
      cases result
      have above := Int32.lt_iff_toInt_lt.mp later
      omega
    · have due : rq.delay ≤ 50 := Int32.not_lt.mp later
      by_cases filled : rq.payloadLen = 0
      · rw [nextDelay, selects] at result
        simp [later, selected.active.1, filled] at result
      · cases sent with
        | false =>
            rw [nextDelay_of_failed selects selected.active due filled] at result
            cases result
            decide
        | true =>
            rw [nextDelay_of_sent selects selected.active due filled] at result
            have next : -2 ^ 30 ≤
                (nextRqDelay (client.rq.modify idx Rq.sent) Int32.maxValue).toInt := by
              apply nextRqDelay_low
              intro other otherRq active
              rcases (activeAt_modify_iff selected.active.1 Rq.sent other otherRq).mp active with
                ⟨_, same⟩ | ⟨_, rfl, _⟩
              · exact kept same
              · obtain ⟨low, high⟩ := moderate rq selected.active.mem selected.active.2
                have since : -2 ^ 31 + 65536 ≤ rq.sent.sinceLastSent.toInt ∧
                    rq.sent.sinceLastSent.toInt ≤ 2 ^ 30 := by
                  rcases rq.sent_since with zero | earlier
                  · rw [zero]
                    decide
                  · rw [earlier, Int32.toInt_sub, hundred,
                      Int.bmod_eq_of_le (by omega) (by omega)]
                    omega
                rw [Rq.delay_eq since.1]
                omega
            split at result
            · cases result
              decide
            · cases result
              exact next

/-! ### A request that waits -/

variable {timed next : Timed} {taken : TimedEvent} {idx : Nat} {timeout : UInt16} {sentAt : Nat}

theorem timed_step_spec (stepped : timedRequests.step timed taken = some next) :
    requests.step timed.client taken.event = some next.client ∧
      next.now = moment (timed, taken) ∧
      next.booked = bookedAfter timed.client next.now timed.booked taken.event := by
  unfold timedRequests Timed.step at stepped
  dsimp only at stepped
  split at stepped
  · cases stepped
  · next client done =>
      cases stepped
      exact ⟨done, rfl, rfl⟩

theorem bookedAfter_idle {client : Client} {now : Nat} {booked : Int} {event : Event}
    (idle : ∀ sent, event ≠ .timer sent) : bookedAfter client now booked event = booked := by
  cases event with
  | timer sent => exact absurd rfl (idle sent)
  | addRq | addPeriodicRq | removePeriodicRq | ackRsp => rfl

theorem not_free_of_active {client : Client} {rq : Rq} (active : ActiveAt client.rq idx rq) :
    client.rq.findIdx? (fun rq => !rq.active) ≠ some idx := by
  intro free
  rw [List.findIdx?_eq_some_iff_getElem] at free
  obtain ⟨inside, inactive, -⟩ := free
  have same := active.1
  rw [List.getElem?_eq_getElem inside] at same
  rw [Option.some.inj same, active.2] at inactive
  cases inactive

theorem Rq.acked_spec {rq : Rq} (stays : rq.acked.active = true) :
    rq.acked.sinceLastSent = 0 ∧ rq.acked.timeout = rq.timeout := by
  rw [Rq.acked] at stays ⊢
  dsimp only at stays ⊢
  split at stays
  · cases stays
  · next unlimited =>
      rw [if_neg unlimited]
      exact ⟨rfl, rfl⟩

theorem Rq.sent_timeout (rq : Rq) : rq.sent.timeout = rq.timeout := by
  rw [Rq.sent]
  dsimp only
  split
  · split <;> rfl
  · split <;> rfl

/-- The slot holds a request with that timeout. -/
def Holds (timeout : UInt16) (idx : Nat) (timed : Timed) : Prop :=
  ∃ rq, ActiveAt timed.client.rq idx rq ∧ rq.timeout = timeout

/-- It was acknowledged after it was sent, and its waiting since then is real. -/
def Waits (timeout : UInt16) (idx sentAt : Nat) (timed : Timed) : Prop :=
  ∃ rq, ActiveAt timed.client.rq idx rq ∧ rq.timeout = timeout ∧
    rq.sinceLastSent.toInt ≤ max timed.booked timed.now - sentAt

theorem holds_step (holds : Holds timeout idx timed)
    (stepped : timedRequests.step timed taken = some next)
    (stays : ∃ rq, ActiveAt next.client.rq idx rq) : Holds timeout idx next := by
  obtain ⟨elapsed, event⟩ := taken
  obtain ⟨rq, active, same⟩ := holds
  obtain ⟨other, activeNext⟩ := stays
  obtain ⟨after, there, turn⟩ := turn_of_step active.1 (timed_step_spec stepped).1
  obtain rfl : other = after := by
    rw [activeNext.1] at there
    exact Option.some.inj there
  refine ⟨other, activeNext, ?_⟩
  rw [← same]
  cases turn with
  | untouched => rfl
  | reused adds free => exact absurd free (not_free_of_active active)
  | removed => exact absurd activeNext.2 Bool.false_ne_true
  | acked => exact (Rq.acked_spec activeNext.2).2
  | @sent _ delayMs => exact (rq.sent.scheduled_same delayMs).2.2.2.2.trans rq.sent_timeout
  | @waited _ _ delayMs => exact (rq.scheduled_same delayMs).2.2.2.2

theorem waits_of_acknowledged (holds : Holds timeout idx timed) (later : sentAt ≤ timed.now)
    (acknowledged : acknowledges idx (timed.client, taken.event) = true)
    (stepped : timedRequests.step timed taken = some next)
    (stays : ∃ rq, ActiveAt next.client.rq idx rq) : Waits timeout idx sentAt next := by
  obtain ⟨rq, active, same⟩ := holds
  obtain ⟨other, activeNext⟩ := stays
  obtain ⟨correspondingRq, event, found⟩ := acknowledges_iff.mp acknowledged
  obtain ⟨done, now, booked⟩ := timed_step_spec stepped
  have there := slot_ackRsp found active.1
  rw [event] at done
  have table : ackRsp correspondingRq timed.client = next.client := Option.some.inj done
  rw [table] at there
  obtain rfl : other = rq.acked := by
    rw [activeNext.1] at there
    exact Option.some.inj there
  obtain ⟨since, timeout_⟩ := Rq.acked_spec activeNext.2
  refine ⟨rq.acked, activeNext, timeout_.trans same, ?_⟩
  have zero : (0 : Int32).toInt = 0 := rfl
  rw [since, zero]
  rw [moment_mk] at now
  omega

theorem waits_step (waits : Waits timeout idx sentAt timed) (punctual : Punctual (timed, taken))
    (later : sentAt ≤ timed.now) (spared : transmits idx (timed.client, taken.event) = false)
    (stepped : timedRequests.step timed taken = some next)
    (stays : ∃ rq, ActiveAt next.client.rq idx rq) : Waits timeout idx sentAt next := by
  obtain ⟨elapsed, event⟩ := taken
  obtain ⟨rq, active, same, since⟩ := waits
  obtain ⟨other, activeNext⟩ := stays
  obtain ⟨done, now, booked⟩ := timed_step_spec stepped
  obtain ⟨after, there, turn⟩ := turn_of_step active.1 done
  obtain rfl : other = after := by
    rw [activeNext.1] at there
    exact Option.some.inj there
  have zero : (0 : Int32).toInt = 0 := rfl
  refine ⟨other, activeNext, ?_⟩
  rw [moment_mk] at now
  cases turn with
  | untouched idle =>
      rw [bookedAfter_idle idle] at booked
      exact ⟨same, by omega⟩
  | reused adds free => exact absurd free (not_free_of_active active)
  | removed => exact absurd activeNext.2 Bool.false_ne_true
  | acked =>
      obtain ⟨reset, kept⟩ := Rq.acked_spec activeNext.2
      rw [reset, zero]
      exact ⟨kept.trans same, by omega⟩
  | sent found =>
      rw [Turn.transmits_sent found] at spared
      cases spared
  | @waited _ _ delayMs _ result =>
      obtain ⟨early, moderate⟩ := punctual rfl
      rw [moment_mk] at early
      dsimp only at early now
      rw [bookedAfter, result] at booked
      refine ⟨(rq.scheduled_same delayMs).2.2.2.2.trans same, ?_⟩
      dsimp only at booked
      by_cases waiting : delayMs ≠ Int32.maxValue
      · have sum : (rq.scheduled delayMs).sinceLastSent = rq.sinceLastSent + delayMs := by
          rw [Rq.scheduled, if_pos waiting, Rq.waited, if_pos active.2]
        have low := delayMs_low moderate result
        obtain ⟨lowSince, -⟩ := moderate rq active.mem active.2
        have most : (rq.sinceLastSent + delayMs).toInt ≤
            rq.sinceLastSent.toInt + delayMs.toInt := toInt_add_le (by omega)
        rw [if_pos waiting] at booked
        rw [sum]
        omega
      · rw [if_neg waiting] at booked
        rw [Rq.scheduled, if_neg waiting]
        omega

/-! ### Between two transmissions -/

/-- The request stays in its slot all along. -/
def Persists (idx : Nat) (trace : List (Timed × TimedEvent)) : Prop :=
  ∀ taken ∈ trace, taken.1.client.rq[idx]?.any Rq.active = true

instance (idx : Nat) (trace : List (Timed × TimedEvent)) : Decidable (Persists idx trace) :=
  inferInstanceAs (Decidable (∀ taken ∈ trace, _))

theorem Persists.active {trace : List (Timed × TimedEvent)} (persists : Persists idx trace)
    {timed : Timed} {taken : TimedEvent} (inside : (timed, taken) ∈ trace) :
    ∃ rq, ActiveAt timed.client.rq idx rq :=
  (Option.any_eq_true _ _).mp (persists (timed, taken) inside)

theorem holds_run {trace : List (Timed × TimedEvent)} {start finish : Timed}
    (holds : Holds timeout idx start) (run : timedRequests.Run start trace finish)
    (persists : Persists idx trace) (stays : ∃ rq, ActiveAt finish.client.rq idx rq) :
    Holds timeout idx finish := by
  induction run with
  | nil => exact holds
  | @snoc trace state after event run stepped ih =>
      have last : (state, event) ∈ trace ++ [(state, event)] := by simp
      have before := ih (fun taken inside => persists taken (List.mem_append_left _ inside))
        (persists.active last)
      exact holds_step before stepped stays

theorem waits_run {trace : List (Timed × TimedEvent)} {start finish : Timed}
    (holds : Holds timeout idx start) (later : sentAt ≤ start.now)
    (run : timedRequests.Run start trace finish) (persists : Persists idx trace)
    (stays : ∃ rq, ActiveAt finish.client.rq idx rq)
    (spared : ∀ taken ∈ trace, transmits idx (untimed taken) = false)
    (punctual : ∀ taken ∈ trace, Punctual taken) :
    sentAt ≤ finish.now ∧
      ((∃ taken ∈ trace, acknowledges idx (untimed taken) = true) →
        Waits timeout idx sentAt finish) := by
  induction run with
  | nil => exact ⟨later, by simp⟩
  | @snoc trace state after event run stepped ih =>
      have atLast : (state, event) ∈ trace ++ [(state, event)] := by simp
      have active := persists.active atLast
      have earlier : Persists idx trace :=
        fun taken inside => persists taken (List.mem_append_left _ inside)
      obtain ⟨passed, waits⟩ := ih earlier active
        (fun taken inside => spared taken (List.mem_append_left _ inside))
        (fun taken inside => punctual taken (List.mem_append_left _ inside))
      have now := (timed_step_spec stepped).2.1
      rw [moment_mk] at now
      refine ⟨by omega, ?_⟩
      rintro ⟨taken, inside, acknowledged⟩
      rcases List.mem_append.mp inside with before | last
      · exact waits_step (waits ⟨taken, before, acknowledged⟩) (punctual (state, event) (by simp))
          passed (spared (state, event) (by simp)) stepped stays
      · obtain rfl := List.mem_singleton.mp last
        exact waits_of_acknowledged (holds_run holds run earlier active) passed acknowledged
          stepped stays

/-- A request that is sent has waited for its timeout, up to 50 milliseconds. -/
theorem waited_of_transmits {timed : Timed} {taken : TimedEvent}
    (waits : Waits timeout idx sentAt timed) (punctual : Punctual (timed, taken))
    (sent : transmits idx (untimed (timed, taken)) = true) :
    sentAt + timeout.toNat ≤ moment (timed, taken) + 50 := by
  obtain ⟨rq, active, rfl, since⟩ := waits
  obtain ⟨event, found⟩ := transmits_iff.mp sent
  obtain ⟨other, found⟩ := found
  obtain rfl : other = rq := by
    have there := (activeAt_of_chosen found).1
    rw [active.1] at there
    exact (Option.some.inj there).symm
  have timer : taken.event.isTimer = true := by
    rw [event]
    rfl
  obtain ⟨early, moderate⟩ := punctual timer
  obtain ⟨low, -⟩ := moderate other active.mem active.2
  have fifty : (50 : Int32).toInt = 50 := rfl
  have due := Int32.le_iff_toInt_le.mp (selected_of_chosen found).2
  rw [Rq.delay_eq (by omega), fifty] at due
  rw [moment_mk] at early ⊢
  dsimp only at early
  omega

/-- A periodic request that is acknowledged keeps its period if the period fits its field, the
timer does not expire before the booked waiting is over and no waiting is far from zero. -/
theorem keepsPeriod_of_punctual {allocated : Bool} {rqId : UInt16} {payload : List UInt8}
    {period : UInt32} {client : Client} {start finish : Timed}
    (added : addPeriodicRq allocated rqId payload period client = .ok (start.client, (idx : Int)))
    (short : period.toNat ≤ 65535)
    {before between : List (Timed × TimedEvent)} {first second : Timed × TimedEvent}
    (run : timedRequests.Run start (before ++ first :: (between ++ [second])) finish)
    (persists : Persists idx (before ++ first :: (between ++ [second])))
    (sent : transmits idx (untimed first) = true)
    (again : transmits idx (untimed second) = true)
    (consecutive : ∀ taken ∈ between, transmits idx (untimed taken) = false)
    (acknowledged : ∃ taken ∈ between, acknowledges idx (untimed taken) = true)
    (punctual : ∀ taken ∈ between ++ [second], Punctual taken) :
    moment first + period.toNat ≤ moment second + 50 := by
  obtain ⟨firstState, firstTaken⟩ := first
  obtain ⟨secondState, secondTaken⟩ := second
  have holds : Holds period.toUInt16 idx start := by
    rcases addRequest_cases (addRequest_of_addPeriodicRq added) with
      ⟨impossible, _⟩ | ⟨free, serialized, same, found, _, table⟩
    · omega
    · obtain rfl : idx = free := Int.ofNat_inj.mp same
      rw [List.findIdx?_eq_some_iff_getElem] at found
      obtain ⟨inside, -⟩ := found
      rw [Holds, table]
      exact ⟨_, ⟨List.getElem?_set_self inside, rfl⟩, rfl⟩
  have whole : period.toUInt16.toNat = period.toNat := by
    rw [UInt32.toNat_toUInt16]
    exact Nat.mod_eq_of_lt (by omega)
  obtain ⟨next, ran, stepped, rest⟩ := run.at_
  obtain ⟨rest, last⟩ := Machine.Run.snoc_iff.mp rest
  -- The parts of the run lie in the whole trace.
  have inBefore : Persists idx before := fun taken inside =>
    persists taken (List.mem_append_left _ inside)
  have inBetween : Persists idx between := fun taken inside =>
    persists taken (by simp [inside])
  have atFirst : ∃ rq, ActiveAt firstState.client.rq idx rq :=
    persists.active (List.mem_append_right before List.mem_cons_self)
  have atSecond : ∃ rq, ActiveAt secondState.client.rq idx rq :=
    persists.active (List.mem_append_right before (List.mem_cons_of_mem _
      (List.mem_append_right between List.mem_cons_self)))
  have atNext : ∃ rq, ActiveAt next.client.rq idx rq := by
    cases between with
    | nil =>
        rw [← Machine.Run.nil_iff.mp rest]
        exact atSecond
    | cons taken between =>
        obtain ⟨state, event⟩ := taken
        have whole : timedRequests.Run next ([] ++ (state, event) :: between) secondState := rest
        obtain ⟨_, none_, _, _⟩ := whole.at_
        rw [← Machine.Run.nil_iff.mp none_]
        exact inBetween.active List.mem_cons_self
  have holdsNext := holds_step (holds_run holds ran inBefore atFirst) stepped atNext
  have now := (timed_step_spec stepped).2.1
  obtain ⟨-, waits⟩ := waits_run holdsNext (Nat.le_of_eq now.symm) rest inBetween atSecond
    consecutive fun taken inside => punctual taken (List.mem_append_left _ inside)
  have waited := waited_of_transmits (waits acknowledged)
    (punctual (secondState, secondTaken) (by simp)) again
  rw [whole] at waited
  exact waited

/-- The client behind `add_periodic_rq` of the identifier 9 in the first slot. -/
def polling (period : UInt16) (sinceLastSent : Int32) : Timed :=
  { now := 0, booked := 0
    client :=
      { lastRqId := expRspInvalid, timer := some 2000, started := [2000], written := [],
        rq := [added 9 [81, 80, 73, 71, 83, 0xb7, 0xa9, 13] period sinceLastSent,
          .zero, .zero, .zero, .zero] } }

/-- The state after some commands. -/
def Timed.after (events : List TimedEvent) (start : Timed) : Timed :=
  (timedRequests.exec start events).getD start

/-- Every expiry is on time, and the reply comes after 60 milliseconds. -/
def quietPoll : List TimedEvent :=
  [⟨2000, .timer true⟩, ⟨500, .timer true⟩, ⟨60, .ackRsp 9⟩, ⟨40, .timer true⟩,
    ⟨1000, .timer true⟩]

def quietTrace : List (Timed × TimedEvent) :=
  timedRequests.tracing (polling 1000 500) quietPoll

theorem keepsPeriod_of_punctual_quietPoll :
    moment ((polling 1000 500).after (quietPoll.take 1), ⟨500, .timer true⟩) + 1000 ≤
      moment ((polling 1000 500).after (quietPoll.take 4), ⟨1000, .timer true⟩) + 50 := by
  have added : addPeriodicRq true 9 [81, 80, 73, 71, 83] 1000 .initial =
      .ok ((polling 1000 500).client, ((0 : Nat) : Int)) := by decide +kernel
  obtain ⟨finish, executed⟩ :
      ∃ finish, timedRequests.exec (polling 1000 500) quietPoll = some finish := ⟨_, rfl⟩
  have run := Machine.run_of_exec executed
  have shape : quietTrace =
      [(polling 1000 500, ⟨2000, .timer true⟩)] ++
        ((polling 1000 500).after (quietPoll.take 1), ⟨500, .timer true⟩) ::
          ([((polling 1000 500).after (quietPoll.take 2), ⟨60, .ackRsp 9⟩),
            ((polling 1000 500).after (quietPoll.take 3), ⟨40, .timer true⟩)] ++
            [((polling 1000 500).after (quietPoll.take 4), ⟨1000, .timer true⟩)]) := by
    decide +kernel
  rw [← quietTrace, shape] at run
  exact keepsPeriod_of_punctual added (by decide) run (by decide +kernel)
    (by decide +kernel) (by decide +kernel) (by decide +kernel) (by decide +kernel)
    (by decide +kernel)

/-- Another request is added a second after the timer was armed for a minute. -/
def disturbedPoll : List TimedEvent :=
  [⟨2000, .timer true⟩, ⟨500, .timer true⟩, ⟨50, .ackRsp 9⟩, ⟨50, .timer true⟩,
    ⟨1000, .addRq true 3 [81, 86, 70, 87] 1000 0⟩, ⟨2000, .timer true⟩]

/-- The request with a period of a minute, acknowledged in between, is sent again after three
seconds. -/
theorem disturbedPoll_hurries :
    let start := polling 60000 59500
    let first := (start.after (disturbedPoll.take 1), ⟨500, Event.timer true⟩)
    let second := (start.after (disturbedPoll.take 5), ⟨2000, Event.timer true⟩)
    addPeriodicRq true 9 [81, 80, 73, 71, 83] 60000 .initial = .ok (start.client, 0) ∧
      (timedRequests.tracing start disturbedPoll).filter (fun taken => transmits 0 (untimed taken)) =
        [first, second] ∧
      (timedRequests.tracing start disturbedPoll).any
        (fun taken => acknowledges 0 (untimed taken)) = true ∧
      moment first = 2500 ∧ moment second = 5600 := by
  decide +kernel

end EsInverter.SerialClient
