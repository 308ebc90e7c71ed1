import EsInverter.SerialClient.Commands

/-!
# The sender timer

Every return of `send_rq` with an active request left should have armed the
timer with a delay that is positive and not longer than the requests need.  It
does, unless a request is overdue when another is sent: then a negative delay
reaches `start_timer` as an unsigned one.
-/

set_option autoImplicit false

namespace EsInverter.SerialClient

open Lib

/-! ### Delays -/

/-- A negative delay is a long one when it is read as unsigned. -/
theorem toNat_toUInt32 (delay : Int32) :
    (delay.toUInt32.toNat : Int) =
      if 0 ≤ delay.toInt then delay.toInt else delay.toInt + 2 ^ 32 := by
  have bound := delay.toBitVec.isLt
  have signed : delay.toInt = delay.toBitVec.toInt := rfl
  have unsigned : delay.toUInt32.toNat = delay.toBitVec.toNat := rfl
  rw [signed, unsigned, BitVec.toInt_eq_toNat_cond]
  split <;> split <;> omega

theorem lt_responseDelay_iff (delay : Int32) :
    delay.toUInt32 < responseDelayMs ↔ 0 ≤ delay.toInt ∧ delay.toInt < 100 := by
  have read := toNat_toUInt32 delay
  have low := delay.le_toInt
  have hundred : responseDelayMs.toNat = 100 := rfl
  rw [UInt32.lt_iff_toNat_lt, hundred]
  split at read <;> omega

/-- A request that was just sent for the last time is due after its timeout. -/
theorem Rq.delay_of_zero {rq : Rq} (reset : rq.sinceLastSent = 0) :
    rq.delay.toInt = rq.timeout.toNat := by
  have small := rq.timeout.toNat_lt
  have same : rq.delay = rq.timeout.toUInt32.toInt32 := by
    rw [Rq.delay, reset]
    grind
  have signed : rq.timeout.toUInt32.toInt32.toInt = rq.timeout.toUInt32.toBitVec.toInt := rfl
  have unsigned : rq.timeout.toUInt32.toBitVec.toNat = rq.timeout.toNat := by simp
  rw [same, signed, BitVec.toInt_eq_toNat_cond, unsigned]
  split <;> omega

/-- A request that is retried is due a hundred milliseconds later. -/
theorem Rq.delay_of_retried {rq next : Rq} (timeout : next.timeout = rq.timeout)
    (retried : next.sinceLastSent = (rq.sinceLastSent.toUInt32 - responseDelayMs).toInt32)
    (due : rq.delay ≤ 50) : next.delay.toInt = rq.delay.toInt + 100 := by
  have earlier : next.sinceLastSent = rq.sinceLastSent - 100 := by
    rw [retried, UInt32.toInt32_sub, Int32.toInt32_toUInt32]
    rfl
  have later : next.delay = rq.delay + 100 := by
    rw [Rq.delay, Rq.delay, timeout, earlier]
    grind
  have low := rq.delay.le_toInt
  have high := Int32.le_iff_toInt_le.mp due
  have fifty : (50 : Int32).toInt = 50 := rfl
  have hundred : (100 : Int32).toInt = 100 := rfl
  rw [later, Int32.toInt_add, hundred, Int.bmod_eq_of_le (by omega) (by omega)]

/-! ### The two loops -/

/-- The first of the active requests with the least delay. -/
structure Selected (rqs : List Rq) (idx : Nat) (rq : Rq) : Prop where
  active : ActiveAt rqs idx rq
  least : ∀ other otherRq, ActiveAt rqs other otherRq → rq.delay ≤ otherRq.delay
  first : ∀ other otherRq, other < idx → ActiveAt rqs other otherRq → rq.delay < otherRq.delay

theorem activeAt_cons_zero {rq : Rq} {rest : List Rq} {other : Rq}
    (active : ActiveAt (rq :: rest) 0 other) : other = rq ∧ rq.active = true := by
  obtain ⟨same, active⟩ := active
  rw [List.getElem?_cons_zero] at same
  cases same
  exact ⟨rfl, active⟩

theorem activeAt_cons_succ {rq : Rq} {rest : List Rq} {idx : Nat} {other : Rq} :
    ActiveAt (rq :: rest) (idx + 1) other ↔ ActiveAt rest idx other := by
  rw [ActiveAt, List.getElem?_cons_succ]
  rfl

/-- What the first loop finds behind `idx`: nothing less than before, or the first of the least. -/
theorem findEarliest_spec (rqs : List Rq) (idx : Nat) (earliest : Int32) (sendIdx : Option Nat) :
    (findEarliest rqs idx earliest sendIdx).1 ≤ earliest ∧
      (∀ other rq, ActiveAt rqs other rq →
        (findEarliest rqs idx earliest sendIdx).1 ≤ rq.delay) ∧
      (findEarliest rqs idx earliest sendIdx = (earliest, sendIdx) ∨
        ∃ found rq, ActiveAt rqs found rq ∧ rq.delay < earliest ∧
          findEarliest rqs idx earliest sendIdx = (rq.delay, some (idx + found)) ∧
          ∀ other otherRq, other < found → ActiveAt rqs other otherRq →
            rq.delay < otherRq.delay) := by
  induction rqs generalizing idx earliest sendIdx with
  | nil =>
      refine ⟨Int32.le_refl _, ?_, .inl rfl⟩
      intro other rq active
      cases active.1
  | cons rq rest ih =>
      rw [findEarliest]
      split
      · next better =>
          obtain ⟨active, less⟩ := better
          obtain ⟨lower, least, found⟩ := ih (idx + 1) rq.delay (some idx)
          refine ⟨Int32.le_trans lower (Int32.le_of_lt less), ?_, .inr ?_⟩
          · intro other otherRq activeOther
            cases other with
            | zero =>
                obtain ⟨rfl, _⟩ := activeAt_cons_zero activeOther
                exact lower
            | succ other => exact least other otherRq (activeAt_cons_succ.mp activeOther)
          · rcases found with same | ⟨at_, foundRq, activeFound, lessFound, same, first⟩
            · refine ⟨0, rq, ⟨rfl, active⟩, less, same, ?_⟩
              intro other otherRq below
              exact absurd below (Nat.not_lt_zero other)
            · refine ⟨at_ + 1, foundRq, activeAt_cons_succ.mpr activeFound,
                Int32.lt_trans lessFound less, ?_, ?_⟩
              · rw [same, Nat.add_right_comm, Nat.add_assoc]
              · intro other otherRq below activeOther
                cases other with
                | zero =>
                    obtain ⟨rfl, _⟩ := activeAt_cons_zero activeOther
                    exact lessFound
                | succ other =>
                    exact first other otherRq (by omega) (activeAt_cons_succ.mp activeOther)
      · next worse =>
          obtain ⟨lower, least, found⟩ := ih (idx + 1) earliest sendIdx
          have above : rq.active = true → earliest ≤ rq.delay := by
            intro active
            rw [← Int32.not_lt]
            exact fun less => worse ⟨active, less⟩
          refine ⟨lower, ?_, ?_⟩
          · intro other otherRq activeOther
            cases other with
            | zero =>
                obtain ⟨rfl, active⟩ := activeAt_cons_zero activeOther
                exact Int32.le_trans lower (above active)
            | succ other => exact least other otherRq (activeAt_cons_succ.mp activeOther)
          · rcases found with same | ⟨at_, foundRq, activeFound, lessFound, same, first⟩
            · exact .inl same
            · refine .inr ⟨at_ + 1, foundRq, activeAt_cons_succ.mpr activeFound, lessFound, ?_, ?_⟩
              · rw [same, Nat.add_right_comm, Nat.add_assoc]
              · intro other otherRq below activeOther
                cases other with
                | zero =>
                    obtain ⟨rfl, active⟩ := activeAt_cons_zero activeOther
                    exact Int32.lt_of_lt_of_le lessFound (above active)
                | succ other =>
                    exact first other otherRq (by omega) (activeAt_cons_succ.mp activeOther)

/-- Both loops find the same delay. -/
theorem nextRqDelay_eq (rqs : List Rq) (idx : Nat) (earliest : Int32) (sendIdx : Option Nat) :
    nextRqDelay rqs earliest = (findEarliest rqs idx earliest sendIdx).1 := by
  induction rqs generalizing idx earliest sendIdx with
  | nil => rfl
  | cons rq rest ih =>
      rw [nextRqDelay, findEarliest]
      split
      · exact ih (idx + 1) rq.delay (some idx)
      · exact ih (idx + 1) earliest sendIdx

/-- The loop over the whole table selects a request or finds none that is due at all. -/
theorem findEarliest_cases (rqs : List Rq) :
    (findEarliest rqs 0 Int32.maxValue none = (Int32.maxValue, none) ∧
        ∀ other rq, ActiveAt rqs other rq → rq.delay = Int32.maxValue) ∨
      ∃ idx rq, findEarliest rqs 0 Int32.maxValue none = (rq.delay, some idx) ∧
        Selected rqs idx rq ∧ rq.delay ≠ Int32.maxValue := by
  obtain ⟨lower, least, found⟩ := findEarliest_spec rqs 0 Int32.maxValue none
  rcases found with same | ⟨idx, rq, active, less, same, first⟩
  · left
    refine ⟨same, fun other rq active => ?_⟩
    have above := least other rq active
    rw [same] at above
    exact Int32.le_antisymm (Int32.le_maxValue _) above
  · right
    rw [Nat.zero_add] at same
    refine ⟨idx, rq, same, ⟨active, ?_, first⟩, ?_⟩
    · intro other otherRq activeOther
      have above := least other otherRq activeOther
      rwa [same] at above
    · rintro equal
      rw [equal] at less
      exact Int32.lt_irrefl less

/-- The request that is sent is the selected one, and due in at most 50 milliseconds. -/
theorem selected_of_chosen {client : Client} {idx : Nat} {rq : Rq}
    (found : chosen client = some (idx, rq)) : Selected client.rq idx rq ∧ rq.delay ≤ 50 := by
  rcases findEarliest_cases client.rq with ⟨none_, -⟩ | ⟨first, least, selects, selected, -⟩
  · rw [chosen, none_] at found
    dsimp only at found
    rw [if_pos (by decide)] at found
    cases found
  · rw [chosen, selects] at found
    dsimp only at found
    split at found
    · cases found
    · next due =>
        rw [Option.bind_some, selected.active.1] at found
        cases found
        exact ⟨selected, Int32.not_lt.mp due⟩

/-- The least delay is one that a timer can be started with exactly when no active request is
overdue and one of them is due at all. -/
theorem nextRqDelay_startable_iff (rqs : List Rq) :
    ((∃ idx rq, ActiveAt rqs idx rq) →
        nextRqDelay rqs Int32.maxValue ≠ Int32.maxValue ∧
          0 ≤ (nextRqDelay rqs Int32.maxValue).toInt) ↔
      (∀ idx rq, ActiveAt rqs idx rq → 0 ≤ rq.delay.toInt) ∧
        ((∃ idx rq, ActiveAt rqs idx rq) →
          ∃ idx rq, ActiveAt rqs idx rq ∧ rq.delay ≠ Int32.maxValue) := by
  rw [nextRqDelay_eq rqs 0 Int32.maxValue none]
  rcases findEarliest_cases rqs with ⟨same, never⟩ | ⟨idx, rq, same, selected, due⟩
  · rw [same]
    constructor
    · intro startable
      have inactive : ¬∃ idx rq, ActiveAt rqs idx rq := fun some_ => (startable some_).1 rfl
      exact ⟨fun idx rq active => absurd ⟨idx, rq, active⟩ inactive, fun some_ => absurd some_ inactive⟩
    · rintro ⟨_, someDue⟩ some_
      obtain ⟨idx, rq, active, due⟩ := someDue some_
      exact absurd (never idx rq active) due
  · rw [same]
    constructor
    · intro startable
      have nonneg := (startable ⟨idx, rq, selected.active⟩).2
      refine ⟨fun other otherRq active => ?_, fun _ => ⟨idx, rq, selected.active, due⟩⟩
      exact Int.le_trans nonneg (Int32.le_iff_toInt_le.mp (selected.least other otherRq active))
    · rintro ⟨nonneg, _⟩ _
      exact ⟨due, nonneg idx rq selected.active⟩

/-! ### The request that is sent -/

/-- A periodic request that is to be sent again at once if no answer comes. -/
def Rq.Resends (rq : Rq) : Prop := rq.periodic = true ∧ rq.retries + 1 ≤ 2

/-- A one-shot request that has been sent often enough. -/
def Rq.Drops (rq : Rq) : Prop := rq.periodic = false ∧ rq.maxRetries < rq.retries + 1

theorem Rq.sent_of_drops {rq : Rq} (drops : rq.Drops) : rq.sent.active = false := by
  obtain ⟨oneShot, often⟩ := drops
  simp [Rq.sent, oneShot, often, Rq.deactivated]

theorem Rq.sent_active {rq : Rq} (keeps : ¬rq.Drops) : rq.sent.active = rq.active := by
  rw [Rq.sent]
  cases kind : rq.periodic with
  | true =>
      simp only [Bool.not_true, Bool.false_eq_true, if_false]
      split
      · rfl
      · rfl
  | false =>
      have seldom : ¬rq.retries + 1 > rq.maxRetries := fun often => keeps ⟨kind, often⟩
      simp [seldom]

/-- Behind the send, a request that stays is due in at most its timeout or 150 milliseconds. -/
theorem Rq.sent_delay {rq : Rq} (keeps : ¬rq.Drops) (due : rq.delay ≤ 50) :
    (0 ≤ rq.sent.delay.toInt ↔ (rq.Resends → -100 ≤ rq.delay.toInt)) ∧
      rq.sent.delay ≠ Int32.maxValue := by
  have fifty : (50 : Int32).toInt = 50 := rfl
  have high := Int32.le_iff_toInt_le.mp due
  have top := Int32.toInt_maxValue
  have reset {next : Rq} (zero : next.sinceLastSent = 0) :
      0 ≤ next.delay.toInt ∧ next.delay ≠ Int32.maxValue := by
    have small := next.timeout.toNat_lt
    have value := Rq.delay_of_zero zero
    refine ⟨by omega, fun equal => ?_⟩
    rw [equal] at value
    omega
  have retried {next : Rq} (timeout : next.timeout = rq.timeout)
      (later : next.sinceLastSent = (rq.sinceLastSent.toUInt32 - responseDelayMs).toInt32) :
      (0 ≤ next.delay.toInt ↔ -100 ≤ rq.delay.toInt) ∧ next.delay ≠ Int32.maxValue := by
    have value := Rq.delay_of_retried timeout later due
    refine ⟨by omega, fun equal => ?_⟩
    rw [equal] at value
    omega
  rw [Rq.sent]
  cases kind : rq.periodic with
  | false =>
      have seldom : ¬rq.retries + 1 > rq.maxRetries := fun often => keeps ⟨kind, often⟩
      simp only [Bool.not_false, if_true, seldom, if_false]
      refine ⟨⟨fun _ resends => ?_, fun _ => (reset rfl).1⟩, (reset rfl).2⟩
      rw [Rq.Resends, kind] at resends
      exact absurd resends.1 (by decide)
  | true =>
      simp only [Bool.not_true, Bool.false_eq_true, if_false]
      split
      · next often =>
          refine ⟨⟨fun _ resends => ?_, fun _ => (reset rfl).1⟩, (reset rfl).2⟩
          exact absurd often (UInt8.not_lt.mpr resends.2)
      · next seldom =>
          have resends : rq.Resends := ⟨kind, UInt8.not_lt.mp seldom⟩
          refine ⟨(retried ?_ ?_).1.trans ⟨fun early _ => early, fun early => early resends⟩,
            (retried ?_ ?_).2⟩ <;> rfl

theorem activeAt_modify_iff {rqs : List Rq} {idx : Nat} {rq : Rq} (at_ : rqs[idx]? = some rq)
    (change : Rq → Rq) (other : Nat) (otherRq : Rq) :
    ActiveAt (rqs.modify idx change) other otherRq ↔
      other ≠ idx ∧ ActiveAt rqs other otherRq ∨
        other = idx ∧ otherRq = change rq ∧ (change rq).active = true := by
  rw [ActiveAt, ActiveAt, List.getElem?_modify, Option.map_eq_map]
  by_cases same : idx = other
  · subst same
    rw [at_, Option.map_some, if_pos rfl, Option.some.injEq]
    constructor
    · rintro ⟨rfl, active⟩
      exact .inr ⟨rfl, rfl, active⟩
    · rintro (⟨apart, _⟩ | ⟨_, rfl, active⟩)
      · exact absurd rfl apart
      · exact ⟨rfl, active⟩
  · have apart : other ≠ idx := fun equal => same equal.symm
    simp [same, apart]

/-! ### What is asked of `send_rq` -/

/-- The timer was armed with a delay that is positive and at most 500 milliseconds or the longest
of the delays before it is added to them; `before` is the table at that moment. -/
def Armed (earlier before after : Client) : Prop :=
  ∃ delayMs : UInt32, after.started = earlier.started ++ [delayMs] ∧ 0 < delayMs ∧
    (delayMs.toNat ≤ 500 ∨
      ∃ idx rq, ActiveAt before.rq idx rq ∧ (delayMs.toNat : Int) ≤ rq.delay.toInt)

/-- When `send_rq` returns with a request still active, it has armed the timer. -/
def ArmsTimer (sent : Bool) (client : Client) : Prop :=
  ∀ before delayMs, nextDelay sent client = .ok (before, delayMs) →
    (∃ idx rq, ActiveAt (scheduleNextTimerEvt delayMs before).rq idx rq) →
      Armed client before (scheduleNextTimerEvt delayMs before)

/-- When the request that is due first is sent, no other request is overdue, nor is that request
itself by more than the hundred milliseconds of its retry; and some request is due at all. -/
structure Timely (sent : Bool) (client : Client) : Prop where
  due : (∃ idx rq, ActiveAt client.rq idx rq) →
    ∃ idx rq, ActiveAt client.rq idx rq ∧ rq.delay ≠ Int32.maxValue
  others : sent = true → ∀ idx rq, Selected client.rq idx rq → rq.delay ≤ 50 →
    ∀ other otherRq, other ≠ idx → ActiveAt client.rq other otherRq → 0 ≤ otherRq.delay.toInt
  resent : sent = true → ∀ idx rq, Selected client.rq idx rq → rq.delay ≤ 50 →
    rq.Resends → -100 ≤ rq.delay.toInt
  dropped : sent = true → ∀ idx rq, Selected client.rq idx rq → rq.delay ≤ 50 → rq.Drops →
    (∃ other otherRq, other ≠ idx ∧ ActiveAt client.rq other otherRq) →
      ∃ other otherRq, other ≠ idx ∧ ActiveAt client.rq other otherRq ∧
        otherRq.delay ≠ Int32.maxValue

theorem activeAt_schedule_iff (delayMs : Int32) (before : Client) :
    (∃ idx rq, ActiveAt (scheduleNextTimerEvt delayMs before).rq idx rq) ↔
      ∃ idx rq, ActiveAt before.rq idx rq := by
  have kept (rq : Rq) : (rq.waited delayMs).active = rq.active := by
    rw [Rq.waited]
    split
    · rfl
    · rfl
  rw [scheduleNextTimerEvt]
  split
  · simp only [ActiveAt, List.getElem?_map, Option.map_eq_some_iff, Client.startTimer]
    constructor
    · rintro ⟨idx, _, ⟨rq, at_, rfl⟩, active⟩
      exact ⟨idx, rq, at_, (kept rq).symm.trans active⟩
    · rintro ⟨idx, rq, at_, active⟩
      exact ⟨idx, rq.waited delayMs, ⟨rq, at_, rfl⟩, (kept rq).trans active⟩
  · rfl

/-- A delay that some request needs arms the timer properly when it can start one and is
positive. -/
theorem armed_schedule_iff {earlier before : Client} {delayMs : Int32}
    (unstarted : before.started = earlier.started)
    (needed : delayMs.toInt ≤ 500 ∨
      ∃ idx rq, ActiveAt before.rq idx rq ∧ delayMs.toInt ≤ rq.delay.toInt) :
    Armed earlier before (scheduleNextTimerEvt delayMs before) ↔
      delayMs ≠ Int32.maxValue ∧ 0 < delayMs.toInt := by
  have read := toNat_toUInt32 delayMs
  have low := delayMs.le_toInt
  rw [scheduleNextTimerEvt]
  constructor
  · rintro ⟨armed, started, positive, bounded⟩
    split at started
    · next startable =>
        have same : armed = delayMs.toUInt32 := by
          rw [Client.startTimer, unstarted] at started
          simpa using started.symm
        subst same
        refine ⟨startable, ?_⟩
        have nonzero : 0 < delayMs.toUInt32.toNat := UInt32.lt_iff_toNat_lt.mp positive
        split at read
        · omega
        · next negative =>
            rcases bounded with short | ⟨idx, rq, _, short⟩
            · omega
            · have high := rq.delay.toInt_lt
              omega
    · rw [unstarted] at started
      simp at started
  · rintro ⟨startable, positive⟩
    rw [if_pos startable]
    rw [if_pos (by omega)] at read
    refine ⟨delayMs.toUInt32, ?_, ?_, ?_⟩
    · rw [Client.startTimer, unstarted]
    · rw [UInt32.lt_iff_toNat_lt]
      have zero : (0 : UInt32).toNat = 0 := rfl
      omega
    · rcases needed with short | ⟨idx, rq, active, short⟩
      · left
        omega
      · exact .inr ⟨idx, rq, active, by omega⟩

theorem Selected.unique {rqs : List Rq} {idx other : Nat} {rq otherRq : Rq}
    (selected : Selected rqs idx rq) (again : Selected rqs other otherRq) :
    idx = other ∧ rq = otherRq := by
  have same : idx = other := by
    rcases Nat.lt_trichotomy idx other with below | equal | above
    · have less := again.first idx rq below selected.active
      exact absurd less (Int32.not_lt.mpr (selected.least other otherRq again.active))
    · exact equal
    · have less := selected.first other otherRq above again.active
      exact absurd less (Int32.not_lt.mpr (again.least idx rq selected.active))
  subst same
  exact ⟨rfl, Option.some.inj (selected.active.1.symm.trans again.active.1)⟩

/-! ### `send_rq`, by what it finds -/

theorem nextDelay_of_none {sent : Bool} {client : Client}
    (none_ : findEarliest client.rq 0 Int32.maxValue none = (Int32.maxValue, none)) :
    nextDelay sent client = .ok (client, Int32.maxValue) := by
  rw [nextDelay, none_]
  rfl

theorem nextDelay_of_later {sent : Bool} {client : Client} {idx : Nat} {rq : Rq}
    (found : findEarliest client.rq 0 Int32.maxValue none = (rq.delay, some idx))
    (later : rq.delay > 50) : nextDelay sent client = .ok (client, rq.delay) := by
  rw [nextDelay, found]
  exact if_pos later

theorem nextDelay_of_failed {client : Client} {idx : Nat} {rq : Rq}
    (found : findEarliest client.rq 0 Int32.maxValue none = (rq.delay, some idx))
    (active : ActiveAt client.rq idx rq) (due : rq.delay ≤ 50) (filled : rq.payloadLen ≠ 0) :
    nextDelay false client = .ok ({ client with lastRqId := rq.rqId }, 500) := by
  have soon : ¬rq.delay > 50 := Int32.not_lt.mpr due
  rw [nextDelay, found]
  simp [soon, active.1, filled]

theorem nextDelay_of_sent {client : Client} {idx : Nat} {rq : Rq}
    (found : findEarliest client.rq 0 Int32.maxValue none = (rq.delay, some idx))
    (active : ActiveAt client.rq idx rq) (due : rq.delay ≤ 50) (filled : rq.payloadLen ≠ 0) :
    nextDelay true client = .ok (client.sent idx rq,
      if (nextRqDelay (client.rq.modify idx Rq.sent) Int32.maxValue).toUInt32 < responseDelayMs
      then responseDelayMs.toInt32
      else nextRqDelay (client.rq.modify idx Rq.sent) Int32.maxValue) := by
  have soon : ¬rq.delay > 50 := Int32.not_lt.mpr due
  rw [nextDelay, found]
  simp only [soon, active.1, filled, if_false, Option.bind_some, Option.map_some, Client.sent,
    Bool.not_true, Bool.false_eq_true]
  split <;> rfl

/-- The timer is armed behind a send exactly when the next delay can start it and is not
negative. -/
theorem armsTimer_of_sent {client : Client} {idx : Nat} {rq : Rq}
    (found : findEarliest client.rq 0 Int32.maxValue none = (rq.delay, some idx))
    (active : ActiveAt client.rq idx rq) (due : rq.delay ≤ 50) (filled : rq.payloadLen ≠ 0) :
    ArmsTimer true client ↔
      ((∃ other otherRq, ActiveAt (client.rq.modify idx Rq.sent) other otherRq) →
        nextRqDelay (client.rq.modify idx Rq.sent) Int32.maxValue ≠ Int32.maxValue ∧
          0 ≤ (nextRqDelay (client.rq.modify idx Rq.sent) Int32.maxValue).toInt) := by
  have result := nextDelay_of_sent found active due filled
  have responded := lt_responseDelay_iff (nextRqDelay (client.rq.modify idx Rq.sent) Int32.maxValue)
  have top := Int32.toInt_maxValue
  have unstarted : (client.sent idx rq).started = client.started := rfl
  have unfold_ : ArmsTimer true client ↔ ∀ delayMs, delayMs = (if (nextRqDelay
        (client.rq.modify idx Rq.sent) Int32.maxValue).toUInt32 < responseDelayMs
        then responseDelayMs.toInt32
        else nextRqDelay (client.rq.modify idx Rq.sent) Int32.maxValue) →
      (∃ other otherRq, ActiveAt (client.rq.modify idx Rq.sent) other otherRq) →
        Armed client (client.sent idx rq) (scheduleNextTimerEvt delayMs (client.sent idx rq)) := by
    constructor
    · rintro arms _ rfl some_
      exact arms _ _ result ((activeAt_schedule_iff _ _).mpr some_)
    · intro arms before delayMs same some_
      rw [result] at same
      cases same
      exact arms _ rfl ((activeAt_schedule_iff _ _).mp some_)
  rw [unfold_, forall_eq]
  refine imp_congr_right fun some_ => ?_
  split
  · next short =>
      obtain ⟨nonneg, below⟩ := responded.mp short
      have hundred : responseDelayMs.toInt32.toInt = 100 := rfl
      rw [armed_schedule_iff unstarted (.inl (by omega))]
      refine ⟨fun _ => ⟨fun equal => ?_, nonneg⟩, fun _ => ⟨by decide, by omega⟩⟩
      rw [equal] at below
      omega
  · next long =>
      have needed : ∃ other otherRq, ActiveAt (client.rq.modify idx Rq.sent) other otherRq ∧
          (nextRqDelay (client.rq.modify idx Rq.sent) Int32.maxValue).toInt ≤
            otherRq.delay.toInt := by
        rw [nextRqDelay_eq _ 0 Int32.maxValue none]
        rcases findEarliest_cases (client.rq.modify idx Rq.sent) with
          ⟨same, never⟩ | ⟨other, otherRq, same, selected, _⟩
        · obtain ⟨other, otherRq, activeOther⟩ := some_
          rw [same]
          exact ⟨other, otherRq, activeOther, by rw [never other otherRq activeOther]⟩
        · rw [same]
          exact ⟨other, otherRq, selected.active, Int.le_refl _⟩
      rw [armed_schedule_iff unstarted (.inr needed)]
      rw [responded] at long
      refine and_congr_right fun _ => ?_
      omega

/-- The table behind the send lets the timer be started exactly when the send is timely. -/
theorem startable_modify_iff {client : Client} {idx : Nat} {rq : Rq}
    (selected : Selected client.rq idx rq) (soon : rq.delay ≤ 50)
    (due : (∃ idx rq, ActiveAt client.rq idx rq) →
      ∃ idx rq, ActiveAt client.rq idx rq ∧ rq.delay ≠ Int32.maxValue) :
    ((∀ other otherRq, ActiveAt (client.rq.modify idx Rq.sent) other otherRq →
        0 ≤ otherRq.delay.toInt) ∧
      ((∃ other otherRq, ActiveAt (client.rq.modify idx Rq.sent) other otherRq) →
        ∃ other otherRq, ActiveAt (client.rq.modify idx Rq.sent) other otherRq ∧
          otherRq.delay ≠ Int32.maxValue)) ↔ Timely true client := by
  have modified := activeAt_modify_iff selected.active.1 Rq.sent
  constructor
  · rintro ⟨nonneg, startable⟩
    have resent (resends : rq.Resends) : -100 ≤ rq.delay.toInt := by
      have keeps : ¬rq.Drops := fun drops => by
        have oneShot := drops.1
        rw [resends.1] at oneShot
        cases oneShot
      have active : rq.sent.active = true := (Rq.sent_active keeps).trans selected.active.2
      have sentNonneg := nonneg idx rq.sent ((modified idx rq.sent).mpr (.inr ⟨rfl, rfl, active⟩))
      exact (Rq.sent_delay keeps soon).1.mp sentNonneg resends
    refine ⟨due, ?_, ?_, ?_⟩
    · intro _ other otherRq again _ third thirdRq apart active
      obtain ⟨rfl, rfl⟩ := selected.unique again
      exact nonneg third thirdRq ((modified third thirdRq).mpr (.inl ⟨apart, active⟩))
    · intro _ other otherRq again _
      obtain ⟨rfl, rfl⟩ := selected.unique again
      exact resent
    · rintro _ other otherRq again _ drops ⟨third, thirdRq, apart, active⟩
      obtain ⟨rfl, rfl⟩ := selected.unique again
      obtain ⟨fourth, fourthRq, activeFourth, notMax⟩ :=
        startable ⟨third, thirdRq, (modified third thirdRq).mpr (.inl ⟨apart, active⟩)⟩
      rcases (modified fourth fourthRq).mp activeFourth with ⟨apart, active⟩ | ⟨_, _, active⟩
      · exact ⟨fourth, fourthRq, apart, active, notMax⟩
      · rw [Rq.sent_of_drops drops] at active
        cases active
  · intro timely
    have others := timely.others rfl idx rq selected soon
    have resent := timely.resent rfl idx rq selected soon
    have dropped := timely.dropped rfl idx rq selected soon
    constructor
    · intro other otherRq active
      rcases (modified other otherRq).mp active with ⟨apart, active⟩ | ⟨_, rfl, stays⟩
      · exact others other otherRq apart active
      · have keeps : ¬rq.Drops := fun drops => by
          rw [Rq.sent_of_drops drops] at stays
          cases stays
        exact (Rq.sent_delay keeps soon).1.mpr resent
    · rintro ⟨other, otherRq, active⟩
      by_cases drops : rq.Drops
      · have apart : other ≠ idx ∧ ActiveAt client.rq other otherRq := by
          rcases (modified other otherRq).mp active with apart | ⟨_, _, active⟩
          · exact apart
          · rw [Rq.sent_of_drops drops] at active
            cases active
        obtain ⟨third, thirdRq, apartThird, activeThird, notMax⟩ :=
          dropped drops ⟨other, otherRq, apart⟩
        exact ⟨third, thirdRq, (modified third thirdRq).mpr (.inl ⟨apartThird, activeThird⟩), notMax⟩
      · have activeSent : rq.sent.active = true :=
          (Rq.sent_active drops).trans selected.active.2
        exact ⟨idx, rq.sent, (modified idx rq.sent).mpr (.inr ⟨rfl, rfl, activeSent⟩),
          (Rq.sent_delay drops soon).2⟩

/-- Step lemma: for every table of requests with payloads, the timer is armed properly exactly
when the send is timely. -/
theorem armsTimer_iff_timely {client : Client} {sent : Bool}
    (filled : ∀ idx rq, ActiveAt client.rq idx rq → rq.payloadLen ≠ 0) :
    ArmsTimer sent client ↔ Timely sent client := by
  rcases findEarliest_cases client.rq with ⟨found, never⟩ | ⟨idx, rq, found, selected, startable⟩
  · have result : nextDelay sent client = .ok (client, Int32.maxValue) := nextDelay_of_none found
    constructor
    · intro arms
      have inactive : ¬∃ idx rq, ActiveAt client.rq idx rq := by
        intro some_
        have armed := arms client Int32.maxValue result ((activeAt_schedule_iff _ _).mpr some_)
        obtain ⟨idx, rq, active⟩ := some_
        have needed : Int32.maxValue.toInt ≤ rq.delay.toInt := by
          rw [never idx rq active]
        have startable := (armed_schedule_iff rfl (.inr ⟨idx, rq, active, needed⟩)).mp armed
        exact startable.1 rfl
      exact ⟨fun some_ => absurd some_ inactive,
        fun _ idx rq selected => absurd ⟨idx, rq, selected.active⟩ inactive,
        fun _ idx rq selected => absurd ⟨idx, rq, selected.active⟩ inactive,
        fun _ idx rq selected => absurd ⟨idx, rq, selected.active⟩ inactive⟩
    · intro timely before delayMs same some_
      rw [result] at same
      cases same
      rw [activeAt_schedule_iff] at some_
      obtain ⟨idx, rq, active, due⟩ := timely.due some_
      exact absurd (never idx rq active) due
  · have due : (∃ idx rq, ActiveAt client.rq idx rq) →
        ∃ idx rq, ActiveAt client.rq idx rq ∧ rq.delay ≠ Int32.maxValue :=
      fun _ => ⟨idx, rq, selected.active, startable⟩
    rcases Int32.le_or_lt rq.delay 50 with soon | later
    · cases sent with
      | false =>
          have result := nextDelay_of_failed found selected.active soon (filled idx rq selected.active)
          refine ⟨fun _ => ⟨due, nofun, nofun, nofun⟩, fun _ before delayMs same _ => ?_⟩
          rw [result] at same
          cases same
          have half : (500 : Int32).toInt = 500 := rfl
          exact (armed_schedule_iff rfl (.inl (by omega))).mpr ⟨by decide, by omega⟩
      | true =>
          rw [armsTimer_of_sent found selected.active soon (filled idx rq selected.active),
            nextRqDelay_startable_iff]
          exact startable_modify_iff selected soon due
    · have result : nextDelay sent client = .ok (client, rq.delay) := nextDelay_of_later found later
      have fifty : (50 : Int32).toInt = 50 := rfl
      have long := Int32.lt_iff_toInt_lt.mp later
      have never : ∀ other otherRq, Selected client.rq other otherRq → ¬otherRq.delay ≤ 50 := by
        intro other otherRq again soon
        obtain ⟨_, rfl⟩ := selected.unique again
        exact Int32.not_lt.mpr soon later
      constructor
      · intro _
        exact ⟨due, fun _ other otherRq again soon => absurd soon (never other otherRq again),
          fun _ other otherRq again soon => absurd soon (never other otherRq again),
          fun _ other otherRq again soon => absurd soon (never other otherRq again)⟩
      · intro _ before delayMs same _
        rw [result] at same
        cases same
        have needed : rq.delay.toInt ≤ rq.delay.toInt := Int.le_refl _
        refine (armed_schedule_iff rfl (.inr ⟨idx, rq, selected.active, needed⟩)).mpr ?_
        exact ⟨startable, by omega⟩

/-- A slot in use has a payload to send, an unused one has none. -/
def Rq.Kept (rq : Rq) : Prop :=
  (rq.active = true → rq.payloadLen ≠ 0) ∧ (rq.active = false → rq.payload = none)

def Client.Kept (client : Client) : Prop := ∀ rq ∈ client.rq, rq.Kept

theorem Rq.kept_deactivated (rq : Rq) : rq.deactivated.Kept := ⟨nofun, fun _ => rfl⟩

theorem Rq.Kept.of_same {rq next : Rq} (kept : rq.Kept) (active : next.active = rq.active)
    (length : next.payloadLen = rq.payloadLen) (payload : next.payload = rq.payload) :
    next.Kept := by
  obtain ⟨filled, empty⟩ := kept
  exact ⟨fun used => by rw [length]; exact filled (active.symm.trans used),
    fun unused => by rw [payload]; exact empty (active.symm.trans unused)⟩

theorem Rq.Kept.sent {rq : Rq} (kept : rq.Kept) : rq.sent.Kept := by
  rw [Rq.sent]
  dsimp only
  split
  · split
    · exact Rq.kept_deactivated _
    · exact kept.of_same rfl rfl rfl
  · split
    · exact kept.of_same rfl rfl rfl
    · exact kept.of_same rfl rfl rfl

theorem Rq.Kept.acked {rq : Rq} (kept : rq.Kept) : rq.acked.Kept := by
  rw [Rq.acked]
  dsimp only
  split
  · exact Rq.kept_deactivated _
  · exact kept.of_same rfl rfl rfl

theorem Rq.Kept.waited {rq : Rq} (kept : rq.Kept) (delayMs : Int32) : (rq.waited delayMs).Kept := by
  rw [Rq.waited]
  split
  · exact kept.of_same rfl rfl rfl
  · exact kept

theorem forall_mem_modify {rqs : List Rq} (kept : ∀ rq ∈ rqs, rq.Kept) (idx : Nat)
    {change : Rq → Rq} (keeps : ∀ rq : Rq, rq.Kept → (change rq).Kept) :
    ∀ rq ∈ rqs.modify idx change, rq.Kept := by
  intro rq inside
  obtain ⟨other, at_⟩ := List.mem_iff_getElem?.mp inside
  rw [List.getElem?_modify, Option.map_eq_map, Option.map_eq_some_iff] at at_
  obtain ⟨before, before_at, rfl⟩ := at_
  have keptBefore := kept before (List.mem_of_getElem? before_at)
  split
  · exact keeps before keptBefore
  · exact keptBefore

theorem Client.Kept.addRequest {client next : Client} {offset : Nat → UInt32}
    {periodic allocated : Bool} {rqId : UInt16} {payload : List UInt8} {timeout : UInt32}
    {maxRetries : UInt8} {result : Int} (kept : client.Kept)
    (fits : payload.length ≤ maxPacketLen)
    (added : addRequest offset periodic allocated rqId payload timeout maxRetries client =
      .ok (next, result)) : next.Kept := by
  rcases addRequest_cases added with ⟨_, rfl, _⟩ | ⟨free, serialized, _, _, done, rfl⟩
  · exact kept
  · intro rq inside
    rcases List.mem_or_eq_of_mem_set inside with before | rfl
    · exact kept rq before
    · refine ⟨fun _ => ?_, nofun⟩
      have length := Rs232.length_rs232Serialize done
      have zero : (0 : UInt8).toNat = 0 := rfl
      rw [maxPacketLen] at fits
      rw [ne_eq, ← UInt8.toNat_inj, UInt8.toNat_ofNat']
      omega

theorem Client.Kept.removePeriodicRq {client : Client} (kept : client.Kept) (rqId : UInt16) :
    (removePeriodicRq rqId client).1.Kept := by
  rcases removePeriodicRq_cases rqId client with ⟨_, same⟩ | ⟨idx, _, removed⟩
  · rw [same]
    exact kept
  · rw [removed]
    exact forall_mem_modify kept idx fun rq _ => rq.kept_deactivated

theorem Client.Kept.ackRsp {client : Client} (kept : client.Kept) (correspondingRq : UInt16) :
    (ackRsp correspondingRq client).Kept := by
  obtain ⟨_, _, ⟨_, same⟩ | ⟨idx, _, changed⟩⟩ := ackRsp_cases correspondingRq client
  · rw [same]
    exact kept
  · rw [changed]
    exact forall_mem_modify kept idx fun rq keptRq => keptRq.acked

theorem Client.Kept.nextDelay {client before : Client} {sent : Bool} {delayMs : Int32}
    (kept : client.Kept) (result : nextDelay sent client = .ok (before, delayMs)) :
    before.Kept := by
  rcases nextDelay_cases result with ⟨_, rfl⟩ | ⟨idx, rq, _, _, _, ⟨_, rfl⟩ | ⟨_, rfl⟩⟩
  · exact kept
  · exact kept
  · exact forall_mem_modify kept idx fun rq keptRq => keptRq.sent

theorem Client.Kept.sendRq {client next : Client} {sent : Bool} (kept : client.Kept)
    (result : sendRq sent client = .ok next) : next.Kept := by
  obtain ⟨before, delayMs, delayed, rfl⟩ := sendRq_cases result
  have keptBefore := kept.nextDelay delayed
  rw [scheduleNextTimerEvt]
  split
  · intro rq inside
    obtain ⟨earlier, earlierInside, rfl⟩ := List.mem_map.mp inside
    exact (keptBefore earlier earlierInside).waited delayMs
  · exact keptBefore

theorem kept_initial : Client.initial.Kept := by
  intro rq inside
  rw [List.eq_of_mem_replicate inside]
  exact ⟨nofun, fun _ => rfl⟩

theorem kept_step {client next : Client} {event : Event} (kept : client.Kept)
    (stepped : requests.step client event = some next) : next.Kept := by
  cases taken_of_step stepped with
  | addRq fits added => exact kept.addRequest fits added
  | addPeriodicRq fits added => exact kept.addRequest fits added
  | removePeriodicRq rqId => exact kept.removePeriodicRq rqId
  | ackRsp correspondingRq => exact kept.ackRsp correspondingRq
  | timer result => exact kept.sendRq result

/-- A property of the calls of `send_rq`, asked of every step. -/
def AtTimer (holds : Bool → Client → Prop) (client : Client) : Event → Prop
  | .timer sent => holds sent client
  | _ => True

/-- In a run every return of `send_rq` arms the timer as it should exactly when every send was
timely. -/
theorem armsTimer_iff_timely_run {trace : List (Client × Event)} {client : Client}
    (run : requests.Run .initial trace client) :
    (∀ taken ∈ trace, AtTimer ArmsTimer taken.1 taken.2) ↔
      ∀ taken ∈ trace, AtTimer Timely taken.1 taken.2 := by
  have visited := run.always_visited kept_initial kept_step
  refine forall₂_congr fun taken inside => ?_
  obtain ⟨state, event⟩ := taken
  cases event with
  | timer sent =>
      have kept := visited (state, .timer sent) inside
      exact armsTimer_iff_timely fun idx rq active => (kept rq active.mem).1 active.2
  | addRq | addPeriodicRq | removePeriodicRq | ackRsp => exact Iff.rfl

/-- A slot that `add_periodic_rq` has filled. -/
def added (rqId : UInt16) (payload : List UInt8) (timeout : UInt16) (sinceLastSent : Int32) : Rq :=
  { Rq.zero with
    payload := some payload, rqId, timeout, sinceLastSent, active := true, periodic := true,
    payloadLen := UInt8.ofNat payload.length }

/-- The request for the firmware version, and an expiry of the timer before it is due. -/
def firmwareRequest : List Event := [.addPeriodicRq true 3 [81, 86, 70, 87] 10000, .timer true]

def afterFirmwareRequest : Client :=
  { lastRqId := expRspInvalid, timer := some 500, started := [2000, 500], written := [],
    rq := [added 3 [81, 86, 70, 87, 0x62, 0x99, 13] 10000 10000, .zero, .zero, .zero, .zero] }

theorem armsTimer_iff_timely_run_firmwareRequest :
    (∀ taken ∈ requests.tracing .initial firmwareRequest, AtTimer ArmsTimer taken.1 taken.2) ↔
      ∀ taken ∈ requests.tracing .initial firmwareRequest, AtTimer Timely taken.1 taken.2 := by
  have executed : requests.exec .initial firmwareRequest = some afterFirmwareRequest := by
    decide +kernel
  exact armsTimer_iff_timely_run (Machine.run_of_exec executed)

/-- The requests that `inv_init` registers. -/
def invInit : List Event :=
  [.addPeriodicRq true 3 [81, 86, 70, 87] 10000,
    .addPeriodicRq true 9 [81, 80, 73, 71, 83] 15000,
    .addPeriodicRq true 41 [81, 80, 73, 87, 83] 600000,
    .addPeriodicRq true 10 [81, 77, 79, 68] 600000]

/-- The period of 600 000 ms is stored in 16 bits, so that two requests are long overdue. -/
def afterInvInit : Client :=
  { lastRqId := expRspInvalid, timer := some 2000, started := [2000, 2000, 2000, 2000], written := [],
    rq := [added 3 [81, 86, 70, 87, 0x62, 0x99, 13] 10000 9500,
      added 9 [81, 80, 73, 71, 83, 0xb7, 0xa9, 13] 15000 14000,
      added 41 [81, 80, 73, 87, 83, 0xb4, 0xda, 13] 10176 598500,
      added 10 [81, 77, 79, 68, 0x49, 0xc1, 13] 10176 598000, .zero] }

theorem invInit_stalls :
    ¬∀ trace client, requests.Run .initial trace client →
      ∀ taken ∈ trace, AtTimer ArmsTimer taken.1 taken.2 := by
  intro always
  have executed : requests.exec .initial invInit = some afterInvInit := by decide +kernel
  have stepped : requests.step afterInvInit (.timer true) = some _ := rfl
  have arms : ArmsTimer true afterInvInit :=
    always _ _ ((Machine.run_of_exec executed).snoc stepped) (afterInvInit, .timer true) (by simp)
  have result : nextDelay true afterInvInit = .ok (afterInvInit.sent 2
      (added 41 [81, 80, 73, 87, 83, 0xb4, 0xda, 13] 10176 598500), -588224) := by rfl
  have armed := arms _ _ result ((activeAt_schedule_iff _ _).mpr ⟨0, _, rfl, rfl⟩)
  have positive := ((armed_schedule_iff rfl (.inl (by decide))).mp armed).2
  revert positive
  decide

end EsInverter.SerialClient
