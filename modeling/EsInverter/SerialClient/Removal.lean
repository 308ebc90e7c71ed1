import EsInverter.SerialClient.Timing

/-!
# The removal of a periodic request

The scan for the request stops at the first slot that is, or last was, a periodic
request of that kind.  It is the right one only if that request is still active.
-/

set_option autoImplicit false

namespace EsInverter.SerialClient

open Lib

/-- A request that `remove_periodic_rq` should find. -/
def Periodic (rqId : UInt16) (client : Client) (idx : Nat) (rq : Rq) : Prop :=
  ActiveAt client.rq idx rq ∧ rq.periodic = true ∧ rq.rqId = rqId

/-- What a call should do: one active periodic request of the kind is deactivated, or there is
none; and a timer is left exactly if a request is. -/
structure Removes (rqId : UInt16) (client after : Client) (returned : Int) : Prop where
  found : returned = 0 ↔ ∃ idx rq, Periodic rqId client idx rq
  removed : returned = 0 → ∃ idx rq, Periodic rqId client idx rq ∧
    after.rq = client.rq.set idx rq.deactivated
  missing : returned ≠ 0 → returned = -1 ∧ after.rq = client.rq
  timer : after.timer = none ↔ ∀ rq ∈ after.rq, rq.active = false

/-! ### The timer of a table with requests -/

def Client.Timed (client : Client) : Prop :=
  (∃ rq ∈ client.rq, rq.active = true) → client.timer ≠ none

theorem Client.Timed.of_fewer {client next : Client} (timed : client.Timed)
    (fewer : Fewer client.rq next.rq) (timer : client.timer ≠ none → next.timer ≠ none) :
    next.Timed := by
  rintro ⟨rq, inside, active⟩
  obtain ⟨idx, activeAt⟩ := activeAt_of_mem inside active
  obtain ⟨before, activeBefore, -⟩ := fewer idx rq activeAt
  exact timer (timed ⟨before, activeBefore.mem, activeBefore.2⟩)

theorem timed_startTimer (durationMs : UInt32) (client : Client) :
    (client.startTimer durationMs).Timed := by
  intro _ none_
  cases none_

theorem timed_addRequest {offset : Nat → UInt32} {periodic allocated : Bool} {rqId : UInt16}
    {payload : List UInt8} {timeout : UInt32} {maxRetries : UInt8} {client next : Client}
    {result : Int} (timed : client.Timed)
    (added : addRequest offset periodic allocated rqId payload timeout maxRetries client =
      .ok (next, result)) : next.Timed := by
  rcases addRequest_cases added with ⟨_, rfl, _⟩ | ⟨free, serialized, _, _, _, rfl⟩
  · exact timed
  · exact timed_startTimer 2000 _

theorem timed_removePeriodicRq {client : Client} (timed : client.Timed) (rqId : UInt16) :
    (removePeriodicRq rqId client).1.Timed := by
  rcases removePeriodicRq_cases rqId client with ⟨_, same⟩ | ⟨idx, _, removed⟩
  · rw [same]
    exact timed
  · rw [removed]
    by_cases left : (client.rq.modify idx Rq.deactivated).any Rq.active = true
    · rw [if_pos left]
      exact timed.of_fewer (fewer_modify switchesOff_deactivated client.rq idx) id
    · rw [if_neg left]
      rintro ⟨rq, inside, active⟩
      exact absurd (List.any_eq_true.mpr ⟨rq, inside, active⟩) left

theorem timed_ackRsp {client : Client} (timed : client.Timed) (correspondingRq : UInt16) :
    (ackRsp correspondingRq client).Timed := by
  obtain ⟨_, _, ⟨_, same⟩ | ⟨idx, _, changed⟩⟩ := ackRsp_cases correspondingRq client
  · rw [same]
    exact timed
  · rw [changed]
    exact timed.of_fewer (fewer_modify switchesOff_acked client.rq idx) id

theorem timed_sendRq {client next : Client} {sent : Bool} (timed : client.Timed)
    (result : sendRq sent client = .ok next) : next.Timed := by
  obtain ⟨before, delayMs, delayed, rfl⟩ := sendRq_cases result
  have timedBefore : before.Timed := by
    rcases nextDelay_cases delayed with ⟨_, rfl⟩ | ⟨idx, rq, _, _, _, ⟨_, rfl⟩ | ⟨_, rfl⟩⟩
    · exact timed
    · exact timed
    · exact timed.of_fewer (fewer_modify switchesOff_sent client.rq idx) id
  rw [scheduleNextTimerEvt]
  split
  · intro _ none_
    cases none_
  · exact timedBefore

theorem timed_initial : Client.initial.Timed := by
  rintro ⟨rq, inside, active⟩
  rw [List.eq_of_mem_replicate inside] at active
  cases active

theorem timed_step {client next : Client} {event : Event} (timed : client.Timed)
    (stepped : requests.step client event = some next) : next.Timed := by
  cases taken_of_step stepped with
  | addRq _ added => exact timed_addRequest timed added
  | addPeriodicRq _ added => exact timed_addRequest timed added
  | removePeriodicRq rqId => exact timed_removePeriodicRq timed rqId
  | ackRsp correspondingRq => exact timed_ackRsp timed correspondingRq
  | timer result => exact timed_sendRq timed result

/-! ### The scan -/

/-- The slot that the scan stops at. -/
def firstPeriodic (rqId : UInt16) (client : Client) : Option Nat :=
  client.rq.findIdx? fun rq => rq.periodic && rq.rqId == rqId

/-- The first slot that is, or last was, a periodic request of the kind is active; or there is no
such slot, and a request is active or no timer is left. -/
def Current (rqId : UInt16) (client : Client) : Prop :=
  match firstPeriodic rqId client with
  | some idx => ∃ rq, ActiveAt client.rq idx rq
  | none => (∃ rq ∈ client.rq, rq.active = true) ∨ client.timer = none

theorem firstPeriodic_some {rqId : UInt16} {client : Client} {idx : Nat}
    (found : firstPeriodic rqId client = some idx) :
    ∃ rq, client.rq[idx]? = some rq ∧ rq.periodic = true ∧ rq.rqId = rqId := by
  rw [firstPeriodic, List.findIdx?_eq_some_iff_getElem] at found
  obtain ⟨inside, matched, -⟩ := found
  rw [Bool.and_eq_true, beq_iff_eq] at matched
  exact ⟨client.rq[idx], List.getElem?_eq_getElem inside, matched.1, matched.2⟩

theorem firstPeriodic_none {rqId : UInt16} {client : Client}
    (missing : firstPeriodic rqId client = none) :
    ¬ ∃ idx rq, Periodic rqId client idx rq := by
  rw [firstPeriodic, List.findIdx?_eq_none_iff] at missing
  rintro ⟨idx, rq, active, periodic, same⟩
  have unmatched := missing rq active.mem
  simp [periodic, same] at unmatched

theorem removePeriodicRq_of_none {rqId : UInt16} {client : Client}
    (missing : firstPeriodic rqId client = none) : removePeriodicRq rqId client = (client, -1) := by
  rw [firstPeriodic] at missing
  rcases removePeriodicRq_cases rqId client with ⟨_, same⟩ | ⟨idx, found, _⟩
  · exact same
  · rw [missing] at found
    cases found

theorem removePeriodicRq_of_some {rqId : UInt16} {client : Client} {idx : Nat}
    (found : firstPeriodic rqId client = some idx) :
    (removePeriodicRq rqId client).2 = 0 ∧
      (removePeriodicRq rqId client).1.rq = client.rq.modify idx Rq.deactivated ∧
      (removePeriodicRq rqId client).1.timer =
        if (client.rq.modify idx Rq.deactivated).any Rq.active then client.timer else none := by
  rw [firstPeriodic] at found
  rcases removePeriodicRq_cases rqId client with ⟨missing, _⟩ | ⟨place, stopped, removed⟩
  · rw [missing] at found
    cases found
  · rw [stopped] at found
    cases found
    rw [removed]
    exact ⟨rfl, rfl, rfl⟩

/-- In every reachable table a call does what it should exactly when the scan stops at a request
that is still active, or finds nothing and the timer needs no deletion. -/
theorem removes_iff_current {trace : List (Client × Event)} {client : Client}
    (run : requests.Run .initial trace client) (rqId : UInt16) :
    Removes rqId client (removePeriodicRq rqId client).1 (removePeriodicRq rqId client).2 ↔
      Current rqId client := by
  have timed : client.Timed := run.always timed_initial timed_step
  rw [Current]
  cases scan : firstPeriodic rqId client with
  | none =>
      have absent := firstPeriodic_none scan
      rw [removePeriodicRq_of_none scan]
      dsimp only
      constructor
      · intro removes
        by_cases some_ : ∃ rq ∈ client.rq, rq.active = true
        · exact .inl some_
        · refine .inr (removes.timer.mpr fun rq inside => ?_)
          rw [Bool.eq_false_iff]
          exact fun active => some_ ⟨rq, inside, active⟩
      · intro current
        refine ⟨iff_of_false (by decide) absent, fun zero => absurd zero (by decide),
          fun _ => ⟨rfl, rfl⟩, ?_⟩
        rcases current with ⟨rq, inside, active⟩ | gone
        · refine iff_of_false (timed ⟨rq, inside, active⟩) fun all => ?_
          rw [all rq inside] at active
          cases active
        · refine iff_of_true gone fun rq inside => ?_
          rw [Bool.eq_false_iff]
          exact fun active => timed ⟨rq, inside, active⟩ gone
  | some idx =>
      obtain ⟨rq, at_, periodic, same⟩ := firstPeriodic_some scan
      obtain ⟨zero, table, timer⟩ := removePeriodicRq_of_some scan
      dsimp only
      constructor
      · intro removes
        obtain ⟨place, other, right, changed⟩ := removes.removed zero
        -- The slot that was changed is the one the scan stopped at, if the other was changed at all.
        have slot : (client.rq.set place other.deactivated)[place]? = some other.deactivated :=
          List.getElem?_set_self (List.getElem?_eq_some_iff.mp right.1.1).1
        rw [← changed, table, List.getElem?_modify, right.1.1, Option.map_eq_map,
          Option.map_some] at slot
        by_cases here : idx = place
        · subst here
          exact ⟨other, right.1⟩
        · rw [if_neg here] at slot
          have still := congrArg Rq.active (Option.some.inj slot)
          rw [right.1.2] at still
          cases still
      · rintro ⟨_, active⟩
        have periodicAt : Periodic rqId client idx rq := by
          refine ⟨⟨at_, ?_⟩, periodic, same⟩
          rw [active.1] at at_
          cases at_
          exact active.2
        refine ⟨iff_of_true zero ⟨idx, rq, periodicAt⟩, fun _ => ⟨idx, rq, periodicAt, ?_⟩,
          fun nonzero => absurd zero nonzero, ?_⟩
        · rw [table, List.modify_eq_set_getElem?, at_]
          rfl
        · rw [timer, table]
          split
          case isTrue some_ =>
            obtain ⟨other, inside, on⟩ := List.any_eq_true.mp some_
            refine iff_of_false (timed ⟨rq, periodicAt.1.mem, periodicAt.1.2⟩) fun all => ?_
            rw [all other inside] at on
            cases on
          case isFalse none_ =>
            refine iff_of_true rfl fun other inside => ?_
            rw [Bool.eq_false_iff]
            exact fun on => none_ (List.any_eq_true.mpr ⟨other, inside, on⟩)

/-- A request for the status, and one for the firmware version. -/
def addedTwo : List Event :=
  [.addPeriodicRq true 4 [81, 80, 73, 71, 83] 1000, .addPeriodicRq true 3 [81, 86, 70, 87] 10000]

/-- The second one is removed. -/
theorem removes_iff_current_added :
    ∃ trace client, requests.Run .initial trace client ∧
      client.rq.map Rq.active = [true, true, false, false, false] ∧
      (removePeriodicRq 3 client).1.rq.map Rq.active = [true, false, false, false, false] ∧
      Removes 3 client (removePeriodicRq 3 client).1 (removePeriodicRq 3 client).2 := by
  have executed : (requests.exec .initial addedTwo).isSome = true := by decide +kernel
  obtain ⟨client, reached⟩ := Option.isSome_iff_exists.mp executed
  have facts : (requests.exec .initial addedTwo).map (fun client =>
      (client.rq.map Rq.active, (removePeriodicRq 3 client).1.rq.map Rq.active,
        firstPeriodic 3 client, client.rq[1]?.map Rq.active)) =
      some ([true, true, false, false, false], [true, false, false, false, false], some 1,
        some true) := by
    decide +kernel
  rw [reached] at facts
  simp only [Option.map_some, Option.some.injEq, Prod.mk.injEq] at facts
  obtain ⟨before, after, found, active⟩ := facts
  have run := Machine.run_of_exec reached
  refine ⟨_, client, run, before, after, (removes_iff_current run 3).mpr ?_⟩
  rw [Current, found]
  obtain ⟨rq, at_, on⟩ := Option.map_eq_some_iff.mp active
  exact ⟨rq, at_, on⟩

/-- The request for the firmware version is added and removed. -/
def removedOnce : List Event := [.addPeriodicRq true 3 [81, 86, 70, 87] 10000, .removePeriodicRq 3]

/-- A request that was removed is found again. -/
theorem removedOnce_again : ¬∀ trace client, requests.Run .initial trace client → ∀ rqId,
    Removes rqId client (removePeriodicRq rqId client).1 (removePeriodicRq rqId client).2 := by
  intro always
  have executed : (requests.exec .initial removedOnce).isSome = true := by decide +kernel
  obtain ⟨client, reached⟩ := Option.isSome_iff_exists.mp executed
  have facts : (requests.exec .initial removedOnce).map (fun client =>
      ((removePeriodicRq 3 client).2, client.rq.any Rq.active)) = some (0, false) := by
    decide +kernel
  rw [reached] at facts
  obtain ⟨zero, inactive⟩ := Prod.mk.inj (Option.some.inj facts)
  obtain ⟨idx, rq, periodic⟩ :=
    (always _ _ (Machine.run_of_exec reached) 3).found.mp zero
  have active : client.rq.any Rq.active = true :=
    List.any_eq_true.mpr ⟨rq, periodic.1.mem, periodic.1.2⟩
  rw [inactive] at active
  cases active

end EsInverter.SerialClient
