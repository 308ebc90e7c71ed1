import EsInverter.Lib.Transition
import EsInverter.Scheduler.Entries

/-!
# Expiries that wait for the mutex

The timer daemon enters `callback_wrapper` before it takes `scheduler_mtx`, so other tasks can
set and cancel callbacks while an expiry waits there.  A set or a cancel of the callback whose
expiry waits makes the assertions fail, or a callback run too early.  Delays that `pdMS_TO_TICKS`
converts are the only others that can.
-/

set_option autoImplicit false

namespace EsInverter.Scheduler

open Lib

/-- A callback that is called, and the tick since which its latest set allows it. -/
structure Call where
  cb : UInt32
  at_ : Nat
  deadline : Option Nat
  deriving DecidableEq, Repr

/-- The scheduler, the slot whose expiry waits for the mutex, the assertion that stopped the
device, and what is recorded of the sets and of the calls. -/
structure Watch where
  scheduler : State
  waiting : Option Nat
  failed : Option Fault
  latest : UInt32 → Option Nat
  calls : List Call

inductive Event
  | elapse (ticks : Nat)
  | enter (idx : Nat)
  | locked
  | set (cb param userCtx delayMs : UInt32)
  | cancel (cb : UInt32)
  deriving DecidableEq, Repr

namespace Watch

def initial : Watch :=
  { scheduler := schedulerInit, waiting := none, failed := none, latest := fun _ => none,
    calls := [] }

def now (watch : Watch) : Nat := watch.scheduler.now

def elapsed (ticks : Nat) (watch : Watch) : Watch :=
  { watch with scheduler := { watch.scheduler with now := watch.scheduler.now + ticks } }

/-- The one-shot timer of a slot is over when its callback starts. -/
def entered (idx : Nat) (entry : Entry) (watch : Watch) : Watch :=
  { watch with
    scheduler := { watch.scheduler with
      entries := watch.scheduler.entries.set idx { entry with timer := none } },
    waiting := some idx }

def called (cb : UInt32) (watch : Watch) : Watch :=
  { watch with calls := watch.calls ++ [⟨cb, watch.now, watch.latest cb⟩] }

def deadline (cb : UInt32) (tick : Option Nat) (watch : Watch) : Watch :=
  { watch with latest := Function.update watch.latest cb tick }

def enter (idx : Nat) (watch : Watch) : Option Watch :=
  match watch.waiting, watch.scheduler.entries[idx]? with
  | none, some entry =>
      match entry.timer with
      | some expiry => provided (expiry ≤ watch.now) (watch.entered idx entry)
      | none => none
  | _, _ => none

def locked (watch : Watch) : Option Watch :=
  match watch.waiting with
  | none => none
  | some idx =>
      match callbackWrapper idx watch.scheduler with
      | .error fault => some { watch with failed := some fault }
      | .ok (scheduler, msg) =>
          some (called msg.cb { watch with scheduler := scheduler, waiting := none })

/-- The delay of a set begins at the call and is over behind its whole ticks, one at least; a set
without delay calls from the caller's task. -/
def set (pdMsToTicks : UInt32 → Nat) (cb param userCtx delayMs : UInt32) (watch : Watch) : Watch :=
  match schedulerSetCallback pdMsToTicks cb param userCtx delayMs watch.scheduler with
  | .error fault => { watch with failed := some fault }
  | .ok (scheduler, none) =>
      deadline cb (some (watch.now + wholeTicks (scaled delayMs)))
        { watch with scheduler := scheduler }
  | .ok (scheduler, some msg) =>
      called msg.cb (deadline cb (some watch.now) { watch with scheduler := scheduler })

def cancel (cb : UInt32) (watch : Watch) : Watch :=
  deadline cb none { watch with scheduler := schedulerCancelCallback cb watch.scheduler }

def step (pdMsToTicks : UInt32 → Nat) (watch : Watch) (event : Event) : Option Watch :=
  match watch.failed with
  | some _ => none
  | none =>
      match event with
      | .elapse ticks => some (watch.elapsed ticks)
      | .enter idx => watch.enter idx
      | .locked => watch.locked
      | .set cb param userCtx delayMs => some (watch.set pdMsToTicks cb param userCtx delayMs)
      | .cancel cb => some (watch.cancel cb)

end Watch

def race (pdMsToTicks : UInt32 → Nat) : Machine Watch Event := ⟨Watch.step pdMsToTicks⟩

/-- What the sets and the cancels promise: no assertion of `callback_wrapper` has failed, and
every callback was called by a set that was not cancelled and whose delay was over. -/
structure Upheld (watch : Watch) : Prop where
  entryIdx : watch.failed ≠ some (.assertion .entryIdx)
  entryScheduled : watch.failed ≠ some (.assertion .entryScheduled)
  entryCb : watch.failed ≠ some (.assertion .entryCb)
  calls : ∀ call ∈ watch.calls, ∃ deadline, call.deadline = some deadline ∧ deadline ≤ call.at_

/-- The callback is not the one whose expiry waits for the mutex. -/
def Spared (watch : Watch) (cb : UInt32) : Prop :=
  watch.waiting = none ∨ findEntry cb watch.scheduler ≠ watch.waiting

/-- Every delay is converted, and no callback is set again or cancelled while its expiry waits for
the mutex. -/
def Careful (watch : Watch) : Event → Prop
  | .set cb _ _ delayMs => delayMs = 0 ∨ Convertible delayMs ∧ Spared watch cb
  | .cancel cb => Spared watch cb
  | _ => True

instance (watch : Watch) (cb : UInt32) : Decidable (Spared watch cb) :=
  inferInstanceAs (Decidable (_ ∨ _))

instance (watch : Watch) : (event : Event) → Decidable (Careful watch event)
  | .set _ _ _ _ => inferInstanceAs (Decidable (_ ∨ _ ∧ Spared _ _))
  | .cancel _ => inferInstanceAs (Decidable (Spared _ _))
  | .elapse _ | .enter _ | .locked => inferInstanceAs (Decidable True)

/-! ### What careful steps keep -/

/-- The deadline of the latest set is over, or the timer runs at least as long. -/
def Due (watch : Watch) (entry : Entry) : Prop :=
  ∃ deadline, watch.latest entry.msg.cb = some deadline ∧
    (deadline ≤ watch.now ∨ ∃ expiry, entry.timer = some expiry ∧ deadline ≤ expiry)

structure Sound (watch : Watch) : Prop where
  upheld : Upheld watch
  tabled : Tabled watch.scheduler
  due : ∀ {idx entry}, EntryAt watch.scheduler.entries idx entry → entry.scheduled = true →
    Due watch entry
  waits : ∀ {idx}, watch.waiting = some idx → ∃ entry,
    EntryAt watch.scheduler.entries idx entry ∧ entry.scheduled = true ∧ entry.timer = none

theorem sound_initial : Sound .initial where
  upheld := ⟨nofun, nofun, nofun, List.forall_mem_nil _⟩
  tabled := tabled_schedulerInit
  due := by
    intro idx entry at_ scheduled
    rw [List.eq_of_mem_replicate (List.mem_of_getElem? at_)] at scheduled
    cases scheduled
  waits := by
    intro idx waiting
    cases waiting

variable {watch next : Watch} {cb param userCtx delayMs : UInt32} {idx : Nat} {entry : Entry}

theorem latest_deadline_self (tick : Option Nat) : (watch.deadline cb tick).latest cb = tick := by
  simp [Watch.deadline]

theorem latest_deadline_ne {other : UInt32} (tick : Option Nat) (away : other ≠ cb) :
    (watch.deadline cb tick).latest other = watch.latest other := by
  simp [Watch.deadline, away]

theorem Upheld.same (upheld : Upheld watch) (failed : next.failed = watch.failed)
    (calls : next.calls = watch.calls) : Upheld next where
  entryIdx := by rw [failed]; exact upheld.entryIdx
  entryScheduled := by rw [failed]; exact upheld.entryScheduled
  entryCb := by rw [failed]; exact upheld.entryCb
  calls := by rw [calls]; exact upheld.calls

theorem Upheld.called (upheld : Upheld watch) (due : ∃ deadline, watch.latest cb = some deadline ∧
    deadline ≤ watch.now) : Upheld (watch.called cb) where
  entryIdx := upheld.entryIdx
  entryScheduled := upheld.entryScheduled
  entryCb := upheld.entryCb
  calls := by
    intro call inside
    rcases List.mem_append.mp inside with earlier | last
    · exact upheld.calls call earlier
    · obtain rfl := List.mem_singleton.mp last
      exact due

theorem sound_elapsed (sound : Sound watch) (ticks : Nat) : Sound (watch.elapsed ticks) where
  upheld := sound.upheld.same rfl rfl
  tabled := ⟨sound.tabled.length, sound.tabled.free, sound.tabled.named, sound.tabled.distinct⟩
  due := by
    intro idx entry at_ scheduled
    obtain ⟨deadline, latest, reached | runs⟩ := sound.due at_ scheduled
    · exact ⟨deadline, latest, .inl (Nat.le_add_right_of_le reached)⟩
    · exact ⟨deadline, latest, .inr runs⟩
  waits := sound.waits

theorem sound_enter (sound : Sound watch) (stepped : watch.enter idx = some next) : Sound next := by
  unfold Watch.enter at stepped
  split at stepped
  · next entry _ found =>
      have at_ : EntryAt watch.scheduler.entries idx entry := found
      cases timer : entry.timer with
      | none =>
          rw [timer] at stepped
          cases stepped
      | some expiry =>
          rw [timer] at stepped
          obtain ⟨reached, rfl⟩ := provided_eq_some.mp stepped
          -- a timer that runs is that of a scheduled entry
          have scheduled : entry.scheduled = true := by
            by_contra unscheduled
            have stopped := sound.tabled.free at_ (Bool.not_eq_true _ ▸ unscheduled)
            rw [stopped] at timer
            cases timer
          have named : entry.msg.cb ≠ 0 := sound.tabled.named at_ scheduled
          refine ⟨sound.upheld.same rfl rfl, ?_, ?_, ?_⟩
          · refine sound.tabled.set (fun _ => rfl) (fun _ => named) ?_
            intro _ other second secondAt secondScheduled same
            exact sound.tabled.distinct secondAt at_ secondScheduled scheduled same
          · intro other second secondAt secondScheduled
            rcases entryAt_set secondAt with ⟨rfl, rfl⟩ | ⟨_, before⟩
            · obtain ⟨deadline, latest, passed | ⟨_, same, within⟩⟩ := sound.due at_ scheduled
              · exact ⟨deadline, latest, .inl passed⟩
              · obtain rfl := Option.some.inj (timer.symm.trans same)
                exact ⟨deadline, latest, .inl (within.trans reached)⟩
            · exact sound.due before secondScheduled
          · intro waiting same
            obtain rfl : idx = waiting := Option.some.inj same
            exact ⟨_, entryAt_set_self (entryAt_length at_), scheduled, rfl⟩
  · cases stepped

theorem locked_ok {after : State} {msg : CbMsg} (waiting : watch.waiting = some idx)
    (result : callbackWrapper idx watch.scheduler = .ok (after, msg)) :
    watch.locked =
      some (Watch.called msg.cb { watch with scheduler := after, waiting := none }) := by
  rw [Watch.locked, waiting]
  dsimp only
  rw [result]

theorem locked_error {fault : Fault} (waiting : watch.waiting = some idx)
    (result : callbackWrapper idx watch.scheduler = .error fault) :
    watch.locked = some { watch with failed := some fault } := by
  rw [Watch.locked, waiting]
  dsimp only
  rw [result, ← waiting]

theorem sound_locked (sound : Sound watch) (stepped : watch.locked = some next) : Sound next := by
  cases waiting : watch.waiting with
  | none =>
      rw [Watch.locked, waiting] at stepped
      cases stepped
  | some idx =>
      obtain ⟨entry, at_, scheduled, stopped⟩ := sound.waits waiting
      have named := sound.tabled.named at_ scheduled
      have result := callbackWrapper_ok (sound.tabled.inside at_) at_ scheduled named
      rw [locked_ok waiting result] at stepped
      obtain rfl := Option.some.inj stepped
      refine ⟨?_, sound.tabled.clear idx entry, ?_, ?_⟩
      · refine Upheld.called (sound.upheld.same rfl rfl) ?_
        obtain ⟨deadline, latest, reached | ⟨expiry, runs, _⟩⟩ := sound.due at_ scheduled
        · exact ⟨deadline, latest, reached⟩
        · rw [stopped] at runs
          cases runs
      · intro other second secondAt secondScheduled
        rcases entryAt_set secondAt with ⟨_, rfl⟩ | ⟨_, before⟩
        · cases secondScheduled
        · exact sound.due before secondScheduled
      · intro other same
        cases same

/-- A new deadline of a callback that no other entry holds. -/
theorem due_deadline {tick : Option Nat} (due : Due watch entry) (away : entry.msg.cb ≠ cb) :
    Due (watch.deadline cb tick) entry := by
  obtain ⟨deadline, latest, late⟩ := due
  exact ⟨deadline, (latest_deadline_ne tick away).trans latest, late⟩

theorem sound_failed {fault : Fault} (sound : Sound watch) (other : fault ≠ .assertion .entryIdx ∧
    fault ≠ .assertion .entryScheduled ∧ fault ≠ .assertion .entryCb) :
    Sound { watch with failed := some fault } where
  upheld :=
    { entryIdx same := other.1 (Option.some.inj same)
      entryScheduled same := other.2.1 (Option.some.inj same)
      entryCb same := other.2.2 (Option.some.inj same)
      calls := sound.upheld.calls }
  tabled := sound.tabled
  due := sound.due
  waits := sound.waits

/-- A set or a cancel that replaces an entry whose expiry does not wait. -/
theorem sound_replaced {tick : Option Nat} {place : Nat} {new : Entry} (sound : Sound watch)
    (tabled : Tabled { watch.scheduler with entries := watch.scheduler.entries.set place new })
    (spared : watch.waiting ≠ some place)
    (others : ∀ {idx entry}, place ≠ idx → EntryAt watch.scheduler.entries idx entry →
      entry.scheduled = true → entry.msg.cb ≠ cb)
    (runs : new.scheduled = true → new.msg.cb = cb ∧
      ∃ deadline expiry, tick = some deadline ∧ new.timer = some expiry ∧ deadline ≤ expiry) :
    Sound (Watch.deadline cb tick { watch with
      scheduler := { watch.scheduler with
        entries := watch.scheduler.entries.set place new } }) where
  upheld := sound.upheld.same rfl rfl
  tabled := tabled
  due := by
    intro idx entry at_ scheduled
    rcases entryAt_set at_ with ⟨rfl, rfl⟩ | ⟨away, before⟩
    · obtain ⟨named, deadline, expiry, rfl, timer, late⟩ := runs scheduled
      refine ⟨deadline, ?_, .inr ⟨expiry, timer, late⟩⟩
      rw [named]
      exact latest_deadline_self (some deadline)
    · have kept : Due (watch.deadline cb tick) entry :=
        due_deadline (sound.due before scheduled) (others away before scheduled)
      exact kept
  waits := by
    intro idx waiting
    obtain ⟨entry, at_, scheduled, stopped⟩ := sound.waits waiting
    refine ⟨entry, entryAt_set_ne ?_ at_, scheduled, stopped⟩
    rintro rfl
    exact spared waiting

theorem Spared.not_found (spared : Spared watch cb) (waiting : watch.waiting = some idx) :
    findEntry cb watch.scheduler ≠ some idx := by
  rw [← waiting]
  refine spared.resolve_left ?_
  rw [waiting]
  exact Option.some_ne_none idx

section

variable {pdMsToTicks : UInt32 → Nat} (rounds : RoundsDown pdMsToTicks)

include rounds

theorem sound_set (sound : Sound watch)
    (careful : delayMs = 0 ∨ Convertible delayMs ∧ Spared watch cb) :
    Sound (watch.set pdMsToTicks cb param userCtx delayMs) := by
  have turn := schedulerSetCallback_turn pdMsToTicks watch.scheduler cb param userCtx delayMs
  have due (later : delayMs ≠ 0) : ∃ deadline expiry,
      some (watch.now + wholeTicks (scaled delayMs)) = some deadline ∧
        some (watch.now + pdMsToTicks (scaled delayMs)) = some expiry ∧ deadline ≤ expiry := by
    rw [rounds.ticks (careful.resolve_left later).1]
    exact ⟨_, _, rfl, rfl, Nat.le_refl _⟩
  rw [Watch.set]
  generalize schedulerSetCallback pdMsToTicks cb param userCtx delayMs watch.scheduler = result
    at turn ⊢
  cases turn with
  | null absent => exact sound_failed sound (by decide)
  | full missing taken => exact sound_failed sound (by decide)
  | stuck later empty => exact sound_failed sound (by decide)
  | immediate present now =>
      refine ⟨?_, sound.tabled, ?_, sound.waits⟩
      · refine Upheld.called (sound.upheld.same rfl rfl) ⟨watch.now, ?_, Nat.le_refl _⟩
        exact latest_deadline_self (some watch.now)
      · intro idx entry at_ scheduled
        by_cases same : entry.msg.cb = cb
        · refine ⟨watch.now, ?_, .inl (Nat.le_refl _)⟩
          rw [same]
          exact latest_deadline_self (some watch.now)
        · have kept : Due (watch.deadline cb (some watch.now)) entry :=
            due_deadline (sound.due at_ scheduled) same
          exact kept
  | added present later missing idx before at_ free =>
      refine sound_replaced sound (sound.tabled.add present missing idx _) ?_ ?_ fun _ =>
        ⟨rfl, due later⟩
      · intro waiting
        obtain ⟨entry, entryAt, scheduled, _⟩ := sound.waits waiting
        obtain rfl := Option.some.inj (at_.symm.trans entryAt)
        rw [free] at scheduled
        cases scheduled
      · intro other second _ secondAt secondScheduled
        exact findEntry_none missing secondAt secondScheduled
  | retimed later idx before found at_ scheduled same =>
      refine sound_replaced sound (sound.tabled.retime at_ scheduled _) ?_ ?_ fun _ =>
        ⟨same, due later⟩
      · intro waiting
        exact (careful.resolve_left later).2.not_found waiting found
      · intro other second away secondAt secondScheduled named
        exact away (sound.tabled.distinct at_ secondAt scheduled secondScheduled
          (same.trans named.symm))

omit rounds in
theorem sound_cancel (sound : Sound watch) (spared : Spared watch cb) :
    Sound (watch.cancel cb) := by
  rw [Watch.cancel]
  rcases schedulerCancelCallback_cases watch.scheduler cb with
    ⟨missing, unchanged⟩ | ⟨idx, before, found, at_, scheduled, same, cleared⟩
  · rw [unchanged]
    refine ⟨sound.upheld.same rfl rfl, sound.tabled, ?_, sound.waits⟩
    intro idx entry at_ scheduled
    have kept : Due (watch.deadline cb none) entry :=
      due_deadline (sound.due at_ scheduled) (findEntry_none missing at_ scheduled)
    exact kept
  · rw [cleared]
    refine sound_replaced sound (sound.tabled.clear idx before) ?_ ?_ ?_
    · intro waiting
      exact spared.not_found waiting found
    · intro other second away secondAt secondScheduled named
      exact away (sound.tabled.distinct at_ secondAt scheduled secondScheduled
        (same.trans named.symm))
    · intro impossible
      cases impossible

omit rounds in
theorem running_of_step {event : Event}
    (stepped : (race pdMsToTicks).step watch event = some next) :
    watch.failed = none := by
  change watch.step pdMsToTicks event = some next at stepped
  unfold Watch.step at stepped
  split at stepped
  · cases stepped
  · next running => exact running

theorem sound_step {event : Event} (careful : Careful watch event) (sound : Sound watch)
    (stepped : (race pdMsToTicks).step watch event = some next) : Sound next := by
  have running := running_of_step stepped
  change watch.step pdMsToTicks event = some next at stepped
  unfold Watch.step at stepped
  rw [running] at stepped
  cases event with
  | elapse ticks =>
      cases stepped
      exact sound_elapsed sound ticks
  | enter idx => exact sound_enter sound stepped
  | locked => exact sound_locked sound stepped
  | set cb param userCtx delayMs =>
      cases stepped
      exact sound_set rounds sound careful
  | cancel cb =>
      cases stepped
      exact sound_cancel sound careful

/-- The assertions hold and no callback is called too early as long as every delay is converted
and no callback is set again or cancelled while its expiry waits for the mutex. -/
theorem upheld_of_careful {trace : List (Watch × Event)} {watch : Watch}
    (run : (race pdMsToTicks).Run .initial trace watch)
    (careful : ∀ taken ∈ trace, Careful taken.1 taken.2) : Upheld watch :=
  (run.invariant sound_initial (sound_step rounds) careful).upheld

end

/-- While the expiry of one callback waits for the mutex, another one is set again with another
delay, and a third one is set and cancelled. -/
def crossedEvents : List Event :=
  [.set 7 0 0 20, .set 8 0 0 10, .elapse 1, .enter 1, .set 7 1 0 30, .set 9 0 0 10, .cancel 9,
    .locked, .elapse 3, .enter 0, .elapse 1, .locked]

theorem upheld_of_careful_crossed :
    ∃ trace watch, (race wrappingTicks).Run .initial trace watch ∧
      watch.calls = [⟨8, 1, some 1⟩, ⟨7, 5, some 4⟩] ∧ Upheld watch := by
  have executed : ((race wrappingTicks).exec .initial crossedEvents).isSome = true := by decide
  obtain ⟨watch, reached⟩ := Option.isSome_iff_exists.mp executed
  have called : ((race wrappingTicks).exec .initial crossedEvents).map Watch.calls =
      some [⟨8, 1, some 1⟩, ⟨7, 5, some 4⟩] := by decide
  rw [reached] at called
  refine ⟨_, watch, Machine.run_of_exec reached, Option.some.inj called, ?_⟩
  have careful : ∀ taken ∈ (race wrappingTicks).tracing .initial crossedEvents,
      Careful taken.1 taken.2 := by decide
  exact upheld_of_careful roundsDown_wrappingTicks (Machine.run_of_exec reached) careful

/-- The callback of an expiry that waits for the mutex is cancelled. -/
def racyEvents : List Event := [.set 7 0 0 10, .elapse 1, .enter 0, .cancel 7, .locked]

theorem racy_entryScheduled :
    ¬∀ pdMsToTicks, RoundsDown pdMsToTicks →
      ∀ trace watch, (race pdMsToTicks).Run .initial trace watch → Upheld watch := by
  intro always
  have executed : ((race wrappingTicks).exec .initial racyEvents).isSome = true := by decide
  obtain ⟨watch, reached⟩ := Option.isSome_iff_exists.mp executed
  have failed : ((race wrappingTicks).exec .initial racyEvents).map Watch.failed =
      some (some (.assertion .entryScheduled)) := by decide
  rw [reached] at failed
  exact (always _ roundsDown_wrappingTicks _ _ (Machine.run_of_exec reached)).entryScheduled
    (Option.some.inj failed)

/-! ### What any other step leads to -/

theorem found_of_not_spared (careless : ¬Spared watch cb) :
    ∃ idx, watch.waiting = some idx ∧ findEntry cb watch.scheduler = some idx := by
  rw [Spared, not_or, not_not] at careless
  obtain ⟨idx, waiting⟩ := Option.ne_none_iff_exists'.mp careless.1
  exact ⟨idx, waiting, careless.2.trans waiting⟩

theorem locked_cancelled (sound : Sound watch) (careless : ¬Spared watch cb) :
    ∃ after, (watch.cancel cb).locked = some after ∧ ¬Upheld after := by
  obtain ⟨idx, waiting, waits⟩ := found_of_not_spared careless
  rcases schedulerCancelCallback_cases watch.scheduler cb with
    ⟨missing, _⟩ | ⟨_, before, found, at_, _, _, cleared⟩
  · rw [waits] at missing
    cases missing
  · obtain rfl := Option.some.inj (waits.symm.trans found)
    have inside := entryAt_length at_
    have stopped : callbackWrapper idx (schedulerCancelCallback cb watch.scheduler) =
        .error (.assertion .entryScheduled) := by
      rw [cleared]
      exact callbackWrapper_unscheduled (sound.tabled.inside at_) (entryAt_set_self inside) rfl
    have still : (watch.cancel cb).waiting = some idx := waiting
    refine ⟨_, locked_error still stopped, ?_⟩
    intro upheld
    exact upheld.entryScheduled rfl

section

variable {pdMsToTicks : UInt32 → Nat} (rounds : RoundsDown pdMsToTicks)

include rounds

theorem locked_reset (sound : Sound watch) (later : delayMs ≠ 0)
    (convertible : Convertible delayMs) (careless : ¬Spared watch cb) :
    ∃ after, (watch.set pdMsToTicks cb param userCtx delayMs).locked = some after ∧
      ¬Upheld after := by
  have period := rounds.ticks convertible
  have pos := wholeTicks_scaled_pos delayMs
  obtain ⟨idx, waiting, waits⟩ := found_of_not_spared careless
  obtain ⟨before, at_, scheduled, same⟩ := findEntry_some waits
  have named := sound.tabled.named at_ scheduled
  have turn := schedulerSetCallback_turn pdMsToTicks watch.scheduler cb param userCtx delayMs
  rw [period] at turn
  rw [Watch.set]
  generalize schedulerSetCallback pdMsToTicks cb param userCtx delayMs watch.scheduler = result
    at turn ⊢
  cases turn with
  | null absent => exact absurd (same.trans absent) named
  | immediate present now => exact absurd now later
  | full missing taken =>
      rw [waits] at missing
      cases missing
  | stuck _ empty => exact absurd empty pos.ne'
  | added present later missing _ _ _ _ =>
      rw [waits] at missing
      cases missing
  | retimed later _ entry found entryAt _ _ =>
      obtain rfl := Option.some.inj (waits.symm.trans found)
      obtain rfl := Option.some.inj (at_.symm.trans entryAt)
      have inside := entryAt_length at_
      let expiry := watch.now + wholeTicks (scaled delayMs)
      let entries := watch.scheduler.entries.set idx (before.rescheduled param userCtx expiry)
      obtain ⟨after, result, now⟩ : ∃ after, callbackWrapper idx { watch.scheduler with entries } =
          .ok (after, (before.rescheduled param userCtx expiry).msg) ∧ after.now = watch.now :=
        callbackWrapper_set (sound.tabled.inside at_) at_ scheduled named
      refine ⟨_, locked_ok waiting result, ?_⟩
      intro upheld
      obtain ⟨deadline, latest, reached⟩ :=
        upheld.calls _ (List.mem_append_right _ (List.mem_singleton.mpr rfl))
      have started : Function.update watch.latest cb (some expiry) before.msg.cb = some deadline :=
        latest
      rw [same, Function.update_self] at started
      obtain rfl := Option.some.inj started
      have early : expiry ≤ watch.now := by
        rw [← now]
        exact reached
      omega

/-- A set or a cancel of the callback whose expiry waits breaks a promise as soon as the expiry
gets the mutex. -/
theorem not_upheld_of_careless {trace : List (Watch × Event)} {watch next : Watch} {event : Event}
    (run : (race pdMsToTicks).Run .initial trace watch)
    (careful : ∀ taken ∈ trace, Careful taken.1 taken.2)
    (stepped : (race pdMsToTicks).step watch event = some next)
    (converted : ∀ {cb param userCtx delayMs}, event = .set cb param userCtx delayMs →
      Convertible delayMs) (careless : ¬Careful watch event) :
    ∃ after, next.locked = some after ∧ ¬Upheld after := by
  have sound := run.invariant sound_initial (sound_step rounds) careful
  have running := running_of_step stepped
  change watch.step pdMsToTicks event = some next at stepped
  unfold Watch.step at stepped
  rw [running] at stepped
  cases event with
  | elapse ticks => exact absurd trivial careless
  | enter idx => exact absurd trivial careless
  | locked => exact absurd trivial careless
  | set cb param userCtx delayMs =>
      cases stepped
      rw [Careful, not_or, not_and] at careless
      have convertible := converted rfl
      exact locked_reset rounds sound careless.1 convertible (careless.2 convertible)
  | cancel cb =>
      cases stepped
      exact locked_cancelled sound careless

end

end EsInverter.Scheduler
