import EsInverter.Lib.Simulation
import EsInverter.Scheduler.Entries

/-!
# The scheduler refines a map of deadlines

With an expiry as one step, the slots and their timers are a map from callbacks to the parameter,
the context and the deadline of their latest set, as long as `pdMS_TO_TICKS` converts the delays.
A callback runs behind the step that calls it, so that what it sets and cancels are further steps.
-/

set_option autoImplicit false

namespace EsInverter.Scheduler

open Lib

/-- A call of the scheduler, a tick of its clock, or the expiry of the timer of a slot. -/
inductive Action
  | set (cb param userCtx delayMs : UInt32)
  | cancel (cb : UInt32)
  | elapse (ticks : Nat)
  | expire (idx : Nat)
  deriving DecidableEq, Repr

/-- A one-shot timer that expires is over. -/
def Entry.stopped (entry : Entry) : Entry := { entry with timer := none }

/-- The timer of a slot expires and its callback takes the mutex at once. -/
def expire (idx : Nat) (state : State) : Except Fault (State × CbMsg) :=
  callbackWrapper idx { state with entries := state.entries.modify idx Entry.stopped }

/-- The state behind an action, and the callback that the action calls. -/
def perform (pdMsToTicks : UInt32 → Nat) (state : State) :
    Action → Except Fault (State × Option CbMsg)
  | .set cb param userCtx delayMs => schedulerSetCallback pdMsToTicks cb param userCtx delayMs state
  | .cancel cb => .ok (schedulerCancelCallback cb state, none)
  | .elapse ticks => .ok ({ state with now := state.now + ticks }, none)
  | .expire idx => do
      let (next, msg) ← expire idx state
      return (next, some msg)

/-- Only a timer that runs expires, and not before its time. -/
def Possible (state : State) : Action → Prop
  | .expire idx => ∃ entry expiry, EntryAt state.entries idx entry ∧ entry.timer = some expiry ∧
      expiry ≤ state.now
  | _ => True

/-- The delay of a set is one that `pdMS_TO_TICKS` converts. -/
def Action.Converted : Action → Prop
  | .set _ _ _ delayMs => Convertible delayMs
  | _ => True

instance : (action : Action) → Decidable action.Converted
  | .set _ _ _ delayMs => inferInstanceAs (Decidable (Convertible delayMs))
  | .cancel _ | .elapse _ | .expire _ => inferInstanceAs (Decidable True)

/-! ### The map -/

structure Deadline where
  param : UInt32
  userCtx : UInt32
  due : Nat
  deriving DecidableEq, Repr

/-- The callbacks that are pending, at the time of the clock. -/
structure Agenda where
  pending : Finmap fun _ : UInt32 => Deadline
  now : Nat

namespace Agenda

def initial : Agenda := { pending := ∅, now := 0 }

/-- A set asks for the whole ticks of its delay, and for one tick at least. -/
def deadline (agenda : Agenda) (param userCtx delayMs : UInt32) : Deadline :=
  { param, userCtx, due := agenda.now + max 1 (wholeTicks delayMs) }

def set (agenda : Agenda) (cb param userCtx delayMs : UInt32) : Agenda :=
  { agenda with pending := agenda.pending.insert cb (agenda.deadline param userCtx delayMs) }

def remove (agenda : Agenda) (cb : UInt32) : Agenda :=
  { agenda with pending := agenda.pending.erase cb }

/-- The callbacks with a delay, as long as no more of them than the slots are pending. -/
def Allowed (agenda : Agenda) : Action → Prop
  | .set cb param userCtx delayMs => cb ≠ 0 ∧ delayMs ≠ 0 ∧
      (agenda.set cb param userCtx delayMs).pending.keys.card ≤ maxEntries
  | _ => True

/-- An expiry calls one pending callback whose deadline is reached, with the parameter and the
context of its latest set; no other action calls one. -/
def Explains (agenda : Agenda) : Action → Option CbMsg → Prop
  | .expire _, called => ∃ cb deadline, agenda.pending.lookup cb = some deadline ∧
      deadline.due ≤ agenda.now ∧ called = some ⟨deadline.param, deadline.userCtx, cb⟩
  | _, called => called = none

/-- A callback that is called is no longer pending when it runs. -/
def follow (agenda : Agenda) : Action → Option CbMsg → Agenda
  | .set cb param userCtx delayMs, _ => agenda.set cb param userCtx delayMs
  | .cancel cb, _ => agenda.remove cb
  | .elapse ticks, _ => { agenda with now := agenda.now + ticks }
  | .expire _, some msg => agenda.remove msg.cb
  | .expire _, none => agenda

def spec : Spec Agenda Action (Option CbMsg) :=
  { allowed := Allowed, explains := Explains, follow := follow }

end Agenda

/-- The slot of a pending callback: scheduled, with its timer running up to the deadline. -/
def Deadline.entry (deadline : Deadline) (cb : UInt32) : Entry :=
  { timer := some deadline.due, scheduled := true,
    msg := { param := deadline.param, userCtx := deadline.userCtx, cb } }

/-- A timer runs if and only if its slot is scheduled, no two slots are scheduled for one callback,
and the scheduled slots are those of the map. -/
structure Represents (state : State) (agenda : Agenda) : Prop where
  tabled : Tabled state
  now : state.now = agenda.now
  timer : ∀ {idx entry}, EntryAt state.entries idx entry →
    (entry.timer.isSome = true ↔ entry.scheduled = true)
  pending : ∀ cb deadline, agenda.pending.lookup cb = some deadline ↔
    ∃ idx, EntryAt state.entries idx (deadline.entry cb)

variable {state next : State} {agenda : Agenda} {idx place : Nat} {entry before : Entry}
variable {cb other param userCtx delayMs : UInt32} {deadline second : Deadline}

/-! ### One slot and one callback -/

theorem entry_inj : deadline.entry cb = second.entry other ↔ deadline = second ∧ cb = other := by
  obtain ⟨param, userCtx, due⟩ := deadline
  obtain ⟨param', userCtx', due'⟩ := second
  simp only [Deadline.entry, Entry.mk.injEq, Option.some.injEq, CbMsg.mk.injEq, Deadline.mk.injEq]
  tauto

/-- The slot is scheduled for the callback or free, and no other slot is scheduled for it. -/
structure SlotFor (state : State) (place : Nat) (before : Entry) (cb : UInt32) : Prop where
  at_ : EntryAt state.entries place before
  own : before.scheduled = true → before.msg.cb = cb
  only : ∀ {idx entry}, EntryAt state.entries idx entry → entry.scheduled = true →
    entry.msg.cb = cb → idx = place

theorem slotFor_scheduled (tabled : Tabled state) (at_ : EntryAt state.entries place before)
    (scheduled : before.scheduled = true) (same : before.msg.cb = cb) :
    SlotFor state place before cb where
  at_ := at_
  own := fun _ => same
  only := fun entryAt entryScheduled equal =>
    tabled.distinct entryAt at_ entryScheduled scheduled (equal.trans same.symm)

theorem slotFor_free (missing : findEntry cb state = none)
    (at_ : EntryAt state.entries place before) (free : before.scheduled = false) :
    SlotFor state place before cb where
  at_ := at_
  own := by
    intro scheduled
    rw [free] at scheduled
    cases scheduled
  only := fun entryAt scheduled same => absurd same (findEntry_none missing entryAt scheduled)

/-- The slots of the other callbacks stay. -/
theorem SlotFor.others (slot : SlotFor state place before cb) (away : other ≠ cb)
    {new : Entry} (new_own : new.scheduled = true → new.msg.cb = cb) :
    (∃ idx, EntryAt (state.entries.set place new) idx (deadline.entry other)) ↔
      ∃ idx, EntryAt state.entries idx (deadline.entry other) := by
  constructor
  · rintro ⟨idx, at_⟩
    rcases entryAt_set at_ with ⟨-, rfl⟩ | ⟨-, kept⟩
    · exact absurd (new_own rfl) away
    · exact ⟨idx, kept⟩
  · rintro ⟨idx, at_⟩
    have elsewhere : place ≠ idx := by
      rintro rfl
      obtain rfl := Option.some.inj (at_.symm.trans slot.at_)
      exact away (slot.own rfl)
    exact ⟨idx, entryAt_set_ne elsewhere at_⟩

/-- What the slot holds for the callback itself. -/
theorem SlotFor.own_iff (slot : SlotFor state place before cb) {new : Entry} :
    (∃ idx, EntryAt (state.entries.set place new) idx (deadline.entry cb)) ↔
      new = deadline.entry cb := by
  constructor
  · rintro ⟨idx, at_⟩
    rcases entryAt_set at_ with ⟨-, same⟩ | ⟨elsewhere, kept⟩
    · exact same.symm
    · exact absurd (slot.only kept rfl rfl).symm elsewhere
  · rintro rfl
    exact ⟨place, entryAt_set_self (entryAt_length slot.at_)⟩

/-! ### What an action does to the map -/

theorem timer_set (rep : Represents state agenda) {new : Entry}
    (running : new.timer.isSome = true ↔ new.scheduled = true)
    (at_ : EntryAt (state.entries.set place new) idx entry) :
    entry.timer.isSome = true ↔ entry.scheduled = true := by
  rcases entryAt_set at_ with ⟨-, rfl⟩ | ⟨-, kept⟩
  · exact running
  · exact rep.timer kept

/-- A slot of the callback is filled. -/
theorem Represents.insert (rep : Represents state agenda) (present : cb ≠ 0)
    (slot : SlotFor state place before cb) (deadline : Deadline) :
    Represents { state with entries := state.entries.set place (deadline.entry cb) }
      { agenda with pending := agenda.pending.insert cb deadline } where
  tabled := by
    refine rep.tabled.set (by intro free; cases free) (fun _ => present) ?_
    intro _ idx entry at_ scheduled same
    exact slot.only at_ scheduled same
  now := rep.now
  timer := timer_set rep (iff_of_true rfl rfl)
  pending := by
    intro other second
    by_cases same : other = cb
    · subst same
      rw [Finmap.lookup_insert, slot.own_iff, entry_inj, Option.some.injEq]
      exact (and_iff_left rfl).symm
    · rw [Finmap.lookup_insert_of_ne _ same, rep.pending, slot.others same fun _ => rfl]

/-- The slot of the callback is cleared. -/
theorem Represents.erase (rep : Represents state agenda) (slot : SlotFor state place before cb) :
    Represents { state with entries := state.entries.set place before.cleared }
      (agenda.remove cb) where
  tabled := rep.tabled.clear place before
  now := rep.now
  timer := timer_set rep (iff_of_false Bool.false_ne_true Bool.false_ne_true)
  pending := by
    intro other second
    by_cases same : other = cb
    · subst same
      rw [Agenda.remove, Finmap.lookup_erase, slot.own_iff]
      exact iff_of_false (by simp) (by simp [Entry.cleared, Deadline.entry])
    · rw [Agenda.remove, Finmap.lookup_erase_ne same, rep.pending, slot.others same]
      intro scheduled
      cases scheduled

theorem represents_initial : Represents schedulerInit .initial where
  tabled := tabled_schedulerInit
  now := rfl
  timer := by
    intro idx entry at_
    rw [List.eq_of_mem_replicate (List.mem_of_getElem? at_)]
    exact iff_of_false Bool.false_ne_true Bool.false_ne_true
  pending := by
    intro cb deadline
    rw [Agenda.initial, Finmap.lookup_empty]
    refine iff_of_false (by simp) ?_
    rintro ⟨idx, at_⟩
    cases List.eq_of_mem_replicate (List.mem_of_getElem? at_)

/-- A scheduled slot is that of a pending callback. -/
theorem Represents.scheduled (rep : Represents state agenda)
    (at_ : EntryAt state.entries idx entry) (scheduled : entry.scheduled = true) :
    ∃ deadline, entry = deadline.entry entry.msg.cb ∧
      agenda.pending.lookup entry.msg.cb = some deadline := by
  obtain ⟨due, running⟩ := Option.isSome_iff_exists.mp ((rep.timer at_).mpr scheduled)
  have same : entry = Deadline.entry ⟨entry.msg.param, entry.msg.userCtx, due⟩ entry.msg.cb := by
    rw [Deadline.entry, ← running, ← scheduled]
  refine ⟨_, same, (rep.pending _ _).mpr ⟨idx, ?_⟩⟩
  rw [← same]
  exact at_

/-- The callbacks of a full table are as many as its slots. -/
theorem nodup_callbacks (tabled : Tabled state)
    (taken : ∀ entry ∈ state.entries, entry.scheduled = true) :
    (state.entries.map fun entry => entry.msg.cb).Nodup := by
  rw [List.nodup_iff_injective_getElem]
  intro first second same
  simp only [List.getElem_map] at same
  have inside (i : Fin (state.entries.map fun entry => entry.msg.cb).length) :
      i.val < state.entries.length := by simpa using i.isLt
  exact Fin.ext (tabled.distinct (List.getElem?_eq_getElem (inside first))
    (List.getElem?_eq_getElem (inside second)) (taken _ (List.getElem_mem _))
    (taken _ (List.getElem_mem _)) same)

/-- One more callback than the slots of a full table is too many. -/
theorem Represents.overfull (rep : Represents state agenda)
    (taken : ∀ entry ∈ state.entries, entry.scheduled = true)
    (missing : findEntry cb state = none) :
    maxEntries < (agenda.set cb param userCtx delayMs).pending.keys.card := by
  have fresh : cb ∉ state.entries.map fun entry => entry.msg.cb := by
    intro inside
    obtain ⟨entry, listed, same⟩ := List.mem_map.mp inside
    obtain ⟨idx, at_⟩ := List.mem_iff_getElem?.mp listed
    exact findEntry_none missing at_ (taken entry listed) same
  have nodup := List.nodup_cons.mpr ⟨fresh, nodup_callbacks rep.tabled taken⟩
  have all : (cb :: state.entries.map fun entry => entry.msg.cb).toFinset ⊆
      (agenda.set cb param userCtx delayMs).pending.keys := by
    intro other inside
    rw [Finmap.mem_keys, Agenda.set, Finmap.mem_insert]
    rcases List.mem_cons.mp (List.mem_toFinset.mp inside) with same | inside
    · exact .inl same
    · obtain ⟨entry, listed, rfl⟩ := List.mem_map.mp inside
      obtain ⟨idx, at_⟩ := List.mem_iff_getElem?.mp listed
      obtain ⟨deadline, -, found⟩ := rep.scheduled at_ (taken entry listed)
      exact .inr (Finmap.mem_of_lookup_eq_some found)
  have count := Finset.card_le_card all
  rw [List.toFinset_card_of_nodup nodup, List.length_cons, List.length_map,
    rep.tabled.length] at count
  exact count

theorem set_matched {pdMsToTicks : UInt32 → Nat} (rounds : RoundsDown pdMsToTicks)
    (convertible : Convertible delayMs) (rep : Represents state agenda)
    (allowed : agenda.Allowed (.set cb param userCtx delayMs)) :
    ∃ next, schedulerSetCallback pdMsToTicks cb param userCtx delayMs state = .ok (next, none) ∧
      Represents next (agenda.set cb param userCtx delayMs) := by
  obtain ⟨present, later, room⟩ := allowed
  have due : state.now + wholeTicks (scaled delayMs) = agenda.now + max 1 (wholeTicks delayMs) := by
    rw [rep.now, wholeTicks_scaled]
  have turn := schedulerSetCallback_turn pdMsToTicks state cb param userCtx delayMs
  rw [rounds.ticks convertible] at turn
  generalize schedulerSetCallback pdMsToTicks cb param userCtx delayMs state = result at turn
  cases turn with
  | null absent => exact absurd absent present
  | immediate _ now => exact absurd now later
  | full missing taken => exact absurd room (Nat.not_le.mpr (rep.overfull taken missing))
  | stuck _ empty => exact absurd empty (wholeTicks_scaled_pos delayMs).ne'
  | added _ _ missing idx before at_ free =>
      refine ⟨_, rfl, ?_⟩
      rw [due]
      exact rep.insert present (slotFor_free missing at_ free) (agenda.deadline param userCtx delayMs)
  | retimed _ idx before _ at_ scheduled same =>
      refine ⟨_, rfl, ?_⟩
      subst same
      rw [due, Entry.rescheduled, scheduled]
      exact rep.insert present (slotFor_scheduled rep.tabled at_ scheduled rfl)
        (agenda.deadline param userCtx delayMs)

theorem remove_absent (absent : cb ∉ agenda.pending) : agenda.remove cb = agenda := by
  have same : agenda.pending.erase cb = agenda.pending := by
    apply Finmap.ext_lookup
    intro other
    by_cases equal : other = cb
    · subst equal
      rw [Finmap.lookup_erase, Finmap.lookup_eq_none.mpr absent]
    · rw [Finmap.lookup_erase_ne equal]
  rw [Agenda.remove, same]

theorem cancel_matched (rep : Represents state agenda) (cb : UInt32) :
    Represents (schedulerCancelCallback cb state) (agenda.remove cb) := by
  rcases schedulerCancelCallback_cases state cb with
    ⟨missing, kept⟩ | ⟨idx, before, -, at_, scheduled, same, cleared⟩
  · rw [kept]
    have absent : cb ∉ agenda.pending := by
      intro inside
      obtain ⟨deadline, found⟩ := Finmap.mem_iff.mp inside
      obtain ⟨idx, at_⟩ := (rep.pending cb deadline).mp found
      exact findEntry_none missing at_ rfl rfl
    rw [remove_absent absent]
    exact rep
  · rw [cleared]
    exact rep.erase (slotFor_scheduled rep.tabled at_ scheduled same)

@[simp]
theorem Entry.stopped_cleared (entry : Entry) : entry.stopped.cleared = entry.cleared := rfl

/-- The expiry of a slot calls its callback and clears it. -/
theorem expire_matched (rep : Represents state agenda) (at_ : EntryAt state.entries idx entry)
    {expiry : Nat} (running : entry.timer = some expiry) (reached : expiry ≤ state.now) :
    ∃ next deadline, expire idx state = .ok (next, entry.msg) ∧
      agenda.pending.lookup entry.msg.cb = some deadline ∧ deadline.due ≤ agenda.now ∧
      entry.msg = ⟨deadline.param, deadline.userCtx, entry.msg.cb⟩ ∧
      Represents next (agenda.remove entry.msg.cb) := by
  have scheduled : entry.scheduled = true := by
    rw [← rep.timer at_, running]
    rfl
  have slot := slotFor_scheduled rep.tabled at_ scheduled rfl
  obtain ⟨deadline, same, found⟩ := rep.scheduled at_ scheduled
  have stopped : EntryAt (state.entries.set idx entry.stopped) idx entry.stopped :=
    entryAt_set_self (entryAt_length at_)
  have named : entry.msg.cb ≠ 0 := rep.tabled.named at_ scheduled
  have called : expire idx state =
      .ok ({ state with entries :=
        (state.entries.set idx entry.stopped).set idx entry.stopped.cleared }, entry.msg) := by
    rw [expire, modify_eq_set at_]
    exact callbackWrapper_ok (rep.tabled.inside at_) stopped scheduled named
  have due : deadline.due = expiry := by
    rw [same] at running
    exact Option.some.inj running
  rw [List.set_set, Entry.stopped_cleared] at called
  refine ⟨_, deadline, called, found, ?_, congrArg Entry.msg same, rep.erase slot⟩
  rw [due, ← rep.now]
  exact reached

/-- Every action that is possible and allowed does what the map does. -/
theorem perform_matched {pdMsToTicks : UInt32 → Nat} (rounds : RoundsDown pdMsToTicks)
    {action : Action} (converted : action.Converted) (rep : Represents state agenda)
    (possible : Possible state action) (allowed : agenda.Allowed action) :
    ∃ next called, perform pdMsToTicks state action = .ok (next, called) ∧
      agenda.Explains action called ∧ Represents next (agenda.follow action called) := by
  cases action with
  | set cb param userCtx delayMs =>
      obtain ⟨next, ran, kept⟩ := set_matched rounds converted rep allowed
      exact ⟨next, none, ran, rfl, kept⟩
  | cancel cb => exact ⟨_, none, rfl, rfl, cancel_matched rep cb⟩
  | elapse ticks =>
      refine ⟨_, none, rfl, rfl, ?_⟩
      exact ⟨⟨rep.tabled.length, rep.tabled.free, rep.tabled.named, rep.tabled.distinct⟩,
        congrArg (· + ticks) rep.now, rep.timer, rep.pending⟩
  | expire idx =>
      obtain ⟨entry, expiry, at_, running, reached⟩ := possible
      obtain ⟨next, deadline, ran, found, due, msg, kept⟩ :=
        expire_matched rep at_ running reached
      refine ⟨next, some entry.msg, ?_, ⟨_, deadline, found, due, congrArg some msg⟩, kept⟩
      rw [perform, ran]
      rfl

/-- Whatever is set with delays that are converted, cancelled and expires, in any order and with at
most as many callbacks pending as there are slots: no assertion fails, the slots are those of the
map, and each expiry calls a callback as the map says, in a state in which it is no longer
pending. -/
theorem perform_upholds {pdMsToTicks : UInt32 → Nat} (rounds : RoundsDown pdMsToTicks)
    {actions : List Action} (converted : ∀ action ∈ actions, action.Converted) :
    Upholds (perform pdMsToTicks) Possible Agenda.spec Represents schedulerInit .initial actions :=
  upholds_of_step (perform_matched rounds) converted represents_initial

/-- A callback is set and set again with another parameter and delay, another one is set and
cancelled; the first one is called and sets itself. -/
def debounced : List Action :=
  [.set 1 5 6 20, .set 1 7 8 30, .set 2 0 0 10, .cancel 2, .elapse 3, .expire 0, .set 1 9 8 10]

theorem perform_upholds_debounced :
    (answers (perform wrappingTicks) schedulerInit debounced).map (·.2) =
        .ok [none, none, none, none, none, some ⟨7, 8, 1⟩, none] ∧
      Upholds (perform wrappingTicks) Possible Agenda.spec Represents schedulerInit .initial
        debounced :=
  ⟨by decide, perform_upholds roundsDown_wrappingTicks (by decide)⟩

/-- The shortest delay that the conversion takes for none. -/
theorem wrapped_timerPeriod : ¬∀ pdMsToTicks, RoundsDown pdMsToTicks → ∀ actions,
    Upholds (perform pdMsToTicks) Possible Agenda.spec Represents schedulerInit .initial
      actions := by
  intro always
  have upheld := always _ roundsDown_wrappingTicks [.set 1 0 0 42949673]
  have allowed : Agenda.initial.Allowed (.set 1 0 0 42949673) := by
    refine ⟨by decide, by decide, ?_⟩
    decide
  obtain ⟨next, called, ran, -⟩ := upheld.2 trivial allowed
  have stopped : perform wrappingTicks schedulerInit (.set 1 0 0 42949673) =
      .error (.assertion .timerPeriod) := by decide
  rw [stopped] at ran
  cases ran

end EsInverter.Scheduler
