import EsInverter.Fault
import Mathlib

/-!
# The scheduler

A fixed number of entries, each with a one-shot timer of its own.  The handles of
the timers are created at the start and stay; the time is the tick count, and a
timer that runs is represented by the tick at which it expires.  `pdMS_TO_TICKS`
is a parameter: the kernel documents it for delays whose product with the tick
rate fits in its type, and the scheduler passes on any delay.
-/

set_option autoImplicit false

namespace EsInverter.Scheduler

/-- `CONFIG_EM_SCHEDULER_MAX_ENTRIES` -/
def maxEntries : Nat := 12

/-- `CONFIG_FREERTOS_HZ` -/
def freertosHz : Nat := 100

/-- The whole ticks of a delay. -/
def wholeTicks (delayMs : UInt32) : Nat := delayMs.toNat * freertosHz / 1000

/-- The product of a delay with the tick rate fits in `TickType_t`. -/
def Convertible (delayMs : UInt32) : Prop := delayMs.toNat * freertosHz < 2 ^ 32

instance (delayMs : UInt32) : Decidable (Convertible delayMs) := Nat.decLt _ _

/-- What the kernel documents of `pdMS_TO_TICKS`. -/
def RoundsDown (pdMsToTicks : UInt32 → Nat) : Prop :=
  ∀ delayMs, Convertible delayMs → pdMsToTicks delayMs = wholeTicks delayMs

/-- A conversion in `TickType_t`. -/
def wrappingTicks (delayMs : UInt32) : Nat := (delayMs * UInt32.ofNat freertosHz / 1000).toNat

/-- `cb_msg_t`, with its pointers as addresses. -/
structure CbMsg where
  param : UInt32
  userCtx : UInt32
  cb : UInt32
  deriving DecidableEq, Repr

/-- `scheduler_entry_t` -/
structure Entry where
  timer : Option Nat
  scheduled : Bool
  msg : CbMsg
  deriving DecidableEq, Repr

structure State where
  entries : List Entry
  now : Nat
  deriving DecidableEq, Repr

def Entry.cleared (entry : Entry) : Entry :=
  { entry with timer := none, scheduled := false, msg := ⟨0, 0, 0⟩ }

def clearEntry (entryIdx : Nat) (state : State) : State :=
  { state with entries := state.entries.modify entryIdx Entry.cleared }

/-- `find_entry`; `ENTRY_NOT_FOUND` is `none`. -/
def findEntry (cb : UInt32) (state : State) : Option Nat :=
  state.entries.findIdx? fun entry => entry.scheduled && entry.msg.cb == cb

/-- The timer is stopped and started again with the new period. -/
def Entry.rescheduled (param userCtx : UInt32) (expiry : Nat) (entry : Entry) : Entry :=
  { entry with timer := some expiry, msg := { entry.msg with param, userCtx } }

/-- `xTimerChangePeriod` and `xTimerStart`: the tick at which the timer expires. -/
def startTimer (period now : Nat) : Except Fault Nat :=
  if period = 0 then .error (.assertion .timerPeriod) else .ok (now + period)

section

variable (pdMsToTicks : UInt32 → Nat)

def rescheduleEntry (param userCtx delayMs : UInt32) (idx : Nat) (state : State) :
    Except Fault State := do
  let expiry ← startTimer (pdMsToTicks delayMs) state.now
  return { state with entries := state.entries.modify idx (Entry.rescheduled param userCtx expiry) }

/-- The loop of `schedule_entry` up to the entry it takes. -/
def freeEntry (cb : UInt32) : List Entry → Nat → Except Fault Nat
  | [], _ => .error (.assertion .entryStarted)
  | entry :: rest, i =>
      if entry.scheduled then
        if entry.msg.cb = cb then .error (.assertion .entryOtherCb) else freeEntry cb rest (i + 1)
      else .ok i

def scheduleEntry (cb param userCtx delayMs : UInt32) (state : State) : Except Fault State := do
  let i ← freeEntry cb state.entries 0
  let expiry ← startTimer (pdMsToTicks delayMs) state.now
  let entry : Entry := { timer := some expiry, scheduled := true, msg := { param, userCtx, cb } }
  return { state with entries := state.entries.set i entry }

/-- `callback_wrapper` behind its wait for `scheduler_mtx`, up to the call of the callback that it
returns. -/
def callbackWrapper (idx : Nat) (state : State) : Except Fault (State × CbMsg) :=
  if maxEntries ≤ idx then .error (.assertion .entryIdx)
  else
    match state.entries[idx]? with
    | none => .error .outOfBounds
    | some entry =>
        if !entry.scheduled then .error (.assertion .entryScheduled)
        else if entry.msg.cb = 0 then .error (.assertion .entryCb)
        else .ok (clearEntry idx state, entry.msg)

def schedulerCancelCallback (cb : UInt32) (state : State) : State :=
  match findEntry cb state with
  | none => state
  | some idx => clearEntry idx state

/-- The least delay that is not zero ticks. -/
def scaled (delayMs : UInt32) : UInt32 :=
  if delayMs.toNat < 1000 / freertosHz then UInt32.ofNat (1000 / freertosHz) else delayMs

/-- `scheduler_set_callback`, with the callback that it calls from the caller's task. -/
def schedulerSetCallback (cb param userCtx delayMs : UInt32) (state : State) :
    Except Fault (State × Option CbMsg) :=
  if cb = 0 then .error (.assertion .schedulerCb)
  else if delayMs = 0 then .ok (state, some { param, userCtx, cb })
  else
    match findEntry cb state with
    | none => do
        let state ← scheduleEntry pdMsToTicks cb param userCtx (scaled delayMs) state
        return (state, none)
    | some idx => do
        let state ← rescheduleEntry pdMsToTicks param userCtx (scaled delayMs) idx state
        return (state, none)

end

/-- `scheduler_init` -/
def schedulerInit : State :=
  { entries := List.replicate maxEntries
      { timer := none, scheduled := false, msg := ⟨0, 0, 0⟩ },
    now := 0 }

/-! ### The searches -/

/-- An entry of the table. -/
def EntryAt (entries : List Entry) (idx : Nat) (entry : Entry) : Prop := entries[idx]? = some entry

theorem findEntry_some {cb : UInt32} {state : State} {idx : Nat}
    (found : findEntry cb state = some idx) :
    ∃ entry, EntryAt state.entries idx entry ∧ entry.scheduled = true ∧ entry.msg.cb = cb := by
  rw [findEntry, List.findIdx?_eq_some_iff_getElem] at found
  obtain ⟨inside, matched, -⟩ := found
  rw [Bool.and_eq_true, beq_iff_eq] at matched
  exact ⟨state.entries[idx], List.getElem?_eq_getElem inside, matched.1, matched.2⟩

theorem findEntry_none {cb : UInt32} {state : State} (missing : findEntry cb state = none)
    {idx : Nat} {entry : Entry} (at_ : EntryAt state.entries idx entry)
    (scheduled : entry.scheduled = true) : entry.msg.cb ≠ cb := by
  rw [findEntry, List.findIdx?_eq_none_iff] at missing
  intro same
  have unmatched := missing entry (List.mem_of_getElem? at_)
  simp [scheduled, same] at unmatched

/-- A callback that is not scheduled gets the first free entry, if there is one. -/
theorem freeEntry_cases {cb : UInt32} {entries : List Entry} (start : Nat)
    (other : ∀ entry ∈ entries, entry.scheduled = true → entry.msg.cb ≠ cb) :
    (freeEntry cb entries start = .error (.assertion .entryStarted) ∧
        ∀ entry ∈ entries, entry.scheduled = true) ∨
      ∃ idx entry, freeEntry cb entries start = .ok (start + idx) ∧ EntryAt entries idx entry ∧
        entry.scheduled = false := by
  induction entries generalizing start with
  | nil => exact .inl ⟨rfl, List.forall_mem_nil _⟩
  | cons entry rest ih =>
      obtain ⟨headOther, restOther⟩ := List.forall_mem_cons.mp other
      cases scheduled : entry.scheduled with
      | false => exact .inr ⟨0, entry, by simp [freeEntry, scheduled], rfl, scheduled⟩
      | true =>
          rw [freeEntry, if_pos scheduled, if_neg (headOther scheduled)]
          rcases ih (start + 1) restOther with ⟨full, taken⟩ | ⟨idx, free, found, at_, unscheduled⟩
          · exact .inl ⟨full, List.forall_mem_cons.mpr ⟨scheduled, taken⟩⟩
          · refine .inr ⟨idx + 1, free, ?_, at_, unscheduled⟩
            rw [found]
            congr 1
            omega

/-! ### One entry at a time -/

variable {entries : List Entry} {idx place : Nat} {entry new : Entry}

theorem entryAt_length (at_ : EntryAt entries idx entry) : idx < entries.length :=
  (List.getElem?_eq_some_iff.mp at_).1

/-- An entry of the changed table is the new one or was there before. -/
theorem entryAt_set (at_ : EntryAt (entries.set place new) idx entry) :
    (place = idx ∧ entry = new) ∨ (place ≠ idx ∧ EntryAt entries idx entry) := by
  by_cases same : place = idx
  · subst same
    have inside : place < entries.length := by simpa using entryAt_length at_
    rw [EntryAt, List.getElem?_set_self inside] at at_
    exact .inl ⟨rfl, (Option.some.inj at_).symm⟩
  · rw [EntryAt, List.getElem?_set_ne same] at at_
    exact .inr ⟨same, at_⟩

theorem entryAt_set_ne (away : place ≠ idx) (at_ : EntryAt entries idx entry) :
    EntryAt (entries.set place new) idx entry := by
  rw [EntryAt, List.getElem?_set_ne away]
  exact at_

theorem entryAt_set_self (inside : idx < entries.length) : EntryAt (entries.set idx new) idx new :=
  List.getElem?_set_self inside

theorem modify_eq_set (at_ : EntryAt entries idx entry) (change : Entry → Entry) :
    entries.modify idx change = entries.set idx (change entry) := by
  apply List.ext_getElem?
  intro other
  rw [List.getElem?_modify]
  by_cases same : idx = other
  · subst same
    rw [List.getElem?_set_self (entryAt_length at_), at_]
    simp
  · rw [List.getElem?_set_ne same]
    simp [same]

/-! ### What the functions do -/

variable {state next : State} {cb param userCtx delayMs : UInt32}

theorem clearEntry_eq (at_ : EntryAt state.entries idx entry) :
    clearEntry idx state = { state with entries := state.entries.set idx entry.cleared } := by
  rw [clearEntry, modify_eq_set at_]

/-- The ends of `scheduler_set_callback`; `period` is what `pdMS_TO_TICKS` gives for the delay. -/
inductive SetTurn (state : State) (cb param userCtx delayMs : UInt32) (period : Nat) :
    Except Fault (State × Option CbMsg) → Prop
  | null (absent : cb = 0) :
      SetTurn state cb param userCtx delayMs period (.error (.assertion .schedulerCb))
  | immediate (present : cb ≠ 0) (now : delayMs = 0) :
      SetTurn state cb param userCtx delayMs period (.ok (state, some { param, userCtx, cb }))
  | full (missing : findEntry cb state = none)
      (taken : ∀ entry ∈ state.entries, entry.scheduled = true) :
      SetTurn state cb param userCtx delayMs period (.error (.assertion .entryStarted))
  | stuck (later : delayMs ≠ 0) (empty : period = 0) :
      SetTurn state cb param userCtx delayMs period (.error (.assertion .timerPeriod))
  | added (present : cb ≠ 0) (later : delayMs ≠ 0) (missing : findEntry cb state = none) (idx : Nat)
      (before : Entry) (at_ : EntryAt state.entries idx before) (free : before.scheduled = false) :
      SetTurn state cb param userCtx delayMs period
        (.ok ({ state with
          entries := state.entries.set idx
            { timer := some (state.now + period), scheduled := true,
              msg := { param, userCtx, cb } } }, none))
  | retimed (later : delayMs ≠ 0) (idx : Nat) (before : Entry) (found : findEntry cb state = some idx)
      (at_ : EntryAt state.entries idx before) (scheduled : before.scheduled = true)
      (same : before.msg.cb = cb) :
      SetTurn state cb param userCtx delayMs period
        (.ok ({ state with
          entries := state.entries.set idx
            (before.rescheduled param userCtx (state.now + period)) }, none))

theorem schedulerSetCallback_turn (pdMsToTicks : UInt32 → Nat) (state : State)
    (cb param userCtx delayMs : UInt32) :
    SetTurn state cb param userCtx delayMs (pdMsToTicks (scaled delayMs))
      (schedulerSetCallback pdMsToTicks cb param userCtx delayMs state) := by
  rw [schedulerSetCallback]
  by_cases absent : cb = 0
  · rw [if_pos absent]
    exact .null absent
  rw [if_neg absent]
  by_cases now : delayMs = 0
  · rw [if_pos now]
    exact .immediate absent now
  rw [if_neg now]
  cases found : findEntry cb state with
  | none =>
      have other : ∀ entry ∈ state.entries, entry.scheduled = true → entry.msg.cb ≠ cb := by
        intro entry inside scheduled
        obtain ⟨idx, at_⟩ := List.mem_iff_getElem?.mp inside
        exact findEntry_none found at_ scheduled
      rcases freeEntry_cases 0 other with ⟨full, taken⟩ | ⟨idx, before, found', at_, free⟩
      · simp only [scheduleEntry, full]
        exact .full found taken
      · rw [Nat.zero_add] at found'
        simp only [scheduleEntry, found', startTimer, bind, Except.bind]
        by_cases empty : pdMsToTicks (scaled delayMs) = 0
        · rw [if_pos empty]
          exact .stuck now empty
        · rw [if_neg empty]
          exact .added absent now found idx before at_ free
  | some idx =>
      obtain ⟨before, at_, scheduled, same⟩ := findEntry_some found
      simp only [rescheduleEntry, startTimer, bind, Except.bind]
      by_cases empty : pdMsToTicks (scaled delayMs) = 0
      · rw [if_pos empty]
        exact .stuck now empty
      · rw [if_neg empty]
        dsimp only
        rw [modify_eq_set at_]
        exact .retimed now idx before found at_ scheduled same

/-- The ends of `scheduler_cancel_callback`. -/
theorem schedulerCancelCallback_cases (state : State) (cb : UInt32) :
    (findEntry cb state = none ∧ schedulerCancelCallback cb state = state) ∨
      ∃ idx before, findEntry cb state = some idx ∧ EntryAt state.entries idx before ∧
        before.scheduled = true ∧ before.msg.cb = cb ∧
        schedulerCancelCallback cb state =
          { state with entries := state.entries.set idx before.cleared } := by
  rw [schedulerCancelCallback]
  cases found : findEntry cb state with
  | none => exact .inl ⟨rfl, rfl⟩
  | some idx =>
      obtain ⟨before, at_, scheduled, same⟩ := findEntry_some found
      exact .inr ⟨idx, before, rfl, at_, scheduled, same, clearEntry_eq at_⟩

/-- An expiry of a scheduled entry hands over its message and clears it. -/
theorem callbackWrapper_ok (inside : idx < maxEntries) (at_ : EntryAt state.entries idx entry)
    (scheduled : entry.scheduled = true) (named : entry.msg.cb ≠ 0) :
    callbackWrapper idx state =
      .ok ({ state with entries := state.entries.set idx entry.cleared }, entry.msg) := by
  have found : state.entries[idx]? = some entry := at_
  rw [callbackWrapper, if_neg (Nat.not_le.mpr inside), found, ← clearEntry_eq at_]
  simp [scheduled, named]

/-- The same of an entry that has just been replaced. -/
theorem callbackWrapper_set (inside : idx < maxEntries) (at_ : EntryAt state.entries idx entry)
    (scheduled : new.scheduled = true) (named : new.msg.cb ≠ 0) :
    ∃ after, callbackWrapper idx { state with entries := state.entries.set idx new } =
      .ok (after, new.msg) ∧ after.now = state.now :=
  ⟨_, callbackWrapper_ok inside (entryAt_set_self (entryAt_length at_)) scheduled named, rfl⟩

theorem callbackWrapper_unscheduled (inside : idx < maxEntries)
    (at_ : EntryAt state.entries idx entry) (free : entry.scheduled = false) :
    callbackWrapper idx state = .error (.assertion .entryScheduled) := by
  have found : state.entries[idx]? = some entry := at_
  rw [callbackWrapper, if_neg (Nat.not_le.mpr inside), found]
  simp [free]

/-! ### Delays in ticks -/

theorem wholeTicks_scaled (delayMs : UInt32) :
    wholeTicks (scaled delayMs) = max 1 (wholeTicks delayMs) := by
  rw [wholeTicks, scaled, freertosHz]
  split
  · next small =>
      rw [wholeTicks, freertosHz, Nat.max_eq_left (by omega)]
      rfl
  · next large =>
      rw [wholeTicks, freertosHz, Nat.max_eq_right (by omega)]

/-- The least delay is one tick. -/
theorem wholeTicks_scaled_pos (delayMs : UInt32) : 0 < wholeTicks (scaled delayMs) := by
  rw [wholeTicks_scaled]
  exact lt_max_of_lt_left Nat.zero_lt_one

theorem Convertible.scaled {delayMs : UInt32} (convertible : Convertible delayMs) :
    Convertible (scaled delayMs) := by
  rw [Scheduler.scaled]
  split
  · decide
  · exact convertible

theorem RoundsDown.ticks {pdMsToTicks : UInt32 → Nat} (rounds : RoundsDown pdMsToTicks)
    {delayMs : UInt32} (convertible : Convertible delayMs) :
    pdMsToTicks (scaled delayMs) = wholeTicks (scaled delayMs) := rounds _ convertible.scaled

theorem roundsDown_wrappingTicks : RoundsDown wrappingTicks := by
  intro delayMs convertible
  rw [Convertible, freertosHz] at convertible
  rw [wrappingTicks, wholeTicks, freertosHz, UInt32.toNat_div, UInt32.toNat_mul]
  have fits : delayMs.toNat * (UInt32.ofNat 100).toNat % 2 ^ 32 = delayMs.toNat * 100 :=
    Nat.mod_eq_of_lt convertible
  rw [fits]
  rfl

/-- The table between two calls: an entry that is not scheduled has no timer running, and no
callback is scheduled twice. -/
structure Tabled (state : State) : Prop where
  length : state.entries.length = maxEntries
  free : ∀ {idx entry}, EntryAt state.entries idx entry → entry.scheduled = false →
    entry.timer = none
  named : ∀ {idx entry}, EntryAt state.entries idx entry → entry.scheduled = true →
    entry.msg.cb ≠ 0
  distinct : ∀ {idx other entry second}, EntryAt state.entries idx entry →
    EntryAt state.entries other second → entry.scheduled = true → second.scheduled = true →
    entry.msg.cb = second.msg.cb → idx = other

theorem Tabled.inside (tabled : Tabled state) (at_ : EntryAt state.entries idx entry) :
    idx < maxEntries := by
  rw [← tabled.length]
  exact entryAt_length at_

theorem tabled_schedulerInit : Tabled schedulerInit where
  length := List.length_replicate
  free := by
    intro idx entry at_ _
    rw [List.eq_of_mem_replicate (List.mem_of_getElem? at_)]
  named := by
    intro idx entry at_ scheduled
    rw [List.eq_of_mem_replicate (List.mem_of_getElem? at_)] at scheduled
    cases scheduled
  distinct := by
    intro idx other entry second at_ _ scheduled
    rw [List.eq_of_mem_replicate (List.mem_of_getElem? at_)] at scheduled
    cases scheduled

/-- One entry is replaced. -/
theorem Tabled.set (tabled : Tabled state) (free : new.scheduled = false → new.timer = none)
    (named : new.scheduled = true → new.msg.cb ≠ 0)
    (fresh : new.scheduled = true → ∀ {other second}, EntryAt state.entries other second →
      second.scheduled = true → second.msg.cb = new.msg.cb → other = place) :
    Tabled { state with entries := state.entries.set place new } where
  length := by rw [List.length_set, tabled.length]
  free := by
    intro idx entry at_ unscheduled
    rcases entryAt_set at_ with ⟨_, rfl⟩ | ⟨_, before⟩
    · exact free unscheduled
    · exact tabled.free before unscheduled
  named := by
    intro idx entry at_ scheduled
    rcases entryAt_set at_ with ⟨_, rfl⟩ | ⟨_, before⟩
    · exact named scheduled
    · exact tabled.named before scheduled
  distinct := by
    intro idx other entry second at_ secondAt scheduled secondScheduled same
    rcases entryAt_set at_ with ⟨rfl, rfl⟩ | ⟨_, before⟩
    · rcases entryAt_set secondAt with ⟨rfl, _⟩ | ⟨_, secondBefore⟩
      · rfl
      · exact (fresh scheduled secondBefore secondScheduled same.symm).symm
    · rcases entryAt_set secondAt with ⟨rfl, rfl⟩ | ⟨_, secondBefore⟩
      · exact fresh secondScheduled before scheduled same
      · exact tabled.distinct before secondBefore scheduled secondScheduled same

theorem Tabled.clear (tabled : Tabled state) (place : Nat) (entry : Entry) :
    Tabled { state with entries := state.entries.set place entry.cleared } :=
  tabled.set (fun _ => rfl) (by intro h; cases h) (by intro h; cases h)

theorem Tabled.add (tabled : Tabled state) (present : cb ≠ 0)
    (missing : findEntry cb state = none) (place expiry : Nat) :
    Tabled { state with
      entries := state.entries.set place
        { timer := some expiry, scheduled := true, msg := { param, userCtx, cb } } } :=
  tabled.set (by intro h; cases h) (fun _ => present) fun _ _ _ at_ scheduled same =>
    absurd same (findEntry_none missing at_ scheduled)

theorem Tabled.retime (tabled : Tabled state) (at_ : EntryAt state.entries idx entry)
    (scheduled : entry.scheduled = true) (expiry : Nat) :
    Tabled { state with
      entries := state.entries.set idx (entry.rescheduled param userCtx expiry) } := by
  refine tabled.set ?_ ?_ ?_
  · intro unscheduled
    have kept : entry.scheduled = false := unscheduled
    rw [scheduled] at kept
    cases kept
  · intro _
    have named : entry.msg.cb ≠ 0 := tabled.named at_ scheduled
    exact named
  · intro _ other second secondAt secondScheduled same
    exact tabled.distinct secondAt at_ secondScheduled scheduled same

end EsInverter.Scheduler
