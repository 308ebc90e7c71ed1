import Mathlib

/-!
# The button driver

`iot_button.c` for the one button of the device, as `button_init` sets it up:
without power saving, and with one callback for each of the events it listens
to.  One step is one call of `button_handler` by the periodic timer.
-/

set_option autoImplicit false

namespace EsInverter.Button

/-- `CONFIG_BUTTON_PERIOD_TIME_MS` -/
def ticksInterval : UInt32 := 5

/-- `CONFIG_BUTTON_DEBOUNCE_TICKS` -/
def debounceTicks : Nat := 2

/-- `SERIAL_TICKS`, from `CONFIG_BUTTON_LONG_PRESS_HOLD_SERIAL_TIME_MS` -/
def serialTicks : UInt32 := 20 / ticksInterval

/-- `TOLERANCE` -/
def tolerance : Nat := ticksInterval.toNat * 4

/-- `TIME_TO_TICKS` -/
def timeToTicks (time configTime : UInt32) : UInt32 :=
  if time = 0 then configTime
  else if time / ticksInterval ≠ 0 then time / ticksInterval
  else 1

/-- `CONFIG_BUTTON_SHORT_PRESS_TIME_MS` and `CONFIG_BUTTON_LONG_PRESS_TIME_MS` -/
def shortPressTimeMs : UInt32 := 700
def longPressTimeMs : UInt32 := 3000

/-- What `iot_button_create` makes of the configuration. -/
def shortPressTicks : UInt32 := timeToTicks shortPressTimeMs (shortPressTimeMs / ticksInterval)
def longPressTicks : UInt32 := timeToTicks longPressTimeMs (longPressTimeMs / ticksInterval)

/-- `CONFIG_EM_BUTTON_MULTIPLE_CLICKS_NUM` -/
def multipleClicksNum : UInt8 := 3

/-- `button_event_t` -/
inductive ButtonEvent
  | pressDown
  | pressUp
  | pressRepeat
  | pressRepeatDone
  | singleClick
  | doubleClick
  | multipleClick
  | longPressStart
  | longPressHold
  | longPressUp
  | pressEnd
  | eventMax
  | nonePress
  deriving DecidableEq, Repr

/-- The values of `state`. -/
inductive PressState
  | pressDownCheck
  | pressUpCheck
  | pressRepeatDownCheck
  | pressRepeatUpCheck
  | pressLongPressUpCheck
  deriving DecidableEq, Repr

/-- `button_dev_t` -/
structure ButtonDev where
  ticks : UInt32
  longPressHoldCnt : UInt32
  repeats : UInt8
  state : PressState
  /-- Four bits. -/
  debounceCnt : Nat
  /-- The level is `BUTTON_ACTIVE`. -/
  buttonLevel : Bool
  event : ButtonEvent
  /-- `count[0]` -/
  count : Nat
  deriving DecidableEq, Repr

/-- `iot_button_create` and the registrations. -/
def ButtonDev.initial : ButtonDev :=
  { ticks := 0, longPressHoldCnt := 0, repeats := 0, state := .pressDownCheck, debounceCnt := 0,
    buttonLevel := false, event := .nonePress, count := 0 }

/-- The events `button_init` registers a callback for. -/
def Registered : ButtonEvent → Bool
  | .pressDown | .singleClick | .doubleClick | .longPressStart | .longPressHold
  | .multipleClick => true
  | _ => false

/-- `CALL_EVENT_CB`: the event that the callbacks find. -/
def callEventCb (event : ButtonEvent) : List ButtonEvent := if Registered event then [event] else []

namespace ButtonDev

/-- `iot_button_get_ticks_time` -/
def ticksTime (btn : ButtonDev) : UInt32 := btn.ticks * ticksInterval

/-- The time is near the press time of the only entry of `cb_info[BUTTON_LONG_PRESS_START]`. -/
def nearLongPress (btn : ButtonDev) : Bool :=
  (btn.ticksTime - longPressTimeMs).toBitVec.toInt.natAbs ≤ tolerance

def debounce (btn : ButtonDev) (readGpioLevel : Bool) : ButtonDev :=
  if readGpioLevel ≠ btn.buttonLevel then
    let debounceCnt := (btn.debounceCnt + 1) % 16
    if debounceCnt ≥ debounceTicks then { btn with buttonLevel := readGpioLevel, debounceCnt := 0 }
    else { btn with debounceCnt }
  else { btn with debounceCnt := 0 }

/-- What `button_handler` does ahead of its state machine. -/
def sampled (btn : ButtonDev) (readGpioLevel : Bool) : ButtonDev :=
  (if btn.state ≠ .pressDownCheck then { btn with ticks := btn.ticks + 1 } else btn).debounce
    readGpioLevel

def pressDownCheck (btn : ButtonDev) : ButtonDev × List ButtonEvent :=
  if btn.buttonLevel then
    ({ btn with event := .pressDown, ticks := 0, repeats := 1, state := .pressUpCheck },
      callEventCb .pressDown)
  else ({ btn with event := .nonePress }, [])

def pressUpCheck (btn : ButtonDev) : ButtonDev × List ButtonEvent :=
  if ¬ btn.buttonLevel then
    ({ btn with event := .pressUp, ticks := 0, state := .pressRepeatDownCheck },
      callEventCb .pressUp)
  else if btn.ticks ≥ longPressTicks then
    let btn := { btn with event := .longPressStart, state := .pressLongPressUpCheck }
    if btn.count = 0 ∧ btn.nearLongPress then
      ({ btn with count := btn.count + 1 }, [.longPressStart])
    else (btn, [])
  else (btn, [])

/-- The click events of a burst of presses that ended. -/
def clicks (repeats : UInt8) : List ButtonEvent :=
  (if repeats = 1 then callEventCb .singleClick
    else if repeats = 2 then callEventCb .doubleClick else []) ++
    if repeats = multipleClicksNum then [.multipleClick] else []

def pressRepeatDownCheck (btn : ButtonDev) : ButtonDev × List ButtonEvent :=
  if btn.buttonLevel then
    ({ btn with
        event := .pressRepeat, repeats := btn.repeats + 1, ticks := 0
        state := .pressRepeatUpCheck },
      callEventCb .pressDown ++ callEventCb .pressRepeat)
  else if btn.ticks > shortPressTicks then
    ({ btn with event := .pressEnd, repeats := 0, state := .pressDownCheck },
      clicks btn.repeats ++ callEventCb .pressRepeatDone ++ callEventCb .pressEnd)
  else (btn, [])

def pressRepeatUpCheck (btn : ButtonDev) : ButtonDev × List ButtonEvent :=
  if ¬ btn.buttonLevel then
    if btn.ticks < shortPressTicks then
      ({ btn with event := .pressUp, ticks := 0, state := .pressRepeatDownCheck },
        callEventCb .pressUp)
    else
      ({ btn with event := .pressEnd, state := .pressDownCheck },
        callEventCb .pressUp ++ callEventCb .pressEnd)
  else (btn, [])

def pressLongPressUpCheck (btn : ButtonDev) : ButtonDev × List ButtonEvent :=
  if btn.buttonLevel then
    let (btn, held) :=
      if btn.ticks ≥ (btn.longPressHoldCnt + 1) * serialTicks + longPressTicks then
        ({ btn with event := .longPressHold, longPressHoldCnt := btn.longPressHoldCnt + 1 },
          callEventCb .longPressHold)
      else (btn, [])
    -- With `count[0]` at the end of `cb_info` its entry is read behind the array, and not used.
    if btn.count < 1 ∧ btn.nearLongPress then
      ({ btn with event := .longPressStart, count := btn.count + 1 }, held ++ [.longPressStart])
    else (btn, held)
  else
    ({ btn with event := .pressEnd, count := 0, state := .pressDownCheck, longPressHoldCnt := 0 },
      callEventCb .pressUp ++ callEventCb .pressEnd)

/-- `button_handler` of the driver, with the events of the callbacks it makes. -/
def handler (btn : ButtonDev) (readGpioLevel : Bool) : ButtonDev × List ButtonEvent :=
  let btn := btn.sampled readGpioLevel
  match btn.state with
  | .pressDownCheck => btn.pressDownCheck
  | .pressUpCheck => btn.pressUpCheck
  | .pressRepeatDownCheck => btn.pressRepeatDownCheck
  | .pressRepeatUpCheck => btn.pressRepeatUpCheck
  | .pressLongPressUpCheck => btn.pressLongPressUpCheck

/-! ### What one call does -/

/-- What the state machine finds of the call before. -/
structure Carries (btn now : ButtonDev) : Prop where
  state : now.state = btn.state
  repeats : now.repeats = btn.repeats
  count : now.count = btn.count
  longPressHoldCnt : now.longPressHoldCnt = btn.longPressHoldCnt
  ticks : btn.state ≠ .pressDownCheck → now.ticks = btn.ticks + 1

theorem debounce_eq (btn : ButtonDev) (readGpioLevel : Bool) :
    ∃ buttonLevel debounceCnt,
      btn.debounce readGpioLevel = { btn with buttonLevel, debounceCnt } := by
  unfold debounce
  split
  · dsimp only
    split
    · exact ⟨_, _, rfl⟩
    · exact ⟨_, _, rfl⟩
  · exact ⟨_, _, rfl⟩

theorem carries_sampled (btn : ButtonDev) (readGpioLevel : Bool) :
    Carries btn (btn.sampled readGpioLevel) := by
  unfold sampled
  split
  case isTrue active =>
    obtain ⟨_, _, same⟩ := debounce_eq { btn with ticks := btn.ticks + 1 } readGpioLevel
    rw [same]
    exact ⟨rfl, rfl, rfl, rfl, fun _ => rfl⟩
  case isFalse idle =>
    obtain ⟨_, _, same⟩ := debounce_eq btn readGpioLevel
    rw [same]
    exact ⟨rfl, rfl, rfl, rfl, fun active => absurd active idle⟩

/-- The driver counts a long press only while it lasts, and has called back for its start. -/
structure Wf (btn : ButtonDev) : Prop where
  count : btn.count = if btn.state = .pressLongPressUpCheck then 1 else 0
  unheld : btn.state ≠ .pressLongPressUpCheck → btn.longPressHoldCnt = 0
  early : btn.state = .pressUpCheck → btn.ticks < longPressTicks

theorem wf_initial : Wf .initial := ⟨rfl, fun _ => rfl, fun _ => by decide⟩

/-- The steps of the state machine, with their callbacks. -/
inductive Moves (btn next : ButtonDev) : List ButtonEvent → Prop
  | idle (was : btn.state = .pressDownCheck) (is : next.state = .pressDownCheck) : Moves btn next []
  | down (was : btn.state = .pressDownCheck) (is : next.state = .pressUpCheck)
      (level : next.buttonLevel = true) (ticks : next.ticks = 0) (repeats : next.repeats = 1) :
      Moves btn next [.pressDown]
  | stay (was : btn.state = .pressUpCheck) (is : next.state = .pressUpCheck)
      (level : next.buttonLevel = true) (ticks : next.ticks = btn.ticks + 1)
      (repeats : next.repeats = btn.repeats) : Moves btn next []
  | long (was : btn.state = .pressUpCheck) (is : next.state = .pressLongPressUpCheck)
      (level : next.buttonLevel = true) (ticks : next.ticks = btn.ticks + 1)
      (enough : longPressTicks ≤ next.ticks) (fresh : next.longPressHoldCnt = 0)
      (repeats : next.repeats = btn.repeats) : Moves btn next [.longPressStart]
  | held (was : btn.state = .pressLongPressUpCheck) (is : next.state = .pressLongPressUpCheck)
      (level : next.buttonLevel = true) (ticks : next.ticks = btn.ticks + 1)
      (same : next.longPressHoldCnt = btn.longPressHoldCnt)
      (repeats : next.repeats = btn.repeats) : Moves btn next []
  | hold (was : btn.state = .pressLongPressUpCheck) (is : next.state = .pressLongPressUpCheck)
      (level : next.buttonLevel = true) (ticks : next.ticks = btn.ticks + 1)
      (enough : (btn.longPressHoldCnt + 1) * serialTicks + longPressTicks ≤ next.ticks)
      (repeats : next.repeats = btn.repeats) : Moves btn next [.longPressHold]
  | up (was : btn.state = .pressUpCheck ∨ btn.state = .pressRepeatUpCheck)
      (is : next.state = .pressRepeatDownCheck) (repeats : next.repeats = btn.repeats) :
      Moves btn next []
  | released (was : btn.state = .pressLongPressUpCheck ∨ btn.state = .pressRepeatUpCheck)
      (is : next.state = .pressDownCheck) : Moves btn next []
  | again (was : btn.state = .pressRepeatDownCheck) (is : next.state = .pressRepeatUpCheck)
      (repeats : next.repeats = btn.repeats + 1) : Moves btn next [.pressDown]
  | gap (was : btn.state = .pressRepeatDownCheck) (is : next.state = .pressRepeatDownCheck)
      (repeats : next.repeats = btn.repeats) : Moves btn next []
  | ended (was : btn.state = .pressRepeatDownCheck) (is : next.state = .pressDownCheck) :
      Moves btn next (clicks btn.repeats)
  | repeatHeld (was : btn.state = .pressRepeatUpCheck) (is : next.state = .pressRepeatUpCheck)
      (repeats : next.repeats = btn.repeats) : Moves btn next []

/-- Where a long press starts, the ticks stand exactly at its time. -/
theorem eq_longPressTicks {ticks : UInt32} (early : ticks < longPressTicks)
    (enough : longPressTicks ≤ ticks + 1) : ticks + 1 = longPressTicks := by
  have limit : longPressTicks = 600 := rfl
  rw [limit] at early enough ⊢
  grind

theorem nearLongPress_of_eq {btn : ButtonDev} (ticks : btn.ticks = longPressTicks) :
    btn.nearLongPress = true := by
  rw [nearLongPress, ticksTime, ticks]
  decide

section Checks

variable {btn now next : ButtonDev} {calls : List ButtonEvent}

theorem pressDownCheck_moves (carries : Carries btn now) (wf : Wf btn)
    (was : btn.state = .pressDownCheck) (handled : now.pressDownCheck = (next, calls)) :
    Moves btn next calls ∧ Wf next := by
  have count : now.count = 0 := by rw [carries.count, wf.count, was]; rfl
  have unheld : now.longPressHoldCnt = 0 :=
    carries.longPressHoldCnt.trans (wf.unheld (by rw [was]; decide))
  rw [pressDownCheck] at handled
  split at handled
  case isTrue pressed =>
    cases handled
    have early : (0 : UInt32) < longPressTicks := by decide
    exact ⟨.down was rfl pressed rfl rfl, count, fun _ => unheld, fun _ => early⟩
  case isFalse =>
    cases handled
    have is : now.state = .pressDownCheck := carries.state.trans was
    refine ⟨.idle was is, ?_, fun _ => unheld, fun wrong => ?_⟩
    · simpa [is] using count
    · exact absurd (is.symm.trans wrong) (by decide)

theorem pressUpCheck_moves (carries : Carries btn now) (wf : Wf btn)
    (was : btn.state = .pressUpCheck) (handled : now.pressUpCheck = (next, calls)) :
    Moves btn next calls ∧ Wf next := by
  have count : now.count = 0 := by rw [carries.count, wf.count, was]; rfl
  have unheld : now.longPressHoldCnt = 0 :=
    carries.longPressHoldCnt.trans (wf.unheld (by rw [was]; decide))
  have ticks : now.ticks = btn.ticks + 1 := carries.ticks (by rw [was]; decide)
  have is : now.state = .pressUpCheck := carries.state.trans was
  rw [pressUpCheck] at handled
  split at handled
  case isTrue =>
    cases handled
    exact ⟨.up (.inl was) rfl carries.repeats, count, fun _ => unheld, fun wrong => by cases wrong⟩
  case isFalse level =>
    rw [Bool.not_eq_true, Bool.not_eq_false] at level
    split at handled
    case isTrue enough =>
      have exactly : now.ticks = longPressTicks := by
        rw [ticks]
        exact eq_longPressTicks (wf.early was) (ticks ▸ enough)
      have called : now.count = 0 ∧ now.nearLongPress = true :=
        ⟨count, nearLongPress_of_eq exactly⟩
      dsimp only at handled
      split at handled
      case isTrue =>
        cases handled
        refine ⟨.long was rfl level ticks enough unheld carries.repeats, ?_, ?_, ?_⟩
        · simp [count]
        · exact fun wrong => absurd rfl wrong
        · exact fun wrong => by cases wrong
      case isFalse never => exact absurd called never
    case isFalse more =>
      cases handled
      refine ⟨.stay was is level ticks carries.repeats, ?_, fun _ => unheld, fun _ => ?_⟩
      · simpa [is] using count
      · exact UInt32.not_le.mp more

theorem pressRepeatDownCheck_moves (carries : Carries btn now) (wf : Wf btn)
    (was : btn.state = .pressRepeatDownCheck)
    (handled : now.pressRepeatDownCheck = (next, calls)) : Moves btn next calls ∧ Wf next := by
  have count : now.count = 0 := by rw [carries.count, wf.count, was]; rfl
  have unheld : now.longPressHoldCnt = 0 :=
    carries.longPressHoldCnt.trans (wf.unheld (by rw [was]; decide))
  have is : now.state = .pressRepeatDownCheck := carries.state.trans was
  rw [pressRepeatDownCheck] at handled
  split at handled
  case isTrue =>
    cases handled
    refine ⟨.again was rfl ?_, count, fun _ => unheld, fun wrong => by cases wrong⟩
    exact congrArg (· + 1) carries.repeats
  case isFalse =>
    split at handled
    case isTrue =>
      cases handled
      have called : clicks now.repeats ++ callEventCb .pressRepeatDone ++ callEventCb .pressEnd =
          clicks btn.repeats := by
        rw [carries.repeats]
        exact (List.append_nil _).trans (List.append_nil _)
      rw [called]
      exact ⟨.ended was rfl, count, fun _ => unheld, fun wrong => by cases wrong⟩
    case isFalse =>
      cases handled
      refine ⟨.gap was is carries.repeats, ?_, fun _ => unheld, fun wrong => ?_⟩
      · simpa [is] using count
      · exact absurd (is.symm.trans wrong) (by decide)

theorem pressRepeatUpCheck_moves (carries : Carries btn now) (wf : Wf btn)
    (was : btn.state = .pressRepeatUpCheck) (handled : now.pressRepeatUpCheck = (next, calls)) :
    Moves btn next calls ∧ Wf next := by
  have count : now.count = 0 := by rw [carries.count, wf.count, was]; rfl
  have unheld : now.longPressHoldCnt = 0 :=
    carries.longPressHoldCnt.trans (wf.unheld (by rw [was]; decide))
  have is : now.state = .pressRepeatUpCheck := carries.state.trans was
  rw [pressRepeatUpCheck] at handled
  split at handled
  case isTrue =>
    split at handled
    case isTrue =>
      cases handled
      exact ⟨.up (.inr was) rfl carries.repeats, count, fun _ => unheld,
        fun wrong => by cases wrong⟩
    case isFalse =>
      cases handled
      exact ⟨.released (.inr was) rfl, count, fun _ => unheld, fun wrong => by cases wrong⟩
  case isFalse =>
    cases handled
    refine ⟨.repeatHeld was is carries.repeats, ?_, fun _ => unheld, fun wrong => ?_⟩
    · simpa [is] using count
    · exact absurd (is.symm.trans wrong) (by decide)

theorem pressLongPressUpCheck_moves (carries : Carries btn now) (wf : Wf btn)
    (was : btn.state = .pressLongPressUpCheck)
    (handled : now.pressLongPressUpCheck = (next, calls)) : Moves btn next calls ∧ Wf next := by
  have count : now.count = 1 := by rw [carries.count, wf.count, was]; rfl
  have ticks : now.ticks = btn.ticks + 1 := carries.ticks (by rw [was]; decide)
  have is : now.state = .pressLongPressUpCheck := carries.state.trans was
  have later : ¬ now.count < 1 := by omega
  rw [pressLongPressUpCheck] at handled
  split at handled
  case isTrue level =>
    by_cases enough : now.ticks ≥ (now.longPressHoldCnt + 1) * serialTicks + longPressTicks
    · simp only [enough, later, if_true, false_and, if_false] at handled
      cases handled
      rw [carries.longPressHoldCnt] at enough
      refine ⟨.hold was is level ticks enough carries.repeats, ?_, ?_, ?_⟩
      · simpa [is] using count
      · exact fun wrong => absurd is wrong
      · exact fun wrong => absurd (is.symm.trans wrong) (by decide)
    · simp only [enough, later, if_false, false_and] at handled
      cases handled
      refine ⟨.held was is level ticks carries.longPressHoldCnt carries.repeats, ?_, ?_, ?_⟩
      · simpa [is] using count
      · exact fun wrong => absurd is wrong
      · exact fun wrong => absurd (is.symm.trans wrong) (by decide)
  case isFalse =>
    cases handled
    exact ⟨.released (.inl was) rfl, rfl, fun _ => rfl, fun wrong => by cases wrong⟩

end Checks

theorem handler_moves {btn next : ButtonDev} {readGpioLevel : Bool} {calls : List ButtonEvent}
    (wf : Wf btn) (handled : btn.handler readGpioLevel = (next, calls)) :
    Moves btn next calls ∧ Wf next := by
  have carries := carries_sampled btn readGpioLevel
  rw [handler] at handled
  cases was : btn.state with
  | pressDownCheck =>
      rw [carries.state.trans was] at handled
      exact pressDownCheck_moves carries wf was handled
  | pressUpCheck =>
      rw [carries.state.trans was] at handled
      exact pressUpCheck_moves carries wf was handled
  | pressRepeatDownCheck =>
      rw [carries.state.trans was] at handled
      exact pressRepeatDownCheck_moves carries wf was handled
  | pressRepeatUpCheck =>
      rw [carries.state.trans was] at handled
      exact pressRepeatUpCheck_moves carries wf was handled
  | pressLongPressUpCheck =>
      rw [carries.state.trans was] at handled
      exact pressLongPressUpCheck_moves carries wf was handled

/-- The click events that a burst of so many presses makes. -/
theorem clicks_cases (repeats : UInt8) :
    clicks repeats = [] ∨ clicks repeats = [.singleClick] ∨ clicks repeats = [.doubleClick] ∨
      (clicks repeats = [.multipleClick] ∧ repeats = multipleClicksNum) := by
  by_cases one : repeats = 1
  · subst one
    exact .inr (.inl rfl)
  by_cases two : repeats = 2
  · subst two
    exact .inr (.inr (.inl rfl))
  by_cases three : repeats = multipleClicksNum
  · subst three
    exact .inr (.inr (.inr ⟨rfl, rfl⟩))
  · exact .inl (by simp [clicks, one, two, three])

/-- No more than one callback is made in a call. -/
theorem Moves.few {btn next : ButtonDev} {calls : List ButtonEvent} (moves : Moves btn next calls) :
    calls = [] ∨ ∃ evt, calls = [evt] := by
  cases moves with
  | idle | stay | held | up | released | gap | repeatHeld => exact .inl rfl
  | down | long | hold | again => exact .inr ⟨_, rfl⟩
  | ended =>
      rcases clicks_cases btn.repeats with none_ | one | two | ⟨three, -⟩
      · exact .inl none_
      · exact .inr ⟨_, one⟩
      · exact .inr ⟨_, two⟩
      · exact .inr ⟨_, three⟩

theorem Moves.of_longPressHold {btn next : ButtonDev} {calls : List ButtonEvent}
    (moves : Moves btn next calls) (held : .longPressHold ∈ calls) :
    btn.state = .pressLongPressUpCheck ∧ next.buttonLevel = true ∧ next.ticks = btn.ticks + 1 ∧
      (btn.longPressHoldCnt + 1) * serialTicks + longPressTicks ≤ next.ticks := by
  cases moves with
  | hold was is level ticks enough repeats => exact ⟨was, level, ticks, enough⟩
  | ended =>
      rcases clicks_cases btn.repeats with none_ | one | two | ⟨three, -⟩
      · rw [none_] at held
        cases held
      · rw [one] at held
        exact absurd held (by decide)
      · rw [two] at held
        exact absurd held (by decide)
      · rw [three] at held
        exact absurd held (by decide)
  | _ => exact absurd held (by decide)

theorem Moves.of_multipleClick {btn next : ButtonDev} {calls : List ButtonEvent}
    (moves : Moves btn next calls) (clicked : .multipleClick ∈ calls) :
    btn.state = .pressRepeatDownCheck ∧ btn.repeats = multipleClicksNum := by
  cases moves with
  | ended was is =>
      rcases clicks_cases btn.repeats with none_ | one | two | ⟨-, three⟩
      · rw [none_] at clicked
        cases clicked
      · rw [one] at clicked
        exact absurd clicked (by decide)
      · rw [two] at clicked
        exact absurd clicked (by decide)
      · exact ⟨was, three⟩
  | _ => exact absurd clicked (by decide)

end ButtonDev

end EsInverter.Button
