import EsInverter.Button.Driver
import EsInverter.Lib.Since
import EsInverter.Lib.Transition

/-!
# Button gestures and the factory reset

`button.c` makes gestures of the driver's events, and `sys_evt.c` acts on them.
The factory reset is asked for by three clicks and a very long press: this is
what a run of samples looks like when it is.
-/

set_option autoImplicit false

namespace EsInverter.Button

open Lib

/-- `CONFIG_EM_BUTTON_VERY_LONG_PRESS_TIME_MS` -/
def veryLongPressTimeMs : UInt32 := 8000

/-- `CONFIG_EM_BUTTON_BREAK_TIME_MAX_MS` -/
def breakTimeMaxMs : UInt32 := 2000

/-- `button_event_action_t` -/
inductive ButtonAction
  | noPress
  | click1x
  | longPress1x
  | click2x
  | click3x
  | short3xLong1x
  | short3xVeryLong1x
  deriving DecidableEq, Repr

/-- The `static` variables of `button_handler` in `button.c`. -/
structure Gesture where
  evtPrevious : ButtonEvent
  tsPressed : UInt32
  tsBreak : UInt32
  deriving DecidableEq, Repr

def Gesture.initial : Gesture := ⟨.nonePress, 0, 0⟩

/-- `button_handler` of `button.c`, with the action it posts. -/
def buttonHandler (gesture : Gesture) (evt : ButtonEvent) (ts : UInt32) :
    Gesture × Option ButtonAction :=
  if evt = .pressDown then
    let gesture := { gesture with tsPressed := ts }
    if gesture.evtPrevious = .multipleClick ∧ gesture.tsPressed - gesture.tsBreak > breakTimeMaxMs
    then ({ gesture with evtPrevious := .nonePress }, none)
    else (gesture, none)
  else if evt = .singleClick then ({ gesture with evtPrevious := evt }, some .click1x)
  else if evt = .doubleClick then ({ gesture with evtPrevious := evt }, some .click2x)
  else if evt = .multipleClick then
    ({ gesture with tsBreak := ts, evtPrevious := evt }, some .click3x)
  else if gesture.evtPrevious = .multipleClick ∧ evt = .longPressStart then
    (gesture, some .short3xLong1x)
  else if gesture.evtPrevious = .multipleClick ∧ evt = .longPressHold then
    if gesture.tsPressed + veryLongPressTimeMs < ts then
      ({ gesture with evtPrevious := evt }, some .short3xVeryLong1x)
    else (gesture, none)
  else if gesture.evtPrevious ≠ .multipleClick ∧ evt = .longPressStart then
    ({ gesture with evtPrevious := evt }, some .longPress1x)
  else ({ gesture with evtPrevious := evt }, none)

/-- The callbacks of one call of the driver. -/
def notify (gesture : Gesture) (ts : UInt32) : List ButtonEvent → Gesture × List ButtonAction
  | [] => (gesture, [])
  | evt :: rest =>
      let (gesture, action) := buttonHandler gesture evt ts
      let (gesture, actions) := notify gesture ts rest
      (gesture, action.toList ++ actions)

/-- What `button_event_handler` does. -/
inductive Reaction
  /-- `delayed_esp_factory_reset` is scheduled, and the server is told. -/
  | factoryReset
  | bleProvStart
  deriving DecidableEq, Repr

/-- `button_event_handler` of `sys_evt.c` -/
def buttonEventHandler (updateInProgress : Bool) : ButtonAction → Option Reaction
  | .short3xVeryLong1x => some .factoryReset
  | .click2x => none
  | .click3x => if updateInProgress then none else some .bleProvStart
  | _ => none

section Events

variable {gesture : Gesture} {evt : ButtonEvent} {ts : UInt32}

theorem tsPressed_buttonHandler :
    (buttonHandler gesture evt ts).1.tsPressed =
      if evt = .pressDown then ts else gesture.tsPressed := by
  cases evt <;> simp only [buttonHandler, reduceCtorEq, if_true, if_false] <;> split_ifs <;> rfl

theorem tsBreak_buttonHandler :
    (buttonHandler gesture evt ts).1.tsBreak =
      if evt = .multipleClick then ts else gesture.tsBreak := by
  cases evt <;> simp only [buttonHandler, reduceCtorEq, if_true, if_false] <;> split_ifs <;> rfl

/-- The three clicks are remembered behind an event. -/
theorem evtPrevious_buttonHandler_iff :
    (buttonHandler gesture evt ts).1.evtPrevious = .multipleClick ↔
      evt = .multipleClick ∨ (gesture.evtPrevious = .multipleClick ∧
        ((evt = .pressDown ∧ ts - gesture.tsBreak ≤ breakTimeMaxMs) ∨ evt = .longPressStart ∨
          (evt = .longPressHold ∧ ¬ gesture.tsPressed + veryLongPressTimeMs < ts))) := by
  cases evt with
  | pressDown =>
      simp only [buttonHandler, reduceCtorEq, if_true, false_or, or_false, true_and, false_and,
        ← UInt32.not_lt]
      split <;> simp_all
  | longPressStart | longPressHold =>
      simp only [buttonHandler, reduceCtorEq, if_false, false_or, true_and, false_and, or_false]
      split_ifs <;> simp_all
  | _ => simp [buttonHandler]

theorem veryLong_buttonHandler_iff :
    .short3xVeryLong1x ∈ (buttonHandler gesture evt ts).2.toList ↔
      evt = .longPressHold ∧ gesture.evtPrevious = .multipleClick ∧
        gesture.tsPressed + veryLongPressTimeMs < ts := by
  cases evt with
  | pressDown => simp [buttonHandler, apply_ite]
  | longPressStart | longPressHold =>
      simp only [buttonHandler, reduceCtorEq, if_false, true_and, false_and, and_true]
      split_ifs <;> simp_all
  | _ => simp [buttonHandler]

end Events

structure State where
  dev : ButtonDev
  gesture : Gesture
  deriving DecidableEq, Repr

def State.initial : State := ⟨.initial, .initial⟩

/-- What one call of the timer reads: the level of the pin, and `esp_log_timestamp`. -/
structure Sample where
  level : Bool
  ts : UInt32
  deriving DecidableEq, Repr

def State.tick (state : State) (sample : Sample) : State × List ButtonAction :=
  let (dev, calls) := state.dev.handler sample.level
  let (gesture, actions) := notify state.gesture sample.ts calls
  (⟨dev, gesture⟩, actions)

def button : Machine State Sample := ⟨fun state sample => some (state.tick sample).1⟩

/-! ### What a step shows -/

/-- A state with the sample taken in it. -/
abbrev Taken : Type := State × Sample

namespace Taken

def next (taken : Taken) : State := (taken.1.tick taken.2).1

/-- The events of the driver. -/
def calls (taken : Taken) : List ButtonEvent := (taken.1.dev.handler taken.2.level).2

def posts (taken : Taken) : List ButtonAction := (taken.1.tick taken.2).2

/-- The button is down behind the debouncing. -/
def Down (taken : Taken) : Prop := taken.next.dev.buttonLevel = true

def Pressed (taken : Taken) : Prop := .pressDown ∈ taken.calls

instance (taken : Taken) : Decidable taken.Pressed := by
  unfold Pressed
  infer_instance

def Clicked (taken : Taken) : Prop := .multipleClick ∈ taken.calls

/-- A step that leaves three clicks standing: no other click, no press too late behind them, and no
very long press that is already reported. -/
structure Keeps (click taken : Taken) : Prop where
  noClick : ∀ evt ∈ taken.calls, evt = .pressDown ∨ evt = .longPressStart ∨ evt = .longPressHold
  soon : taken.Pressed → taken.2.ts - click.2.ts ≤ breakTimeMaxMs
  unreported : .short3xVeryLong1x ∉ taken.posts

/-- A burst of presses begins. -/
def Begins (taken : Taken) : Prop := taken.1.dev.state = .pressDownCheck ∧ taken.Pressed

def Goes (taken : Taken) : Prop := taken.1.dev.state ≠ .pressDownCheck

/-- What a step does to the gesture follows from the one callback made in it. -/
theorem calls_cases {taken : Taken} (wf : taken.1.dev.Wf) :
    (taken.calls = [] ∧ taken.posts = [] ∧ taken.next.gesture = taken.1.gesture) ∨
      ∃ evt, taken.calls = [evt] ∧
        taken.posts = (buttonHandler taken.1.gesture evt taken.2.ts).2.toList ∧
        taken.next.gesture = (buttonHandler taken.1.gesture evt taken.2.ts).1 := by
  have moves := (ButtonDev.handler_moves wf (rfl : _ = (taken.next.dev, taken.calls))).1
  have posts : taken.posts = (notify taken.1.gesture taken.2.ts taken.calls).2 := rfl
  have gesture : taken.next.gesture = (notify taken.1.gesture taken.2.ts taken.calls).1 := rfl
  rcases moves.few with none_ | ⟨evt, one⟩
  · rw [none_] at posts gesture
    exact .inl ⟨none_, posts, gesture⟩
  · rw [one] at posts gesture
    refine .inr ⟨evt, one, ?_, gesture⟩
    rw [posts]
    exact List.append_nil _

theorem pressed_iff {taken : Taken} {evt : ButtonEvent} (one : taken.calls = [evt]) :
    taken.Pressed ↔ evt = .pressDown := by
  rw [Pressed, one, List.mem_singleton, eq_comm]

theorem clicked_iff {taken : Taken} {evt : ButtonEvent} (one : taken.calls = [evt]) :
    taken.Clicked ↔ evt = .multipleClick := by
  rw [Clicked, one, List.mem_singleton, eq_comm]

/-- Three clicks still stand behind a step exactly when it is one that leaves them standing. -/
theorem keeps_iff {click taken : Taken} (wf : taken.1.dev.Wf)
    (armed : taken.1.gesture.evtPrevious = .multipleClick)
    (broken : taken.1.gesture.tsBreak = click.2.ts) :
    Keeps click taken ↔
      taken.next.gesture.evtPrevious = .multipleClick ∧ ¬ taken.Clicked := by
  rcases calls_cases wf with ⟨none_, posts, same⟩ | ⟨evt, one, posts, gesture⟩
  · rw [same, Clicked, none_]
    refine iff_of_true ⟨?_, ?_, ?_⟩ ⟨armed, List.not_mem_nil⟩
    · rw [none_]
      exact fun evt inside => absurd inside List.not_mem_nil
    · rw [Pressed, none_]
      exact fun inside => absurd inside List.not_mem_nil
    · rw [posts]
      exact List.not_mem_nil
  · rw [gesture, evtPrevious_buttonHandler_iff, clicked_iff one, broken]
    constructor
    · rintro ⟨noClick, soon, unreported⟩
      rw [posts, veryLong_buttonHandler_iff] at unreported
      rw [pressed_iff one] at soon
      rcases noClick evt (by rw [one]; exact List.mem_singleton.mpr rfl) with rfl | rfl | rfl
      · exact ⟨.inr ⟨armed, .inl ⟨rfl, soon rfl⟩⟩, by decide⟩
      · exact ⟨.inr ⟨armed, .inr (.inl rfl)⟩, by decide⟩
      · exact ⟨.inr ⟨armed, .inr (.inr ⟨rfl, fun long => unreported ⟨rfl, armed, long⟩⟩)⟩,
          by decide⟩
    · rintro ⟨stands, noClick⟩
      have stands := (stands.resolve_left noClick).2
      refine ⟨?_, fun pressed => ?_, ?_⟩
      · intro other inside
        rw [one, List.mem_singleton] at inside
        rw [inside]
        rcases stands with ⟨rfl, -⟩ | rfl | ⟨rfl, -⟩
        · exact .inl rfl
        · exact .inr (.inl rfl)
        · exact .inr (.inr rfl)
      · rw [pressed_iff one] at pressed
        subst pressed
        rcases stands with ⟨-, soon⟩ | wrong | ⟨wrong, -⟩
        · exact soon
        · cases wrong
        · cases wrong
      · rw [posts, veryLong_buttonHandler_iff]
        rintro ⟨rfl, -, long⟩
        rcases stands with ⟨wrong, -⟩ | wrong | ⟨-, short⟩
        · cases wrong
        · cases wrong
        · exact short long

/-- Three clicks are remembered behind a step that makes them, or had been before it. -/
theorem clicked_or_armed {taken : Taken} (wf : taken.1.dev.Wf)
    (after : taken.next.gesture.evtPrevious = .multipleClick) :
    taken.Clicked ∨ taken.1.gesture.evtPrevious = .multipleClick := by
  rcases calls_cases wf with ⟨-, -, same⟩ | ⟨evt, one, -, gesture⟩
  · exact .inr (same ▸ after)
  · rw [gesture, evtPrevious_buttonHandler_iff] at after
    rw [clicked_iff one]
    exact after.imp_right And.left

end Taken

/-! ### Runs of the gesture -/

open Taken

abbrev NotPressed (_ later : Taken) : Prop := ¬ later.Pressed

/-- What the variables of `button_handler` say about the samples so far. -/
structure Tracks (trace : List Taken) (state : State) : Prop where
  wf : state.dev.Wf
  armed : state.gesture.evtPrevious = .multipleClick →
    ∃ click behind, Since Clicked Keeps trace click behind
  kept {click : Taken} {behind : List Taken} (since : Since Clicked Keeps trace click behind) :
    state.gesture.evtPrevious = .multipleClick ∧ state.gesture.tsBreak = click.2.ts
  pressed {press : Taken} {held : List Taken} (since : Since Pressed NotPressed trace press held) :
    state.gesture.tsPressed = press.2.ts

theorem tracks_initial : Tracks [] .initial where
  wf := ButtonDev.wf_initial
  armed wrong := by cases wrong
  kept since := absurd since Since.not_nil
  pressed since := absurd since Since.not_nil

theorem Tracks.step {trace : List Taken} {taken : Taken} (tracks : Tracks trace taken.1) :
    Tracks (trace ++ [taken]) taken.next where
  wf := (ButtonDev.handler_moves tracks.wf (rfl : _ = (taken.next.dev, taken.calls))).2
  armed after := by
    by_cases clicked : taken.Clicked
    · exact ⟨_, _, Since.here clicked⟩
    · have before := (clicked_or_armed tracks.wf after).resolve_left clicked
      obtain ⟨click, behind, since⟩ := tracks.armed before
      have broken := (tracks.kept since).2
      exact ⟨click, _, since.snoc ((keeps_iff tracks.wf before broken).mpr ⟨after, clicked⟩)⟩
  kept {click behind} since := by
    rcases since.snoc_cases with ⟨rfl, -, clicked⟩ | ⟨earlier, -, before, keeps⟩
    · rcases calls_cases tracks.wf with ⟨none_, -⟩ | ⟨evt, one, -, gesture⟩
      · rw [Clicked, none_] at clicked
        exact absurd clicked List.not_mem_nil
      · obtain rfl := (clicked_iff one).mp clicked
        rw [gesture, tsBreak_buttonHandler, evtPrevious_buttonHandler_iff]
        exact ⟨.inl rfl, rfl⟩
    · obtain ⟨armed, broken⟩ := tracks.kept before
      obtain ⟨after, clicked⟩ := (keeps_iff tracks.wf armed broken).mp keeps
      refine ⟨after, ?_⟩
      rcases calls_cases tracks.wf with ⟨-, -, same⟩ | ⟨evt, one, -, gesture⟩
      · rw [same, broken]
      · rw [gesture, tsBreak_buttonHandler, if_neg ((clicked_iff one).not.mp clicked), broken]
  pressed {press held} since := by
    rcases since.snoc_cases with ⟨rfl, -, pressed⟩ | ⟨earlier, -, before, quiet⟩
    · rcases calls_cases tracks.wf with ⟨none_, -⟩ | ⟨evt, one, -, gesture⟩
      · rw [Pressed, none_] at pressed
        exact absurd pressed List.not_mem_nil
      · rw [gesture, tsPressed_buttonHandler, if_pos ((pressed_iff one).mp pressed)]
    · have earlier := tracks.pressed before
      rcases calls_cases tracks.wf with ⟨-, -, same⟩ | ⟨evt, one, -, gesture⟩
      · rw [same, earlier]
      · rw [gesture, tsPressed_buttonHandler, if_neg ((pressed_iff one).not.mp quiet), earlier]

theorem tracks_run {trace : List Taken} {state : State} (run : button.Run .initial trace state) :
    Tracks trace state := by
  induction run with
  | nil => exact tracks_initial
  | @snoc trace state next sample run stepped ih =>
      cases stepped
      exact Tracks.step ih

/-! ### Runs of the driver -/

abbrev GoesOn (_ later : Taken) : Prop := later.Goes

/-- The driver is in a press that may become a long one. -/
def Pressing (state : PressState) : Prop :=
  state = .pressUpCheck ∨ state = .pressLongPressUpCheck

/-- How long the press has lasted, in calls behind the one that found it. -/
structure Lasts (dev : ButtonDev) (calls : Nat) : Prop where
  short : dev.state = .pressUpCheck → dev.ticks.toNat = calls
  long : dev.state = .pressLongPressUpCheck → 600 ≤ calls ∧
    (calls < 604 → dev.ticks.toNat = calls ∧ dev.longPressHoldCnt = 0)

/-- What the state of the driver says about the samples so far. -/
structure Presses (trace : List Taken) (state : State) : Prop where
  burst : state.dev.state ≠ .pressDownCheck → ∃ first rest, Since Begins GoesOn trace first rest ∧
    state.dev.repeats.toNat = (first :: rest).countP (fun taken => decide taken.Pressed) % 256
  press : Pressing state.dev.state → ∃ press held, Since Pressed NotPressed trace press held ∧
    (∀ taken ∈ press :: held, taken.Down ∧ ¬ taken.Clicked) ∧ Lasts state.dev held.length

section Step

variable {trace : List Taken} {taken : Taken}

/-- A burst of presses that goes on. -/
theorem Presses.burst_snoc (presses : Presses trace taken.1) (goes : taken.Goes)
    (repeats : taken.next.dev.repeats.toNat =
      (taken.1.dev.repeats.toNat + if taken.Pressed then 1 else 0) % 256) :
    ∃ first rest, Since Begins GoesOn (trace ++ [taken]) first rest ∧
      taken.next.dev.repeats.toNat =
        (first :: rest).countP (fun taken => decide taken.Pressed) % 256 := by
  obtain ⟨first, rest, since, counted⟩ := presses.burst goes
  refine ⟨first, _, since.snoc goes, ?_⟩
  rw [repeats, counted, ← List.cons_append, List.countP_append, List.countP_singleton]
  simp

theorem Presses.burst_same (presses : Presses trace taken.1) (goes : taken.Goes)
    (quiet : ¬ taken.Pressed) (repeats : taken.next.dev.repeats = taken.1.dev.repeats) :
    ∃ first rest, Since Begins GoesOn (trace ++ [taken]) first rest ∧
      taken.next.dev.repeats.toNat =
        (first :: rest).countP (fun taken => decide taken.Pressed) % 256 := by
  refine presses.burst_snoc goes ?_
  rw [repeats, if_neg quiet]
  exact (Nat.mod_eq_of_lt (UInt8.toNat_lt _)).symm

/-- A press that goes on. -/
theorem Presses.press_snoc (presses : Presses trace taken.1) (pressing : Pressing taken.1.dev.state)
    (quiet : ¬ taken.Pressed) (down : taken.Down) (noClick : ¬ taken.Clicked)
    (lasts : ∀ calls, Lasts taken.1.dev calls → Lasts taken.next.dev (calls + 1)) :
    ∃ press held, Since Pressed NotPressed (trace ++ [taken]) press held ∧
      (∀ taken ∈ press :: held, taken.Down ∧ ¬ taken.Clicked) ∧
        Lasts taken.next.dev held.length := by
  obtain ⟨press, held, since, all, lasted⟩ := presses.press pressing
  refine ⟨press, _, since.snoc quiet, ?_, ?_⟩
  · intro other inside
    rw [← List.cons_append, List.mem_append, List.mem_singleton] at inside
    rcases inside with earlier | rfl
    · exact all other earlier
    · exact ⟨down, noClick⟩
  · rw [List.length_append]
    exact lasts _ lasted

theorem ticks_succ {ticks : UInt32} {calls : Nat} (same : ticks.toNat = calls)
    (few : calls < 604) : (ticks + 1).toNat = calls + 1 := by
  rw [UInt32.toNat_add, same]
  exact Nat.mod_eq_of_lt (by have : (1 : UInt32).toNat = 1 := rfl; omega)

/-- The first report of a press that is held comes in its 604th call. -/
theorem Lasts.hold {btn : ButtonDev} {ticks : UInt32} {calls : Nat} (lasts : Lasts btn calls)
    (was : btn.state = .pressLongPressUpCheck) (counted : ticks = btn.ticks + 1)
    (enough : (btn.longPressHoldCnt + 1) * serialTicks + longPressTicks ≤ ticks) :
    603 ≤ calls := by
  by_contra few
  obtain ⟨same, fresh⟩ := (lasts.long was).2 (by omega)
  have now := ticks_succ same (by omega)
  rw [fresh, counted, UInt32.le_iff_toNat_le, now] at enough
  have limit : ((0 + 1) * serialTicks + longPressTicks).toNat = 604 := rfl
  omega

/-- A press that lasts one call more. -/
theorem Lasts.step {btn next : ButtonDev} {events : List ButtonEvent} {calls : Nat}
    (lasts : Lasts btn calls) (wf : btn.Wf) (moves : btn.Moves next events)
    (was : Pressing btn.state) (still : Pressing next.state) : Lasts next (calls + 1) := by
  have limit : longPressTicks.toNat = 600 := rfl
  cases moves with
  | stay down is level ticks repeats =>
      have early := UInt32.lt_iff_toNat_lt.mp (wf.early down)
      have same := lasts.short down
      refine ⟨fun _ => ?_, fun wrong => absurd (is.symm.trans wrong) (by decide)⟩
      rw [ticks]
      exact ticks_succ same (by omega)
  | long down is level ticks enough fresh repeats =>
      have early := UInt32.lt_iff_toNat_lt.mp (wf.early down)
      have same := lasts.short down
      have now : next.ticks.toNat = calls + 1 := by
        rw [ticks]
        exact ticks_succ same (by omega)
      have enough := UInt32.le_iff_toNat_le.mp enough
      refine ⟨fun wrong => absurd (is.symm.trans wrong) (by decide), fun _ => ?_⟩
      exact ⟨by omega, fun _ => ⟨now, fresh⟩⟩
  | held long is level ticks same repeats =>
      obtain ⟨started, exactly⟩ := lasts.long long
      refine ⟨fun wrong => absurd (is.symm.trans wrong) (by decide), fun _ => ?_⟩
      refine ⟨by omega, fun few => ?_⟩
      obtain ⟨counted, fresh⟩ := exactly (by omega)
      exact ⟨by rw [ticks]; exact ticks_succ counted (by omega), same.trans fresh⟩
  | hold long is level ticks enough repeats =>
      have many := lasts.hold long ticks enough
      refine ⟨fun wrong => absurd (is.symm.trans wrong) (by decide), fun _ => ?_⟩
      exact ⟨by omega, fun few => by omega⟩
  | idle _ is | released _ is | ended _ is | up _ is | gap _ is | repeatHeld _ is | again _ is =>
      rw [is] at still
      rcases still with wrong | wrong <;> cases wrong
  | down idle =>
      rw [idle] at was
      rcases was with wrong | wrong <;> cases wrong

theorem Presses.step (wf : taken.1.dev.Wf) (presses : Presses trace taken.1) :
    Presses (trace ++ [taken]) taken.next := by
  have moves := (ButtonDev.handler_moves wf (rfl : _ = (taken.next.dev, taken.calls))).1
  have lasting (calls : Nat) (was : Pressing taken.1.dev.state)
      (still : Pressing taken.next.dev.state) (lasts : Lasts taken.1.dev calls) :
      Lasts taken.next.dev (calls + 1) := lasts.step wf moves was still
  generalize called : taken.calls = calls at moves
  have pressed : taken.Pressed ↔ .pressDown ∈ calls := by rw [Pressed, called]
  have clicked : taken.Clicked ↔ .multipleClick ∈ calls := by rw [Clicked, called]
  cases moves with
  | idle was is | released was is | ended was is =>
      refine ⟨fun active => absurd is active, fun pressing => ?_⟩
      rw [is] at pressing
      rcases pressing with wrong | wrong <;> cases wrong
  | down was is level ticks repeats =>
      have now : taken.Pressed := by rw [pressed]; decide
      refine ⟨fun _ => ⟨taken, [], Since.here ⟨was, now⟩, ?_⟩, fun _ =>
        ⟨taken, [], Since.here now, fun other inside => ?_, ?_⟩⟩
      · rw [repeats]
        simp [now]
      · rw [List.mem_singleton.mp inside, clicked]
        exact ⟨level, by decide⟩
      · refine ⟨fun _ => by rw [ticks]; rfl, fun wrong => ?_⟩
        exact absurd (is.symm.trans wrong) (by decide)
  | stay was is level ticks repeats | long was is level ticks enough fresh repeats =>
      have quiet : ¬ taken.Pressed := by rw [pressed]; decide
      have noClick : ¬ taken.Clicked := by rw [clicked]; decide
      have goes : taken.Goes := by rw [Goes, was]; decide
      exact ⟨fun _ => presses.burst_same goes quiet repeats, fun still =>
        presses.press_snoc (.inl was) quiet level noClick (lasting · (.inl was) still)⟩
  | held was is level ticks same repeats | hold was is level ticks enough repeats =>
      have quiet : ¬ taken.Pressed := by rw [pressed]; decide
      have noClick : ¬ taken.Clicked := by rw [clicked]; decide
      have goes : taken.Goes := by rw [Goes, was]; decide
      exact ⟨fun _ => presses.burst_same goes quiet repeats, fun still =>
        presses.press_snoc (.inr was) quiet level noClick (lasting · (.inr was) still)⟩
  | again was is repeats =>
      have now : taken.Pressed := by rw [pressed]; decide
      refine ⟨fun _ => presses.burst_snoc (by rw [Goes, was]; decide) ?_, fun pressing => ?_⟩
      · rw [repeats, if_pos now, UInt8.toNat_add]
        rfl
      · rw [is] at pressing
        rcases pressing with wrong | wrong <;> cases wrong
  | up was is repeats =>
      have quiet : ¬ taken.Pressed := by rw [pressed]; decide
      have goes : taken.Goes := by rcases was with was | was <;> rw [Goes, was] <;> decide
      refine ⟨fun _ => presses.burst_same goes quiet repeats, fun pressing => ?_⟩
      rw [is] at pressing
      rcases pressing with wrong | wrong <;> cases wrong
  | gap was is repeats | repeatHeld was is repeats =>
      have quiet : ¬ taken.Pressed := by rw [pressed]; decide
      have goes : taken.Goes := by rw [Goes, was]; decide
      refine ⟨fun _ => presses.burst_same goes quiet repeats, fun pressing => ?_⟩
      rw [is] at pressing
      rcases pressing with wrong | wrong <;> cases wrong

end Step

theorem presses_initial : Presses [] .initial where
  burst active := absurd rfl active
  press pressing := by rcases pressing with wrong | wrong <;> cases wrong

theorem presses_run {trace : List Taken} {state : State} (run : button.Run .initial trace state) :
    Presses trace state := by
  induction run with
  | nil => exact presses_initial
  | @snoc trace state next sample run stepped ih =>
      cases stepped
      exact Presses.step (tracks_run run).wf ih

/-! ### The factory reset -/

/-- What a run is behind which the factory reset is asked for: a burst of three presses, counted
modulo 256, makes the driver report three clicks; no other click is reported and no press begins
later than the break allows; and the last press is held, longer than the very long press by the
timestamps as they are compared, modulo 2^32. -/
structure ResetGesture (trace : List Taken) (now click press : Taken) (behind held : List Taken) :
    Prop where
  clicked : Since Clicked Keeps trace click behind
  presses : ∃ before first rest, trace = before ++ click :: behind ∧
    Since Begins GoesOn before first rest ∧
    (first :: rest).countP (fun taken => decide taken.Pressed) % 256 = multipleClicksNum.toNat
  pressed : Since Pressed NotPressed behind press held
  down : ∀ taken ∈ press :: held ++ [now], taken.Down
  many : 603 ≤ held.length
  holds : .longPressHold ∈ now.calls
  long : press.2.ts + veryLongPressTimeMs < now.2.ts

theorem factoryReset_mem_iff {actions : List ButtonAction} {updateInProgress : Bool} :
    .factoryReset ∈ actions.filterMap (buttonEventHandler updateInProgress) ↔
      .short3xVeryLong1x ∈ actions := by
  rw [List.mem_filterMap]
  constructor
  · rintro ⟨action, inside, reacts⟩
    cases action with
    | short3xVeryLong1x => exact inside
    | click3x =>
        rw [buttonEventHandler] at reacts
        split at reacts <;> cases reacts
    | noPress | click1x | longPress1x | click2x | short3xLong1x => cases reacts
  · exact fun inside => ⟨_, inside, rfl⟩

/-- Three presses lie behind three clicks. -/
theorem presses_of_clicked {trace behind : List Taken} {state : State} {click : Taken}
    (run : button.Run .initial trace state) (since : Since Clicked Keeps trace click behind) :
    ∃ before first rest, trace = before ++ click :: behind ∧
      Since Begins GoesOn before first rest ∧
      (first :: rest).countP (fun taken => decide taken.Pressed) % 256 =
        multipleClicksNum.toNat := by
  obtain ⟨⟨before, rfl⟩, clicked, -⟩ := since
  obtain ⟨next, run, -, -⟩ := run.at_
  have moves := (ButtonDev.handler_moves (tracks_run run).wf
    (rfl : _ = (click.next.dev, click.calls))).1
  obtain ⟨was, three⟩ := moves.of_multipleClick clicked
  obtain ⟨first, rest, since, counted⟩ := (presses_run run).burst (by rw [was]; decide)
  exact ⟨before, first, rest, rfl, since, by rw [← counted, three]⟩

/-- The driver is in a press when it reports that the button is held. -/
theorem held_of_longPressHold {trace : List Taken} {taken : Taken}
    (presses : Presses trace taken.1) (wf : taken.1.dev.Wf) (holds : .longPressHold ∈ taken.calls) :
    ∃ press held, Since Pressed NotPressed trace press held ∧
      (∀ other ∈ press :: held, ¬ other.Clicked) ∧
      (∀ other ∈ press :: held ++ [taken], other.Down) ∧ 603 ≤ held.length := by
  have moves := (ButtonDev.handler_moves wf (rfl : _ = (taken.next.dev, taken.calls))).1
  obtain ⟨was, level, ticks, enough⟩ := moves.of_longPressHold holds
  obtain ⟨press, held, since, all, lasts⟩ := presses.press (.inr was)
  refine ⟨press, held, since, fun other inside => (all other inside).2, fun other inside => ?_,
    lasts.hold was ticks enough⟩
  rcases List.mem_append.mp inside with earlier | now
  · exact (all other earlier).1
  · rw [List.mem_singleton.mp now]
    exact level

/-- The factory reset is asked for in a step exactly behind such a run. -/
theorem factoryReset_iff {trace : List Taken} {state : State}
    (run : button.Run .initial trace state) (sample : Sample) (updateInProgress : Bool) :
    .factoryReset ∈ (posts (state, sample)).filterMap (buttonEventHandler updateInProgress) ↔
      ∃ click press behind held, ResetGesture trace (state, sample) click press behind held := by
  have tracks := tracks_run run
  rw [factoryReset_mem_iff]
  constructor
  · intro reported
    rcases @calls_cases (state, sample) tracks.wf with ⟨-, none_, -⟩ | ⟨evt, one, posts, -⟩
    · rw [none_] at reported
      cases reported
    · rw [posts, veryLong_buttonHandler_iff] at reported
      obtain ⟨rfl, armed, long⟩ := reported
      have holds : .longPressHold ∈ calls (state, sample) := by
        rw [one]
        exact List.mem_singleton.mpr rfl
      obtain ⟨click, behind, clicked⟩ := tracks.armed armed
      obtain ⟨press, held, pressed, apart, down, many⟩ :=
        @held_of_longPressHold trace (state, sample) (presses_run run) tracks.wf holds
      rw [tracks.pressed pressed] at long
      exact ⟨click, press, behind, held, clicked, presses_of_clicked run clicked,
        clicked.inner pressed apart, down, many, holds, long⟩
  · rintro ⟨click, press, behind, held, gesture⟩
    have armed := (tracks.kept gesture.clicked).1
    have since := tracks.pressed (gesture.clicked.outer gesture.pressed)
    have holds := gesture.holds
    rcases @calls_cases (state, sample) tracks.wf with ⟨none_, -⟩ | ⟨evt, one, posts, -⟩
    · rw [none_] at holds
      cases holds
    · rw [one, List.mem_singleton] at holds
      subst holds
      rw [posts, veryLong_buttonHandler_iff]
      exact ⟨rfl, armed, since ▸ gesture.long⟩

/-- Three short presses, a pause, and a press that is held. -/
def resetLevels (held : Nat) : List Bool :=
  (List.replicate 3 (List.replicate 4 true ++ List.replicate 4 false)).flatten ++
    List.replicate 150 false ++ List.replicate held true

/-- The levels at one sample in 5 ms. -/
def resetSamples (held : Nat) : List Sample :=
  (resetLevels held).zipIdx.map fun sample => ⟨sample.1, 5 * UInt32.ofNat sample.2⟩

def heldState : State :=
  ⟨⟨1603, 250, 1, .pressLongPressUpCheck, 0, true, .longPressHold, 1⟩, ⟨.multipleClick, 875, 810⟩⟩

set_option maxRecDepth 10000 in
theorem factoryReset_iff_resetSamples :
    ∃ click press behind held, ResetGesture (button.tracing .initial (resetSamples 1605))
      (heldState, ⟨true, 8895⟩) click press behind held := by
  have executed : button.exec .initial (resetSamples 1605) = some heldState := by decide +kernel
  exact (factoryReset_iff (Machine.run_of_exec executed) ⟨true, 8895⟩ false).mp (by decide)

/-- Where the timestamps do not wrap, a reset is not asked for before its time. -/
theorem ResetGesture.late {trace behind held : List Taken} {now click press : Taken}
    (gesture : ResetGesture trace now click press behind held) {pressedAt heldAt : Nat}
    (pressed : press.2.ts = UInt32.ofNat pressedAt) (heard : now.2.ts = UInt32.ofNat heldAt)
    (later : pressedAt ≤ heldAt) (unwrapped : pressedAt % 2 ^ 32 + 8000 < 2 ^ 32) :
    pressedAt + 8000 < heldAt := by
  have long := UInt32.lt_iff_toNat_lt.mp gesture.long
  rw [pressed, heard, UInt32.toNat_add, UInt32.toNat_ofNat', UInt32.toNat_ofNat'] at long
  have limit : veryLongPressTimeMs.toNat = 8000 := rfl
  omega

-- Where they wrap, three seconds are enough.
example : (buttonHandler ⟨.multipleClick, 4294963296, 4294963000⟩ .longPressHold 4294966316).2 =
    some .short3xVeryLong1x := by decide

end EsInverter.Button
