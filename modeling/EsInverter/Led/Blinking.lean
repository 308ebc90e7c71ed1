import EsInverter.Lib.Alternation
import EsInverter.Lib.Transition
import EsInverter.Led.Scene

/-!
# Blink bursts

One flag serves the counters of two scenes.  A trigger of a blinking scene sets the flag for the
counter that it starts, so that a counter left at an odd number resumes with the flag turned
around; bursts are well formed as long as no trigger meets one.
-/

set_option autoImplicit false

namespace EsInverter.Led

open Lib

inductive Event
  | trigger (scene : Scene)
  | execute
  deriving DecidableEq, Repr

namespace Player

/-- The scheduled `change_led_state` runs. -/
def execute (player : Player) : Option Player :=
  player.scheduled.map fun param => changeLedState param player

def onceLeft (player : Player) : Nat := player.active.once.remainingToggles.toNat

def periodicLeft (player : Player) : Nat := player.active.periodic.remainingToggles.toNat

/-- The once scene if it has toggles left, else the periodic one. -/
def played (player : Player) : ActiveScene :=
  if 0 < player.onceLeft then player.active.once else player.active.periodic

end Player

def step (player : Player) : Event → Option Player
  | .trigger scene => (ledSceneTrigger scene player).toOption
  | .execute => player.execute

def scenes : Machine Player Event := ⟨step⟩

/-- The time that is left before a run with the given parameter toggles a periodic scene. -/
def ActiveScene.elapsed (param : UInt32) (active : ActiveScene) : ActiveScene :=
  if 0 < active.remainingTime then
    { active with remainingTime := (active.remainingTime.toUInt32 - param).toInt32 }
  else active

/-- A run with the given parameter toggles the LED for the scene that is played. -/
def Toggles (player : Player) (param : UInt32) : Prop :=
  0 < player.onceLeft ∨
    0 < player.periodicLeft ∧ ¬ 0 < (player.active.periodic.elapsed param).remainingTime

instance (player : Player) (param : UInt32) : Decidable (Toggles player param) :=
  inferInstanceAs (Decidable (_ ∨ _ ∧ ¬ _))

/-! ### Well-formed bursts -/

/-- The next toggle finds the flag set exactly if the toggles left are even. -/
def WellFormed (player : Player) : Prop :=
  ∀ param, player.scheduled = some param → Toggles player param →
    InStep player.active.rqLedOn player.played.remainingToggles.toNat

/-- The toggles among the calls: whether each switches the LED on. -/
def switches (calls : List LedCall) : List Bool :=
  calls.filterMap fun call =>
    match call with
    | .on => some true
    | .off => some false
    | .setColor _ | .setBrightness _ => none

/-- What is left of the burst that is played, run without a trigger and behind one more wait at
most: the LED is switched on for half of the toggles, `repeats` times in a whole burst, and off at
last. -/
def Finishes (player : Player) : Prop :=
  let left := player.played.remainingToggles.toNat
  0 < left → ∃ waits final calls, waits ≤ 1 ∧
    scenes.exec player (List.replicate (waits + left) .execute) = some final ∧
    final.calls = player.calls ++ calls ∧ (switches calls).length = left ∧
    (switches calls).count true = left / 2 ∧
    (left = 2 * player.played.scene.blink.repeats.toNat →
      (switches calls).count true = player.played.scene.blink.repeats.toNat) ∧
    (switches calls).getLast? = some false

/-- No trigger leaves a counter that will be played later at an odd number. -/
def Clear (player : Player) : Event → Prop
  | .trigger scene =>
      (scene.type = SceneType.blinkOnce → player.periodicLeft % 2 = 0) ∧
      (scene.type = SceneType.blinkPeriodic → player.onceLeft % 2 = 0) ∧
      (scene.type = SceneType.clearOnce → player.onceLeft % 2 = 0 ∨ player.periodicLeft = 0)
  | .execute => True

instance (player : Player) : (event : Event) → Decidable (Clear player event)
  | .trigger _ => inferInstanceAs (Decidable (_ ∧ _ ∧ _))
  | .execute => inferInstanceAs (Decidable True)

/-! ### One execution -/

variable {player next : Player} {param : UInt32}

theorem not_lt_zero_iff {count : UInt32} : ¬ 0 < count ↔ count.toNat = 0 := by
  rw [UInt32.not_lt, UInt32.le_iff_toNat_le, UInt32.toNat_zero, Nat.le_zero]

theorem lt_zero_iff {count : UInt32} : 0 < count ↔ 0 < count.toNat := by
  rw [UInt32.lt_iff_toNat_lt, UInt32.toNat_zero]

theorem toNat_sub_one {count : UInt32} (positive : 0 < count.toNat) :
    (count - 1).toNat = count.toNat - 1 := by
  rw [UInt32.toNat_sub_of_le _ _ (by rw [UInt32.le_iff_toNat_le]; exact positive)]
  rfl

/-- Twice a number of repeats is no overflow. -/
theorem toNat_twice (repeats : UInt16) : (2 * repeats.toUInt32).toNat = 2 * repeats.toNat := by
  have small := repeats.toNat_lt
  rw [UInt32.toNat_mul, UInt16.toNat_toUInt32]
  change 2 * repeats.toNat % 2 ^ 32 = 2 * repeats.toNat
  omega

/-- A whole burst is an even number of toggles. -/
theorem even_twice (repeats : UInt16) : (2 * repeats.toUInt32).toNat % 2 = 0 := by
  rw [toNat_twice, Nat.mul_mod_right]

@[simp]
theorem remainingToggles_elapsed (active : ActiveScene) (param : UInt32) :
    (active.elapsed param).remainingToggles = active.remainingToggles := by
  rw [ActiveScene.elapsed]
  split <;> rfl

/-- The end of `change_led_state`: the next change comes after the time of a phase, which is never
`UINT32_MAX`. -/
theorem toggle_eq (player : Player) (phase : UInt16) :
    player.toggle phase.toUInt32 =
      { active := { player.active with rqLedOn := !player.active.rqLedOn }
        scheduled := some phase.toUInt32
        calls := player.calls ++ [if player.active.rqLedOn then .on else .off] } := by
  have small := phase.toNat_lt
  have finite : phase.toUInt32 ≠ 0xFFFFFFFF := by
    intro same
    have equal := congrArg UInt32.toNat same
    rw [UInt16.toNat_toUInt32] at equal
    change phase.toNat = 4294967295 at equal
    omega
  rw [Player.toggle, if_neg finite]
  rfl

theorem nextChangeTime_phase (player : Player) (scene : Scene) :
    ∃ phase : UInt16, player.nextChangeTime scene = phase.toUInt32 := by
  rw [Player.nextChangeTime]
  split
  · exact ⟨_, rfl⟩
  · exact ⟨_, rfl⟩

/-- What an execution does to the flag, the counters, the schedule and the switches. -/
structure Toggled (player next : Player) : Prop where
  flag : next.active.rqLedOn = !player.active.rqLedOn
  scheduled : next.scheduled.isSome = true
  calls : ∃ calls, next.calls = player.calls ++ calls ∧
    switches calls = [player.active.rqLedOn]

theorem changeLedState_once (param : UInt32) (left : 0 < player.onceLeft) :
    ∃ phase : UInt16, changeLedState param player =
      { active := { player.active with
          rqLedOn := !player.active.rqLedOn
          once := { player.active.once with
            remainingToggles := player.active.once.remainingToggles - 1 }
          periodic := player.active.periodic.elapsed param }
        scheduled := some phase.toUInt32
        calls := player.calls ++ [.setColor player.active.once.scene.color,
          .setBrightness player.active.once.scene.brightness] ++
          [if player.active.rqLedOn then .on else .off] } := by
  obtain ⟨phase, time⟩ := nextChangeTime_phase
    (Player.call { player with
      active := { player.active with periodic := player.active.periodic.elapsed param }
      scheduled := none }
      [.setColor player.active.once.scene.color,
        .setBrightness player.active.once.scene.brightness]) player.active.once.scene
  refine ⟨phase, ?_⟩
  unfold changeLedState
  dsimp only
  rw [if_pos (lt_zero_iff.mpr left), ← ActiveScene.elapsed, time, toggle_eq]
  rfl

/-- A toggle of the periodic scene; the last one starts its next period. -/
def ActiveScene.advanced (next : UInt32) (active : ActiveScene) : ActiveScene :=
  let active := { active with remainingToggles := active.remainingToggles - 1 }
  if active.remainingToggles = 0 then
    { active with
      remainingTime := (active.scene.blink.period.toUInt32 + next).toInt32
      remainingToggles := 2 * active.scene.blink.repeats.toUInt32 }
  else active

theorem changeLedState_periodic (idle : player.onceLeft = 0) (left : 0 < player.periodicLeft)
    (due : ¬ 0 < (player.active.periodic.elapsed param).remainingTime) :
    ∃ phase : UInt16, changeLedState param player =
      { active := { player.active with
          rqLedOn := !player.active.rqLedOn
          periodic := (player.active.periodic.elapsed param).advanced phase.toUInt32 }
        scheduled := some phase.toUInt32
        calls := player.calls ++ [.setColor (player.active.periodic.elapsed param).scene.color,
          .setBrightness (player.active.periodic.elapsed param).scene.brightness] ++
          [if player.active.rqLedOn then .on else .off] } := by
  obtain ⟨phase, time⟩ := nextChangeTime_phase
    (Player.call { player with
      active := { player.active with periodic := player.active.periodic.elapsed param }
      scheduled := none }
      [.setColor (player.active.periodic.elapsed param).scene.color,
        .setBrightness (player.active.periodic.elapsed param).scene.brightness])
    (player.active.periodic.elapsed param).scene
  have counted : 0 < (player.active.periodic.elapsed param).remainingToggles := by
    rw [remainingToggles_elapsed]
    exact lt_zero_iff.mpr left
  refine ⟨phase, ?_⟩
  unfold changeLedState
  dsimp only
  rw [if_neg (not_lt_zero_iff.mpr idle), ← ActiveScene.elapsed, if_pos counted, if_neg due]
  rw [time, toggle_eq]
  rfl

theorem changeLedState_waiting (idle : player.onceLeft = 0) (left : 0 < player.periodicLeft)
    (waits : 0 < (player.active.periodic.elapsed param).remainingTime) :
    changeLedState param player =
      { player with
        active := { player.active with periodic := player.active.periodic.elapsed param }
        scheduled := some (player.active.periodic.elapsed param).remainingTime.toUInt32 } := by
  have counted : 0 < (player.active.periodic.elapsed param).remainingToggles := by
    rw [remainingToggles_elapsed]
    exact lt_zero_iff.mpr left
  unfold changeLedState
  dsimp only
  rw [if_neg (not_lt_zero_iff.mpr idle), ← ActiveScene.elapsed, if_pos counted, if_pos waits]
  rfl

theorem changeLedState_idle (param : UInt32) (idle : player.onceLeft = 0)
    (none : player.periodicLeft = 0) :
    changeLedState param player =
      Player.restoreBgColor { player with
        active := { player.active with periodic := player.active.periodic.elapsed param }
        scheduled := .none } := by
  have counted : ¬ 0 < (player.active.periodic.elapsed param).remainingToggles := by
    rw [remainingToggles_elapsed]
    exact not_lt_zero_iff.mpr none
  unfold changeLedState
  dsimp only
  rw [if_neg (not_lt_zero_iff.mpr idle), ← ActiveScene.elapsed, if_neg counted]

theorem toggled_of {color : RgbColor} {brightness : UInt8} {delay : UInt32}
    (flag : next.active.rqLedOn = !player.active.rqLedOn) (scheduled : next.scheduled = some delay)
    (calls : next.calls = player.calls ++ [.setColor color, .setBrightness brightness] ++
      [if player.active.rqLedOn then .on else .off]) : Toggled player next where
  flag := flag
  scheduled := by
    rw [scheduled]
    rfl
  calls := by
    refine ⟨_, calls.trans (List.append_assoc _ _ _), ?_⟩
    cases player.active.rqLedOn <;> rfl

variable {count : Nat}

theorem execute_eq (scheduled : player.scheduled = some param) :
    player.execute = some (changeLedState param player) := by
  rw [Player.execute, scheduled, Option.map_some]

theorem execute_once (scheduled : player.scheduled = some param)
    (left : player.onceLeft = count + 1) :
    ∃ next, player.execute = some next ∧ Toggled player next ∧ next.onceLeft = count ∧
      next.periodicLeft = player.periodicLeft := by
  have positive : 0 < player.onceLeft := by omega
  obtain ⟨phase, changed⟩ := changeLedState_once param positive
  refine ⟨_, execute_eq scheduled, ?_⟩
  rw [changed]
  refine ⟨toggled_of rfl rfl rfl, ?_, ?_⟩
  · rw [Player.onceLeft, toNat_sub_one positive]
    exact Nat.sub_eq_of_eq_add left
  · exact congrArg UInt32.toNat (remainingToggles_elapsed _ param)

theorem execute_periodic (scheduled : player.scheduled = some param) (idle : player.onceLeft = 0)
    (left : player.periodicLeft = count + 1)
    (due : ¬ 0 < (player.active.periodic.elapsed param).remainingTime) :
    ∃ next, player.execute = some next ∧ Toggled player next ∧ next.onceLeft = 0 ∧
      (count = 0 ∧ next.periodicLeft % 2 = 0 ∨
        0 < count ∧ next.periodicLeft = count ∧ ¬ 0 < next.active.periodic.remainingTime) := by
  have positive : 0 < player.periodicLeft := by omega
  obtain ⟨phase, changed⟩ := changeLedState_periodic idle positive due
  refine ⟨_, execute_eq scheduled, ?_⟩
  rw [changed]
  refine ⟨toggled_of rfl rfl rfl, idle, ?_⟩
  have counted : ((player.active.periodic.elapsed param).remainingToggles - 1).toNat = count := by
    rw [remainingToggles_elapsed, toNat_sub_one positive]
    exact Nat.sub_eq_of_eq_add left
  dsimp only [Player.periodicLeft, ActiveScene.advanced]
  split
  · next last =>
      rw [last] at counted
      exact .inl ⟨counted.symm, even_twice _⟩
  · next more =>
      refine .inr ⟨?_, counted, due⟩
      rw [← counted]
      exact Nat.pos_of_ne_zero fun zero => more (UInt32.toNat_inj.mp zero)

theorem execute_waiting (scheduled : player.scheduled = some param) (idle : player.onceLeft = 0)
    (left : 0 < player.periodicLeft)
    (waits : 0 < (player.active.periodic.elapsed param).remainingTime) :
    ∃ next delay, player.execute = some next ∧ next.calls = player.calls ∧
      next.active.rqLedOn = player.active.rqLedOn ∧ next.onceLeft = 0 ∧
      next.periodicLeft = player.periodicLeft ∧ next.scheduled = some delay ∧
      ¬ 0 < (next.active.periodic.elapsed delay).remainingTime := by
  refine ⟨_, (player.active.periodic.elapsed param).remainingTime.toUInt32, execute_eq scheduled, ?_⟩
  rw [changeLedState_waiting idle left waits]
  refine ⟨rfl, rfl, idle, congrArg UInt32.toNat (remainingToggles_elapsed _ param), rfl, ?_⟩
  dsimp only
  generalize player.active.periodic.elapsed param = waiting at waits ⊢
  rw [ActiveScene.elapsed, if_pos waits]
  dsimp only
  rw [UInt32.sub_self]
  decide

theorem execute_idle (scheduled : player.scheduled = some param) (idle : player.onceLeft = 0)
    (done : player.periodicLeft = 0) :
    ∃ next, player.execute = some next ∧ next.onceLeft = 0 ∧ next.periodicLeft = 0 := by
  refine ⟨_, execute_eq scheduled, ?_⟩
  rw [changeLedState_idle param idle done]
  refine ⟨idle, ?_⟩
  exact (congrArg UInt32.toNat (remainingToggles_elapsed _ param)).trans done

/-! ### The invariant -/

/-- The flag fits the counter of the scene that is played, and the periodic scene waits at an even
number of toggles behind the other one. -/
structure Parity (player : Player) : Prop where
  once : 0 < player.onceLeft →
    InStep player.active.rqLedOn player.onceLeft ∧ player.periodicLeft % 2 = 0
  periodic : player.onceLeft = 0 → 0 < player.periodicLeft →
    InStep player.active.rqLedOn player.periodicLeft
  scheduled : 0 < player.onceLeft ∨ 0 < player.periodicLeft → player.scheduled.isSome = true

theorem Parity.same (parity : Parity player) (flag : next.active.rqLedOn = player.active.rqLedOn)
    (once : next.onceLeft = player.onceLeft) (periodic : next.periodicLeft = player.periodicLeft)
    (scheduled : next.scheduled = player.scheduled) : Parity next where
  once := by
    rw [flag, once, periodic]
    exact parity.once
  periodic := by
    rw [flag, once, periodic]
    exact parity.periodic
  scheduled := by
    rw [once, periodic, scheduled]
    exact parity.scheduled

/-- No scene is left to play. -/
theorem parity_of_idle (once : player.onceLeft = 0) (periodic : player.periodicLeft = 0) :
    Parity player := by
  refine ⟨?_, ?_, ?_⟩ <;> omega

/-- A trigger of a blinking scene: the flag is set, and both counters are even. -/
theorem parity_of_even (flag : player.active.rqLedOn = true) (once : player.onceLeft % 2 = 0)
    (periodic : player.periodicLeft % 2 = 0) (scheduled : player.scheduled.isSome = true) :
    Parity player where
  once := fun _ => by
    rw [flag, inStep_true]
    exact ⟨once, periodic⟩
  periodic := fun _ _ => by
    rw [flag, inStep_true]
    exact periodic
  scheduled := fun _ => scheduled

theorem parity_initial : Parity .initial := parity_of_idle rfl rfl

/-- The once scene is dropped where the flag fits the other one. -/
theorem Parity.dropOnce (parity : Parity player)
    (clear : player.onceLeft % 2 = 0 ∨ player.periodicLeft = 0)
    (flag : next.active.rqLedOn = player.active.rqLedOn) (once : next.onceLeft = 0)
    (periodic : next.periodicLeft = player.periodicLeft)
    (scheduled : next.scheduled = player.scheduled) : Parity next where
  once := fun left => absurd once left.ne'
  periodic := by
    intro _ left
    rw [periodic] at left
    rw [flag, periodic]
    rcases Nat.eq_zero_or_pos player.onceLeft with idle | playing
    · exact parity.periodic idle left
    · obtain ⟨inStep, even⟩ := parity.once playing
      have halted : player.onceLeft % 2 = 0 := clear.resolve_right left.ne'
      rw [InStep, iff_true_right even]
      exact inStep.mpr halted
  scheduled := by
    rw [once, periodic, scheduled]
    intro left
    exact parity.scheduled (.inr (left.resolve_left (Nat.lt_irrefl 0)))

theorem Parity.dropPeriodic (parity : Parity player)
    (flag : next.active.rqLedOn = player.active.rqLedOn) (once : next.onceLeft = player.onceLeft)
    (periodic : next.periodicLeft = 0) (scheduled : next.scheduled = player.scheduled) :
    Parity next where
  once := by
    rw [flag, once, periodic]
    intro left
    exact ⟨(parity.once left).1, rfl⟩
  periodic := fun _ left => absurd periodic left.ne'
  scheduled := by
    rw [once, periodic, scheduled]
    intro left
    exact parity.scheduled (.inl (left.resolve_right (Nat.lt_irrefl 0)))

/-- The trigger of a blinking scene sets the flag and starts its counter at an even number. -/
theorem onBlinkOnce_starts {scene : Scene} (started : onBlinkOnce scene player = .ok next) :
    next.active.rqLedOn = true ∧ next.onceLeft % 2 = 0 ∧
      next.periodicLeft = player.periodicLeft ∧ next.scheduled.isSome = true := by
  rw [onBlinkOnce] at started
  split at started
  · cases started
  split at started
  · cases started
  cases started
  exact ⟨rfl, even_twice scene.blink.repeats, rfl, rfl⟩

theorem onBlinkPeriodic_starts {scene : Scene} (started : onBlinkPeriodic scene player = .ok next) :
    next.active.rqLedOn = true ∧ next.onceLeft = player.onceLeft ∧
      next.periodicLeft % 2 = 0 ∧ next.scheduled.isSome = true := by
  rw [onBlinkPeriodic] at started
  split at started
  · cases started
  split at started
  · cases started
  split at started
  · cases started
  cases started
  exact ⟨rfl, rfl, even_twice scene.blink.repeats, rfl⟩

theorem ledSceneTrigger_clearOnce {scene : Scene} (type : scene.type = SceneType.clearOnce)
    (player : Player) :
    ledSceneTrigger scene player = .ok (Player.restoreBgColor
      { player with active := { player.active with once := player.active.once.stopped } }) := by
  rw [ledSceneTrigger, sceneChangeHandler, if_neg (by rw [type]; decide),
    if_neg (by rw [type]; decide), if_neg (by rw [type]; decide), if_pos type]

theorem ledSceneTrigger_parity {scene : Scene} (parity : Parity player)
    (clear : Clear player (.trigger scene))
    (triggered : ledSceneTrigger scene player = .ok next) : Parity next := by
  obtain ⟨atOnce, atPeriodic, atClear⟩ := clear
  rw [ledSceneTrigger, sceneChangeHandler] at triggered
  dsimp only at triggered
  split at triggered
  · -- `SCENE_CONST_BG`
    split at triggered
    all_goals
      cases triggered
      exact parity.same rfl rfl rfl rfl
  split at triggered
  · next type =>
      obtain ⟨flag, even, kept, scheduled⟩ := onBlinkOnce_starts triggered
      refine parity_of_even flag even ?_ scheduled
      rw [kept]
      exact atOnce type
  split at triggered
  · next type =>
      obtain ⟨flag, kept, even, scheduled⟩ := onBlinkPeriodic_starts triggered
      refine parity_of_even flag ?_ even scheduled
      rw [kept]
      exact atPeriodic type
  split at triggered
  · next type =>
      cases triggered
      exact parity.dropOnce (atClear type) rfl rfl rfl rfl
  split at triggered
  · cases triggered
    exact parity.dropPeriodic rfl rfl rfl rfl
  split at triggered
  · cases triggered
    exact parity_of_idle rfl rfl
  split at triggered
  · cases triggered
    exact parity_of_idle rfl rfl
  · cases triggered
    exact parity

theorem execute_parity (parity : Parity player) (executed : player.execute = some next) :
    Parity next := by
  obtain ⟨param, scheduled⟩ : ∃ param, player.scheduled = some param := by
    cases scheduled : player.scheduled with
    | none =>
        rw [Player.execute, scheduled] at executed
        cases executed
    | some param => exact ⟨param, rfl⟩
  rcases onceLeft : player.onceLeft with _ | count
  · rcases periodicLeft : player.periodicLeft with _ | count
    · obtain ⟨after, ran, idle, done⟩ := execute_idle scheduled onceLeft periodicLeft
      obtain rfl := Option.some.inj (ran.symm.trans executed)
      exact parity_of_idle idle done
    have left : 0 < player.periodicLeft := by omega
    have inStep := parity.periodic onceLeft left
    by_cases waits : 0 < (player.active.periodic.elapsed param).remainingTime
    · obtain ⟨after, delay, ran, -, flag, idle, kept, later, -⟩ :=
        execute_waiting scheduled onceLeft left waits
      obtain rfl := Option.some.inj (ran.symm.trans executed)
      refine ⟨fun playing => absurd idle playing.ne', fun _ _ => ?_, fun _ => ?_⟩
      · rw [flag, kept]
        exact inStep
      · rw [later]
        rfl
    · obtain ⟨after, ran, toggled, idle, ends⟩ :=
        execute_periodic scheduled onceLeft periodicLeft waits
      obtain rfl := Option.some.inj (ran.symm.trans executed)
      rw [periodicLeft] at inStep
      refine ⟨fun playing => absurd idle playing.ne', fun _ _ => ?_, fun _ => toggled.scheduled⟩
      rw [toggled.flag]
      rcases ends with ⟨rfl, even⟩ | ⟨-, counted, -⟩
      · -- the next period starts with the flag set
        have set := inStep.turn
        rw [InStep, iff_true_right (Nat.zero_mod 2)] at set
        rw [set, inStep_true]
        exact even
      · rw [counted]
        exact inStep.turn
  · obtain ⟨after, ran, toggled, counted, kept⟩ := execute_once scheduled onceLeft
    obtain rfl := Option.some.inj (ran.symm.trans executed)
    obtain ⟨inStep, even⟩ := parity.once (by omega)
    rw [onceLeft] at inStep
    have turned := inStep.turn
    refine ⟨fun _ => ?_, fun idle _ => ?_, fun _ => toggled.scheduled⟩
    · rw [toggled.flag, counted, kept]
      exact ⟨turned, even⟩
    · rw [counted] at idle
      rw [idle, InStep, iff_true_right (Nat.zero_mod 2)] at turned
      rw [toggled.flag, kept, turned, inStep_true]
      exact even

theorem step_parity {event : Event} (parity : Parity player) (clear : Clear player event)
    (stepped : scenes.step player event = some next) : Parity next := by
  cases event with
  | execute => exact execute_parity parity stepped
  | trigger scene =>
      have triggered : (ledSceneTrigger scene player).toOption = some next := stepped
      cases ran : ledSceneTrigger scene player with
      | error fault =>
          rw [ran] at triggered
          cases triggered
      | ok after =>
          rw [ran] at triggered
          cases triggered
          exact ledSceneTrigger_parity parity clear ran

/-- The invariant is what the next toggle needs. -/
theorem Parity.wellFormed (parity : Parity player) : WellFormed player := by
  intro param _ toggles
  rw [Player.played]
  split
  · next playing => exact (parity.once playing).1
  · next idle =>
      have left := (toggles.resolve_left idle).1
      exact parity.periodic (Nat.eq_zero_of_not_pos idle) left

/-- A number of executions in a row that show the values of the alternating flag. -/
def Runs (player : Player) (executions count : Nat) : Prop :=
  ∃ final calls, scenes.exec player (List.replicate executions .execute) = some final ∧
    final.calls = player.calls ++ calls ∧
    switches calls = alternating player.active.rqLedOn count

theorem exec_execute {executions : Nat} (executed : player.execute = some next) :
    scenes.exec player (List.replicate (executions + 1) .execute) =
      scenes.exec next (List.replicate executions .execute) := by
  have stepped : scenes.step player .execute = some next := executed
  rw [List.replicate_succ, Machine.exec, stepped]

theorem Toggled.runs {executions : Nat} (toggled : Toggled player next)
    (executed : player.execute = some next) (later : Runs next executions count) :
    Runs player (executions + 1) (count + 1) := by
  obtain ⟨final, calls, ran, appended, shown⟩ := later
  obtain ⟨first, called, one⟩ := toggled.calls
  refine ⟨final, first ++ calls, (exec_execute executed).trans ran, ?_, ?_⟩
  · rw [appended, called, List.append_assoc]
  · rw [switches, List.filterMap_append, ← switches, ← switches, one, shown, toggled.flag,
      alternating, List.singleton_append]

theorem once_runs (scheduled : player.scheduled.isSome = true)
    (left : player.onceLeft = count) : Runs player count count := by
  induction count generalizing player with
  | zero => exact ⟨player, [], rfl, (List.append_nil _).symm, rfl⟩
  | succ count ih =>
      obtain ⟨param, running⟩ := Option.isSome_iff_exists.mp scheduled
      obtain ⟨next, executed, toggled, counted, -⟩ := execute_once running left
      exact toggled.runs executed (ih toggled.scheduled counted)

theorem periodic_runs (scheduled : player.scheduled = some param) (idle : player.onceLeft = 0)
    (left : player.periodicLeft = count + 1)
    (due : ¬ 0 < (player.active.periodic.elapsed param).remainingTime) :
    Runs player (count + 1) (count + 1) := by
  induction count generalizing player param with
  | zero =>
      obtain ⟨next, executed, toggled, -⟩ := execute_periodic scheduled idle left due
      exact toggled.runs executed ⟨next, [], rfl, (List.append_nil _).symm, rfl⟩
  | succ count ih =>
      obtain ⟨next, executed, toggled, stillIdle, ends⟩ :=
        execute_periodic scheduled idle left due
      obtain ⟨later, running⟩ := Option.isSome_iff_exists.mp toggled.scheduled
      rcases ends with ⟨none, -⟩ | ⟨-, counted, past⟩
      · cases none
      · refine toggled.runs executed (ih running stillIdle counted ?_)
        rw [ActiveScene.elapsed, if_neg past]
        exact past

/-- A periodic scene that still waits starts with the second execution. -/
theorem periodic_runs_behind (scheduled : player.scheduled = some param)
    (idle : player.onceLeft = 0) (left : player.periodicLeft = count + 1) :
    ∃ waits ≤ 1, Runs player (waits + (count + 1)) (count + 1) := by
  by_cases due : 0 < (player.active.periodic.elapsed param).remainingTime
  · obtain ⟨next, delay, executed, called, flag, stillIdle, kept, running, past⟩ :=
      execute_waiting scheduled idle (by omega) due
    obtain ⟨final, calls, ran, appended, shown⟩ :=
      periodic_runs running stillIdle (kept.trans left) past
    refine ⟨1, le_rfl, final, calls, ?_, ?_, ?_⟩
    · rw [Nat.add_comm]
      exact (exec_execute executed).trans ran
    · rw [appended, called]
    · rw [shown, flag]
  · refine ⟨0, Nat.zero_le 1, ?_⟩
    rw [Nat.zero_add]
    exact periodic_runs scheduled idle left due

/-- What is left of the scene that is played, without a trigger. -/
theorem Parity.runs (parity : Parity player)
    (left : 0 < player.played.remainingToggles.toNat) :
    InStep player.active.rqLedOn player.played.remainingToggles.toNat ∧
      ∃ waits ≤ 1, Runs player (waits + player.played.remainingToggles.toNat)
        player.played.remainingToggles.toNat := by
  by_cases playing : 0 < player.onceLeft
  · rw [Player.played, if_pos playing]
    refine ⟨(parity.once playing).1, 0, Nat.zero_le 1, ?_⟩
    rw [Nat.zero_add]
    exact once_runs (parity.scheduled (.inl playing)) rfl
  · rw [Player.played, if_neg playing] at left ⊢
    have idle : player.onceLeft = 0 := Nat.eq_zero_of_not_pos playing
    obtain ⟨param, running⟩ := Option.isSome_iff_exists.mp (parity.scheduled (.inr left))
    obtain ⟨count, counted⟩ := Nat.exists_eq_add_one.mpr left
    refine ⟨parity.periodic idle left, ?_⟩
    rw [counted]
    exact periodic_runs_behind running idle counted

theorem Parity.finishes (parity : Parity player) : Finishes player := by
  intro positive
  obtain ⟨inStep, waits, few, final, calls, ran, appended, shown⟩ := parity.runs positive
  have half := count_alternating inStep
  refine ⟨waits, final, calls, few, ran, appended, ?_, ?_, ?_, ?_⟩
  · rw [shown, length_alternating]
  · rw [shown, half]
  · intro whole
    rw [shown, half, whole, Nat.mul_div_cancel_left _ Nat.two_pos]
  · obtain ⟨count, counted⟩ := Nat.exists_eq_add_one.mpr positive
    rw [counted] at inStep
    rw [shown, counted]
    exact getLast_alternating inStep

/-! ### Triggers that are not clear -/

/-- Left alone, the scenes come to a toggle whose flag does not fit. -/
def Disturbed (player : Player) : Prop :=
  ∃ executions final, scenes.exec player (List.replicate executions .execute) = some final ∧
    ¬ WellFormed final

theorem not_wellFormed (scheduled : player.scheduled = some param) (toggles : Toggles player param)
    (outOfStep : ¬ InStep player.active.rqLedOn player.played.remainingToggles.toNat) :
    ¬ WellFormed player := fun wellFormed => outOfStep (wellFormed param scheduled toggles)

theorem Disturbed.behind (executed : player.execute = some next) (disturbed : Disturbed next) :
    Disturbed player := by
  obtain ⟨executions, final, ran, illFormed⟩ := disturbed
  exact ⟨executions + 1, final, (exec_execute executed).trans ran, illFormed⟩

theorem disturbed_once (scheduled : player.scheduled.isSome = true) (playing : 0 < player.onceLeft)
    (outOfStep : ¬ InStep player.active.rqLedOn player.onceLeft) : Disturbed player := by
  obtain ⟨param, running⟩ := Option.isSome_iff_exists.mp scheduled
  refine ⟨0, player, rfl, not_wellFormed running (.inl playing) ?_⟩
  rw [Player.played, if_pos playing]
  exact outOfStep

theorem disturbed_periodic (scheduled : player.scheduled.isSome = true)
    (idle : player.onceLeft = 0) (left : 0 < player.periodicLeft)
    (outOfStep : ¬ InStep player.active.rqLedOn player.periodicLeft) : Disturbed player := by
  obtain ⟨param, running⟩ := Option.isSome_iff_exists.mp scheduled
  by_cases waits : 0 < (player.active.periodic.elapsed param).remainingTime
  · obtain ⟨next, delay, executed, -, flag, stillIdle, kept, later, past⟩ :=
      execute_waiting running idle left waits
    refine Disturbed.behind executed ⟨0, next, rfl, not_wellFormed later (.inr ⟨?_, past⟩) ?_⟩
    · rw [kept]
      exact left
    · rw [Player.played, if_neg stillIdle.not_gt, flag]
      change ¬ InStep player.active.rqLedOn next.periodicLeft
      rw [kept]
      exact outOfStep
  · refine ⟨0, player, rfl, not_wellFormed running (.inr ⟨left, waits⟩) ?_⟩
    rw [Player.played, if_neg idle.not_gt]
    exact outOfStep

/-- A periodic scene at an odd number of toggles resumes out of step. -/
theorem disturbed_behind_once (scheduled : player.scheduled.isSome = true)
    (inStep : InStep player.active.rqLedOn player.onceLeft)
    (odd : player.periodicLeft % 2 = 1) : Disturbed player := by
  generalize counted : player.onceLeft = count at inStep
  induction count generalizing player with
  | zero =>
      refine disturbed_periodic scheduled counted (by omega) ?_
      rw [InStep, iff_true_right (Nat.zero_mod 2)] at inStep
      rw [inStep, inStep_true]
      omega
  | succ count ih =>
      obtain ⟨param, running⟩ := Option.isSome_iff_exists.mp scheduled
      obtain ⟨next, executed, toggled, less, kept⟩ := execute_once running counted
      refine Disturbed.behind executed (ih toggled.scheduled ?_ less ?_)
      · rw [kept]
        exact odd
      · rw [toggled.flag]
        exact inStep.turn

/-- A trigger that is not clear disturbs the scenes. -/
theorem disturbed_of_not_clear {scene : Scene} (parity : Parity player)
    (unclear : ¬ Clear player (.trigger scene))
    (triggered : ledSceneTrigger scene player = .ok next) : Disturbed next := by
  rw [Clear, Classical.not_and_iff_not_or_not, Classical.not_and_iff_not_or_not, Classical.not_imp,
    Classical.not_imp, Classical.not_imp] at unclear
  rcases unclear with ⟨type, odd⟩ | ⟨type, odd⟩ | ⟨type, met⟩
  · rw [ledSceneTrigger_once type] at triggered
    obtain ⟨flag, even, kept, scheduled⟩ := onBlinkOnce_starts triggered
    refine disturbed_behind_once scheduled ?_ ?_
    · rw [flag, inStep_true]
      exact even
    · rw [kept]
      omega
  · rw [ledSceneTrigger_periodic type] at triggered
    obtain ⟨flag, kept, -, scheduled⟩ := onBlinkPeriodic_starts triggered
    refine disturbed_once scheduled ?_ ?_
    · rw [kept]
      omega
    · rw [flag, inStep_true, kept]
      exact odd
  · rw [ledSceneTrigger_clearOnce type] at triggered
    cases triggered
    obtain ⟨odd, left⟩ := not_or.mp met
    obtain ⟨inStep, even⟩ := parity.once (by omega)
    have positive : 0 < player.periodicLeft := Nat.pos_of_ne_zero left
    refine disturbed_periodic (parity.scheduled (.inr positive)) rfl positive ?_
    intro fits
    exact odd (inStep.mp (fits.mpr even))

/-- In every run whose triggers are clear, each toggle finds the flag as its counter asks, and what
is left of a burst ends with the LED off; a trigger that is not clear brings the scenes to a toggle
that does not. -/
theorem scenes_run {trace : List (Player × Event)} (run : scenes.Run .initial trace player)
    (clear : ∀ taken ∈ trace, Clear taken.1 taken.2) :
    (∀ taken ∈ trace, WellFormed taken.1 ∧ Finishes taken.1) ∧
      (WellFormed player ∧ Finishes player) ∧
      ∀ scene next, ledSceneTrigger scene player = .ok next →
        ¬ Clear player (.trigger scene) → Disturbed next := by
  have kept {before after : Player} {event : Event} (clear : Clear before event)
      (parity : Parity before) (stepped : scenes.step before event = some after) : Parity after :=
    step_parity parity clear stepped
  have last := run.invariant parity_initial kept clear
  refine ⟨?_, ⟨last.wellFormed, last.finishes⟩, ?_⟩
  · intro taken inside
    have parity := run.invariant_visited parity_initial kept clear taken inside
    exact ⟨parity.wellFormed, parity.finishes⟩
  · intro scene next triggered unclear
    exact disturbed_of_not_clear last unclear triggered

/-- `TCP_ERROR_SCENE` -/
def tcpErrorScene : Scene :=
  { type := SceneType.blinkOnce, color := 0xFF0000
    blink := { tOn := 200, tOff := 200, repeats := 1 }, brightness := 100 }

/-- `WIFI_STA_DISCONNECTED` -/
def wifiStaDisconnected : Scene :=
  { type := SceneType.blinkPeriodic, color := 0xFF0000
    blink := { tOn := 1000, tOff := 500, repeats := 2, period := 10000 }, brightness := 100 }

/-- An error interrupts the periodic scene in the middle, which then goes on. -/
def interrupted : List Event :=
  [.trigger wifiStaDisconnected, .execute, .execute, .trigger tcpErrorScene, .execute, .execute,
    .execute]

theorem scenes_run_interrupted : ∃ player,
    scenes.exec .initial interrupted = some player ∧ 0 < player.periodicLeft ∧
      (∀ taken ∈ scenes.tracing .initial interrupted, WellFormed taken.1 ∧ Finishes taken.1) ∧
      WellFormed player ∧ Finishes player := by
  obtain ⟨player, ran, left⟩ : ∃ player,
      scenes.exec .initial interrupted = some player ∧ 0 < player.periodicLeft :=
    ⟨_, rfl, by decide⟩
  obtain ⟨visited, last, -⟩ := scenes_run (Machine.run_of_exec ran) (by decide)
  exact ⟨player, ran, left, visited, last⟩

/-- A periodic scene is triggered behind the first toggle of another scene, which sets the flag for
the second one. -/
theorem scenes_not_wellFormed : (tcpErrorScene.Playable ∧ wifiStaDisconnected.Playable) ∧
    ∃ player, scenes.exec .initial
      [.trigger tcpErrorScene, .execute, .trigger wifiStaDisconnected] = some player ∧
        ¬ WellFormed player := by
  refine ⟨⟨⟨fun _ => by decide, fun type => absurd type (by decide)⟩,
    ⟨fun type => absurd type (by decide), fun _ => by decide⟩⟩, _, rfl, ?_⟩
  intro wellFormed
  exact absurd (wellFormed 200 rfl (by decide)) (by decide)

end EsInverter.Led
