import EsInverter.Fault

/-!
# Scenes of the LED

A scene is played by toggles of the LED, each of which schedules the next one.
The calls of the LED driver are kept in order, and the scheduler is the
parameter of the one callback the module gives it.
-/

set_option autoImplicit false

namespace EsInverter.Led

/-- `rgb_color_t` -/
abbrev RgbColor := UInt32

abbrev rgbLedsOff : RgbColor := 0x000000
abbrev rgbLedPink : RgbColor := 0xFFC0CB

/-- `scene_type_t`; a type is the number that was cast to the enumeration. -/
abbrev SceneType := UInt32

namespace SceneType

abbrev constBg : SceneType := 1
abbrev blinkOnce : SceneType := 2
abbrev blinkPeriodic : SceneType := 3
abbrev clearOnce : SceneType := 4
abbrev clearPeriodic : SceneType := 5
abbrev clearAll : SceneType := 6
abbrev off : SceneType := 7

end SceneType

structure Blink where
  tOn : UInt16 := 0
  tOff : UInt16 := 0
  repeats : UInt16 := 0
  period : UInt16 := 0
  deriving DecidableEq, Repr

/-- `scene_t` -/
structure Scene where
  type : SceneType
  color : RgbColor := 0
  blink : Blink := {}
  brightness : UInt8 := 0
  deriving DecidableEq, Repr

/-- `active_scene_t` -/
structure ActiveScene where
  scene : Scene
  remainingToggles : UInt32
  remainingTime : Int32
  deriving DecidableEq, Repr

/-- `active_scenes_t` -/
structure ActiveScenes where
  rqLedOn : Bool
  bgColor : RgbColor
  bgBrightness : UInt32
  once : ActiveScene
  periodic : ActiveScene
  deriving DecidableEq, Repr

/-- The calls of `led_if`. -/
inductive LedCall
  | setColor (color : RgbColor)
  | setBrightness (brightness : UInt8)
  | on
  | off
  deriving DecidableEq, Repr

structure Player where
  active : ActiveScenes
  /-- The parameter and delay of a scheduled `change_led_state`. -/
  scheduled : Option UInt32
  calls : List LedCall
  deriving DecidableEq, Repr

def Player.initial : Player :=
  { active :=
      { rqLedOn := false, bgColor := rgbLedsOff, bgBrightness := 0
        once := ⟨{ type := SceneType.off }, 0, 0⟩
        periodic := ⟨{ type := SceneType.off }, 0, 0⟩ }
    scheduled := none, calls := [] }

/-- `SCENE_BLINK_SEPARATION_MS` -/
def sceneBlinkSeparationMs : UInt32 := 200

namespace Player

def call (player : Player) (calls : List LedCall) : Player :=
  { player with calls := player.calls ++ calls }

/-- `scheduler_set_callback` for `change_led_state`. -/
def schedule (player : Player) (delayMs : UInt32) : Player :=
  { player with scheduled := some delayMs }

def restoreBgColor (player : Player) : Player :=
  player.call [.setColor player.active.bgColor,
    .setBrightness player.active.bgBrightness.toUInt8, .on]

/-- The end of `change_led_state`. -/
def toggle (player : Player) (nextChangeTime : UInt32) : Player :=
  if nextChangeTime = 0xFFFFFFFF then player.restoreBgColor
  else
    let player := player.call [if player.active.rqLedOn then .on else .off]
    let player := { player with
      active := { player.active with rqLedOn := !player.active.rqLedOn } }
    player.schedule nextChangeTime

/-- The time to the next change, for the scene that is played. -/
def nextChangeTime (player : Player) (scene : Scene) : UInt32 :=
  if player.active.rqLedOn then scene.blink.tOn.toUInt32 else scene.blink.tOff.toUInt32

end Player

/-- The scheduler's entry is free again when the callback runs. -/
def changeLedState (param : UInt32) (player : Player) : Player :=
  let player := { player with scheduled := none }
  let periodic := player.active.periodic
  let periodic :=
    if 0 < periodic.remainingTime then
      { periodic with remainingTime := (periodic.remainingTime.toUInt32 - param).toInt32 }
    else periodic
  let player := { player with active := { player.active with periodic } }
  let once := player.active.once
  if 0 < once.remainingToggles then
    let player := player.call [.setColor once.scene.color, .setBrightness once.scene.brightness]
    let next := player.nextChangeTime once.scene
    let once := { once with remainingToggles := once.remainingToggles - 1 }
    { player with active := { player.active with once } }.toggle next
  else if 0 < periodic.remainingToggles then
    if 0 < periodic.remainingTime then player.schedule periodic.remainingTime.toUInt32
    else
      let player := player.call
        [.setColor periodic.scene.color, .setBrightness periodic.scene.brightness]
      let next := player.nextChangeTime periodic.scene
      let periodic := { periodic with remainingToggles := periodic.remainingToggles - 1 }
      let periodic :=
        if periodic.remainingToggles = 0 then
          { periodic with
            remainingTime := (periodic.scene.blink.period.toUInt32 + next).toInt32
            remainingToggles := 2 * periodic.scene.blink.repeats.toUInt32 }
        else periodic
      { player with active := { player.active with periodic } }.toggle next
  else player.restoreBgColor

/-- `assert(t_on > 0 && t_off > 0 && repeats > 0)` -/
def Blink.Timed (blink : Blink) : Prop := 0 < blink.tOn ∧ 0 < blink.tOff ∧ 0 < blink.repeats

instance (blink : Blink) : Decidable blink.Timed := inferInstanceAs (Decidable (_ ∧ _ ∧ _))

/-- `assert(repeats * (uint32_t)(t_on + t_off) < period)` -/
def Blink.Fits (blink : Blink) : Prop :=
  blink.repeats.toUInt32 * (blink.tOn.toUInt32 + blink.tOff.toUInt32) < blink.period.toUInt32

instance (blink : Blink) : Decidable blink.Fits := inferInstanceAs (Decidable (_ < _))

/-- The separation before a blinking scene. -/
def Player.separate (player : Player) : Player :=
  let player := { player with active := { player.active with rqLedOn := true } }
  (player.call [.off]).schedule sceneBlinkSeparationMs

def onBlinkOnce (scene : Scene) (player : Player) : Except Fault Player :=
  if ¬ scene.blink.Timed then .error (.assertion .blinkTimes)
  else if scene.color = rgbLedsOff then .error (.assertion .blinkColor)
  else
    let once := { player.active.once with
      scene, remainingToggles := 2 * scene.blink.repeats.toUInt32 }
    .ok { player with active := { player.active with once } }.separate

def onBlinkPeriodic (scene : Scene) (player : Player) : Except Fault Player :=
  if ¬ scene.blink.Timed then .error (.assertion .blinkTimes)
  else if ¬ scene.blink.Fits then .error (.assertion .blinkPeriod)
  else if scene.color = rgbLedsOff then .error (.assertion .blinkColor)
  else
    let periodic : ActiveScene :=
      { scene, remainingToggles := 2 * scene.blink.repeats.toUInt32
        remainingTime := sceneBlinkSeparationMs.toInt32 }
    .ok { player with active := { player.active with periodic } }.separate

/-- `remaining_toggles = 0` -/
def ActiveScene.stopped (active : ActiveScene) : ActiveScene := { active with remainingToggles := 0 }

/-- `period = 0` and `remaining_toggles = 0` -/
def ActiveScene.cleared (active : ActiveScene) : ActiveScene :=
  { active.stopped with
    scene := { active.scene with blink := { active.scene.blink with period := 0 } } }

def sceneChangeHandler (scene : Scene) (player : Player) : Except Fault Player :=
  let active := player.active
  if scene.type = SceneType.constBg then
    let player := { player with
      active := { active with
        bgColor := scene.color, bgBrightness := scene.brightness.toUInt32 } }
    .ok (if active.periodic.remainingToggles = 0 ∧ active.once.remainingToggles = 0 then
        player.restoreBgColor
      else player)
  else if scene.type = SceneType.blinkOnce then onBlinkOnce scene player
  else if scene.type = SceneType.blinkPeriodic then onBlinkPeriodic scene player
  else if scene.type = SceneType.clearOnce then
    .ok { player with active := { active with once := active.once.stopped } }.restoreBgColor
  else if scene.type = SceneType.clearPeriodic then
    .ok { player with active := { active with periodic := active.periodic.cleared } }.restoreBgColor
  else if scene.type = SceneType.clearAll then
    .ok { player with
      active := { active with
        periodic := active.periodic.cleared, once := active.once.stopped } }.restoreBgColor
  else if scene.type = SceneType.off then
    .ok ({ player with
      active := { active with
        bgColor := rgbLedsOff, bgBrightness := 0
        periodic := active.periodic.stopped, once := active.once.stopped }
      scheduled := none }.call [.off])
  else .ok player

/-- `led_scene_trigger` -/
def ledSceneTrigger (scene : Scene) (player : Player) : Except Fault Player :=
  sceneChangeHandler scene player

/-! ### Scenes that can be played -/

/-- The scenes that pass the assertions of the functions they are handed to. -/
structure Scene.Playable (scene : Scene) : Prop where
  once : scene.type = SceneType.blinkOnce → scene.blink.Timed ∧ scene.color ≠ rgbLedsOff
  periodic : scene.type = SceneType.blinkPeriodic →
    scene.blink.Timed ∧ scene.blink.Fits ∧ scene.color ≠ rgbLedsOff

theorem onBlinkOnce_ok {scene : Scene} (timed : scene.blink.Timed)
    (visible : scene.color ≠ rgbLedsOff) (player : Player) :
    ∃ next, onBlinkOnce scene player = .ok next := by
  rw [onBlinkOnce, if_neg (not_not_intro timed), if_neg visible]
  exact ⟨_, rfl⟩

theorem onBlinkPeriodic_ok {scene : Scene} (timed : scene.blink.Timed) (fits : scene.blink.Fits)
    (visible : scene.color ≠ rgbLedsOff) (player : Player) :
    ∃ next, onBlinkPeriodic scene player = .ok next := by
  rw [onBlinkPeriodic, if_neg (not_not_intro timed), if_neg (not_not_intro fits), if_neg visible]
  exact ⟨_, rfl⟩

theorem onBlinkOnce_failed {scene : Scene}
    (unplayable : ¬ (scene.blink.Timed ∧ scene.color ≠ rgbLedsOff)) (player : Player) :
    ∃ failed, onBlinkOnce scene player = .error (.assertion failed) := by
  rw [onBlinkOnce]
  by_cases timed : scene.blink.Timed
  · rw [if_neg (not_not_intro timed), if_pos]
    · exact ⟨_, rfl⟩
    · exact Decidable.byContradiction fun visible => unplayable ⟨timed, visible⟩
  · rw [if_pos timed]
    exact ⟨_, rfl⟩

theorem onBlinkPeriodic_failed {scene : Scene}
    (unplayable : ¬ (scene.blink.Timed ∧ scene.blink.Fits ∧ scene.color ≠ rgbLedsOff))
    (player : Player) :
    ∃ failed, onBlinkPeriodic scene player = .error (.assertion failed) := by
  rw [onBlinkPeriodic]
  by_cases timed : scene.blink.Timed
  · rw [if_neg (not_not_intro timed)]
    by_cases fits : scene.blink.Fits
    · rw [if_neg (not_not_intro fits), if_pos]
      · exact ⟨_, rfl⟩
      · exact Decidable.byContradiction fun visible => unplayable ⟨timed, fits, visible⟩
    · rw [if_pos fits]
      exact ⟨_, rfl⟩
  · rw [if_pos timed]
    exact ⟨_, rfl⟩

/-- What a trigger does besides the two blinking scenes depends on no assertion. -/
theorem ledSceneTrigger_other {scene : Scene} (notOnce : scene.type ≠ SceneType.blinkOnce)
    (notPeriodic : scene.type ≠ SceneType.blinkPeriodic) (player : Player) :
    ∃ next, ledSceneTrigger scene player = .ok next := by
  rw [ledSceneTrigger, sceneChangeHandler, if_neg notOnce, if_neg notPeriodic]
  dsimp only
  repeat' split
  all_goals exact ⟨_, rfl⟩

theorem ledSceneTrigger_once {scene : Scene} (once : scene.type = SceneType.blinkOnce)
    (player : Player) : ledSceneTrigger scene player = onBlinkOnce scene player := by
  rw [ledSceneTrigger, sceneChangeHandler, if_neg (by rw [once]; decide), if_pos once]

theorem ledSceneTrigger_periodic {scene : Scene} (periodic : scene.type = SceneType.blinkPeriodic)
    (player : Player) : ledSceneTrigger scene player = onBlinkPeriodic scene player := by
  rw [ledSceneTrigger, sceneChangeHandler, if_neg (by rw [periodic]; decide),
    if_neg (by rw [periodic]; decide), if_pos periodic]

/-- A scene is played or an assertion stops the device. -/
theorem ledSceneTrigger_ok {scene : Scene} (playable : scene.Playable) (player : Player) :
    ∃ next, ledSceneTrigger scene player = .ok next := by
  by_cases once : scene.type = SceneType.blinkOnce
  · obtain ⟨timed, visible⟩ := playable.once once
    rw [ledSceneTrigger_once once]
    exact onBlinkOnce_ok timed visible player
  by_cases periodic : scene.type = SceneType.blinkPeriodic
  · obtain ⟨timed, fits, visible⟩ := playable.periodic periodic
    rw [ledSceneTrigger_periodic periodic]
    exact onBlinkPeriodic_ok timed fits visible player
  exact ledSceneTrigger_other once periodic player

theorem ledSceneTrigger_failed {scene : Scene} (unplayable : ¬ scene.Playable) (player : Player) :
    ∃ failed, ledSceneTrigger scene player = .error (.assertion failed) := by
  by_cases once : scene.type = SceneType.blinkOnce
  · rw [ledSceneTrigger_once once]
    refine onBlinkOnce_failed (fun valid => unplayable ⟨fun _ => valid, fun periodic => ?_⟩) player
    rw [once] at periodic
    exact absurd periodic (by decide)
  by_cases periodic : scene.type = SceneType.blinkPeriodic
  · rw [ledSceneTrigger_periodic periodic]
    exact onBlinkPeriodic_failed
      (fun valid => unplayable ⟨fun same => absurd same once, fun _ => valid⟩) player
  exact absurd ⟨fun same => absurd same once, fun same => absurd same periodic⟩ unplayable

end EsInverter.Led
