import EsInverter.Ota.HttpOta
import EsInverter.Update.State

/-!
# The phase of an update over whole runs

The OTA task posts its events to the default event loop, which hands them to
`http_ota_event_handler` in order; updates are started and applied in between.
What was handled and called is kept in order, so that a state can be compared
with its history.
-/

set_option autoImplicit false

namespace EsInverter.Update

open Lib Ota

/-- What reached the update module. -/
inductive Happening
  | handled (event : Posted)
  | started (request : StartRequest)
  | applied (delayMs : UInt32)
  deriving DecidableEq, Repr

structure System where
  task : Ota.State
  /-- How many of the posted events were handled. -/
  handled : Nat
  updater : Updater
  log : List Happening
  fault : Option Fault
  deriving DecidableEq, Repr

def System.initial : System :=
  { task := .initial, handled := 0, updater := .initial, log := [], fault := none }

/-- An error code as a byte; `espErr` is the low byte of a stored `esp_err_t`. -/
def errCodeByte (espErr : UInt8) : ErrCode → UInt8
  | .none => 0
  | .rejected => 2
  | .aborted => 3
  | .imgInvalid => 4
  | .verify => 5
  | .init => 0x40
  | .internal => 0x41
  | .incomplete => 0x42
  | .cleanup => 0x43
  | .other => 0xFE
  | .esp => espErr

def httpOtaEventHandler (device : Device) (espErr : UInt8) (event : Posted) (updater : Updater) :
    Except Fault Updater :=
  match event with
  | .begin => .ok updater
  | .validated version => updateStartedHandler device version updater
  | .transfer progress => updateNewProgressHandler device progress updater
  | .downloaded => updateDownloadedHandler device updater
  | .verified => updateReadyHandler device updater
  | .finished => .ok (updateApply 0 updater)
  | .abort errCode => updateErrorHandler device (errCodeByte espErr errCode) updater

/-- `http_ota_submit_start`: the message is refused when the queue stays full. -/
def httpOtaSubmitStart (task : Ota.State) (url : List UInt8) : Except Fault Bool :=
  match url with
  | [] => .error .outOfBounds
  | first :: _ =>
      if first ≠ 47 then .error (.assertion .urlSlash)
      else .ok (decide (task.otaQ.length < maxQueueMsgs))

inductive Event
  /-- An iteration of the OTA task, or a message of another sender to it. -/
  | task (event : Ota.Event)
  /-- The event loop handles the next event. -/
  | handle (espErr : UInt8)
  | start (request : StartRequest)
  | apply (delayMs : UInt32)
  /-- The scheduled restart is due. -/
  | due
  deriving DecidableEq, Repr

/-- A handler or command has run, or has left the language. -/
def System.after (system : System) (happening : Happening) : Except Fault Updater → System
  | .ok updater => { system with updater, log := system.log ++ [happening] }
  | .error fault => { system with fault := some fault }

def startOta (device : Device) (request : StartRequest) (system : System) : System :=
  match updateStart device (httpOtaSubmitStart system.task) request system.updater with
  | .error fault => { system with fault := some fault }
  | .ok (updater, error) =>
      let task :=
        if error = .none then
          { system.task with
            otaQ := system.task.otaQ ++ [⟨.start, some .newFwImageUrl⟩] }
        else system.task
      ({ system with task } : System).after (.started request) (.ok updater)

def System.step (device : Device) (system : System) (event : Event) : Option System :=
  if system.fault ≠ none ∨ system.updater.restarted = true then none
  else
    match event with
    | .task event =>
        (State.step (device.version.take 32) system.task event).map fun task => { system with task }
    | .handle espErr =>
        match system.task.posted[system.handled]? with
        | none => none
        | some posted =>
            some (({ system with handled := system.handled + 1 } : System).after
              (.handled posted) (httpOtaEventHandler device espErr posted system.updater))
    | .start request => some (startOta device request system)
    | .apply delayMs =>
        some (system.after (.applied delayMs) (.ok (updateApply delayMs system.updater)))
    | .due =>
        provided (system.updater.scheduled ≠ none)
          { system with updater := updateApplyDelayed system.updater }

def updates (device : Device) : Machine System Event := ⟨System.step device⟩

/-! ### What a history says -/

/-- The last VALIDATED or ABORT event. -/
def lastMark (log : List Happening) : Option Posted :=
  log.foldl (fun last happening =>
    match happening with
    | .handled (.validated version) => some (.validated version)
    | .handled (.abort errCode) => some (.abort errCode)
    | _ => last) none

/-- An ABORT event was handled, and no VALIDATED event since. -/
def Failed (system : System) : Prop := ∃ errCode, lastMark system.log = some (.abort errCode)

/-- A VALIDATED event was handled, and no ABORT event since. -/
def Ongoing (system : System) : Prop := ∃ version, lastMark system.log = some (.validated version)

/-- What the law asks of a state. -/
def PhaseLaw (system : System) : Prop :=
  (Failed system → updateInProgress system.updater = false) ∧
    (Ongoing system → updateInProgress system.updater = true)

/-- What sets the phase in a module that was never touched. -/
def Happening.setsPhase : Happening → Bool
  | .handled .begin => false
  | .handled (.validated _) => true
  | .handled (.transfer progress) => progress ≠ 0
  | .handled .downloaded => true
  | .handled .verified => true
  | .handled .finished => true
  | .handled (.abort _) => false
  | .started _ => false
  | .applied _ => true

/-! ### The phase is never reset -/

/-- The phase and the progress, compared with the history. -/
structure Followed (log : List Happening) (updater : Updater) : Prop where
  phase : updateInProgress updater = log.any Happening.setsPhase
  progress : log.any Happening.setsPhase = false → updater.state.progress = 0

theorem sendUpdateStatus_state {device : Device} {updater result : Updater}
    (sent : sendUpdateStatus device updater = .ok result) : result.state = updater.state := by
  rw [sendUpdateStatus] at sent
  obtain ⟨newFwVer, -, returned⟩ := bind_ok sent
  cases returned
  rfl

theorem log_any_concat (log : List Happening) (happening : Happening) :
    (log ++ [happening]).any Happening.setsPhase =
      (log.any Happening.setsPhase || happening.setsPhase) := by
  simp

/-- Once something has set the phase it is away from idle. -/
theorem Followed.away {log : List Happening} {result : Updater}
    (touched : log.any Happening.setsPhase = true) (away : result.state.phase ≠ .idle) :
    Followed log result where
  phase := by
    rw [touched, updateInProgress]
    simpa using away
  progress untouched := by
    rw [touched] at untouched
    cases untouched

/-- A handler that sets the phase. -/
theorem Followed.set {log : List Happening} {result : Updater} {happening : Happening}
    (sets : happening.setsPhase = true) (away : result.state.phase ≠ .idle) :
    Followed (log ++ [happening]) result :=
  .away (by rw [log_any_concat, sets, Bool.or_true]) away

/-- A handler that leaves phase and progress alone. -/
theorem Followed.keep {log : List Happening} {updater result : Updater} {happening : Happening}
    (followed : Followed log updater) (quiet : happening.setsPhase = false)
    (phase : result.state.phase = updater.state.phase)
    (progress : result.state.progress = updater.state.progress) :
    Followed (log ++ [happening]) result where
  phase := by
    rw [log_any_concat, quiet, Bool.or_false, ← followed.phase, updateInProgress, phase,
      updateInProgress]
  progress untouched := by
    rw [log_any_concat, quiet, Bool.or_false] at untouched
    rw [progress, followed.progress untouched]

theorem Followed.phase_ne {log : List Happening} {updater : Updater}
    (followed : Followed log updater) (touched : log.any Happening.setsPhase = true) :
    updater.state.phase ≠ .idle := by
  have set := followed.phase
  rw [touched, updateInProgress] at set
  simpa using set

/-- Progress other than zero was reported by an event that set the phase. -/
theorem Followed.touched {log : List Happening} {updater : Updater}
    (followed : Followed log updater) (moved : updater.state.progress ≠ 0) :
    log.any Happening.setsPhase = true := by
  cases touched : log.any Happening.setsPhase with
  | true => rfl
  | false => exact absurd (followed.progress touched) moved

theorem followed_progress {device : Device} {progress : UInt8} {updater result : Updater}
    {log : List Happening} (followed : Followed log updater)
    (handled : updateNewProgressHandler device progress updater = .ok result) :
    Followed (log ++ [.handled (.transfer progress)]) result := by
  rw [updateNewProgressHandler] at handled
  split at handled
  · next same =>
      cases handled
      by_cases zero : progress = 0
      · exact followed.keep (by simp [Happening.setsPhase, zero]) rfl rfl
      · have before := followed.touched (by rwa [← same])
        exact .away (by rw [log_any_concat, before, Bool.true_or]) (followed.phase_ne before)
  · next changed =>
      apply Followed.away
      · rw [log_any_concat]
        by_cases zero : progress = 0
        · have moved : updater.state.progress ≠ 0 := fun still => changed (by rw [zero, still])
          rw [followed.touched moved, Bool.true_or]
        · simp [Happening.setsPhase, zero]
      · rw [sendUpdateStatus_state handled]
        simp

theorem updateApply_phase (delayMs : UInt32) (updater : Updater) :
    (updateApply delayMs updater).state.phase = .apply := by
  rw [updateApply]
  dsimp only
  split
  · rfl
  · split <;> rfl

theorem followed_handler {device : Device} {espErr : UInt8} {event : Posted}
    {updater result : Updater} {log : List Happening} (followed : Followed log updater)
    (handled : httpOtaEventHandler device espErr event updater = .ok result) :
    Followed (log ++ [.handled event]) result := by
  cases event with
  | begin =>
      cases handled
      exact followed.keep rfl rfl rfl
  | validated version =>
      rw [httpOtaEventHandler, updateStartedHandler] at handled
      obtain ⟨newFwVer, -, sent⟩ := bind_ok handled
      refine .set rfl ?_
      rw [sendUpdateStatus_state sent]
      simp
  | transfer progress => exact followed_progress followed handled
  | downloaded =>
      rw [httpOtaEventHandler, updateDownloadedHandler] at handled
      refine .set rfl ?_
      rw [sendUpdateStatus_state handled]
      simp
  | verified =>
      rw [httpOtaEventHandler, updateReadyHandler] at handled
      refine .set rfl ?_
      rw [sendUpdateStatus_state handled]
      simp
  | finished =>
      cases handled
      refine .set rfl ?_
      rw [updateApply_phase]
      simp
  | abort errCode =>
      rw [httpOtaEventHandler, updateErrorHandler] at handled
      have state := sendUpdateStatus_state handled
      apply followed.keep rfl
      · rw [state]
      · rw [state]

theorem setNewFwUrl_keeps {newUrl : Option (List UInt8)} {fwUrlLen : UInt16}
    {updater result : Updater} {valid : Bool}
    (set : setNewFwUrl newUrl fwUrlLen updater = .ok (result, valid)) :
    result.state.phase = updater.state.phase ∧ result.state.progress = updater.state.progress := by
  unfold setNewFwUrl at set
  grind

theorem updateStart_keeps {device : Device} {start : List UInt8 → Except Fault Bool}
    {request : StartRequest} {updater result : Updater} {error : UpdateError}
    (started : updateStart device start request updater = .ok (result, error)) :
    result.state.phase = updater.state.phase ∧ result.state.progress = updater.state.progress := by
  rw [updateStart] at started
  split at started
  · cases started
    exact ⟨rfl, rfl⟩
  split at started
  · cases started
    exact ⟨rfl, rfl⟩
  obtain ⟨installedFw, -, started⟩ := bind_ok started
  split at started
  · cases started
    exact ⟨rfl, rfl⟩
  obtain ⟨⟨stored, valid⟩, set, started⟩ := bind_ok started
  have kept := setNewFwUrl_keeps set
  dsimp only at started
  split at started
  · cases started
    exact kept
  obtain ⟨accepted, -, started⟩ := bind_ok started
  split at started <;>
    · cases started
      exact kept

theorem followed_after {system : System} {happening : Happening} {result : Except Fault Updater}
    (followed : Followed system.log system.updater)
    (moved : ∀ updater, result = .ok updater → Followed (system.log ++ [happening]) updater) :
    Followed (system.after happening result).log (system.after happening result).updater := by
  cases result with
  | error fault => exact followed
  | ok updater => exact moved updater rfl

theorem followed_startOta {device : Device} {request : StartRequest} {system : System}
    (followed : Followed system.log system.updater) :
    Followed (startOta device request system).log (startOta device request system).updater := by
  unfold startOta
  split
  · exact followed
  · next updater error started =>
      obtain ⟨phase, progress⟩ := updateStart_keeps started
      exact followed.keep rfl phase progress

/-- The updater is as its history says. -/
def System.InStep (system : System) : Prop := Followed system.log system.updater

theorem inStep_step {device : Device} {system next : System} {event : Event}
    (followed : system.InStep)
    (stepped : (updates device).step system event = some next) : next.InStep := by
  replace stepped : System.step device system event = some next := stepped
  unfold System.step at stepped
  split at stepped
  · cases stepped
  cases event with
  | task event =>
      obtain ⟨task, -, rfl⟩ := Option.map_eq_some_iff.mp stepped
      exact followed
  | handle espErr =>
      dsimp only at stepped
      split at stepped
      · cases stepped
      · next posted found =>
          cases stepped
          exact followed_after followed fun updater handled => followed_handler followed handled
  | start request =>
      cases stepped
      exact followed_startOta followed
  | apply delayMs =>
      cases stepped
      refine .set rfl ?_
      rw [System.after, updateApply_phase]
      simp
  | due =>
      obtain ⟨-, rfl⟩ := provided_eq_some.mp stepped
      exact ⟨followed.phase, followed.progress⟩

theorem inStep_run {device : Device} {trace : List (System × Event)} {finish : System}
    (run : (updates device).Run .initial trace finish) : finish.InStep :=
  run.always ⟨rfl, fun _ => rfl⟩ inStep_step

theorem lastMark_concat (log : List Happening) (happening : Happening) :
    lastMark (log ++ [happening]) =
      match happening with
      | .handled (.validated version) => some (.validated version)
      | .handled (.abort errCode) => some (.abort errCode)
      | _ => lastMark log := by
  rw [lastMark, lastMark, List.foldl_append, List.foldl_cons, List.foldl_nil]

theorem mem_of_lastMark {log : List Happening} {event : Posted} (last : lastMark log = some event) :
    .handled event ∈ log := by
  induction log using List.reverseRecOn with
  | nil => cases last
  | append_singleton log happening ih =>
      rw [lastMark_concat] at last
      split at last
      · cases last
        simp
      · cases last
        simp
      · exact List.mem_append_left _ (ih last)

/-- An OTA that was validated is in progress. -/
theorem inProgress_of_ongoing {system : System} (followed : Followed system.log system.updater)
    (ongoing : Ongoing system) : updateInProgress system.updater = true := by
  obtain ⟨version, last⟩ := ongoing
  rw [followed.phase]
  exact List.any_eq_true.mpr ⟨_, mem_of_lastMark last, rfl⟩

/-- In every state of every run the law holds exactly if nothing that sets the phase happened up to
a failed update. -/
theorem phaseLaw_iff {device : Device} {trace : List (System × Event)} {finish : System}
    (run : (updates device).Run .initial trace finish) :
    PhaseLaw finish ↔
      (Failed finish → ∀ happening ∈ finish.log, happening.setsPhase = false) := by
  have followed := inStep_run run
  have untouched : updateInProgress finish.updater = false ↔
      ∀ happening ∈ finish.log, happening.setsPhase = false := by
    rw [followed.phase]
    simp
  constructor
  · intro law failed
    exact untouched.mp (law.1 failed)
  · intro quiet
    exact ⟨fun failed => untouched.mpr (quiet failed), inProgress_of_ongoing followed⟩

/-! ### A download that breaks off -/

/-- `1.0.0` -/
def installedDevice : Device :=
  { devType := 1, hwVer := 1, version := [49, 46, 48, 46, 48] ++ List.replicate 27 0 }

/-- An image of version `1.1.0`. -/
def newerImage : List UInt8 := List.replicate 48 0 ++ [49, 46, 49, 46, 48] ++ List.replicate 235 0

def newerRequest : StartRequest :=
  { devType := 1, newFwVer := 0x010100, hwVer := 1,
    newUrl := some ([47, 102, 119] ++ List.replicate 126 0), fwUrlLen := 3, policy := 0 }

/-- A fifth of the image arrives, and then the connection is lost. -/
def brokenOff : List Event :=
  [.start newerRequest, .task (.iterate {}), .task (.iterate {}),
    .task (.iterate
      { deliveries := [.data newerImage true], perform := .inProgress, imgSize := 1440 }),
    .task (.iterate { perform := .error }), .handle 0xFF, .handle 0xFF, .handle 0xFF, .handle 0xFF]

/-- An OTA that ends before anything arrives. -/
def notBegun : List Event :=
  [.start newerRequest, .task (.iterate {}), .task (.iterate { decryptStart := false }),
    .handle 0xFF]

theorem exists_run {device : Device} {events : List Event} {log : List Happening} {phase : Bool}
    (seen : ((updates device).exec .initial events).map
      (fun system => (system.log, updateInProgress system.updater)) = some (log, phase)) :
    ∃ trace finish, (updates device).Run .initial trace finish ∧
      finish.log = log ∧ updateInProgress finish.updater = phase := by
  obtain ⟨finish, executed, same⟩ := Option.map_eq_some_iff.mp seen
  exact ⟨_, finish, Machine.run_of_exec executed, congrArg Prod.fst same, congrArg Prod.snd same⟩

theorem phaseLaw_notBegun : ∃ finish : System, Failed finish ∧ PhaseLaw finish := by
  have seen : ((updates installedDevice).exec .initial notBegun).map
      (fun system => (system.log, updateInProgress system.updater)) =
        some ([.started newerRequest, .handled (.abort .init)], false) := by
    decide +kernel
  obtain ⟨trace, finish, run, log, -⟩ := exists_run seen
  refine ⟨finish, ⟨.init, by rw [log]; rfl⟩, (phaseLaw_iff run).mpr fun _ => ?_⟩
  rw [log]
  decide

theorem brokenOff_in_progress :
    ¬∀ trace finish, (updates installedDevice).Run .initial trace finish → PhaseLaw finish := by
  intro law
  have seen : ((updates installedDevice).exec .initial brokenOff).map
      (fun system => (system.log, updateInProgress system.updater)) =
        some ([.started newerRequest, .handled .begin,
          .handled (.validated ((newerImage.drop 48).take 32)), .handled (.transfer 20),
          .handled (.abort .esp)], true) := by
    decide +kernel
  obtain ⟨trace, finish, run, log, phase⟩ := exists_run seen
  have ended := (law trace finish run).1 ⟨.esp, by rw [log]; rfl⟩
  rw [phase] at ended
  cases ended

end EsInverter.Update
