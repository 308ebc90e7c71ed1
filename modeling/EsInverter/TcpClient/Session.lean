import EsInverter.TcpClient.Pairing

/-!
# The sessions of the TCP client

`tx_task` dials and closes the transport, `rx_task` listens to it or sleeps, the
event loop and the timer service ask for the next connection.  The steps of the
queues are those of `client`; here each of them finds its task at the right
place, and what the tasks do between them is a step of its own.
-/

set_option autoImplicit false

namespace EsInverter.TcpClient

open Lib

/-- `CONFIG_EM_TCP_RX_STATE_MSG_Q_MAX` -/
def rxStateMsgQMax : Nat := 3

/-- `rx_task_state_t` -/
inductive RxTaskState
  | suspend
  | resume
  deriving DecidableEq, Repr

/-- `state_duration` of `rx_task` -/
inductive StateDuration
  | maxDelay
  | sleeptime
  | zero
  deriving DecidableEq, Repr

/-- Where `rx_task` is. -/
inductive RxTask
  | receiving (taskState : RxTaskState) (stateDuration : StateDuration)
  | polling
  | reading
  | failing
  | reporting
  deriving DecidableEq, Repr

/-- What `tx_task` has done of a `CMD_CONNECT` or a `CMD_DISCONNECT`. -/
inductive Stage
  | idle
  | dialling
  | dialled
  | resumed
  | closing
  | judging
  | scheduling
  deriving DecidableEq, Repr

/-- Where the default event loop is. -/
inductive EventTask
  | idle
  /-- Between the two handlers of `IP_EVENT_STA_GOT_IP`. -/
  | assigned
  | noticing
  | losing
  | suspending
  deriving DecidableEq, Repr

/-- Where the timer service is with `connect_handler`. -/
inductive TimerTask
  | idle
  | calling
  | submitting
  deriving DecidableEq, Repr

structure Session where
  client : State
  stage : Stage
  /-- `ssl_handle` has been connected and not closed since. -/
  linked : Bool
  rxQ : List RxTaskState
  rxTask : RxTask
  eventTask : EventTask
  /-- `connect_handler` is scheduled. -/
  timer : Bool
  timerTask : TimerTask
  /-- `CONNECTED_BIT` of `wifi_evt_group` -/
  wifi : Bool
  deriving DecidableEq, Repr

inductive RxEvent
  | received
  | timedOut
  | pollTimedOut
  | pollFailed
  | pollReady
  | readFailed
  | read
  deriving DecidableEq, Repr

inductive SessionEvent
  | client (event : Event)
  /-- `esp_transport_connect` returns 0. -/
  | dialled
  /-- `TCP_RX_RESUME` is queued; the assertion behind it stops the device when the queue is full. -/
  | resumed
  /-- `close_conn_handler` -/
  | closed
  /-- `em_wifi_sta_is_connected(0)` in `tx_task` -/
  | judged
  /-- `scheduler_set_callback` in `tx_task` -/
  | scheduled
  | rx (event : RxEvent)
  /-- `ip_assigned_handler` of `wifi.c` -/
  | ipAssigned
  /-- `ip_assigned_handler` of `tcp_client.c` -/
  | armed
  /-- `WIFI_EVENT_STA_DISCONNECTED` in `wifi_event_handler` -/
  | staDisconnected
  /-- `TCP_RX_SUSPEND` is queued by `wifi_disconnected_handler`. -/
  | suspended
  /-- `callback_wrapper` up to the call of `connect_handler`. -/
  | expired
  deriving DecidableEq, Repr

/-- `rx_task` with the state it has received, or kept when the time was over. -/
def RxTaskState.attend : RxTaskState → RxTask
  | .suspend => .receiving .suspend .maxDelay
  | .resume => .polling

namespace Session

def initial : Session :=
  { client := .initial, stage := .idle, linked := false, rxQ := [],
    rxTask := .receiving .suspend .maxDelay, eventTask := .idle, timer := false,
    timerTask := .idle, wifi := false }

/-- The task that takes a step of the queues is where it takes it. -/
def Allows (session : Session) : Event → Prop
  | .tx .receive => session.stage = .idle
  | .tx .connected => session.stage = .resumed
  | .tx .connectFailed => session.stage = .dialling
  | .other (.reset .rxError) => session.rxTask = .failing
  | .other (.submit .rxError) => session.rxTask = .reporting
  | .other .lossNoticed => session.eventTask = .idle
  | .other (.reset .wifiLoss) => session.eventTask = .noticing
  | .other (.submit .wifiLoss) => session.eventTask = .losing
  | .other (.reset .connectTimer) => session.timerTask = .calling
  | .other (.submit .connectTimer) => session.timerTask = .submitting
  | _ => True

instance (session : Session) (event : Event) : Decidable (session.Allows event) := by
  unfold Allows
  split <;> infer_instance

/-- Where a step of the queues that leaves `client` brings its task. -/
def after (session : Session) (event : Event) (client : State) : Session :=
  match event with
  | .tx .connect => { session with client, stage := .dialling }
  | .tx .connected => { session with client, stage := .idle }
  | .tx .connectFailed => { session with client, stage := .idle }
  | .tx .disconnect => { session with client, stage := .closing }
  | .other (.reset .rxError) => { session with client, rxTask := .reporting }
  | .other (.submit .rxError) => { session with client, rxTask := .receiving .resume .maxDelay }
  | .other .lossNoticed => { session with client, eventTask := .noticing }
  | .other (.reset .wifiLoss) => { session with client, eventTask := .losing }
  | .other (.submit .wifiLoss) => { session with client, eventTask := .suspending }
  | .other (.reset .connectTimer) => { session with client, timerTask := .submitting }
  | .other (.submit .connectTimer) => { session with client, timerTask := .idle }
  | _ => { session with client }

def clientStep (session : Session) (event : Event) : Option Session :=
  if session.Allows event then (session.client.step event).map (session.after event) else none

def rxStep (session : Session) : RxEvent → Option Session
  | .received =>
      match session.rxQ, session.rxTask with
      | taskState :: rest, .receiving _ _ =>
          some { session with rxQ := rest, rxTask := taskState.attend }
      | _, _ => none
  | .timedOut =>
      match session.rxTask with
      | .receiving taskState stateDuration =>
          provided (session.rxQ = [] ∧ stateDuration ≠ .maxDelay)
            { session with rxTask := taskState.attend }
      | _ => none
  | .pollTimedOut =>
      provided (session.rxTask = .polling)
        { session with rxTask := .receiving .resume .sleeptime }
  | .pollFailed => provided (session.rxTask = .polling) { session with rxTask := .failing }
  | .pollReady => provided (session.rxTask = .polling) { session with rxTask := .reading }
  | .readFailed => provided (session.rxTask = .reading) { session with rxTask := .failing }
  | .read =>
      provided (session.rxTask = .reading) { session with rxTask := .receiving .resume .zero }

def step (session : Session) : SessionEvent → Option Session
  | .client event => session.clientStep event
  | .dialled =>
      provided (session.stage = .dialling) { session with stage := .dialled, linked := true }
  | .resumed =>
      provided (session.stage = .dialled ∧ session.rxQ.length < rxStateMsgQMax)
        { session with stage := .resumed, rxQ := session.rxQ ++ [.resume] }
  | .closed =>
      provided (session.stage = .closing) { session with stage := .judging, linked := false }
  | .judged =>
      provided (session.stage = .judging)
        { session with stage := if session.wifi then .scheduling else .idle }
  | .scheduled =>
      provided (session.stage = .scheduling) { session with stage := .idle, timer := true }
  | .rx event => session.rxStep event
  | .ipAssigned =>
      provided (session.eventTask = .idle)
        { session with wifi := true, eventTask := .assigned }
  | .armed =>
      provided (session.eventTask = .assigned)
        { session with timer := true, eventTask := .idle }
  | .staDisconnected => provided (session.eventTask = .idle) { session with wifi := false }
  | .suspended =>
      provided (session.eventTask = .suspending ∧ session.rxQ.length < rxStateMsgQMax)
        { session with eventTask := .idle, rxQ := session.rxQ ++ [.suspend] }
  | .expired =>
      provided (session.timer = true ∧ session.timerTask = .idle)
        { session with timer := false, timerTask := .calling }

end Session

def sessions : Machine Session SessionEvent := ⟨Session.step⟩

namespace Session

theorem clientStep_eq_some {session next : Session} {event : Event}
    (stepped : session.clientStep event = some next) :
    session.Allows event ∧
      ∃ client, session.client.step event = some client ∧ next = session.after event client := by
  rw [clientStep] at stepped
  split at stepped
  · obtain ⟨client, moved, same⟩ := Option.map_eq_some_iff.mp stepped
    exact ⟨‹_›, client, moved, same.symm⟩
  · cases stepped

@[simp]
theorem after_client (session : Session) (event : Event) (state : State) :
    (session.after event state).client = state := by
  unfold after
  split <;> rfl

@[simp]
theorem after_linked (session : Session) (event : Event) (state : State) :
    (session.after event state).linked = session.linked := by
  unfold after
  split <;> rfl

@[simp]
theorem after_rxQ (session : Session) (event : Event) (state : State) :
    (session.after event state).rxQ = session.rxQ := by
  unfold after
  split <;> rfl

@[simp]
theorem after_timer (session : Session) (event : Event) (state : State) :
    (session.after event state).timer = session.timer := by
  unfold after
  split <;> rfl

@[simp]
theorem after_wifi (session : Session) (event : Event) (state : State) :
    (session.after event state).wifi = session.wifi := by
  unfold after
  split <;> rfl

end Session

/-! ### Where `tx_task` is -/

/-- Where `tx_task` is in the middle of a connect or a disconnect. -/
def Stage.place : Stage → TxTask
  | .dialling | .dialled | .resumed => .opening
  | .idle | .closing | .judging | .scheduling => .waiting

/-- What one step does to the connection. -/
inductive Session.Turn (session next : Session) : Prop
  | kept (stage : next.stage = session.stage) (linked : next.linked = session.linked)
      (connState : next.client.connState = session.client.connState)
      (placed : session.stage ≠ .idle → session.client.txTask = session.stage.place →
        next.client.txTask = session.stage.place)
      (opening : next.client.txTask = .opening → session.client.txTask = .opening)
      (writing : next.client.txTask = .writing →
        session.client.txTask = .writing ∨ session.client.connState = .connected)
  | connect (stage : next.stage = .dialling) (linked : next.linked = session.linked)
      (connState : next.client.connState = .connecting) (txTask : next.client.txTask = .opening)
  | connectFailed (before : session.stage = .dialling) (stage : next.stage = .idle)
      (linked : next.linked = session.linked)
      (connState : next.client.connState = session.client.connState)
      (txTask : next.client.txTask = .failing)
  | dialled (before : session.stage = .dialling) (stage : next.stage = .dialled)
      (linked : next.linked = true) (client : next.client = session.client)
  | resumed (before : session.stage = .dialled) (stage : next.stage = .resumed)
      (linked : next.linked = session.linked) (client : next.client = session.client)
  | connected (before : session.stage = .resumed) (stage : next.stage = .idle)
      (linked : next.linked = session.linked) (connState : next.client.connState = .connected)
      (txTask : next.client.txTask = .waiting)
  | disconnect (stage : next.stage = .closing) (linked : next.linked = session.linked)
      (connState : next.client.connState = .disconnected) (txTask : next.client.txTask = .waiting)
  | closed (before : session.stage = .closing) (stage : next.stage = .judging)
      (linked : next.linked = false) (client : next.client = session.client)
  | judged (before : session.stage = .judging)
      (stage : next.stage = if session.wifi then .scheduling else .idle)
      (linked : next.linked = session.linked) (client : next.client = session.client)
  | scheduled (before : session.stage = .scheduling) (stage : next.stage = .idle)
      (linked : next.linked = session.linked) (client : next.client = session.client)

namespace Session

variable {session next : Session}

/-- The other tasks leave the connection to `tx_task`. -/
theorem Turn.of_same (stage : next.stage = session.stage) (linked : next.linked = session.linked)
    (connState : next.client.connState = session.client.connState)
    (txTask : next.client.txTask = session.client.txTask) : session.Turn next := by
  refine .kept stage linked connState ?_ ?_ ?_
  · intro _ placed
    rw [txTask, placed]
  · intro opening
    rw [← txTask, opening]
  · intro writing
    exact .inl (txTask ▸ writing)

/-- A step of `tx_task` within a command that is neither a connect nor a disconnect. -/
theorem Turn.of_busy (stage : next.stage = session.stage) (linked : next.linked = session.linked)
    (connState : next.client.connState = session.client.connState)
    (busy : session.client.txTask ≠ session.stage.place ∨ session.stage = .idle)
    (opening : next.client.txTask ≠ .opening)
    (writing : next.client.txTask = .writing → session.client.connState = .connected) :
    session.Turn next := by
  refine .kept stage linked connState ?_ ?_ ?_
  · intro turning placed
    rcases busy with elsewhere | idle
    · exact absurd placed elsewhere
    · exact absurd idle turning
  · intro now
    exact absurd now opening
  · intro now
    exact .inr (writing now)

theorem Stage.place_cases (stage : Stage) : stage.place = .opening ∨ stage.place = .waiting := by
  cases stage
  all_goals simp [Stage.place]

theorem turn_caller {client : State} {event : CallerEvent}
    (stepped : session.client.callerStep event = some client) :
    session.Turn (session.after (.caller event) client) := by
  cases event with
  | alloc len =>
      cases stepped
      exact .of_same rfl rfl rfl rfl
  | emptyRefused buf | sendQAccepts buf | sendQFull buf | cmdQAccepts buf | cmdQFull buf
  | free buf =>
      obtain ⟨_, rfl⟩ := provided_eq_some.mp stepped
      exact .of_same rfl rfl rfl rfl

theorem turn_other {client : State} {event : OtherEvent}
    (stepped : session.client.otherStep event = some client) :
    session.Turn (session.after (.other event) client) := by
  cases event with
  | longDelayAccepted | longDelayDropped | lossNoticed =>
      obtain ⟨_, rfl⟩ := provided_eq_some.mp stepped
      exact .of_same rfl rfl rfl rfl
  | reset submitter | submit submitter =>
      obtain ⟨_, rfl⟩ := provided_eq_some.mp stepped
      cases submitter with
      | rxError | wifiLoss | connectTimer => exact .of_same rfl rfl rfl rfl

theorem turn_tx {client : State} {event : TxEvent} (allowed : session.Allows (.tx event))
    (stepped : session.client.txStep event = some client) :
    session.Turn (session.after (.tx event) client) := by
  have place := Stage.place_cases session.stage
  cases event with
  | receive =>
      obtain ⟨cmd, rest, queue, waiting, rfl⟩ := receive_eq_some stepped
      exact .of_busy rfl rfl rfl (.inr allowed) (by simp [after]) (by simp [after])
  | take =>
      obtain ⟨buf, rest, queue, received, rfl⟩ := take_eq_some stepped
      refine .of_busy rfl rfl rfl (.inl ?_) (by simp [after]) (by simp [after])
      rcases place with place | place <;> simp [received, place]
  | connect =>
      obtain ⟨_, rfl⟩ := provided_eq_some.mp stepped
      exact .connect rfl rfl rfl rfl
  | connected =>
      obtain ⟨_, rfl⟩ := provided_eq_some.mp stepped
      exact .connected allowed rfl rfl rfl rfl
  | connectFailed =>
      obtain ⟨_, rfl⟩ := provided_eq_some.mp stepped
      exact .connectFailed allowed rfl rfl rfl rfl
  | disconnect =>
      obtain ⟨_, rfl⟩ := provided_eq_some.mp stepped
      exact .disconnect rfl rfl rfl rfl
  | longDelay | written | writeFailed | reset =>
      obtain ⟨running, rfl⟩ := provided_eq_some.mp stepped
      refine .of_busy rfl rfl rfl (.inl ?_) (by simp [after]) (by simp [after])
      rcases place with place | place <;> simp [running, place]
  | sendQEmpty | notConnected buf | emptyBuffer buf | submit =>
      obtain ⟨⟨running, _⟩, rfl⟩ := provided_eq_some.mp stepped
      refine .of_busy rfl rfl rfl (.inl ?_) (by simp [after, State.free])
        (by simp [after, State.free])
      rcases place with place | place <;> simp [running, place]
  | encodeFailed buf | encoded buf =>
      obtain ⟨⟨running, connected, _⟩, rfl⟩ := provided_eq_some.mp stepped
      obtain ⟨readFreed, read⟩ := session.client.read_eq buf
      rw [read]
      refine .of_busy rfl rfl rfl (.inl ?_) (by simp [after, State.free]) fun _ => connected
      rcases place with place | place <;> simp [running, place]

/-- A step of the loop of `rx_task` changes nothing but its queue and itself.  An error is reported
by steps of the queues. -/
theorem rxStep_eq_some {event : RxEvent} (stepped : session.rxStep event = some next) :
    (session.rxTask ≠ .failing ∧ session.rxTask ≠ .reporting) ∧
      ∃ rxQ rxTask, rxTask ≠ .reporting ∧ next = { session with rxQ, rxTask } := by
  have attends (taskState : RxTaskState) : taskState.attend ≠ .reporting := by
    cases taskState <;> simp [RxTaskState.attend]
  unfold rxStep at stepped
  split at stepped
  · split at stepped
    · rename_i receiving
      cases stepped
      exact ⟨by simp [receiving], _, _, attends _, rfl⟩
    · cases stepped
  · split at stepped
    · rename_i receiving
      obtain ⟨_, rfl⟩ := provided_eq_some.mp stepped
      exact ⟨by simp [receiving], _, _, attends _, rfl⟩
    · cases stepped
  all_goals
    obtain ⟨running, rfl⟩ := provided_eq_some.mp stepped
    exact ⟨by simp [running], _, _, by simp, rfl⟩

theorem turn_step {event : SessionEvent} (stepped : session.step event = some next) :
    session.Turn next := by
  cases event with
  | client event =>
      obtain ⟨allowed, client, moved, rfl⟩ := clientStep_eq_some stepped
      cases event with
      | caller event => exact turn_caller moved
      | other event => exact turn_other moved
      | tx event => exact turn_tx allowed moved
  | rx event =>
      obtain ⟨_, rxQ, rxTask, _, rfl⟩ := rxStep_eq_some stepped
      exact .of_same rfl rfl rfl rfl
  | dialled =>
      obtain ⟨before, rfl⟩ := provided_eq_some.mp stepped
      exact .dialled before rfl rfl rfl
  | resumed =>
      obtain ⟨⟨before, _⟩, rfl⟩ := provided_eq_some.mp stepped
      exact .resumed before rfl rfl rfl
  | closed =>
      obtain ⟨before, rfl⟩ := provided_eq_some.mp stepped
      exact .closed before rfl rfl rfl
  | judged =>
      obtain ⟨before, rfl⟩ := provided_eq_some.mp stepped
      exact .judged before rfl rfl rfl
  | scheduled =>
      obtain ⟨before, rfl⟩ := provided_eq_some.mp stepped
      exact .scheduled before rfl rfl rfl
  | ipAssigned | armed | staDisconnected | suspended | expired =>
      obtain ⟨_, rfl⟩ := provided_eq_some.mp stepped
      exact .of_same rfl rfl rfl rfl

/-- The stage of `tx_task`, its place and the state of the connection go together, and the
transport is open while it is written to. -/
structure Wf (session : Session) : Prop where
  placed : session.stage ≠ .idle → session.client.txTask = session.stage.place
  opening : session.client.txTask = .opening → session.stage.place = .opening
  ending : session.stage = .closing ∨ session.stage = .judging ∨ session.stage = .scheduling →
    session.client.connState = .disconnected
  linked : session.stage = .dialled ∨ session.stage = .resumed ∨
    session.client.connState = .connected → session.linked = true
  writing : session.client.txTask = .writing → session.client.connState = .connected

theorem wf_initial : initial.Wf where
  placed turning := absurd rfl turning
  opening now := by cases now
  ending now := by simp [initial] at now
  linked now := by simp [initial, State.initial] at now
  writing now := by cases now

theorem Turn.wf (turn : session.Turn next) (wf : session.Wf) : next.Wf := by
  cases turn with
  | kept stage linked connState placed opening writing =>
      constructor
      · intro turning
        rw [stage] at turning ⊢
        exact placed turning (wf.placed turning)
      · intro now
        rw [stage]
        exact wf.opening (opening now)
      · rw [stage, connState]
        exact wf.ending
      · rw [stage, connState, linked]
        exact wf.linked
      · intro now
        rw [connState]
        exact (writing now).elim wf.writing id
  | connect stage linked connState txTask =>
      constructor <;> simp_all [Stage.place]
  | connectFailed before stage linked connState txTask =>
      have kept := wf.linked
      constructor <;> simp_all [Stage.place]
  | connected before stage linked connState txTask =>
      have kept := wf.linked
      constructor <;> simp_all [Stage.place]
  | disconnect stage linked connState txTask =>
      constructor <;> simp_all [Stage.place]
  | judged before stage linked client =>
      have placed := wf.placed
      have ending := wf.ending
      cases wifi : session.wifi with
      | true | false => constructor <;> simp_all [Stage.place]
  | dialled before stage linked client | resumed before stage linked client
  | closed before stage linked client | scheduled before stage linked client =>
      have placed := wf.placed
      have ending := wf.ending
      have kept := wf.linked
      have writing := wf.writing
      constructor <;> simp_all [Stage.place]

end Session

/-- In every state of a run. -/
theorem wf_run {trace : List (Session × SessionEvent)} {session : Session}
    (run : sessions.Run .initial trace session) : session.Wf := by
  have preserved {session next : Session} {event : SessionEvent} (wf : session.Wf)
      (stepped : sessions.step session event = some next) : next.Wf :=
    (Session.turn_step stepped).wf wf
  exact run.always Session.wf_initial preserved

/-- The step of the queues within a step. -/
def queueStep (taken : Session × SessionEvent) : Option (State × Event) :=
  match taken.2 with
  | .client event => some (taken.1.client, event)
  | _ => none

theorem Session.client_kept {session next : Session} {event : SessionEvent}
    (stepped : session.step event = some next) (apart : queueStep (session, event) = none) :
    next.client = session.client := by
  cases event with
  | client event => cases apart
  | rx event =>
      obtain ⟨_, rxQ, rxTask, _, rfl⟩ := rxStep_eq_some stepped
      rfl
  | dialled | resumed | closed | judged | scheduled | ipAssigned | armed | staDisconnected
  | suspended | expired =>
      obtain ⟨_, rfl⟩ := provided_eq_some.mp stepped
      rfl

/-- The queues of a session move as those of the client do: what holds in every run of `client`
holds of them. -/
theorem client_run_of_sessions {trace : List (Session × SessionEvent)} {session : Session}
    (run : sessions.Run .initial trace session) :
    client.Run .initial (trace.filterMap queueStep) session.client := by
  induction run with
  | nil => exact .nil
  | @snoc trace state next event run stepped ih =>
      rw [List.filterMap_append]
      cases queued : queueStep (state, event) with
      | none =>
          rw [List.filterMap_cons_none queued, List.filterMap_nil, List.append_nil,
            Session.client_kept stepped queued]
          exact ih
      | some taken =>
          rw [List.filterMap_cons_some queued, List.filterMap_nil]
          cases event with
          | client event =>
              cases queued
              obtain ⟨_, moved, clientStepped, rfl⟩ := Session.clientStep_eq_some stepped
              rw [Session.after_client]
              exact ih.snoc clientStepped
          | rx event | dialled | resumed | closed | judged | scheduled | ipAssigned | armed
          | staDisconnected | suspended | expired => cases queued

end EsInverter.TcpClient
