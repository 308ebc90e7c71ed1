import EsInverter.TcpClient.Session

/-!
# The client is attended to

While the Wi-Fi is up the client has a connection, or one of its tasks still has
the next step towards one in hand.  While it has a connection, `rx_task` listens
to it or such a step is to come, as long as no late `TCP_RX_SUSPEND` puts
`rx_task` to sleep behind the `TCP_RX_RESUME` of a new connection.
-/

set_option autoImplicit false

namespace EsInverter.TcpClient

open Lib

/-- `tx_task` has a connect or a disconnect in hand, or is about to queue a disconnect. -/
def TxTask.Turning : TxTask → Prop
  | .received .connect | .received .disconnect | .failing | .resubmitting => True
  | _ => False

instance (txTask : TxTask) : Decidable txTask.Turning := by
  unfold TxTask.Turning
  split <;> infer_instance

/-- A connect or a disconnect is queued, in the hands of `tx_task`, or about to be submitted. -/
def State.Turning (state : State) : Prop :=
  (.connect ∈ state.cmdQ ∨ .disconnect ∈ state.cmdQ) ∨ state.txTask.Turning ∨
    state.submitting ≠ []

instance (state : State) : Decidable state.Turning := inferInstanceAs (Decidable (_ ∨ _ ∨ _))

/-- `tx_task` has still to connect, or to close the transport and schedule the next connect. -/
def Stage.Turning : Stage → Prop
  | .idle | .resumed => False
  | .dialling | .dialled | .closing | .judging | .scheduling => True

instance (stage : Stage) : Decidable stage.Turning := by
  unfold Stage.Turning
  split <;> infer_instance

namespace Session

/-- The transport is connected and `rx_task` has been told so. -/
def Established (session : Session) : Prop :=
  session.client.connState = .connected ∨ session.stage = .resumed

instance (session : Session) : Decidable session.Established :=
  inferInstanceAs (Decidable (_ ∨ _))

/-- A task has the next step towards a new connection in hand, or the timer is running. -/
def Recovering (session : Session) : Prop :=
  session.client.Turning ∨ session.stage.Turning ∨ session.rxTask = .failing ∨
    session.eventTask = .assigned ∨ session.timer = true ∨ session.timerTask = .calling

instance (session : Session) : Decidable session.Recovering :=
  inferInstanceAs (Decidable (_ ∨ _ ∨ _ ∨ _ ∨ _ ∨ _))

end Session

/-- `rx_task` comes back to the transport without being told to. -/
def RxTask.Active : RxTask → Prop
  | .receiving .resume stateDuration => stateDuration ≠ .maxDelay
  | .polling | .reading => True
  | _ => False

/-- The last state that `rx_task` is to read is `TCP_RX_RESUME`, or it has read it. -/
def Session.Listening (session : Session) : Prop :=
  match session.rxQ.getLast? with
  | some taskState => taskState = .resume
  | none => session.rxTask.Active

/-- A connection that stands is listened to. -/
def Session.Attended (session : Session) : Prop :=
  session.Established → session.Recovering ∨ session.Listening

/-- `wifi_disconnected_handler` suspends `rx_task` only while no connection stands, or one is still
to be closed or replaced. -/
def Session.Timely (session : Session) (event : SessionEvent) : Prop :=
  event = .suspended → session.Established → session.Recovering

instance (session : Session) (event : SessionEvent) : Decidable (session.Timely event) :=
  inferInstanceAs (Decidable (_ → _ → _))

/-! ### The commands that turn the connection -/

theorem turning_caller {state next : State} {event : CallerEvent} (turning : state.Turning)
    (stepped : state.callerStep event = some next) : next.Turning := by
  cases event with
  | alloc len =>
      cases stepped
      exact turning
  | cmdQAccepts buf =>
      obtain ⟨_, rfl⟩ := provided_eq_some.mp stepped
      exact turning.imp_left (Or.imp (List.mem_append_left _) (List.mem_append_left _))
  | emptyRefused buf | sendQAccepts buf | sendQFull buf | cmdQFull buf | free buf =>
      obtain ⟨_, rfl⟩ := provided_eq_some.mp stepped
      exact turning

/-- A reset drops the commands, and its submitter brings one. -/
theorem turning_other {state next : State} {event : OtherEvent} (turning : state.Turning)
    (stepped : state.otherStep event = some next) : next.Turning := by
  cases event with
  | longDelayAccepted =>
      obtain ⟨_, rfl⟩ := provided_eq_some.mp stepped
      exact turning.imp_left (Or.imp (List.mem_append_left _) (List.mem_append_left _))
  | longDelayDropped | lossNoticed =>
      obtain ⟨_, rfl⟩ := provided_eq_some.mp stepped
      exact turning
  | reset submitter =>
      obtain ⟨_, rfl⟩ := provided_eq_some.mp stepped
      exact .inr (.inr (by simp))
  | submit submitter =>
      obtain ⟨_, rfl⟩ := provided_eq_some.mp stepped
      left
      cases submitter <;> simp [Submitter.cmd]

/-- What keeps the commands and the submitters keeps a turn that is not in the hands of
`tx_task`. -/
theorem State.Turning.of_same {state next : State} (turning : state.Turning)
    (cmdQ : next.cmdQ = state.cmdQ) (submitting : next.submitting = state.submitting)
    (elsewhere : ¬state.txTask.Turning) : next.Turning := by
  rcases turning with queued | running | submitters
  · exact .inl (cmdQ ▸ queued)
  · exact absurd running elsewhere
  · exact .inr (.inr (submitting ▸ submitters))

/-- Only the two commands themselves end their turn. -/
theorem turning_tx {state next : State} {event : TxEvent} (turning : state.Turning)
    (connects : event ≠ .connect) (disconnects : event ≠ .disconnect)
    (stepped : state.txStep event = some next) : next.Turning := by
  cases event with
  | connect => exact absurd rfl connects
  | disconnect => exact absurd rfl disconnects
  | receive =>
      obtain ⟨cmd, rest, queue, waiting, rfl⟩ := receive_eq_some stepped
      rcases turning with queued | running | submitters
      · rw [queue, List.mem_cons, List.mem_cons] at queued
        rcases queued with (rfl | later) | (rfl | later)
        · exact .inr (.inl trivial)
        · exact .inl (.inl later)
        · exact .inr (.inl trivial)
        · exact .inl (.inr later)
      · rw [waiting] at running
        exact running.elim
      · exact .inr (.inr submitters)
  | take =>
      obtain ⟨buf, rest, queue, received, rfl⟩ := take_eq_some stepped
      exact turning.of_same rfl rfl (by simp [received, TxTask.Turning])
  | connected | longDelay | written =>
      obtain ⟨running, rfl⟩ := provided_eq_some.mp stepped
      exact turning.of_same rfl rfl (by simp [running, TxTask.Turning])
  | sendQEmpty =>
      obtain ⟨⟨running, _⟩, rfl⟩ := provided_eq_some.mp stepped
      exact turning.of_same rfl rfl (by simp [running, TxTask.Turning])
  | emptyBuffer buf =>
      obtain ⟨⟨running, _⟩, rfl⟩ := provided_eq_some.mp stepped
      exact turning.of_same rfl rfl (by simp [running, TxTask.Turning])
  | encodeFailed buf | encoded buf =>
      obtain ⟨⟨running, _⟩, rfl⟩ := provided_eq_some.mp stepped
      obtain ⟨readFreed, read⟩ := state.read_eq buf
      rw [read]
      exact turning.of_same rfl rfl (by simp [running, TxTask.Turning])
  | connectFailed | writeFailed | notConnected buf =>
      obtain ⟨_, rfl⟩ := provided_eq_some.mp stepped
      exact .inr (.inl trivial)
  | reset =>
      obtain ⟨_, rfl⟩ := provided_eq_some.mp stepped
      exact .inr (.inl trivial)
  | submit =>
      obtain ⟨_, rfl⟩ := provided_eq_some.mp stepped
      exact .inl (.inr (by simp))

theorem turning_client {state next : State} {event : Event} (turning : state.Turning)
    (connects : event ≠ .tx .connect) (disconnects : event ≠ .tx .disconnect)
    (stepped : state.step event = some next) : next.Turning := by
  cases event with
  | caller event => exact turning_caller turning stepped
  | other event => exact turning_other turning stepped
  | tx event => exact turning_tx turning (by simpa using connects) (by simpa using disconnects) stepped

/-! ### A recovery goes on -/

namespace Session

variable {session next : Session}

theorem recovering_client {client : State} {event : Event} (recovering : session.Recovering)
    (allowed : session.Allows event) (moved : session.client.step event = some client) :
    (session.after event client).Recovering := by
  rcases recovering with turning | elsewhere
  · by_cases connects : event = .tx .connect
    · rw [connects]
      exact .inr (.inl trivial)
    · by_cases disconnects : event = .tx .disconnect
      · rw [disconnects]
        exact .inr (.inl trivial)
      · left
        rw [after_client]
        exact turning_client turning connects disconnects moved
  · cases event with
    | caller event => exact .inr elsewhere
    | other event =>
        cases event with
        | longDelayAccepted | longDelayDropped => exact .inr elsewhere
        | lossNoticed =>
            have idle : session.eventTask = .idle := allowed
            right
            rcases elsewhere with turning | failing | assigned | timer
            · exact .inl turning
            · exact .inr (.inl failing)
            · rw [idle] at assigned
              cases assigned
            · exact .inr (.inr (.inr timer))
        | reset submitter =>
            -- The submitter brings a command of its own.
            obtain ⟨_, rfl⟩ := provided_eq_some.mp moved
            left
            rw [after_client]
            exact .inr (.inr (by simp))
        | submit submitter =>
            obtain ⟨_, rfl⟩ := provided_eq_some.mp moved
            left
            rw [after_client]
            left
            cases submitter <;> simp [Submitter.cmd]
    | tx event =>
        cases event with
        | connect | disconnect => exact .inr (.inl trivial)
        | connectFailed =>
            obtain ⟨_, rfl⟩ := provided_eq_some.mp moved
            exact .inl (.inr (.inl trivial))
        | connected =>
            have resumed : session.stage = .resumed := allowed
            rw [resumed] at elsewhere
            exact .inr (.inr (elsewhere.resolve_left id))
        | receive | longDelay | sendQEmpty | take | notConnected buf | emptyBuffer buf
        | encodeFailed buf | encoded buf | written | writeFailed | reset | submit =>
            exact .inr elsewhere

theorem recovering_rx {event : RxEvent} (recovering : session.Recovering)
    (stepped : session.rxStep event = some next) : next.Recovering := by
  obtain ⟨⟨running, _⟩, rxQ, rxTask, _, rfl⟩ := rxStep_eq_some stepped
  rcases recovering with turning | turning | failing | elsewhere
  · exact .inl turning
  · exact .inr (.inl turning)
  · exact absurd failing running
  · exact .inr (.inr (.inr elsewhere))

/-- A recovery ends with `TCP_RX_RESUME`, or where `tx_task` finds no Wi-Fi. -/
theorem recovering_step {event : SessionEvent} (recovering : session.Recovering)
    (stepped : session.step event = some next) :
    next.Recovering ∨ event = .resumed ∨ event = .judged ∧ session.wifi = false := by
  cases event with
  | client event =>
      obtain ⟨allowed, client, moved, rfl⟩ := clientStep_eq_some stepped
      exact .inl (recovering_client recovering allowed moved)
  | rx event => exact .inl (recovering_rx recovering stepped)
  | resumed => exact .inr (.inl rfl)
  | judged =>
      obtain ⟨judging, rfl⟩ := provided_eq_some.mp stepped
      cases wifi : session.wifi with
      | true => exact .inl (.inr (.inl (by simp [Stage.Turning])))
      | false => exact .inr (.inr ⟨rfl, rfl⟩)
  | dialled | closed =>
      obtain ⟨_, rfl⟩ := provided_eq_some.mp stepped
      exact .inl (.inr (.inl trivial))
  | scheduled | armed =>
      obtain ⟨_, rfl⟩ := provided_eq_some.mp stepped
      exact .inl (.inr (.inr (.inr (.inr (.inl rfl)))))
  | ipAssigned =>
      obtain ⟨_, rfl⟩ := provided_eq_some.mp stepped
      exact .inl (.inr (.inr (.inr (.inl rfl))))
  | expired =>
      obtain ⟨_, rfl⟩ := provided_eq_some.mp stepped
      exact .inl (.inr (.inr (.inr (.inr (.inr rfl)))))
  | staDisconnected =>
      obtain ⟨_, rfl⟩ := provided_eq_some.mp stepped
      exact .inl recovering
  | suspended =>
      obtain ⟨⟨suspending, _⟩, rfl⟩ := provided_eq_some.mp stepped
      left
      rcases recovering with turning | turning | failing | assigned | elsewhere
      · exact .inl turning
      · exact .inr (.inl turning)
      · exact .inr (.inr (.inl failing))
      · rw [suspending] at assigned
        cases assigned
      · exact .inr (.inr (.inr (.inr elsewhere)))

/-! ### A connection stands until a recovery begins -/

theorem established_forward (wf : session.Wf) (turn : session.Turn next)
    (established : session.Established) : next.Established ∨ next.Recovering := by
  have recovers (turning : next.stage.Turning) : next.Established ∨ next.Recovering :=
    .inr (.inr (.inl turning))
  have apart (ending : session.stage = .closing ∨ session.stage = .judging ∨
      session.stage = .scheduling) : ¬session.Established := by
    have disconnected := wf.ending ending
    rintro (connected | resumed)
    · rw [disconnected] at connected
      cases connected
    · rw [resumed] at ending
      simp at ending
  cases turn with
  | kept stage linked connState placed opening writing =>
      left
      unfold Established
      rw [stage, connState]
      exact established
  | connect stage linked connState txTask => exact recovers (by rw [stage]; trivial)
  | connectFailed before stage linked connState txTask =>
      exact .inr (.inl (.inr (.inl (by rw [txTask]; trivial))))
  | dialled before stage linked client => exact recovers (by rw [stage]; trivial)
  | resumed before stage linked client => exact .inl (.inr stage)
  | connected before stage linked connState txTask => exact .inl (.inl connState)
  | disconnect stage linked connState txTask => exact recovers (by rw [stage]; trivial)
  | closed before stage linked client => exact recovers (by rw [stage]; trivial)
  | judged before stage linked client => exact absurd established (apart (.inr (.inl before)))
  | scheduled before stage linked client => exact absurd established (apart (.inr (.inr before)))

theorem established_backward (turn : session.Turn next) (established : next.Established) :
    session.Established ∨ session.stage = .dialled := by
  have same (connState : next.client.connState = session.client.connState)
      (elsewhere : next.stage ≠ .resumed) : session.Established ∨ session.stage = .dialled := by
    left
    left
    rw [← connState]
    exact established.resolve_right elsewhere
  cases turn with
  | kept stage linked connState placed opening writing =>
      left
      unfold Established at established ⊢
      rw [← stage, ← connState]
      exact established
  | connect stage linked connState txTask =>
      rcases established with connected | resumed <;> simp_all
  | connectFailed before stage linked connState txTask => exact same connState (by simp [stage])
  | dialled before stage linked client =>
      exact same (congrArg State.connState client) (by simp [stage])
  | resumed before stage linked client => exact .inr before
  | connected before stage linked connState txTask => exact .inl (.inr before)
  | disconnect stage linked connState txTask =>
      rcases established with connected | resumed <;> simp_all
  | closed before stage linked client | scheduled before stage linked client =>
      exact same (congrArg State.connState client) (by simp [stage])
  | judged before stage linked client =>
      refine same (congrArg State.connState client) ?_
      rw [stage]
      cases session.wifi <;> simp

/-! ### `rx_task` goes on listening -/

theorem listening_client {client : State} {event : Event} (listening : session.Listening)
    (moved : session.client.step event = some client) :
    (session.after event client).Recovering ∨ (session.after event client).Listening := by
  cases event with
  | caller event => exact .inr listening
  | other event =>
      cases event with
      | longDelayAccepted | longDelayDropped | lossNoticed => exact .inr listening
      | reset submitter =>
          obtain ⟨_, rfl⟩ := provided_eq_some.mp moved
          left
          left
          rw [after_client]
          exact .inr (.inr (by simp))
      | submit submitter =>
          obtain ⟨_, rfl⟩ := provided_eq_some.mp moved
          left
          left
          rw [after_client]
          left
          cases submitter <;> simp [Submitter.cmd]
  | tx event =>
      cases event with
      | connect | disconnect => exact .inl (.inr (.inl trivial))
      | connected | connectFailed | receive | longDelay | sendQEmpty | take | notConnected buf
      | emptyBuffer buf | encodeFailed buf | encoded buf | written | writeFailed | reset
      | submit => exact .inr listening

theorem attend_active {taskState : RxTaskState} (resume : taskState = .resume) :
    taskState.attend.Active := by
  rw [resume]
  trivial

theorem listening_of_empty (empty : session.rxQ = []) :
    session.Listening ↔ session.rxTask.Active := by
  rw [Listening, empty, List.getLast?_nil]

theorem listening_of_queued {taskState : RxTaskState}
    (last : session.rxQ.getLast? = some taskState) :
    session.Listening ↔ taskState = .resume := by
  rw [Listening, last]

/-- `rx_task` stops listening only to report an error. -/
theorem listening_rx {event : RxEvent} (listening : session.Listening)
    (stepped : session.rxStep event = some next) : next.Recovering ∨ next.Listening := by
  -- A step that leaves the queue alone keeps what is queued, or `rx_task` active.
  have kept {rxTask : RxTask} (active : session.rxTask.Active → rxTask.Active) :
      ({ session with rxTask } : Session).Listening := by
    unfold Listening at listening ⊢
    split
    · simp_all
    · rename_i empty
      simp only at empty
      rw [empty] at listening
      exact active listening
  cases event with
  | received =>
      simp only [rxStep] at stepped
      split at stepped
      · rename_i taskState rest _ _ queue receiving
        cases stepped
        right
        cases rest with
        | nil =>
            have last : session.rxQ.getLast? = some taskState := by simp [queue]
            exact (listening_of_empty rfl).mpr
              (attend_active ((listening_of_queued last).mp listening))
        | cons second rest =>
            unfold Listening at listening ⊢
            rw [queue, List.getLast?_cons_cons] at listening
            exact listening
      · cases stepped
  | timedOut =>
      simp only [rxStep] at stepped
      split at stepped
      · rename_i taskState stateDuration receiving
        obtain ⟨⟨empty, bounded⟩, rfl⟩ := provided_eq_some.mp stepped
        right
        refine kept ?_
        intro active
        cases taskState with
        | suspend =>
            rw [receiving] at active
            exact active.elim
        | resume => trivial
      · cases stepped
  | pollTimedOut | read =>
      obtain ⟨_, rfl⟩ := provided_eq_some.mp stepped
      exact .inr (kept fun _ => by simp [RxTask.Active])
  | pollReady =>
      obtain ⟨_, rfl⟩ := provided_eq_some.mp stepped
      exact .inr (kept fun _ => trivial)
  | pollFailed | readFailed =>
      obtain ⟨_, rfl⟩ := provided_eq_some.mp stepped
      exact .inl (.inr (.inr (.inl rfl)))

theorem listening_step {event : SessionEvent} (listening : session.Listening)
    (awake : event ≠ .suspended) (stepped : session.step event = some next) :
    next.Recovering ∨ next.Listening := by
  cases event with
  | client event =>
      obtain ⟨_, client, moved, rfl⟩ := clientStep_eq_some stepped
      exact listening_client listening moved
  | rx event => exact listening_rx listening stepped
  | resumed =>
      obtain ⟨_, rfl⟩ := provided_eq_some.mp stepped
      exact .inr ((listening_of_queued (by simp)).mpr rfl)
  | suspended => exact absurd rfl awake
  | dialled | closed | judged | scheduled | ipAssigned | armed | staDisconnected | expired =>
      obtain ⟨_, rfl⟩ := provided_eq_some.mp stepped
      exact .inr listening

theorem attended_step {event : SessionEvent} (wf : session.Wf) (attended : session.Attended)
    (timely : session.Timely event) (stepped : session.step event = some next) :
    next.Attended := by
  intro established
  have turn := turn_step stepped
  by_cases recovering : session.Recovering
  · rcases recovering_step recovering stepped with goesOn | rfl | ⟨rfl, _⟩
    · exact .inl goesOn
    · obtain ⟨_, rfl⟩ := provided_eq_some.mp stepped
      exact .inr ((listening_of_queued (by simp)).mpr rfl)
    · -- The transport has just been closed.
      obtain ⟨judging, rfl⟩ := provided_eq_some.mp stepped
      have disconnected := wf.ending (.inr (.inl judging))
      rcases established with connected | resumed
      · rw [disconnected] at connected
        cases connected
      · simp only at resumed
        split at resumed <;> cases resumed
  · have before : session.Established := by
      rcases established_backward turn established with before | dialled
      · exact before
      · exact absurd (.inr (.inl (by rw [dialled]; trivial))) recovering
    have listening := (attended before).resolve_left recovering
    refine listening_step listening ?_ stepped
    intro suspended
    exact recovering (timely suspended before)

theorem attended_initial : initial.Attended := by
  rintro (connected | resumed)
  · cases connected
  · cases resumed

/-- A late `TCP_RX_SUSPEND` leaves a connection that nobody listens to. -/
theorem unattended_of_late {event : SessionEvent} (late : ¬session.Timely event)
    (stepped : session.step event = some next) : ¬next.Attended := by
  unfold Timely at late
  push Not at late
  obtain ⟨rfl, established, recovering⟩ := late
  obtain ⟨⟨suspending, _⟩, rfl⟩ := provided_eq_some.mp stepped
  intro attended
  rcases attended established with recovers | listening
  · -- What recovers now was recovering before.
    refine recovering ?_
    rcases recovers with turning | turning | failing | assigned | elsewhere
    · exact .inl turning
    · exact .inr (.inl turning)
    · exact .inr (.inr (.inl failing))
    · cases assigned
    · exact .inr (.inr (.inr (.inr elsewhere)))
  · have last : (session.rxQ ++ [RxTaskState.suspend]).getLast? = some .suspend := by simp
    cases (listening_of_queued last).mp listening

/-- With the Wi-Fi up, the client has a connection or is getting one. -/
def Served (session : Session) : Prop :=
  session.wifi = true → session.Established ∨ session.Recovering

theorem served_step {event : SessionEvent} (wf : session.Wf) (served : session.Served)
    (stepped : session.step event = some next) : next.Served := by
  intro wifi
  by_cases recovering : session.Recovering
  · rcases recovering_step recovering stepped with goesOn | rfl | ⟨rfl, down⟩
    · exact .inr goesOn
    · obtain ⟨_, rfl⟩ := provided_eq_some.mp stepped
      exact .inl (.inr rfl)
    · obtain ⟨_, rfl⟩ := provided_eq_some.mp stepped
      rw [down] at wifi
      cases wifi
  · by_cases up : session.wifi = true
    · have established := (served up).resolve_right recovering
      exact established_forward wf (turn_step stepped) established
    · -- Only an address brings the Wi-Fi up, and its second handler is to come.
      right
      cases event with
      | ipAssigned =>
          obtain ⟨_, rfl⟩ := provided_eq_some.mp stepped
          exact .inr (.inr (.inr (.inl rfl)))
      | client event =>
          obtain ⟨_, client, _, rfl⟩ := clientStep_eq_some stepped
          rw [after_wifi] at wifi
          exact absurd wifi up
      | rx event =>
          obtain ⟨_, rxQ, rxTask, _, rfl⟩ := rxStep_eq_some stepped
          exact absurd wifi up
      | dialled | resumed | closed | judged | scheduled | armed | staDisconnected | suspended
      | expired =>
          obtain ⟨_, rfl⟩ := provided_eq_some.mp stepped
          first
            | exact absurd wifi up
            | cases wifi

end Session

variable {trace : List (Session × SessionEvent)} {session : Session}

theorem served_run (run : sessions.Run .initial trace session) : session.Served := by
  have preserved {session next : Session} {event : SessionEvent}
      (holds : session.Wf ∧ session.Served)
      (stepped : sessions.step session event = some next) : next.Wf ∧ next.Served :=
    ⟨(Session.turn_step stepped).wf holds.1, Session.served_step holds.1 holds.2 stepped⟩
  have initial : Session.initial.Served := by
    intro wifi
    cases wifi
  exact (run.always ⟨Session.wf_initial, initial⟩ preserved).2

theorem attended_of_timely (run : sessions.Run .initial trace session)
    (timely : ∀ taken ∈ trace, taken.1.Timely taken.2) :
    (∀ taken ∈ trace, taken.1.Attended) ∧ session.Attended := by
  induction run with
  | nil => exact ⟨by simp, Session.attended_initial⟩
  | @snoc trace before next event run stepped ih =>
      obtain ⟨visited, last⟩ := ih fun taken inside => timely taken (by simp [inside])
      have now : before.Timely event := timely (before, event) (by simp)
      refine ⟨?_, Session.attended_step (wf_run run) last now stepped⟩
      intro taken inside
      rcases List.mem_append.mp inside with earlier | here
      · exact visited taken earlier
      · obtain rfl := List.mem_singleton.mp here
        exact last

theorem timely_of_attended (run : sessions.Run .initial trace session)
    (attended : ∀ taken ∈ trace, taken.1.Attended) (last : session.Attended) :
    ∀ taken ∈ trace, taken.1.Timely taken.2 := by
  induction run with
  | nil => simp
  | @snoc trace before next event run stepped ih =>
      have beforeAttended : before.Attended := attended (before, event) (by simp)
      intro taken inside
      rcases List.mem_append.mp inside with earlier | now
      · exact ih (fun taken inside => attended taken (by simp [inside])) beforeAttended
          taken earlier
      · obtain rfl := List.mem_singleton.mp now
        by_contra late
        exact Session.unattended_of_late late stepped last

/-- Whenever a connection stands, `rx_task` listens to it or a step towards the next one is to
come: in exactly the runs in which no `TCP_RX_SUSPEND` comes after the `TCP_RX_RESUME` of a
connection that nothing is about to end. -/
theorem attended_iff (run : sessions.Run .initial trace session) :
    ((∀ taken ∈ trace, taken.1.Attended) ∧ session.Attended) ↔
      ∀ taken ∈ trace, taken.1.Timely taken.2 := by
  constructor
  · rintro ⟨attended, last⟩
    exact timely_of_attended run attended last
  · exact attended_of_timely run

/-- A connect from the timer to the state of the connection. -/
def connecting : List SessionEvent :=
  [.expired, .client (.other (.reset .connectTimer)), .client (.other (.submit .connectTimer)),
    .client (.tx .receive), .client (.tx .connect), .dialled, .resumed,
    .client (.tx .connected)]

/-- The Wi-Fi is lost and back, and the next connection stands, before the handler of the loss
suspends `rx_task`. -/
def lateSuspend : List SessionEvent :=
  [.ipAssigned, .armed] ++ connecting ++
    [.rx .received, .client (.other .lossNoticed), .client (.other (.reset .wifiLoss)),
      .client (.other (.submit .wifiLoss)), .client (.tx .receive), .client (.tx .disconnect),
      .closed, .judged, .scheduled] ++ connecting ++ [.suspended]

/-- The session that `lateSuspend` leads to. -/
def lateSession : Session := (sessions.exec .initial lateSuspend).getD .initial

theorem attended_iff_lateSuspend :
    ¬((∀ taken ∈ sessions.tracing .initial lateSuspend, taken.1.Attended) ∧
      lateSession.Attended) := by
  have executed : sessions.exec .initial lateSuspend = some lateSession := rfl
  rw [attended_iff (Machine.run_of_exec executed)]
  decide

end EsInverter.TcpClient
