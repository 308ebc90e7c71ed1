import EsInverter.Lib.Reaching
import EsInverter.TcpClient.Attendance

/-!
# The client finds back to a connection

Whatever errors, losses and messages came before: as long as the Wi-Fi is up,
the steps of the client's own tasks lead to a connection, once the server can be
reached.  Nothing from outside is needed for it.
-/

set_option autoImplicit false

namespace EsInverter.TcpClient

open Lib

/-- A step that a task of the client takes by itself, with a server that can be reached: no new
message, no error of the transport, nothing from the Wi-Fi. -/
def SessionEvent.Own : SessionEvent → Prop
  | .client (.caller _) => False
  | .client (.other (.submit _)) => True
  | .client (.other (.reset submitter)) => submitter ≠ .wifiLoss
  | .client (.other _) => False
  | .client (.tx .connectFailed) | .client (.tx (.encodeFailed _))
  | .client (.tx .writeFailed) => False
  | .client (.tx _) => True
  | .rx .pollFailed | .rx .pollReady | .rx .readFailed | .rx .read => False
  | .ipAssigned | .staDisconnected => False
  | _ => True

namespace Session

/-- The task of a submitter is between its reset and its command. -/
def Stands (session : Session) : Submitter → Prop
  | .rxError => session.rxTask = .reporting
  | .wifiLoss => session.eventTask = .losing
  | .connectTimer => session.timerTask = .submitting

/-- Every submitter is a task at its place, and submits once. -/
structure Manned (session : Session) : Prop where
  distinct : session.client.submitting.Nodup
  stands : ∀ submitter, submitter ∈ session.client.submitting ↔ session.Stands submitter

variable {session next : Session}

theorem Manned.of_same (manned : session.Manned)
    (submitting : next.client.submitting = session.client.submitting)
    (stands : ∀ submitter, session.Stands submitter ↔ next.Stands submitter) : next.Manned where
  distinct := by
    rw [submitting]
    exact manned.distinct
  stands submitter := by
    rw [submitting, manned.stands, stands]

theorem submitting_caller {state next : State} {event : CallerEvent}
    (stepped : state.callerStep event = some next) : next.submitting = state.submitting := by
  cases event with
  | alloc len =>
      cases stepped
      rfl
  | emptyRefused buf | sendQAccepts buf | sendQFull buf | cmdQAccepts buf | cmdQFull buf
  | free buf =>
      obtain ⟨_, rfl⟩ := provided_eq_some.mp stepped
      rfl

theorem submitting_tx {state next : State} {event : TxEvent}
    (stepped : state.txStep event = some next) : next.submitting = state.submitting := by
  cases event with
  | receive =>
      obtain ⟨cmd, rest, queue, waiting, rfl⟩ := receive_eq_some stepped
      rfl
  | take =>
      obtain ⟨buf, rest, queue, received, rfl⟩ := take_eq_some stepped
      rfl
  | encodeFailed buf | encoded buf =>
      obtain ⟨_, rfl⟩ := provided_eq_some.mp stepped
      obtain ⟨readFreed, read⟩ := state.read_eq buf
      rw [read]
      rfl
  | connect | connected | connectFailed | disconnect | longDelay | sendQEmpty | notConnected buf
  | emptyBuffer buf | written | writeFailed | reset | submit =>
      obtain ⟨_, rfl⟩ := provided_eq_some.mp stepped
      rfl

theorem manned_other {client : State} {event : OtherEvent} (manned : session.Manned)
    (allowed : session.Allows (.other event))
    (stepped : session.client.otherStep event = some client) :
    (session.after (.other event) client).Manned := by
  cases event with
  | longDelayAccepted | longDelayDropped =>
      obtain ⟨_, rfl⟩ := provided_eq_some.mp stepped
      exact manned.of_same rfl fun submitter => by cases submitter <;> rfl
  | lossNoticed =>
      obtain ⟨_, rfl⟩ := provided_eq_some.mp stepped
      have idle : session.eventTask = .idle := allowed
      exact manned.of_same rfl fun submitter => by
        cases submitter <;> simp [after, Stands, idle]
  | reset submitter =>
      obtain ⟨⟨absent, _⟩, rfl⟩ := provided_eq_some.mp stepped
      constructor
      · rw [after_client]
        exact List.nodup_cons.mpr ⟨absent, manned.distinct⟩
      · intro other
        rw [after_client]
        simp only [List.mem_cons, manned.stands]
        cases submitter <;> cases other <;> simp [after, Stands]
  | submit submitter =>
      obtain ⟨⟨inside, _⟩, rfl⟩ := provided_eq_some.mp stepped
      constructor
      · rw [after_client]
        exact manned.distinct.erase submitter
      · intro other
        rw [after_client]
        simp only [manned.distinct.mem_erase_iff, manned.stands]
        cases submitter <;> cases other <;> simp [after, Stands]

theorem manned_step {event : SessionEvent} (manned : session.Manned)
    (stepped : session.step event = some next) : next.Manned := by
  cases event with
  | client event =>
      obtain ⟨allowed, client, moved, rfl⟩ := clientStep_eq_some stepped
      cases event with
      | other event => exact manned_other manned allowed moved
      | caller event =>
          refine manned.of_same ?_ fun submitter => by cases submitter <;> rfl
          rw [after_client]
          exact submitting_caller moved
      | tx event =>
          refine manned.of_same ?_ fun submitter => ?_
          · rw [after_client]
            exact submitting_tx moved
          · cases event <;> cases submitter <;> rfl
  | rx event =>
      obtain ⟨⟨_, before⟩, rxQ, rxTask, after, rfl⟩ := rxStep_eq_some stepped
      refine manned.of_same rfl fun submitter => ?_
      cases submitter <;> simp [Stands, before, after]
  | ipAssigned | armed | suspended | expired =>
      obtain ⟨guard, rfl⟩ := provided_eq_some.mp stepped
      refine manned.of_same rfl fun submitter => ?_
      cases submitter <;> simp [Stands, guard]
  | dialled | resumed | closed | judged | scheduled | staDisconnected =>
      obtain ⟨guard, rfl⟩ := provided_eq_some.mp stepped
      exact manned.of_same rfl fun submitter => by cases submitter <;> rfl

/-- An assertion on a full queue is about to stop the device. -/
def Halting (session : Session) : Prop :=
  session.client.txTask = .resubmitting ∧ cmdMsgQMax ≤ session.client.cmdQ.length ∨
    session.stage = .dialled ∧ rxStateMsgQMax ≤ session.rxQ.length

/-- Own steps lead to a connection, or to an assertion. -/
def Recovers (session : Session) : Prop :=
  sessions.Reaches SessionEvent.Own
    (fun session => session.client.connState = .connected ∨ session.Halting) session

/-- What the own steps keep while the Wi-Fi is up. -/
structure Fit (session : Session) : Prop where
  wf : session.Wf
  manned : session.Manned
  wifi : session.wifi = true

theorem wifi_step {event : SessionEvent} (own : event.Own)
    (stepped : session.step event = some next) : next.wifi = session.wifi := by
  cases event with
  | client event =>
      obtain ⟨_, client, _, rfl⟩ := clientStep_eq_some stepped
      exact after_wifi session event client
  | rx event =>
      obtain ⟨_, rxQ, rxTask, _, rfl⟩ := rxStep_eq_some stepped
      rfl
  | ipAssigned | staDisconnected => exact own.elim
  | dialled | resumed | closed | judged | scheduled | armed | suspended | expired =>
      obtain ⟨_, rfl⟩ := provided_eq_some.mp stepped
      rfl

theorem Fit.step (fit : session.Fit) (event : SessionEvent) (own : event.Own)
    (stepped : session.step event = some next) (rest : next.Fit → next.Recovers) :
    session.Recovers := by
  have kept : next.Fit :=
    { wf := (turn_step stepped).wf fit.wf
      manned := manned_step fit.manned stepped
      wifi := (wifi_step own stepped).trans fit.wifi }
  exact .step own stepped (rest kept)

/-- An own step of the queues. -/
theorem Fit.client {client : State} (fit : session.Fit) (event : Event)
    (own : (SessionEvent.client event).Own) (allowed : session.Allows event)
    (moved : session.client.step event = some client)
    (rest : (session.after event client).Fit → (session.after event client).Recovers) :
    session.Recovers := by
  refine fit.step (.client event) own ?_ rest
  change session.clientStep event = _
  rw [clientStep, if_pos allowed, moved]
  rfl

/-- `tx_task` waits for a command. -/
def AtRest (session : Session) : Prop :=
  session.client.txTask = .waiting ∧ session.stage = .idle

/-! ### From a connect to the connection -/

theorem recovers_resumed (fit : session.Fit) (resumed : session.stage = .resumed) :
    session.Recovers := by
  have opening : session.client.txTask = .opening := by
    have placed := fit.wf.placed
    rw [resumed] at placed
    exact placed (by simp)
  refine fit.client (.tx .connected) trivial resumed
    (provided_eq_some.mpr ⟨opening, rfl⟩) ?_
  intro _
  exact .here (.inl rfl)

theorem recovers_dialled (fit : session.Fit) (dialled : session.stage = .dialled) :
    session.Recovers := by
  by_cases room : session.rxQ.length < rxStateMsgQMax
  · refine fit.step .resumed trivial (provided_eq_some.mpr ⟨⟨dialled, room⟩, rfl⟩) ?_
    intro fit
    exact recovers_resumed fit rfl
  · exact .here (.inr (.inr ⟨dialled, Nat.le_of_not_lt room⟩))

theorem recovers_dialling (fit : session.Fit) (dialling : session.stage = .dialling) :
    session.Recovers := by
  refine fit.step .dialled trivial (provided_eq_some.mpr ⟨dialling, rfl⟩) ?_
  intro fit
  exact recovers_dialled fit rfl

theorem recovers_connect (fit : session.Fit)
    (received : session.client.txTask = .received .connect) : session.Recovers := by
  refine fit.client (.tx .connect) trivial trivial
    (provided_eq_some.mpr ⟨received, rfl⟩) ?_
  intro fit
  exact recovers_dialling fit rfl

/-- The connect at the head of the queue. -/
theorem recovers_headed {rest : List Cmd} (fit : session.Fit) (atRest : session.AtRest)
    (headed : session.client.cmdQ = .connect :: rest) : session.Recovers := by
  have moved : session.client.step (.tx .receive) =
      some { session.client with cmdQ := rest, txTask := .received .connect } := by
    simp [State.step, State.txStep, headed, provided, atRest.1]
  refine fit.client (.tx .receive) trivial atRest.2 moved ?_
  intro fit
  exact recovers_connect fit rfl

/-- `connect_handler` has emptied the queue. -/
theorem recovers_submitting (fit : session.Fit) (atRest : session.AtRest)
    (submitting : session.timerTask = .submitting) (empty : session.client.cmdQ = []) :
    session.Recovers := by
  have inside := (fit.manned.stands .connectTimer).mpr submitting
  have moved : session.client.step (.other (.submit .connectTimer)) =
      some { session.client with
        cmdQ := [.connect], submitting := session.client.submitting.erase .connectTimer } := by
    simp [State.step, State.otherStep, empty, provided, inside, cmdMsgQMax, Submitter.cmd]
  refine fit.client (.other (.submit .connectTimer)) trivial submitting moved ?_
  intro fit
  exact recovers_headed fit atRest rfl

theorem recovers_calling (fit : session.Fit) (atRest : session.AtRest)
    (calling : session.timerTask = .calling) : session.Recovers := by
  have absent : .connectTimer ∉ session.client.submitting := by
    intro inside
    have submitting : session.timerTask = .submitting := (fit.manned.stands .connectTimer).mp inside
    rw [calling] at submitting
    cases submitting
  have moved : session.client.step (.other (.reset .connectTimer)) =
      some { session.client with
        cmdQ := [], submitting := .connectTimer :: session.client.submitting } := by
    simp [State.step, State.otherStep, provided, absent]
  refine fit.client (.other (.reset .connectTimer)) (by simp [SessionEvent.Own]) calling moved ?_
  intro fit
  exact recovers_submitting fit atRest rfl rfl

/-- The timer is running, and the timer service is not in the middle of the last call. -/
theorem recovers_timer (fit : session.Fit) (atRest : session.AtRest)
    (timer : session.timer = true) (ready : session.timerTask ≠ .submitting) :
    session.Recovers := by
  cases place : session.timerTask with
  | submitting => exact absurd place ready
  | calling => exact recovers_calling fit atRest place
  | idle =>
      refine fit.step .expired trivial (provided_eq_some.mpr ⟨⟨timer, place⟩, rfl⟩) ?_
      intro fit
      exact recovers_calling fit atRest rfl

/-! ### From a disconnect to the timer -/

theorem recovers_scheduling (fit : session.Fit) (scheduling : session.stage = .scheduling)
    (rest : ({ session with stage := .idle, timer := true } : Session).Fit →
      ({ session with stage := .idle, timer := true } : Session).Recovers) :
    session.Recovers :=
  fit.step .scheduled trivial (provided_eq_some.mpr ⟨scheduling, rfl⟩) rest

theorem recovers_judging (fit : session.Fit) (judging : session.stage = .judging)
    (rest : ({ session with stage := .idle, timer := true } : Session).Fit →
      ({ session with stage := .idle, timer := true } : Session).Recovers) :
    session.Recovers := by
  have stepped : session.step .judged = some { session with stage := .scheduling } := by
    simp [step, provided, judging, fit.wifi]
  refine fit.step .judged trivial stepped ?_
  intro fit
  exact recovers_scheduling fit rfl rest

theorem recovers_closing (fit : session.Fit) (closing : session.stage = .closing)
    (rest : ({ session with stage := .idle, linked := false, timer := true } : Session).Fit →
      ({ session with stage := .idle, linked := false, timer := true } : Session).Recovers) :
    session.Recovers := by
  refine fit.step .closed trivial (provided_eq_some.mpr ⟨closing, rfl⟩) ?_
  intro fit
  exact recovers_judging fit rfl rest

/-- What a `CMD_DISCONNECT` leaves behind when the Wi-Fi is up. -/
def disconnected (session : Session) : Session :=
  { session with
    client := { session.client with connState := .disconnected, txTask := .waiting }
    stage := .idle
    linked := false
    timer := true }

theorem recovers_disconnect (fit : session.Fit)
    (received : session.client.txTask = .received .disconnect)
    (rest : session.disconnected.Fit → session.disconnected.Recovers) : session.Recovers := by
  refine fit.client (.tx .disconnect) trivial trivial (provided_eq_some.mpr ⟨received, rfl⟩) ?_
  intro fit
  exact recovers_closing fit rfl rest

/-- With an empty queue the call that the timer service may be in goes on. -/
theorem recovers_emptied (fit : session.Fit) (atRest : session.AtRest)
    (timer : session.timer = true) (empty : session.client.cmdQ = []) : session.Recovers := by
  by_cases submitting : session.timerTask = .submitting
  · exact recovers_submitting fit atRest submitting empty
  · exact recovers_timer fit atRest timer submitting

/-- `tx_task` takes the disconnect at the head of the queue. -/
theorem recovers_disconnecting {rest : List Cmd} (fit : session.Fit) (atRest : session.AtRest)
    (headed : session.client.cmdQ = .disconnect :: rest)
    (goesOn : ∀ next : Session, next.Fit → next.AtRest → next.timer = true →
      next.client.cmdQ = rest → next.client.submitting = session.client.submitting →
      next.timerTask = session.timerTask → next.Recovers) :
    session.Recovers := by
  have moved : session.client.step (.tx .receive) =
      some { session.client with cmdQ := rest, txTask := .received .disconnect } := by
    simp [State.step, State.txStep, headed, provided, atRest.1]
  refine fit.client (.tx .receive) trivial atRest.2 moved ?_
  intro fit
  refine recovers_disconnect fit rfl ?_
  intro fit
  exact goesOn _ fit ⟨rfl, rfl⟩ rfl rfl rfl rfl

theorem Fit.idle (fit : session.Fit)
    (elsewhere : session.client.txTask ≠ .opening ∧ session.client.txTask ≠ .waiting) :
    session.stage = .idle := by
  by_contra turning
  have placed := fit.wf.placed turning
  rcases Stage.place_cases session.stage with place | place
  · exact elsewhere.1 (placed.trans place)
  · exact elsewhere.2 (placed.trans place)

theorem recovers_resubmitting (fit : session.Fit)
    (resubmitting : session.client.txTask = .resubmitting) (empty : session.client.cmdQ = []) :
    session.Recovers := by
  have idle := fit.idle (by simp [resubmitting])
  have moved : session.client.step (.tx .submit) =
      some { session.client with cmdQ := [.disconnect], txTask := .waiting } := by
    simp [State.step, State.txStep, resubmitting, empty, provided, cmdMsgQMax]
  refine fit.client (.tx .submit) trivial trivial moved ?_
  intro fit
  refine recovers_disconnecting fit ⟨rfl, idle⟩ rfl ?_
  intro next fit atRest timer empty _ _
  exact recovers_emptied fit atRest timer empty

/-- A send that fails ends with a disconnect of its own. -/
theorem recovers_failing (fit : session.Fit) (failing : session.client.txTask = .failing) :
    session.Recovers := by
  refine fit.client (.tx .reset) trivial trivial (provided_eq_some.mpr ⟨failing, rfl⟩) ?_
  intro fit
  exact recovers_resubmitting fit rfl rfl

theorem recovers_holding {buf : Buffer} (fit : session.Fit)
    (holding : session.client.txTask = .holding buf)
    (apart : session.client.connState ≠ .connected) : session.Recovers := by
  refine fit.client (.tx (.notConnected buf)) trivial trivial
    (provided_eq_some.mpr ⟨⟨holding, apart⟩, rfl⟩) ?_
  intro fit
  exact recovers_failing fit rfl

/-- Everything but the place of `tx_task` and the buffers is as before. -/
structure Alike (session next : Session) : Prop where
  cmdQ : next.client.cmdQ = session.client.cmdQ
  submitting : next.client.submitting = session.client.submitting
  rxTask : next.rxTask = session.rxTask
  eventTask : next.eventTask = session.eventTask
  timer : next.timer = session.timer
  timerTask : next.timerTask = session.timerTask

/-- `tx_task` is done with a send or a delay request. -/
theorem recovers_passing {cmd : Cmd} (fit : session.Fit)
    (received : session.client.txTask = .received cmd)
    (passing : cmd = .send ∨ cmd = .longReconnectionDelay)
    (apart : session.client.connState ≠ .connected)
    (goesOn : ∀ next : Session, next.Fit → next.AtRest → session.Alike next → next.Recovers) :
    session.Recovers := by
  have idle := fit.idle (by simp [received])
  rcases passing with rfl | rfl
  · cases sendQ : session.client.sendQ with
    | nil =>
        refine fit.client (.tx .sendQEmpty) trivial trivial
          (provided_eq_some.mpr ⟨⟨received, sendQ⟩, rfl⟩) ?_
        intro fit
        exact goesOn _ fit ⟨rfl, idle⟩ ⟨rfl, rfl, rfl, rfl, rfl, rfl⟩
    | cons buf later =>
        have moved : session.client.step (.tx .take) =
            some { session.client with
              sendQ := later, txTask := .holding buf, taken := session.client.taken ++ [buf] } := by
          simp [State.step, State.txStep, sendQ, provided, received]
        refine fit.client (.tx .take) trivial trivial moved ?_
        intro fit
        exact recovers_holding fit rfl apart
  · refine fit.client (.tx .longDelay) trivial trivial
      (provided_eq_some.mpr ⟨received, rfl⟩) ?_
    intro fit
    exact goesOn _ fit ⟨rfl, idle⟩ ⟨rfl, rfl, rfl, rfl, rfl, rfl⟩

/-! ### From anywhere -/

/-- With an empty queue a submitter brings the command. -/
theorem recovers_submitter (fit : session.Fit) (atRest : session.AtRest)
    (empty : session.client.cmdQ = []) (submitters : session.client.submitting ≠ []) :
    session.Recovers := by
  obtain ⟨submitter, inside⟩ := List.exists_mem_of_ne_nil _ submitters
  have stands := (fit.manned.stands submitter).mp inside
  have moved : session.client.step (.other (.submit submitter)) =
      some { session.client with
        cmdQ := [submitter.cmd]
        submitting := session.client.submitting.erase submitter } := by
    simp [State.step, State.otherStep, empty, provided, inside, cmdMsgQMax]
  cases submitter with
  | connectTimer =>
      refine fit.client (.other (.submit .connectTimer)) trivial stands moved ?_
      intro fit
      exact recovers_headed fit atRest rfl
  | rxError =>
      refine fit.client (.other (.submit .rxError)) trivial stands moved ?_
      intro fit
      refine recovers_disconnecting fit atRest rfl ?_
      intro next fit atRest timer empty _ _
      exact recovers_emptied fit atRest timer empty
  | wifiLoss =>
      refine fit.client (.other (.submit .wifiLoss)) trivial stands moved ?_
      intro fit
      refine recovers_disconnecting fit atRest rfl ?_
      intro next fit atRest timer empty _ _
      exact recovers_emptied fit atRest timer empty

/-- The queue is worked off up to the command that turns the connection, or to the submitter that
brings it: a send or a delay request only makes it shorter. -/
theorem recovers_turning (cmdQ : List Cmd) (fit : session.Fit) (atRest : session.AtRest)
    (queue : session.client.cmdQ = cmdQ)
    (turning : .connect ∈ cmdQ ∨ .disconnect ∈ cmdQ ∨ session.client.submitting ≠ []) :
    session.Recovers := by
  induction cmdQ generalizing session with
  | nil =>
      simp only [List.not_mem_nil, false_or] at turning
      exact recovers_submitter fit atRest queue turning
  | cons cmd rest ih =>
      by_cases connected : session.client.connState = .connected
      · exact .here (.inl connected)
      · have passing (passing : cmd = .send ∨ cmd = .longReconnectionDelay)
            (later : .connect ∈ rest ∨ .disconnect ∈ rest ∨ session.client.submitting ≠ []) :
            session.Recovers := by
          have moved : session.client.step (.tx .receive) =
              some { session.client with cmdQ := rest, txTask := .received cmd } := by
            simp [State.step, State.txStep, queue, provided, atRest.1]
          refine fit.client (.tx .receive) trivial atRest.2 moved ?_
          intro fit
          refine recovers_passing fit rfl passing connected ?_
          intro next fit atRest alike
          refine ih fit atRest alike.cmdQ ?_
          rw [alike.submitting]
          exact later
        cases cmd with
        | connect => exact recovers_headed fit atRest queue
        | disconnect =>
            refine recovers_disconnecting fit atRest queue ?_
            intro next fit' atRest timer left submitting place
            by_cases busy : session.timerTask = .submitting
            · -- The timer service is still to submit.
              have inside := (fit.manned.stands .connectTimer).mpr busy
              rw [← submitting] at inside
              exact ih fit' atRest left (.inr (.inr (List.ne_nil_of_mem inside)))
            · exact recovers_timer fit' atRest timer (place ▸ busy)
        | send => exact passing (.inl rfl) (by simpa using turning)
        | longReconnectionDelay => exact passing (.inr rfl) (by simpa using turning)

theorem recovers_rest (fit : session.Fit) (atRest : session.AtRest)
    (recovering : session.Recovering) : session.Recovers := by
  have submitters (inside : session.client.submitting ≠ []) : session.Recovers :=
    recovers_turning _ fit atRest rfl (.inr (.inr inside))
  have timer {next : Session} (fit : next.Fit) (atRest : next.AtRest)
      (timer : next.timer = true) : next.Recovers := by
    by_cases submitting : next.timerTask = .submitting
    · have inside := (fit.manned.stands .connectTimer).mpr submitting
      exact recovers_turning _ fit atRest rfl (.inr (.inr (List.ne_nil_of_mem inside)))
    · exact recovers_timer fit atRest timer submitting
  rcases recovering with turning | turning | failing | assigned | running | calling
  · rcases turning with queued | running | inside
    · refine recovers_turning _ fit atRest rfl ?_
      rcases queued with queued | queued
      · exact .inl queued
      · exact .inr (.inl queued)
    · rw [atRest.1] at running
      exact running.elim
    · exact submitters inside
  · rw [atRest.2] at turning
    exact turning.elim
  · have absent : .rxError ∉ session.client.submitting := by
      intro inside
      have reporting : session.rxTask = .reporting := (fit.manned.stands .rxError).mp inside
      rw [failing] at reporting
      cases reporting
    have moved : session.client.step (.other (.reset .rxError)) =
        some { session.client with
          cmdQ := [], submitting := .rxError :: session.client.submitting } := by
      simp [State.step, State.otherStep, provided, absent]
    refine fit.client (.other (.reset .rxError)) (by simp [SessionEvent.Own]) failing moved ?_
    intro fit
    exact recovers_submitter fit atRest rfl (by simp [after])
  · refine fit.step .armed trivial (provided_eq_some.mpr ⟨assigned, rfl⟩) ?_
    intro fit
    exact timer fit atRest rfl
  · exact timer fit atRest running
  · exact recovers_calling fit atRest calling

/-- What a send or a delay request leaves behind recovers as before. -/
theorem Alike.recovering {cmd : Cmd} (alike : session.Alike next)
    (received : session.client.txTask = .received cmd)
    (passing : cmd = .send ∨ cmd = .longReconnectionDelay) (idle : session.stage = .idle)
    (recovering : session.Recovering) : next.Recovering := by
  rcases recovering with turning | turning | failing | assigned | timer | calling
  · left
    rcases turning with queued | running | submitters
    · left
      rw [alike.cmdQ]
      exact queued
    · rw [received] at running
      rcases passing with rfl | rfl <;> exact running.elim
    · right
      right
      rw [alike.submitting]
      exact submitters
  · rw [idle] at turning
    exact turning.elim
  · exact .inr (.inr (.inl (alike.rxTask.trans failing)))
  · exact .inr (.inr (.inr (.inl (alike.eventTask.trans assigned))))
  · exact .inr (.inr (.inr (.inr (.inl (alike.timer.trans timer)))))
  · exact .inr (.inr (.inr (.inr (.inr (alike.timerTask.trans calling)))))

/-- A full queue is where the assertion behind `xQueueSend` fails. -/
theorem recovers_resubmits (fit : session.Fit)
    (resubmitting : session.client.txTask = .resubmitting) : session.Recovers := by
  have idle := fit.idle (by simp [resubmitting])
  by_cases room : session.client.cmdQ.length < cmdMsgQMax
  · refine fit.client (.tx .submit) trivial trivial
      (provided_eq_some.mpr ⟨⟨resubmitting, room⟩, rfl⟩) ?_
    intro fit
    exact recovers_turning _ fit ⟨rfl, idle⟩ rfl (.inr (.inl (by simp [after])))
  · exact .here (.inr (.inl ⟨resubmitting, Nat.le_of_not_lt room⟩))

theorem recovers_idle (fit : session.Fit) (idle : session.stage = .idle)
    (apart : session.client.connState ≠ .connected) (recovering : session.Recovering) :
    session.Recovers := by
  have passing {cmd : Cmd} (received : session.client.txTask = .received cmd)
      (passing : cmd = .send ∨ cmd = .longReconnectionDelay) : session.Recovers := by
    refine recovers_passing fit received passing apart ?_
    intro next fit atRest alike
    exact recovers_rest fit atRest (alike.recovering received passing idle recovering)
  cases place : session.client.txTask with
  | waiting => exact recovers_rest fit ⟨place, idle⟩ recovering
  | received cmd =>
      cases cmd with
      | connect => exact recovers_connect fit place
      | disconnect =>
          refine recovers_disconnect fit place ?_
          intro fit
          exact recovers_rest fit ⟨rfl, rfl⟩ (.inr (.inr (.inr (.inr (.inl rfl)))))
      | send => exact passing place (.inl rfl)
      | longReconnectionDelay => exact passing place (.inr rfl)
  | opening =>
      have opening := fit.wf.opening place
      rw [idle] at opening
      cases opening
  | holding buf => exact recovers_holding fit place apart
  | writing => exact absurd (fit.wf.writing place) apart
  | failing => exact recovers_failing fit place
  | resubmitting => exact recovers_resubmits fit place

theorem recovers (fit : session.Fit) (served : session.Established ∨ session.Recovering) :
    session.Recovers := by
  have closed {next : Session} (waiting : next.client.txTask = .waiting)
      (idle : next.stage = .idle) (timer : next.timer = true) (fit : next.Fit) : next.Recovers :=
    recovers_rest fit ⟨waiting, idle⟩ (.inr (.inr (.inr (.inr (.inl timer)))))
  have placed := fit.wf.placed
  cases stage : session.stage with
  | idle =>
      by_cases connected : session.client.connState = .connected
      · exact .here (.inl connected)
      · refine recovers_idle fit stage connected (served.resolve_left ?_)
        rintro (up | resumed)
        · exact connected up
        · rw [stage] at resumed
          cases resumed
  | dialling => exact recovers_dialling fit stage
  | dialled => exact recovers_dialled fit stage
  | resumed => exact recovers_resumed fit stage
  | closing =>
      rw [stage] at placed
      exact recovers_closing fit stage (closed (placed (by simp)) rfl rfl)
  | judging =>
      rw [stage] at placed
      exact recovers_judging fit stage (closed (placed (by simp)) rfl rfl)
  | scheduling =>
      rw [stage] at placed
      exact recovers_scheduling fit stage (closed (placed (by simp)) rfl rfl)

end Session

theorem manned_run {trace : List (Session × SessionEvent)} {session : Session}
    (run : sessions.Run .initial trace session) : session.Manned := by
  have initial : Session.initial.Manned := by
    refine ⟨List.nodup_nil, fun submitter => ?_⟩
    cases submitter <;> simp [Session.initial, State.initial, Session.Stands]
  exact run.always initial Session.manned_step

/-- Whatever happened before, while the Wi-Fi is up the client can connect by steps of its own,
unless they run into an assertion behind a full queue. -/
theorem reconnects {trace : List (Session × SessionEvent)} {session : Session}
    (run : sessions.Run .initial trace session) (wifi : session.wifi = true) :
    ∃ own finish, (∀ event ∈ own, event.Own) ∧ sessions.exec session own = some finish ∧
      (finish.client.connState = .connected ∨ finish.Halting) :=
  (Session.recovers ⟨wf_run run, manned_run run, wifi⟩ (served_run run wifi)).exec

/-- A message waits when `rx_task` finds the connection broken. -/
def brokenConnection : List SessionEvent :=
  [.ipAssigned, .armed] ++ connecting ++
    [.client (.caller (.alloc 3)), .client (.caller (.sendQAccepts ⟨0, 3⟩)),
      .client (.caller (.cmdQAccepts ⟨0, 3⟩)), .rx .received, .rx .pollFailed,
      .client (.other (.reset .rxError)), .client (.other (.submit .rxError)),
      .client (.tx .receive), .client (.tx .disconnect)]

/-- The session that `brokenConnection` leads to. -/
def brokenSession : Session := (sessions.exec .initial brokenConnection).getD .initial

theorem reconnects_brokenConnection :
    brokenSession.client.connState = .disconnected ∧
      ∃ own finish, (∀ event ∈ own, event.Own) ∧ sessions.exec brokenSession own = some finish ∧
        (finish.client.connState = .connected ∨ finish.Halting) := by
  have executed : sessions.exec .initial brokenConnection = some brokenSession := rfl
  exact ⟨rfl, reconnects (Machine.run_of_exec executed) rfl⟩

end EsInverter.TcpClient
