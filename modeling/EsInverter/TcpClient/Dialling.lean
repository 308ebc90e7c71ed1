import EsInverter.TcpClient.Session

/-!
# The transport of the TCP client is used while it is open

`tx_task` writes to the transport only between a connect and the next close.
Every connect comes from one start of the timer, so the transport is connected a
second time only where the timer was started beside a connection or another
connect.
-/

set_option autoImplicit false

namespace EsInverter.TcpClient

open Lib

def TimerTask.connects : TimerTask → Nat
  | .idle => 0
  | .calling | .submitting => 1

def TxTask.connects : TxTask → Nat
  | .received .connect => 1
  | _ => 0

def Stage.connects : Stage → Nat
  | .dialling => 1
  | _ => 0

/-- The connects queued or in the hands of `tx_task`. -/
def State.connects (state : State) : Nat := state.cmdQ.count .connect + state.txTask.connects

/-- The connects that are on their way, and the connection itself. -/
def Session.connects (session : Session) : Nat :=
  session.timer.toNat + session.timerTask.connects + session.client.connects +
    session.stage.connects + session.linked.toNat

/-- `esp_transport_connect` finds the transport open, whether or not it connects it again.  A host
that is not found in its place is counted with it. -/
def Session.overdials (session : Session) : SessionEvent → Bool
  | .dialled | .client (.tx .connectFailed) => session.linked
  | _ => false

/-- The timer is started beside a connection or a connect. -/
def Session.startsBeside (session : Session) : SessionEvent → Bool
  | .scheduled | .armed => !session.timer && session.connects != 0
  | _ => false

/-! ### The connects of the queue -/

theorem connects_caller {state next : State} {event : CallerEvent}
    (stepped : state.callerStep event = some next) : next.connects = state.connects := by
  cases event with
  | alloc len =>
      cases stepped
      rfl
  | cmdQAccepts buf =>
      obtain ⟨_, rfl⟩ := provided_eq_some.mp stepped
      simp [State.connects]
  | emptyRefused buf | sendQAccepts buf | sendQFull buf | cmdQFull buf | free buf =>
      obtain ⟨_, rfl⟩ := provided_eq_some.mp stepped
      rfl

/-- Only the call of the timer brings a connect. -/
theorem connects_other {state next : State} {event : OtherEvent}
    (stepped : state.otherStep event = some next) :
    next.connects ≤ state.connects + if event = .submit .connectTimer then 1 else 0 := by
  cases event with
  | longDelayAccepted | longDelayDropped | lossNoticed =>
      obtain ⟨_, rfl⟩ := provided_eq_some.mp stepped
      simp [State.connects]
  | reset submitter =>
      obtain ⟨_, rfl⟩ := provided_eq_some.mp stepped
      simp [State.connects]
  | submit submitter =>
      obtain ⟨_, rfl⟩ := provided_eq_some.mp stepped
      cases submitter with
      | rxError | wifiLoss => simp [State.connects, Submitter.cmd]
      | connectTimer =>
          simp only [State.connects, Submitter.cmd, List.count_append, List.count_singleton_self,
            if_true]
          omega

/-- `tx_task` takes a connect at most once. -/
theorem connects_tx {state next : State} {event : TxEvent}
    (stepped : state.txStep event = some next) :
    next.connects + (if event = .connect then 1 else 0) ≤ state.connects := by
  cases event with
  | receive =>
      obtain ⟨cmd, rest, queue, waiting, rfl⟩ := receive_eq_some stepped
      cases cmd <;> simp [State.connects, TxTask.connects, queue, waiting]
  | take =>
      obtain ⟨buf, rest, queue, received, rfl⟩ := take_eq_some stepped
      simp [State.connects, TxTask.connects]
  | encodeFailed buf | encoded buf =>
      obtain ⟨_, rfl⟩ := provided_eq_some.mp stepped
      obtain ⟨readFreed, read⟩ := state.read_eq buf
      rw [read]
      simp [State.connects, TxTask.connects, State.free]
  | connect =>
      obtain ⟨received, rfl⟩ := provided_eq_some.mp stepped
      simp [State.connects, TxTask.connects, received]
  | connected | connectFailed | disconnect | longDelay | sendQEmpty | notConnected buf
  | emptyBuffer buf | written | writeFailed | reset | submit =>
      obtain ⟨_, rfl⟩ := provided_eq_some.mp stepped
      simp [State.connects, TxTask.connects, State.free]

namespace Session

variable {session next : Session}

theorem connects_client {client : State} {event : Event} (allowed : session.Allows event)
    (moved : session.client.step event = some client) :
    (session.after event client).connects ≤ session.connects := by
  cases event with
  | caller event =>
      have kept := connects_caller moved
      change _ + _ + client.connects + _ + _ ≤ _
      rw [kept]
      exact Nat.le_refl _
  | other event =>
      have kept := connects_other moved
      cases event with
      | longDelayAccepted | longDelayDropped | lossNoticed =>
          simp only [connects, after]
          simp at kept
          omega
      | reset submitter =>
          simp at kept
          cases submitter with
          | rxError | wifiLoss =>
              simp only [connects, after]
              omega
          | connectTimer =>
              have calling : session.timerTask = .calling := allowed
              simp only [connects, after, calling, TimerTask.connects]
              omega
      | submit submitter =>
          cases submitter with
          | rxError | wifiLoss =>
              simp at kept
              simp only [connects, after]
              omega
          | connectTimer =>
              -- The call of the timer service becomes its command.
              have submitting : session.timerTask = .submitting := allowed
              simp at kept
              simp only [connects, after, submitting, TimerTask.connects]
              omega
  | tx event =>
      have kept := connects_tx moved
      cases event with
      | connect =>
          simp at kept
          simp only [connects, after, Stage.connects]
          omega
      | connected | connectFailed | disconnect =>
          simp at kept
          simp only [connects, after, Stage.connects]
          omega
      | receive | longDelay | sendQEmpty | take | notConnected buf | emptyBuffer buf
      | encodeFailed buf | encoded buf | written | writeFailed | reset | submit =>
          simp at kept
          simp only [connects, after]
          omega

/-- The connect that `tx_task` dialled for is spent. -/
theorem connects_connectFailed {client : State} (dialling : session.stage = .dialling)
    (moved : session.client.step (.tx .connectFailed) = some client) :
    (session.after (.tx .connectFailed) client).connects + 1 ≤ session.connects := by
  obtain ⟨opening, rfl⟩ := provided_eq_some.mp moved
  simp [connects, after, dialling, opening, State.connects, Stage.connects, TxTask.connects]

theorem overdials_client {event : Event} (other : event ≠ .tx .connectFailed) :
    session.overdials (.client event) = false := by
  unfold overdials
  split
  · next same => cases same
  · next same =>
      cases same
      exact absurd rfl other
  · rfl

/-- Only a start of the timer adds a connect, and connecting an open transport spends one. -/
theorem connects_step {event : SessionEvent} (stepped : session.step event = some next)
    (starts : event ≠ .scheduled ∧ event ≠ .armed) :
    next.connects + (session.overdials event).toNat ≤ session.connects := by
  cases event with
  | client event =>
      obtain ⟨allowed, client, moved, rfl⟩ := clientStep_eq_some stepped
      by_cases failed : event = .tx .connectFailed
      · subst failed
        exact Nat.le_trans (Nat.add_le_add_left (Bool.toNat_le _) _)
          (connects_connectFailed allowed moved)
      · rw [overdials_client failed]
        exact connects_client allowed moved
  | rx event =>
      obtain ⟨_, rxQ, rxTask, _, rfl⟩ := rxStep_eq_some stepped
      exact Nat.le_refl _
  | dialled =>
      obtain ⟨dialling, rfl⟩ := provided_eq_some.mp stepped
      cases linked : session.linked
      all_goals simp [connects, overdials, dialling, linked, Stage.connects]
  | scheduled => exact absurd rfl starts.1
  | armed => exact absurd rfl starts.2
  | resumed =>
      obtain ⟨_, rfl⟩ := provided_eq_some.mp stepped
      simp [connects, overdials, Stage.connects]
  | closed =>
      obtain ⟨closing, rfl⟩ := provided_eq_some.mp stepped
      simp [connects, overdials, closing, Stage.connects]
  | judged =>
      obtain ⟨_, rfl⟩ := provided_eq_some.mp stepped
      cases wifi : session.wifi
      all_goals simp [connects, overdials, Stage.connects]
  | ipAssigned | staDisconnected | suspended =>
      obtain ⟨_, rfl⟩ := provided_eq_some.mp stepped
      exact Nat.le_refl _
  | expired =>
      obtain ⟨⟨timer, idle⟩, rfl⟩ := provided_eq_some.mp stepped
      simp [connects, overdials, timer, idle, TimerTask.connects]

theorem connects_start {event : SessionEvent} (stepped : session.step event = some next)
    (starts : event = .scheduled ∨ event = .armed) :
    next.connects ≤ session.connects ∨ next.connects ≤ 1 ∨
      session.startsBeside event = true ∧ next.connects ≤ session.connects + 1 := by
  have added : next.connects + session.timer.toNat ≤ session.connects + 1 := by
    rcases starts with rfl | rfl
    all_goals
      obtain ⟨_, rfl⟩ := provided_eq_some.mp stepped
      simp [connects, Stage.connects]
      omega
  cases timer : session.timer with
  | true =>
      rw [timer, Bool.toNat_true] at added
      exact .inl (by omega)
  | false =>
      by_cases alone : session.connects = 0
      · exact .inr (.inl (by omega))
      · refine .inr (.inr ⟨?_, by omega⟩)
        rcases starts with rfl | rfl <;> simp [startsBeside, timer, alone]

theorem overdials_linked {event : SessionEvent} (again : session.overdials event = true)
    (stepped : session.step event = some next) : 1 ≤ next.connects := by
  unfold overdials at again
  split at again
  · obtain ⟨_, rfl⟩ := provided_eq_some.mp stepped
    simp [connects]
  · obtain ⟨_, client, _, rfl⟩ := clientStep_eq_some stepped
    simp [connects, again]
  · cases again

/-- `tx_task` writes, and goes on writing. -/
def writes : SessionEvent → Bool
  | .client (.tx .written) | .client (.tx .writeFailed) => true
  | _ => false

theorem linked_of_writes {event : SessionEvent} (wf : session.Wf) (writes : writes event = true)
    (stepped : session.step event = some next) : session.linked = true := by
  have writing : session.client.txTask = .writing := by
    unfold Session.writes at writes
    split at writes
    · obtain ⟨_, client, moved, _⟩ := clientStep_eq_some stepped
      exact (provided_eq_some.mp moved).1
    · obtain ⟨_, client, moved, _⟩ := clientStep_eq_some stepped
      exact (provided_eq_some.mp moved).1
    · cases writes
  exact wf.linked (.inr (.inr (wf.writing writing)))

end Session

variable {trace : List (Session × SessionEvent)} {session : Session}

theorem connects_run (run : sessions.Run .initial trace session) :
    session.connects + trace.countP (fun taken => taken.1.overdials taken.2) ≤
        1 + trace.countP (fun taken => taken.1.startsBeside taken.2) ∧
      trace.countP (fun taken => taken.1.overdials taken.2) ≤
        trace.countP (fun taken => taken.1.startsBeside taken.2) := by
  induction run with
  | nil => decide
  | @snoc trace state next event run stepped ih =>
      rw [List.countP_append, List.countP_append, List.countP_singleton, List.countP_singleton]
      by_cases starts : event = .scheduled ∨ event = .armed
      · have once : state.overdials event = false := by
          rcases starts with rfl | rfl <;> rfl
        simp only [once, Bool.false_eq_true, if_false, Nat.add_zero]
        rcases Session.connects_start stepped starts with less | one | ⟨beside, more⟩
        · split <;> omega
        · split <;> omega
        · rw [if_pos beside]
          omega
      · have kept := Session.connects_step stepped (not_or.mp starts)
        cases again : state.overdials event with
        | false =>
            simp only [again, Bool.false_eq_true, if_false, Bool.toNat_false] at kept ⊢
            split <;> omega
        | true =>
            have linked := Session.overdials_linked again stepped
            simp only [again, if_true, Bool.toNat_true] at kept ⊢
            split <;> omega

/-- `tx_task` writes only to a transport that it has connected and not closed since, and connects
an open transport at most as often as the timer was started beside a connection or a connect. -/
theorem transport_kept (run : sessions.Run .initial trace session) :
    (∀ taken ∈ trace, Session.writes taken.2 = true → taken.1.linked = true) ∧
      trace.countP (fun taken => taken.1.overdials taken.2) ≤
        trace.countP (fun taken => taken.1.startsBeside taken.2) := by
  refine ⟨?_, (connects_run run).2⟩
  intro taken inside writes
  obtain ⟨before, after, rfl⟩ := List.append_of_mem inside
  obtain ⟨next, earlier, stepped, _⟩ := Machine.Run.at_ run
  exact Session.linked_of_writes (wf_run earlier) writes stepped

/-- The address changes while the client is connected, and the transport is not connected again. -/
def readdressed : List SessionEvent :=
  [.ipAssigned, .armed, .expired, .client (.other (.reset .connectTimer)),
    .client (.other (.submit .connectTimer)), .client (.tx .receive), .client (.tx .connect),
    .dialled, .resumed, .client (.tx .connected), .client (.caller (.alloc 3)),
    .client (.caller (.sendQAccepts ⟨0, 3⟩)), .client (.caller (.cmdQAccepts ⟨0, 3⟩)),
    .client (.tx .receive), .client (.tx .take), .client (.tx (.encoded ⟨0, 3⟩)),
    .client (.tx .written), .ipAssigned, .armed, .expired,
    .client (.other (.reset .connectTimer)), .client (.other (.submit .connectTimer)),
    .client (.tx .receive), .client (.tx .connect), .client (.tx .connectFailed)]

/-- The session that `readdressed` leads to. -/
def readdressedSession : Session := (sessions.exec .initial readdressed).getD .initial

theorem transport_kept_readdressed :
    (sessions.tracing .initial readdressed).countP
        (fun taken => taken.1.overdials taken.2) = 1 ∧
      (∀ taken ∈ sessions.tracing .initial readdressed,
        Session.writes taken.2 = true → taken.1.linked = true) ∧
      (sessions.tracing .initial readdressed).countP
          (fun taken => taken.1.overdials taken.2) ≤
        (sessions.tracing .initial readdressed).countP
          (fun taken => taken.1.startsBeside taken.2) := by
  have executed : sessions.exec .initial readdressed = some readdressedSession := rfl
  exact ⟨by decide, transport_kept (Machine.run_of_exec executed)⟩

end EsInverter.TcpClient
