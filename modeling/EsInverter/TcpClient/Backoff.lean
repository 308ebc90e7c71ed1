import EsInverter.Lib.Demand
import EsInverter.TcpClient.Pairing

/-!
# The reconnect delay of the TCP client

`tx_task` keeps the offset of the next reconnect.  A rejected client demands the
long one with a command, which waits in the queue that the other submitters
reset.
-/

set_option autoImplicit false

namespace EsInverter.TcpClient

open Lib

/-- `short_conn_delay_offset` -/
def shortConnDelayOffset : UInt32 := 1000

/-- `long_conn_delay_offset` -/
def longConnDelayOffset : UInt32 := 3600000

/-- `CONFIG_EM_TCP_CONN_RANDOM_DELAY_MS` -/
def connRandomDelayMs : UInt32 := 2000

/-- `CONFIG_EM_TCP_RECONNECT_TIMEOUT_MS` -/
def reconnectTimeoutMs : UInt32 := 5000

/-- A reconnect that `tx_task` schedules. -/
structure Reconnect where
  connDelayOffsetMs : UInt32
  /-- The delay passed to `scheduler_set_callback`. -/
  delayMs : UInt32
  deriving DecidableEq, Repr

/-- A step of the client and what `tx_task` finds outside. -/
structure Happening where
  event : Event
  /-- `em_wifi_sta_is_connected(0)` -/
  wifi : Bool
  /-- `esp_random()` -/
  random : UInt32
  deriving DecidableEq, Repr

structure Backoff where
  client : State
  /-- `conn_delay_offset_ms` of `tx_task` -/
  connDelayOffsetMs : UInt32
  /-- Commands queued while connected, successful connects and scheduled reconnects. -/
  log : List (Mark Reconnect)
  deriving DecidableEq, Repr

namespace Backoff

def initial : Backoff := ⟨.initial, shortConnDelayOffset, []⟩

/-- The reconnect that is scheduled with the offset in force. -/
def reconnect (backoff : Backoff) (random : UInt32) : Reconnect :=
  { connDelayOffsetMs := backoff.connDelayOffsetMs
    delayMs := reconnectTimeoutMs + ((random &&& connRandomDelayMs) + backoff.connDelayOffsetMs) }

/-- What a step that leaves `client` does besides. -/
def after (backoff : Backoff) (happening : Happening) (client : State) : Backoff :=
  match happening.event with
  | .other .longDelayAccepted =>
      if backoff.client.connState = .connected then
        { backoff with client, log := backoff.log ++ [.demand] }
      else { backoff with client }
  | .tx .connected =>
      { client, connDelayOffsetMs := shortConnDelayOffset, log := backoff.log ++ [.release] }
  | .tx .longDelay => { backoff with client, connDelayOffsetMs := longConnDelayOffset }
  | .tx .disconnect =>
      if happening.wifi then
        { backoff with client, log := backoff.log ++ [.use (backoff.reconnect happening.random)] }
      else { backoff with client }
  | _ => { backoff with client }

def step (backoff : Backoff) (happening : Happening) : Option Backoff :=
  (backoff.client.step happening.event).map (backoff.after happening)

end Backoff

def reconnecting : Machine Backoff Happening := ⟨Backoff.step⟩

@[simp]
theorem Backoff.after_client (backoff : Backoff) (happening : Happening) (state : State) :
    (backoff.after happening state).client = state := by
  unfold Backoff.after
  repeat' split
  all_goals rfl

/-- The offset decides nothing about the queues. -/
theorem client_run {trace : List (Backoff × Happening)} {backoff : Backoff}
    (run : reconnecting.Run .initial trace backoff) :
    client.Run .initial (trace.map fun taken => (taken.1.client, taken.2.event))
      backoff.client := by
  induction run with
  | nil => exact .nil
  | @snoc trace state next happening run stepped ih =>
      obtain ⟨moved, clientStepped, rfl⟩ := Option.map_eq_some_iff.mp stepped
      rw [List.map_append, List.map_singleton, Backoff.after_client]
      exact ih.snoc clientStepped

/-- A reconnect with the offset of one hour. -/
def Reconnect.Long (reconnect : Reconnect) : Prop :=
  reconnect.connDelayOffsetMs = longConnDelayOffset

/-- Behind a command queued while connected, the next reconnect is long, and one that is not comes
only behind a successful connect. -/
def BacksOff (backoff : Backoff) : Prop := Honoured Reconnect.Long backoff.log

/-! ### The command on its way -/

/-- The command is queued or in the hands of `tx_task`. -/
def Demanded (state : State) : Prop :=
  .longReconnectionDelay ∈ state.cmdQ ∨ state.txTask = .received .longReconnectionDelay

/-- The long offset depends on a command that is still queued. -/
def Backoff.Depends (backoff : Backoff) : Prop :=
  (outstanding backoff.log).Pressing ∧ backoff.connDelayOffsetMs ≠ longConnDelayOffset ∧
    .longReconnectionDelay ∈ backoff.client.cmdQ ∧
      backoff.client.txTask ≠ .received .longReconnectionDelay

instance (backoff : Backoff) : Decidable backoff.Depends :=
  inferInstanceAs (Decidable (_ ∧ _ ∧ _ ∧ _))

/-- The command is not dropped by a reset, not overtaken by a disconnect that schedules a
reconnect, and not spent by a connect before there was one. -/
def Careful (backoff : Backoff) (happening : Happening) : Prop :=
  match happening.event with
  | .other (.reset _) | .tx .reset => ¬backoff.Depends
  | .tx .disconnect => happening.wifi = true → ¬backoff.Depends
  | .tx .connected =>
      (outstanding backoff.log).unused = true → .longReconnectionDelay ∈ backoff.client.cmdQ
  | _ => True

instance (backoff : Backoff) (happening : Happening) : Decidable (Careful backoff happening) := by
  unfold Careful
  split <;> infer_instance

theorem demanded_caller {state next : State} {event : CallerEvent} (demanded : Demanded state)
    (stepped : state.callerStep event = some next) : Demanded next := by
  cases event with
  | alloc len =>
      cases stepped
      exact demanded
  | cmdQAccepts buf =>
      obtain ⟨_, rfl⟩ := provided_eq_some.mp stepped
      exact demanded.imp_left (List.mem_append_left _)
  | emptyRefused buf | sendQAccepts buf | sendQFull buf | cmdQFull buf | free buf =>
      obtain ⟨_, rfl⟩ := provided_eq_some.mp stepped
      exact demanded

/-- Only a reset takes a queued command away. -/
theorem demanded_other {state next : State} {event : OtherEvent} (demanded : Demanded state)
    (kept : ∀ submitter, event = .reset submitter →
      state.txTask = .received .longReconnectionDelay)
    (stepped : state.otherStep event = some next) : Demanded next := by
  cases event with
  | longDelayAccepted =>
      obtain ⟨_, rfl⟩ := provided_eq_some.mp stepped
      exact demanded.imp_left (List.mem_append_left _)
  | longDelayDropped | lossNoticed =>
      obtain ⟨_, rfl⟩ := provided_eq_some.mp stepped
      exact demanded
  | reset submitter =>
      obtain ⟨_, rfl⟩ := provided_eq_some.mp stepped
      exact .inr (kept submitter rfl)
  | submit submitter =>
      obtain ⟨_, rfl⟩ := provided_eq_some.mp stepped
      exact demanded.imp_left (List.mem_append_left _)

/-- A command that is queued while `tx_task` does something else stays queued. -/
theorem Demanded.queued {state : State} {txTask : TxTask} (demanded : Demanded state)
    (busy : state.txTask = txTask) (other : txTask ≠ .received .longReconnectionDelay) :
    .longReconnectionDelay ∈ state.cmdQ := by
  rcases demanded with queued | received
  · exact queued
  · exact absurd (busy.symm.trans received) other

theorem demanded_tx {state next : State} {event : TxEvent} (demanded : Demanded state)
    (noReset : event ≠ .reset) (taken : event ≠ .longDelay)
    (stepped : state.txStep event = some next) : Demanded next := by
  cases event with
  | reset => exact absurd rfl noReset
  | longDelay => exact absurd rfl taken
  | receive =>
      obtain ⟨cmd, rest, queue, waiting, rfl⟩ := receive_eq_some stepped
      have queued := demanded.queued waiting (by simp)
      rw [queue] at queued
      rcases List.mem_cons.mp queued with rfl | later
      · exact .inr rfl
      · exact .inl later
  | take =>
      obtain ⟨buf, rest, queue, received, rfl⟩ := take_eq_some stepped
      exact .inl (demanded.queued received (by decide))
  | connect | disconnect =>
      obtain ⟨received, rfl⟩ := provided_eq_some.mp stepped
      exact .inl (demanded.queued received (by decide))
  | sendQEmpty =>
      obtain ⟨⟨received, _⟩, rfl⟩ := provided_eq_some.mp stepped
      exact .inl (demanded.queued received (by decide))
  | connected | connectFailed | written | writeFailed =>
      obtain ⟨busy, rfl⟩ := provided_eq_some.mp stepped
      exact .inl (demanded.queued busy (by simp))
  | notConnected buf | emptyBuffer buf =>
      obtain ⟨⟨holding, _⟩, rfl⟩ := provided_eq_some.mp stepped
      exact .inl (demanded.queued holding (by simp))
  | encodeFailed buf | encoded buf =>
      obtain ⟨⟨holding, _⟩, rfl⟩ := provided_eq_some.mp stepped
      obtain ⟨readFreed, same⟩ := state.read_eq buf
      rw [same]
      exact .inl (demanded.queued holding (by simp))
  | submit =>
      obtain ⟨⟨resubmitting, _⟩, rfl⟩ := provided_eq_some.mp stepped
      exact .inl (List.mem_append_left _ (demanded.queued resubmitting (by simp)))

/-! ### What careful steps keep -/

structure Kept (backoff : Backoff) : Prop where
  honoured : BacksOff backoff
  /-- A reconnect that has to be long will be. -/
  backed : (outstanding backoff.log).Pressing →
    backoff.connDelayOffsetMs = longConnDelayOffset ∨ Demanded backoff.client

theorem kept_initial : Kept .initial where
  honoured := honoured_nil _
  backed := by
    intro pressing
    cases pressing <;> contradiction

/-- A step that neither changes the offset nor writes to the log. -/
theorem Kept.moved {backoff : Backoff} {next : State} (kept : Kept backoff)
    (demanded : (outstanding backoff.log).Pressing →
      backoff.connDelayOffsetMs ≠ longConnDelayOffset → Demanded backoff.client → Demanded next) :
    Kept { backoff with client := next } where
  honoured := kept.honoured
  backed := by
    intro pressing
    by_cases long : backoff.connDelayOffsetMs = longConnDelayOffset
    · exact .inl long
    · exact .inr (demanded pressing long ((kept.backed pressing).resolve_left long))

theorem Kept.queued {backoff : Backoff} {next : State} (kept : Kept backoff)
    (stepped : backoff.client.otherStep .longDelayAccepted = some next) :
    Kept { backoff with client := next, log := backoff.log ++ [.demand] } := by
  obtain ⟨_, rfl⟩ := provided_eq_some.mp stepped
  exact
    { honoured := kept.honoured.snoc (by simp)
      backed := fun _ => .inr (.inl (List.mem_append_right _ (List.mem_singleton.mpr rfl))) }

theorem Kept.connected {backoff : Backoff} {next : State} (kept : Kept backoff)
    (queued : (outstanding backoff.log).unused = true →
      .longReconnectionDelay ∈ backoff.client.cmdQ)
    (stepped : backoff.client.txStep .connected = some next) :
    Kept ⟨next, shortConnDelayOffset, backoff.log ++ [.release]⟩ := by
  obtain ⟨_, rfl⟩ := provided_eq_some.mp stepped
  refine ⟨kept.honoured.snoc (by simp), ?_⟩
  intro pressing
  rw [outstanding_snoc] at pressing
  rcases pressing with unused | unreleased
  · exact .inr (.inl (queued unused))
  · cases unreleased

/-- A reconnect is scheduled with the offset in force. -/
theorem Kept.reconnected {backoff : Backoff} {next : State} (kept : Kept backoff)
    (depends : ¬backoff.Depends) (random : UInt32)
    (stepped : backoff.client.txStep .disconnect = some next) :
    Kept { backoff with client := next, log := backoff.log ++ [.use (backoff.reconnect random)] } := by
  obtain ⟨received, rfl⟩ := provided_eq_some.mp stepped
  have long (pressing : (outstanding backoff.log).Pressing) :
      backoff.connDelayOffsetMs = longConnDelayOffset := by
    by_contra short
    have demanded := (kept.backed pressing).resolve_left short
    have other : backoff.client.txTask ≠ .received .longReconnectionDelay := by
      rw [received]
      decide
    exact depends ⟨pressing, short, demanded.queued received (by decide), other⟩
  refine ⟨kept.honoured.snoc ?_, ?_⟩
  · rintro value ⟨⟩ pressing
    exact long pressing
  · intro pressing
    rw [outstanding_snoc] at pressing
    rcases pressing with unused | unreleased
    · cases unused
    · exact .inl (long (.inr unreleased))

theorem kept_step {backoff next : Backoff} {happening : Happening}
    (careful : Careful backoff happening) (kept : Kept backoff)
    (stepped : reconnecting.step backoff happening = some next) : Kept next := by
  obtain ⟨event, wifi, random⟩ := happening
  obtain ⟨client, moved, rfl⟩ := Option.map_eq_some_iff.mp stepped
  cases event with
  | caller event => exact kept.moved fun _ _ demanded => demanded_caller demanded moved
  | other event =>
      change backoff.client.otherStep event = some client at moved
      cases event with
      | longDelayAccepted =>
          simp only [Backoff.after]
          split
          · exact kept.queued moved
          · exact kept.moved fun _ _ demanded => demanded_other demanded (by simp) moved
      | longDelayDropped | lossNoticed =>
          exact kept.moved fun _ _ demanded => demanded_other demanded (by simp) moved
      | submit submitter =>
          exact kept.moved fun _ _ demanded => demanded_other demanded (by simp) moved
      | reset submitter =>
          refine kept.moved fun pressing short demanded => demanded_other demanded ?_ moved
          intro _ _
          by_contra other
          exact careful ⟨pressing, short, demanded.resolve_right other, other⟩
  | tx event =>
      change backoff.client.txStep event = some client at moved
      cases event with
      | connected => exact kept.connected careful moved
      | longDelay =>
          exact { honoured := kept.honoured, backed := fun _ => .inl rfl }
      | disconnect =>
          simp only [Backoff.after]
          split
          next available => exact kept.reconnected (careful available) random moved
          next => exact kept.moved fun _ _ demanded => demanded_tx demanded (by simp) (by simp) moved
      | reset =>
          obtain ⟨failing, _⟩ := provided_eq_some.mp moved
          refine kept.moved fun pressing short demanded => ?_
          have other : backoff.client.txTask ≠ .received .longReconnectionDelay := by
            rw [failing]
            simp
          exact absurd ⟨pressing, short, demanded.resolve_right other, other⟩ careful
      | receive | connect | connectFailed | sendQEmpty | take | notConnected buf
      | emptyBuffer buf | encodeFailed buf | encoded buf | written | writeFailed | submit =>
          exact kept.moved fun _ _ demanded => demanded_tx demanded (by simp) (by simp) moved

/-- A rejected client backs off as long as its command is neither dropped nor overtaken. -/
theorem backsOff_of_careful {trace : List (Backoff × Happening)} {backoff : Backoff}
    (run : reconnecting.Run .initial trace backoff)
    (careful : ∀ taken ∈ trace, Careful taken.1 taken.2) : BacksOff backoff :=
  (run.invariant kept_initial kept_step careful).honoured

/-- The first connect, with WiFi ever since. -/
def connectEvents : List Event :=
  [.other (.reset .connectTimer), .other (.submit .connectTimer), .tx .receive, .tx .connect,
    .tx .connected]

/-- The socket is closed and `tx_task` gets to it. -/
def closedEvents : List Event :=
  [.other (.reset .rxError), .other (.submit .rxError), .tx .receive, .tx .disconnect]

def withWifi (events : List Event) : List Happening := events.map fun event => ⟨event, true, 0⟩

/-- `tx_task` takes the command before the server closes the socket. -/
def rejectedEvents : List Happening :=
  withWifi (connectEvents ++ [.other .longDelayAccepted, .tx .receive, .tx .longDelay] ++
    closedEvents)

theorem backsOff_of_careful_rejected :
    ∃ trace backoff, reconnecting.Run .initial trace backoff ∧
      backoff.log = [.release, .demand, .use ⟨3600000, 3605000⟩] ∧ BacksOff backoff := by
  have executed : (reconnecting.exec .initial rejectedEvents).isSome = true := by decide
  obtain ⟨backoff, reached⟩ := Option.isSome_iff_exists.mp executed
  have logged : (reconnecting.exec .initial rejectedEvents).map Backoff.log =
      some [.release, .demand, .use ⟨3600000, 3605000⟩] := by decide
  rw [reached] at logged
  refine ⟨_, backoff, Machine.run_of_exec reached, Option.some.inj logged, ?_⟩
  have careful : ∀ taken ∈ reconnecting.tracing .initial rejectedEvents,
      Careful taken.1 taken.2 := by decide
  exact backsOff_of_careful (Machine.run_of_exec reached) careful

/-- The server closes the socket before `tx_task` takes the command. -/
def closedFirstEvents : List Happening :=
  withWifi (connectEvents ++ [.other .longDelayAccepted] ++ closedEvents)

theorem closedFirst_not_backsOff :
    ¬∀ trace backoff, reconnecting.Run .initial trace backoff → BacksOff backoff := by
  intro always
  have executed : (reconnecting.exec .initial closedFirstEvents).isSome = true := by decide
  obtain ⟨backoff, reached⟩ := Option.isSome_iff_exists.mp executed
  have logged : (reconnecting.exec .initial closedFirstEvents).map Backoff.log =
      some [.release, .demand, .use ⟨1000, 6000⟩] := by decide
  rw [reached] at logged
  have backsOff := always _ _ (Machine.run_of_exec reached)
  rw [BacksOff, Option.some.inj logged] at backsOff
  have long := (backsOff [.release] [] ⟨1000, 6000⟩ [] rfl).1 (List.forall_mem_nil _)
  exact absurd long (by rw [Reconnect.Long]; decide)

end EsInverter.TcpClient
