import EsInverter.TcpClient.Queues

/-!
# Commands and buffers of the TCP client

Every `CMD_SEND` stands for one buffer of `send_q`.  The commands that a step
drops are counted; between the commands and the buffers nothing else goes wrong.
-/

set_option autoImplicit false

namespace EsInverter.TcpClient

open Lib

/-- The buffer that the command in the hands of `tx_task` will take. -/
def TxTask.sends : TxTask → Nat
  | .received .send => 1
  | _ => 0

/-- The `CMD_SEND` entries a step drops. -/
def dropped (state : State) : Event → Nat
  | .caller (.cmdQFull _) => 1
  | .other (.reset _) => state.cmdQ.count .send
  | .tx .reset => state.cmdQ.count .send
  | _ => 0

/-- The buffers of `send_q` have a command, queued, received or still to come, or have lost it. -/
def Balanced (state : State) (lost : Nat) : Prop :=
  state.sendQ.length =
    state.cmdQ.count .send + state.txTask.sends + state.between.length + lost

/-- What has been taken and what is queued is what was submitted, in order. -/
def InOrder (state : State) : Prop := state.taken ++ state.sendQ = state.submitted

theorem length_erase_add_one {buf : Buffer} {bufs : List Buffer} (inside : buf ∈ bufs) :
    (bufs.erase buf).length + 1 = bufs.length := by
  have some_ := List.length_pos_of_mem inside
  rw [List.length_erase_of_mem inside]
  omega

/-- Reading a block changes nothing but the record of reads. -/
theorem State.read_eq (state : State) (buf : Buffer) :
    ∃ readFreed, state.read buf = { state with readFreed } := by
  rw [State.read]
  split
  · exact ⟨_, rfl⟩
  · exact ⟨_, rfl⟩

theorem receive_eq_some {state next : State} (stepped : state.txStep .receive = some next) :
    ∃ cmd rest, state.cmdQ = cmd :: rest ∧ state.txTask = .waiting ∧
      next = { state with cmdQ := rest, txTask := .received cmd } := by
  cases queue : state.cmdQ with
  | nil =>
      rw [State.txStep, queue] at stepped
      cases stepped
  | cons cmd rest =>
      rw [State.txStep, queue] at stepped
      obtain ⟨waiting, rfl⟩ := provided_eq_some.mp stepped
      exact ⟨cmd, rest, rfl, waiting, rfl⟩

theorem take_eq_some {state next : State} (stepped : state.txStep .take = some next) :
    ∃ buf rest, state.sendQ = buf :: rest ∧ state.txTask = .received .send ∧
      next = { state with
        sendQ := rest, txTask := .holding buf, taken := state.taken ++ [buf] } := by
  cases queue : state.sendQ with
  | nil =>
      rw [State.txStep, queue] at stepped
      cases stepped
  | cons buf rest =>
      rw [State.txStep, queue] at stepped
      obtain ⟨received, rfl⟩ := provided_eq_some.mp stepped
      exact ⟨buf, rest, rfl, received, rfl⟩

theorem balanced_caller {state next : State} {event : CallerEvent} {lost : Nat}
    (before : Balanced state lost) (stepped : state.callerStep event = some next) :
    Balanced next (lost + dropped state (.caller event)) := by
  unfold Balanced at before ⊢
  cases event with
  | alloc len =>
      cases stepped
      exact before
  | emptyRefused buf =>
      obtain ⟨_, rfl⟩ := provided_eq_some.mp stepped
      exact before
  | sendQAccepts buf =>
      obtain ⟨_, rfl⟩ := provided_eq_some.mp stepped
      simp only [dropped, List.length_append, List.length_cons, List.length_nil]
      omega
  | sendQFull buf =>
      obtain ⟨_, rfl⟩ := provided_eq_some.mp stepped
      exact before
  | cmdQAccepts buf =>
      obtain ⟨⟨inside, _⟩, rfl⟩ := provided_eq_some.mp stepped
      have shorter := length_erase_add_one inside
      have one : [Cmd.send].count .send = 1 := rfl
      simp only [dropped, List.count_append]
      omega
  | cmdQFull buf =>
      obtain ⟨⟨inside, _⟩, rfl⟩ := provided_eq_some.mp stepped
      have shorter := length_erase_add_one inside
      simp only [dropped]
      omega
  | free buf =>
      obtain ⟨_, rfl⟩ := provided_eq_some.mp stepped
      exact before

theorem balanced_other {state next : State} {event : OtherEvent} {lost : Nat}
    (before : Balanced state lost) (stepped : state.otherStep event = some next) :
    Balanced next (lost + dropped state (.other event)) := by
  unfold Balanced at before ⊢
  cases event with
  | longDelayAccepted =>
      obtain ⟨_, rfl⟩ := provided_eq_some.mp stepped
      simpa [dropped] using before
  | longDelayDropped | lossNoticed =>
      obtain ⟨_, rfl⟩ := provided_eq_some.mp stepped
      exact before
  | reset submitter =>
      obtain ⟨_, rfl⟩ := provided_eq_some.mp stepped
      simp only [dropped, List.count_nil]
      omega
  | submit submitter =>
      obtain ⟨_, rfl⟩ := provided_eq_some.mp stepped
      cases submitter <;> simpa [dropped, Submitter.cmd] using before

theorem balanced_tx {state next : State} {event : TxEvent} {lost : Nat}
    (before : Balanced state lost) (stepped : state.txStep event = some next) :
    Balanced next (lost + dropped state (.tx event)) := by
  unfold Balanced at before ⊢
  cases event with
  | receive =>
      obtain ⟨cmd, rest, queue, waiting, rfl⟩ := receive_eq_some stepped
      rw [queue, waiting] at before
      cases cmd <;> simp [dropped, TxTask.sends] at before ⊢ <;> omega
  | sendQEmpty =>
      -- The received command has its buffer in the queue.
      obtain ⟨⟨received, empty⟩, rfl⟩ := provided_eq_some.mp stepped
      rw [received, empty] at before
      simp only [List.length_nil, TxTask.sends] at before
      omega
  | take =>
      obtain ⟨buf, rest, queue, received, rfl⟩ := take_eq_some stepped
      rw [queue, received] at before
      simp only [dropped, TxTask.sends, List.length_cons] at before ⊢
      omega
  | reset =>
      obtain ⟨failing, rfl⟩ := provided_eq_some.mp stepped
      rw [failing] at before
      simp only [dropped, TxTask.sends, List.count_nil] at before ⊢
      omega
  | submit =>
      obtain ⟨⟨resubmitting, _⟩, rfl⟩ := provided_eq_some.mp stepped
      rw [resubmitting] at before
      simpa [dropped, TxTask.sends] using before
  | connect | connected | connectFailed | disconnect | longDelay | written | writeFailed =>
      obtain ⟨task, rfl⟩ := provided_eq_some.mp stepped
      rw [task] at before
      exact before
  | notConnected buf | emptyBuffer buf =>
      obtain ⟨⟨task, _⟩, rfl⟩ := provided_eq_some.mp stepped
      rw [task] at before
      exact before
  | encodeFailed buf | encoded buf =>
      obtain ⟨⟨task, _⟩, rfl⟩ := provided_eq_some.mp stepped
      obtain ⟨readFreed, same⟩ := state.read_eq buf
      rw [task] at before
      rw [same]
      exact before

theorem balanced_step {state next : State} {event : Event} {lost : Nat}
    (before : Balanced state lost) (stepped : client.step state event = some next) :
    Balanced next (lost + dropped state event) := by
  cases event with
  | caller event => exact balanced_caller before stepped
  | other event => exact balanced_other before stepped
  | tx event => exact balanced_tx before stepped

theorem inOrder_step {state next : State} {event : Event} (before : InOrder state)
    (stepped : client.step state event = some next) : InOrder next := by
  unfold InOrder at before ⊢
  cases event with
  | caller event =>
      cases event with
      | alloc len =>
          cases stepped
          exact before
      | sendQAccepts buf =>
          obtain ⟨_, rfl⟩ := provided_eq_some.mp stepped
          simp only [← before, List.append_assoc]
      | emptyRefused buf | sendQFull buf | cmdQAccepts buf | cmdQFull buf | free buf =>
          obtain ⟨_, rfl⟩ := provided_eq_some.mp stepped
          exact before
  | other event =>
      cases event with
      | longDelayAccepted | longDelayDropped | lossNoticed | reset submitter | submit submitter =>
          obtain ⟨_, rfl⟩ := provided_eq_some.mp stepped
          exact before
  | tx event =>
      cases event with
      | receive =>
          obtain ⟨_, _, _, _, rfl⟩ := receive_eq_some stepped
          exact before
      | take =>
          obtain ⟨buf, rest, queue, _, rfl⟩ := take_eq_some stepped
          simpa [queue] using before
      | encodeFailed buf | encoded buf =>
          obtain ⟨_, rfl⟩ := provided_eq_some.mp stepped
          obtain ⟨readFreed, same⟩ := state.read_eq buf
          rw [same]
          exact before
      | connect | connected | connectFailed | disconnect | longDelay | sendQEmpty | written
      | writeFailed | reset | submit | notConnected buf | emptyBuffer buf =>
          obtain ⟨_, rfl⟩ := provided_eq_some.mp stepped
          exact before

theorem balanced_run {trace : List (State × Event)} {state : State}
    (run : client.Run .initial trace state) :
    Balanced state (trace.map fun taken => dropped taken.1 taken.2).sum := by
  have initial : Balanced .initial 0 := rfl
  exact run.accumulate initial balanced_step

theorem inOrder_run {trace : List (State × Event)} {state : State}
    (run : client.Run .initial trace state) : InOrder state := by
  have initial : InOrder .initial := rfl
  exact run.always initial inOrder_step

/-- No `CMD_SEND` finds `send_q` empty. -/
theorem sendQEmpty_never {trace : List (State × Event)} {state : State}
    (run : client.Run .initial trace state) : ∀ taken ∈ trace, taken.2 ≠ .tx .sendQEmpty := by
  induction run with
  | nil => simp
  | @snoc trace state next event run stepped ih =>
      intro taken inside
      rcases List.mem_append.mp inside with earlier | last
      · exact ih taken earlier
      · obtain rfl := List.mem_singleton.mp last
        rintro rfl
        obtain ⟨⟨received, empty⟩, _⟩ := provided_eq_some.mp stepped
        have balanced := balanced_run run
        rw [Balanced, received, empty] at balanced
        simp only [List.length_nil, TxTask.sends] at balanced
        omega

/-- `tx_task` waits for a command and no `em_tcp_client_send` is between its two sends. -/
def Quiet (state : State) : Prop := state.txTask = .waiting ∧ state.between = []

/-- Commands and buffers belong together: their numbers agree, buffers are taken in the order they
were submitted, and every `CMD_SEND` took one. -/
structure Paired (trace : List (State × Event)) (state : State) : Prop where
  counted : state.cmdQ.count .send = state.sendQ.length
  inOrder : state.taken ++ state.sendQ = state.submitted
  everyCommandTakes : ∀ taken ∈ trace, taken.2 ≠ .tx .sendQEmpty

/-- The step drops no `CMD_SEND`: `cmd_q` holds none when it is reset, and has room when a buffer
was accepted. -/
def KeepsCommands (state : State) : Event → Prop
  | .caller (.cmdQFull _) => False
  | .other (.reset _) => state.cmdQ.count .send = 0
  | .tx .reset => state.cmdQ.count .send = 0
  | _ => True

theorem dropped_eq_zero_iff (state : State) (event : Event) :
    dropped state event = 0 ↔ KeepsCommands state event := by
  cases event with
  | caller event => cases event <;> simp [dropped, KeepsCommands]
  | other event => cases event <;> simp [dropped, KeepsCommands]
  | tx event => cases event <;> simp [dropped, KeepsCommands]

instance (state : State) (event : Event) : Decidable (KeepsCommands state event) :=
  decidable_of_iff _ (dropped_eq_zero_iff state event)

/-- In a quiet state commands and buffers are paired exactly when no step so far has dropped a
`CMD_SEND`. -/
theorem paired_iff_keepsCommands {trace : List (State × Event)} {state : State}
    (run : client.Run .initial trace state) (quiet : Quiet state) :
    Paired trace state ↔ ∀ taken ∈ trace, KeepsCommands taken.1 taken.2 := by
  have balanced := balanced_run run
  obtain ⟨waiting, none_⟩ := quiet
  rw [Balanced, waiting, none_] at balanced
  simp only [TxTask.sends, List.length_nil] at balanced
  have lossless : (trace.map fun taken => dropped taken.1 taken.2).sum = 0 ↔
      ∀ taken ∈ trace, KeepsCommands taken.1 taken.2 := by
    rw [List.sum_eq_zero_iff_forall_eq_nat]
    simp only [List.mem_map, forall_exists_index, and_imp, forall_apply_eq_imp_iff₂,
      dropped_eq_zero_iff]
  rw [← lossless]
  constructor
  · intro paired
    have counted := paired.counted
    omega
  · intro zero
    exact ⟨by omega, inOrder_run run, sendQEmpty_never run⟩

/-- A buffer of three bytes, sent while the client is offline. -/
def offlineSend : List Event :=
  [.caller (.alloc 3), .caller (.sendQAccepts ⟨0, 3⟩), .caller (.cmdQAccepts ⟨0, 3⟩),
    .tx .receive, .tx .take, .tx (.notConnected ⟨0, 3⟩), .tx .reset, .tx .submit]

/-- The state `offlineSend` leads to. -/
def afterOfflineSend : State :=
  { State.initial with
    cmdQ := [.disconnect], allocated := 1, freed := [0], submitted := [⟨0, 3⟩], taken := [⟨0, 3⟩] }

theorem paired_iff_keepsCommands_offlineSend :
    Quiet afterOfflineSend ∧ Paired (client.tracing .initial offlineSend) afterOfflineSend := by
  have executed : client.exec .initial offlineSend = some afterOfflineSend := by decide
  have quiet : Quiet afterOfflineSend := ⟨rfl, rfl⟩
  refine ⟨quiet, (paired_iff_keepsCommands (Machine.run_of_exec executed) quiet).mpr ?_⟩
  decide

/-- A buffer and its command are queued when the receiver reports an error. -/
def errorBehindSend : List Event :=
  [.caller (.alloc 3), .caller (.sendQAccepts ⟨0, 3⟩), .caller (.cmdQAccepts ⟨0, 3⟩),
    .other (.reset .rxError), .other (.submit .rxError), .tx .receive, .tx .disconnect]

/-- The state `errorBehindSend` leads to: the buffer is left, and no command for it. -/
def afterErrorBehindSend : State :=
  { State.initial with sendQ := [⟨0, 3⟩], allocated := 1, submitted := [⟨0, 3⟩] }

theorem errorBehindSend_unpaired :
    ¬∀ trace state, client.Run .initial trace state → Quiet state → Paired trace state := by
  intro always
  have executed : client.exec .initial errorBehindSend = some afterErrorBehindSend := by decide
  have paired := always _ _ (Machine.run_of_exec executed) ⟨rfl, rfl⟩
  have counted := paired.counted
  revert counted
  decide

end EsInverter.TcpClient
