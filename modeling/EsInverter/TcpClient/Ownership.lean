import EsInverter.TcpClient.Pairing
import Mathlib.Data.List.Count
import Mathlib.Data.List.Nodup
import Mathlib.Data.List.Range

/-!
# Ownership of the message buffers

Every block handed out belongs to one place: a call that prepares it or is
about to free it, `send_q`, `tx_task`, or the blocks already freed.  Only a
`xQueueSend` on `cmd_q` that fails behind an accepted one gives a block two
owners.
-/

set_option autoImplicit false

namespace EsInverter.TcpClient

open Lib

/-- The buffer in the hands of `send_handler`. -/
def TxTask.held : TxTask → List Buffer
  | .holding buf => [buf]
  | _ => []

/-- The buffers that calls hold. -/
def State.inCalls (state : State) : List Buffer := state.preparing ++ state.refused

/-- The blocks with their owners, the freed ones among them. -/
def State.blocks (state : State) : List Nat :=
  (state.inCalls ++ state.sendQ ++ state.txTask.held).map Buffer.block ++ state.freed

structure Owned (state : State) : Prop where
  once : state.blocks.Perm (List.range state.allocated)
  readsLive : state.readFreed = []

/-- `cmd_q` takes the command of every buffer that `send_q` accepted. -/
def Commanded : Event → Prop
  | .caller (.cmdQFull _) => False
  | _ => True

instance (event : Event) : Decidable (Commanded event) := by
  unfold Commanded
  split <;> infer_instance

theorem count_blocks_erase {buf : Buffer} {bufs : List Buffer} (inside : buf ∈ bufs)
    (block : Nat) :
    (bufs.map Buffer.block).count block =
      ((bufs.erase buf).map Buffer.block).count block + [buf.block].count block := by
  have moved := (List.perm_cons_erase inside).map Buffer.block
  rw [moved.count_eq, List.map_cons, List.count_cons]
  simp [List.count_cons]

/-- A step that only moves blocks between owners. -/
theorem Owned.moved {state next : State} (owned : Owned state)
    (allocated : next.allocated = state.allocated) (reads : next.readFreed = state.readFreed)
    (counted : ∀ block, next.blocks.count block = state.blocks.count block) : Owned next where
  once := by
    rw [allocated]
    exact (List.perm_iff_count.mpr counted).trans owned.once
  readsLive := reads.trans owned.readsLive

/-- What `tx_task` holds has not been freed. -/
theorem Owned.held_live {state : State} {buf : Buffer} (owned : Owned state)
    (holding : state.txTask = .holding buf) : buf.block ∉ state.freed := by
  have distinct : state.blocks.Nodup := owned.once.nodup_iff.mpr List.nodup_range
  intro freed
  refine (List.nodup_append.mp distinct).2.2 buf.block ?_ buf.block freed rfl
  rw [holding]
  simp [TxTask.held]

theorem Owned.read_eq {state : State} {buf : Buffer} (owned : Owned state)
    (holding : state.txTask = .holding buf) : state.read buf = state :=
  if_neg (owned.held_live holding)

theorem owned_caller {state next : State} {event : CallerEvent} (owned : Owned state)
    (commanded : Commanded (.caller event)) (stepped : state.callerStep event = some next) :
    Owned next := by
  cases event with
  | alloc len =>
      cases stepped
      refine ⟨?_, owned.readsLive⟩
      have fresh : (state.allocated :: state.blocks).Perm (List.range (state.allocated + 1)) := by
        rw [List.range_succ]
        exact (owned.once.cons _).trans (List.perm_append_singleton _ _).symm
      exact fresh
  | emptyRefused buf | sendQFull buf =>
      obtain ⟨⟨inside, _⟩, rfl⟩ := provided_eq_some.mp stepped
      refine owned.moved rfl rfl fun block => ?_
      have counted := count_blocks_erase inside block
      simp only [State.blocks, State.inCalls, List.map_append, List.map_cons, List.count_append,
        List.count_cons, List.count_nil] at counted ⊢
      omega
  | sendQAccepts buf =>
      obtain ⟨⟨inside, _⟩, rfl⟩ := provided_eq_some.mp stepped
      refine owned.moved rfl rfl fun block => ?_
      have counted := count_blocks_erase inside block
      simp only [State.blocks, State.inCalls, List.map_append, List.map_cons, List.map_nil,
        List.count_append] at counted ⊢
      omega
  | cmdQAccepts buf =>
      obtain ⟨_, rfl⟩ := provided_eq_some.mp stepped
      exact owned.moved rfl rfl fun block => rfl
  | cmdQFull buf => exact commanded.elim
  | free buf =>
      obtain ⟨inside, rfl⟩ := provided_eq_some.mp stepped
      refine owned.moved rfl rfl fun block => ?_
      have counted := count_blocks_erase inside block
      simp only [State.blocks, State.inCalls, State.free, List.map_append, List.count_append]
        at counted ⊢
      omega

theorem owned_other {state next : State} {event : OtherEvent} (owned : Owned state)
    (stepped : state.otherStep event = some next) : Owned next := by
  cases event with
  | longDelayAccepted | longDelayDropped | lossNoticed | reset submitter | submit submitter =>
      obtain ⟨_, rfl⟩ := provided_eq_some.mp stepped
      exact owned.moved rfl rfl fun block => rfl

/-- `send_handler` frees what it holds. -/
theorem Owned.handed_free {state : State} {buf : Buffer} {task : TxTask} (owned : Owned state)
    (holding : state.txTask = .holding buf) (empty : task.held = []) :
    Owned (State.free { state with txTask := task } buf) := by
  have held : state.txTask.held = [buf] := by rw [holding]; rfl
  refine owned.moved rfl rfl fun block => ?_
  simp only [State.blocks, State.inCalls, State.free, held, empty, List.map_append, List.map_cons,
    List.map_nil, List.count_append, List.count_nil]
  omega

theorem owned_tx {state next : State} {event : TxEvent} (owned : Owned state)
    (stepped : state.txStep event = some next) : Owned next := by
  cases event with
  | receive =>
      obtain ⟨cmd, rest, queue, waiting, rfl⟩ := receive_eq_some stepped
      refine owned.moved rfl rfl fun block => ?_
      simp only [State.blocks, State.inCalls, waiting, TxTask.held]
  | take =>
      obtain ⟨buf, rest, queue, received, rfl⟩ := take_eq_some stepped
      refine owned.moved rfl rfl fun block => ?_
      simp only [State.blocks, State.inCalls, queue, received, TxTask.held, List.map_append,
        List.map_cons, List.map_nil, List.count_append, List.count_cons, List.count_nil]
      omega
  | sendQEmpty | submit =>
      obtain ⟨⟨task, _⟩, rfl⟩ := provided_eq_some.mp stepped
      refine owned.moved rfl rfl fun block => ?_
      simp only [State.blocks, State.inCalls, task, TxTask.held]
  | connect | connected | connectFailed | disconnect | longDelay | written | writeFailed | reset =>
      obtain ⟨task, rfl⟩ := provided_eq_some.mp stepped
      refine owned.moved rfl rfl fun block => ?_
      simp only [State.blocks, State.inCalls, task, TxTask.held]
  | notConnected buf | emptyBuffer buf =>
      obtain ⟨⟨holding, _⟩, rfl⟩ := provided_eq_some.mp stepped
      exact owned.handed_free holding rfl
  | encodeFailed buf | encoded buf =>
      obtain ⟨⟨holding, _⟩, rfl⟩ := provided_eq_some.mp stepped
      rw [owned.read_eq holding]
      exact owned.handed_free holding rfl

theorem owned_step {state next : State} {event : Event} (commanded : Commanded event)
    (owned : Owned state) (stepped : client.step state event = some next) : Owned next := by
  cases event with
  | caller event => exact owned_caller owned commanded stepped
  | other event => exact owned_other owned stepped
  | tx event => exact owned_tx owned stepped

theorem owned_initial : Owned .initial := ⟨.nil, rfl⟩

/-- No block is freed twice or read when freed, and when both queues are empty and `tx_task` is
idle every block has been freed or is still in the hands of a call. -/
structure FreedOnce (state : State) : Prop where
  noDoubleFree : state.freed.Nodup
  noReadFreed : state.readFreed = []
  noLeak : state.cmdQ = [] → state.sendQ = [] → state.txTask = .waiting →
    ∀ block < state.allocated, block ∈ state.freed ∨ block ∈ state.inCalls.map Buffer.block

theorem Owned.freedOnce {state : State} (owned : Owned state) : FreedOnce state where
  noDoubleFree :=
    (List.nodup_append.mp (owned.once.nodup_iff.mpr List.nodup_range)).2.1
  noReadFreed := owned.readsLive
  noLeak := by
    intro _ emptySendQ waiting block given
    have inside : block ∈ state.blocks := owned.once.mem_iff.mpr (List.mem_range.mpr given)
    rw [State.blocks, emptySendQ, waiting] at inside
    simpa [TxTask.held, or_comm] using inside

/-- Buffers are freed exactly once in every run in which `cmd_q` takes the command of every
accepted buffer. -/
theorem freedOnce_of_commanded {trace : List (State × Event)} {state : State}
    (run : client.Run .initial trace state) (commanded : ∀ taken ∈ trace, Commanded taken.2) :
    FreedOnce state :=
  (run.invariant owned_initial owned_step commanded).freedOnce

/-- A call that both queues accept. -/
def acceptedSend (buf : Buffer) : List Event :=
  [.caller (.alloc buf.len), .caller (.sendQAccepts buf), .caller (.cmdQAccepts buf)]

/-- `tx_task` drops a buffer, since the client is offline. -/
def offlineDrop (buf : Buffer) : List Event :=
  [.tx .receive, .tx .take, .tx (.notConnected buf), .tx .reset, .tx .submit]

/-- The state that one dropped buffer leaves. -/
def afterOfflineDrop : State :=
  { State.initial with
    cmdQ := [.disconnect], allocated := 1, freed := [0], submitted := [⟨0, 3⟩],
    taken := [⟨0, 3⟩] }

theorem freedOnce_of_commanded_offlineDrop : FreedOnce afterOfflineDrop := by
  have executed : client.exec .initial (acceptedSend ⟨0, 3⟩ ++ offlineDrop ⟨0, 3⟩) =
      some afterOfflineDrop := by decide
  refine freedOnce_of_commanded (Machine.run_of_exec executed) ?_
  decide

def message (block : Nat) : Buffer := ⟨block, 3⟩

/-- The eighth call behind a disconnection finds `cmd_q` full and frees what `send_q` keeps; eight
buffers later `tx_task` takes it and frees it again. -/
def fullCmdQ : List Event :=
  acceptedSend (message 0) ++ offlineDrop (message 0) ++
    [1, 2, 3, 4, 5, 6, 7].flatMap (fun block => acceptedSend (message block)) ++
    [.caller (.alloc 3), .caller (.sendQAccepts (message 8)), .caller (.cmdQFull (message 8)),
      .caller (.free (message 8)), .tx .receive, .tx .disconnect] ++
    offlineDrop (message 1) ++
    [2, 3, 4, 5, 6, 7, 8].flatMap fun block =>
      [.tx .receive, .tx .disconnect] ++ acceptedSend (message (block + 7)) ++
        offlineDrop (message block)

def afterFullCmdQ : State :=
  { State.initial with
    cmdQ := [.disconnect], sendQ := [9, 10, 11, 12, 13, 14, 15].map message, allocated := 16,
    freed := [0, 8, 1, 2, 3, 4, 5, 6, 7, 8], submitted := (List.range 16).map message,
    taken := (List.range 9).map message }

theorem fullCmdQ_freed_twice :
    ¬∀ trace state, client.Run .initial trace state → FreedOnce state := by
  intro always
  have executed : client.exec .initial fullCmdQ = some afterFullCmdQ := by decide
  have distinct := (always _ _ (Machine.run_of_exec executed)).noDoubleFree
  revert distinct
  decide

end EsInverter.TcpClient
