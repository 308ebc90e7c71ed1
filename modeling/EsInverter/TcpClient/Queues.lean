import EsInverter.Lib.Transition

/-!
# The queues of the TCP client

`em_tcp_client_send` fills two queues in two steps, `tx_task` drains them, and
`submit_tcp_client_connect` and `submit_tcp_client_disconnect` reset one of them
from other tasks.  Each step below is one call of a FreeRTOS queue function or
the code of one task between two such calls, so that a run is an interleaving.
The encoder is registered as in `main.c`: the bytes written are its own.
-/

set_option autoImplicit false

namespace EsInverter.TcpClient

open Lib

/-- `CONFIG_EM_TCP_CMD_MSG_Q_MAX` -/
def cmdMsgQMax : Nat := 8

/-- `CONFIG_EM_TCP_TX_SEND_MSG_Q_MAX` -/
def sendMsgQMax : Nat := 8

inductive Cmd
  | connect
  | disconnect
  | send
  | longReconnectionDelay
  deriving DecidableEq, Repr

inductive ConnectionState
  | disconnected
  | connecting
  | connected
  deriving DecidableEq, Repr

/-- A `buffer_t`: the heap block that `data` points to, and `len`. -/
structure Buffer where
  block : Nat
  len : Nat
  deriving DecidableEq, Repr

inductive TxTask
  | waiting
  | received (cmd : Cmd)
  | opening
  | holding (buf : Buffer)
  | writing
  | failing
  | resubmitting
  deriving DecidableEq, Repr

/-- The other tasks that submit a command behind a reset. -/
inductive Submitter
  | rxError
  | wifiLoss
  | connectTimer
  deriving DecidableEq, Repr

def Submitter.cmd : Submitter → Cmd
  | rxError => .disconnect
  | wifiLoss => .disconnect
  | connectTimer => .connect

structure State where
  cmdQ : List Cmd
  sendQ : List Buffer
  connState : ConnectionState
  txTask : TxTask
  /-- Submitters between `xQueueReset` and `xQueueSend`. -/
  submitting : List Submitter
  /-- `wifi_disconnected_handler` has found a connection and not reset `cmd_q` yet. -/
  lossNoticed : Bool
  /-- Heap blocks handed out so far. -/
  allocated : Nat
  /-- Buffers of calls that have not reached the first `xQueueSend`. -/
  preparing : List Buffer
  /-- Buffers of calls between the two `xQueueSend`. -/
  between : List Buffer
  /-- Buffers of calls whose `send_data` is about to free them. -/
  refused : List Buffer
  freed : List Nat
  /-- Blocks that were read when already freed. -/
  readFreed : List Nat
  /-- Buffers in the order `send_q` accepted them. -/
  submitted : List Buffer
  /-- Buffers in the order `send_handler` took them. -/
  taken : List Buffer
  deriving DecidableEq, Repr

def State.initial : State :=
  { cmdQ := [], sendQ := [], connState := .disconnected, txTask := .waiting, submitting := [],
    lossNoticed := false, allocated := 0, preparing := [], between := [], refused := [],
    freed := [], readFreed := [], submitted := [], taken := [] }

/-- The steps of a `protocol_send_*` call. -/
inductive CallerEvent
  /-- `buffer_dynamic_alloc` and the serializer. -/
  | alloc (len : Nat)
  /-- `em_tcp_client_send` returns `ESP_ERR_INVALID_SIZE`. -/
  | emptyRefused (buf : Buffer)
  | sendQAccepts (buf : Buffer)
  | sendQFull (buf : Buffer)
  | cmdQAccepts (buf : Buffer)
  | cmdQFull (buf : Buffer)
  /-- `em_buffer_free` in `send_data`. -/
  | free (buf : Buffer)
  deriving DecidableEq, Repr

inductive OtherEvent
  | longDelayAccepted
  | longDelayDropped
  /-- `get_conn_state` of `wifi_disconnected_handler` finds a connection. -/
  | lossNoticed
  /-- `xQueueReset` of a submitter. -/
  | reset (submitter : Submitter)
  /-- Its `xQueueSend`; the following assertion stops the device when the queue is full. -/
  | submit (submitter : Submitter)
  deriving DecidableEq, Repr

inductive TxEvent
  | receive
  | connect
  | connected
  | connectFailed
  | disconnect
  | longDelay
  | sendQEmpty
  | take
  | notConnected (buf : Buffer)
  | emptyBuffer (buf : Buffer)
  | encodeFailed (buf : Buffer)
  | encoded (buf : Buffer)
  | written
  | writeFailed
  | reset
  | submit
  deriving DecidableEq, Repr

inductive Event
  | caller (event : CallerEvent)
  | other (event : OtherEvent)
  | tx (event : TxEvent)
  deriving DecidableEq, Repr

namespace State

def free (state : State) (buf : Buffer) : State :=
  { state with freed := state.freed ++ [buf.block] }

/-- The encoder reads the block. -/
def read (state : State) (buf : Buffer) : State :=
  if buf.block ∈ state.freed then { state with readFreed := state.readFreed ++ [buf.block] }
  else state

def callerStep (state : State) : CallerEvent → Option State
  | .alloc len =>
      some { state with
        allocated := state.allocated + 1
        preparing := ⟨state.allocated, len⟩ :: state.preparing }
  | .emptyRefused buf =>
      provided (buf ∈ state.preparing ∧ buf.len = 0) { state with
        preparing := state.preparing.erase buf
        refused := buf :: state.refused }
  | .sendQAccepts buf =>
      provided (buf ∈ state.preparing ∧ buf.len ≠ 0 ∧ state.sendQ.length < sendMsgQMax) { state with
        preparing := state.preparing.erase buf
        sendQ := state.sendQ ++ [buf]
        submitted := state.submitted ++ [buf]
        between := buf :: state.between }
  | .sendQFull buf =>
      provided (buf ∈ state.preparing ∧ buf.len ≠ 0 ∧ state.sendQ.length = sendMsgQMax) { state with
        preparing := state.preparing.erase buf
        refused := buf :: state.refused }
  | .cmdQAccepts buf =>
      provided (buf ∈ state.between ∧ state.cmdQ.length < cmdMsgQMax) { state with
        between := state.between.erase buf
        cmdQ := state.cmdQ ++ [.send] }
  | .cmdQFull buf =>
      provided (buf ∈ state.between ∧ state.cmdQ.length = cmdMsgQMax) { state with
        between := state.between.erase buf
        refused := buf :: state.refused }
  | .free buf =>
      provided (buf ∈ state.refused)
        (State.free { state with refused := state.refused.erase buf } buf)

def otherStep (state : State) : OtherEvent → Option State
  | .longDelayAccepted =>
      provided (state.cmdQ.length < cmdMsgQMax)
        { state with cmdQ := state.cmdQ ++ [.longReconnectionDelay] }
  | .longDelayDropped => provided (state.cmdQ.length = cmdMsgQMax) state
  | .lossNoticed =>
      provided (state.lossNoticed = false ∧ .wifiLoss ∉ state.submitting ∧
          state.connState ≠ .disconnected)
        { state with lossNoticed := true }
  | .reset submitter =>
      provided (submitter ∉ state.submitting ∧
          (submitter = .wifiLoss → state.lossNoticed = true)) { state with
        cmdQ := []
        submitting := submitter :: state.submitting
        lossNoticed := state.lossNoticed && submitter != .wifiLoss }
  | .submit submitter =>
      provided (submitter ∈ state.submitting ∧ state.cmdQ.length < cmdMsgQMax) { state with
        cmdQ := state.cmdQ ++ [submitter.cmd]
        submitting := state.submitting.erase submitter }

def txStep (state : State) : TxEvent → Option State
  | .receive =>
      match state.cmdQ with
      | [] => none
      | cmd :: rest =>
          provided (state.txTask = .waiting) { state with cmdQ := rest, txTask := .received cmd }
  | .connect =>
      provided (state.txTask = .received .connect)
        { state with connState := .connecting, txTask := .opening }
  | .connected =>
      provided (state.txTask = .opening)
        { state with connState := .connected, txTask := .waiting }
  | .connectFailed => provided (state.txTask = .opening) { state with txTask := .failing }
  | .disconnect =>
      provided (state.txTask = .received .disconnect)
        { state with connState := .disconnected, txTask := .waiting }
  | .longDelay =>
      provided (state.txTask = .received .longReconnectionDelay) { state with txTask := .waiting }
  | .sendQEmpty =>
      provided (state.txTask = .received .send ∧ state.sendQ = []) { state with txTask := .waiting }
  | .take =>
      match state.sendQ with
      | [] => none
      | buf :: rest =>
          provided (state.txTask = .received .send) { state with
            sendQ := rest
            txTask := .holding buf
            taken := state.taken ++ [buf] }
  | .notConnected buf =>
      provided (state.txTask = .holding buf ∧ state.connState ≠ .connected)
        (State.free { state with txTask := .failing } buf)
  | .emptyBuffer buf =>
      provided (state.txTask = .holding buf ∧ state.connState = .connected ∧ buf.len = 0)
        (State.free { state with txTask := .waiting } buf)
  | .encodeFailed buf =>
      provided (state.txTask = .holding buf ∧ state.connState = .connected ∧ buf.len ≠ 0)
        (State.free { (state.read buf) with txTask := .waiting } buf)
  | .encoded buf =>
      provided (state.txTask = .holding buf ∧ state.connState = .connected ∧ buf.len ≠ 0)
        (State.free { (state.read buf) with txTask := .writing } buf)
  | .written => provided (state.txTask = .writing) { state with txTask := .waiting }
  | .writeFailed => provided (state.txTask = .writing) { state with txTask := .failing }
  | .reset =>
      provided (state.txTask = .failing) { state with cmdQ := [], txTask := .resubmitting }
  | .submit =>
      provided (state.txTask = .resubmitting ∧ state.cmdQ.length < cmdMsgQMax)
        { state with cmdQ := state.cmdQ ++ [.disconnect], txTask := .waiting }

def step (state : State) : Event → Option State
  | .caller event => state.callerStep event
  | .other event => state.otherStep event
  | .tx event => state.txStep event

end State

def client : Machine State Event := ⟨State.step⟩

end EsInverter.TcpClient
