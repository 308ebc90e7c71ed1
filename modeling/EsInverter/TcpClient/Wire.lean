import EsInverter.Lib.Heap
import EsInverter.Slip.Scan
import EsInverter.TcpClient.Ownership

/-!
# The bytes that `tx_task` writes

The steps of the queues with what the buffers hold, what the encoder makes of
it, and what the transport takes.  `esp_transport_write` may take any part of
what is left, so that one buffer goes out in as many writes as the transport
likes, or not to its end.
-/

set_option autoImplicit false

namespace EsInverter.TcpClient

open Lib

structure Line where
  state : State
  /-- What the live blocks hold. -/
  memory : Heap Nat (List UInt8)
  /-- `data_out` from `widx` on. -/
  dataOut : List UInt8
  /-- What the transport took on each connection, the latest first. -/
  wires : List (List UInt8)

inductive LineEvent
  /-- `buffer_dynamic_alloc` and the serializer, which fills the buffer. -/
  | alloc (message : List UInt8)
  /-- `tx_net_proto_cb` on what it reads in the buffer. -/
  | encode (buf : Buffer) (data : List UInt8)
  /-- `esp_transport_write` takes some bytes. -/
  | write (count : Nat)
  | step (event : Event)
  deriving DecidableEq, Repr

/-- The buffer that a step frees. -/
def Event.frees : Event → Option Buffer
  | .caller (.free buf) => some buf
  | .tx (.notConnected buf) => some buf
  | .tx (.emptyBuffer buf) => some buf
  | .tx (.encodeFailed buf) => some buf
  | .tx (.encoded buf) => some buf
  | _ => none

namespace Line

def initial : Line := ⟨.initial, .empty, [], []⟩

/-- The memory behind a step that frees. -/
def released (line : Line) (event : Event) : Heap Nat (List UInt8) :=
  match event.frees with
  | none => line.memory
  | some buf => line.memory.without buf.block

/-- The steps of the queues that are no step of their own here, and the loop of `send_handler`,
which ends when nothing is left and fails only before. -/
def Allows (line : Line) : Event → Prop
  | .caller (.alloc _) => False
  | .tx (.encoded _) => False
  | .tx (.encodeFailed _) => False
  | .tx .written => line.dataOut = []
  | .tx .writeFailed => line.dataOut ≠ []
  | _ => True

instance (line : Line) (event : Event) : Decidable (line.Allows event) := by
  unfold Allows
  split <;> infer_instance

/-- A transport is opened. -/
def opened (line : Line) : Event → List (List UInt8)
  | .tx .connected => [] :: line.wires
  | _ => line.wires

def step (line : Line) : LineEvent → Option Line
  | .alloc message =>
      (line.state.step (.caller (.alloc message.length))).map fun state =>
        { line with state, memory := line.memory.store line.state.allocated message }
  | .encode buf data =>
      -- A freed block may hold anything.
      if data.length = buf.len ∧ (line.memory.block buf.block).getD data = data ∧
          data.length ≤ Slip.encodedDataBufSize then
        match Slip.slipEncode Slip.encodedDataBufSize data with
        | .ok dataOut =>
            (line.state.step (.tx (.encoded buf))).map fun state =>
              { line with state, dataOut, memory := line.released (.tx (.encoded buf)) }
        | .error _ =>
            (line.state.step (.tx (.encodeFailed buf))).map fun state =>
              { line with state, memory := line.released (.tx (.encodeFailed buf)) }
      else none
  | .write count =>
      provided (line.state.txTask = .writing ∧ 0 < count ∧ count ≤ line.dataOut.length) { line with
        dataOut := line.dataOut.drop count
        wires := line.wires.modifyHead (· ++ line.dataOut.take count) }
  | .step event =>
      if line.Allows event then
        (line.state.step event).map fun state =>
          { line with state, memory := line.released event, wires := line.opened event }
      else none

end Line

def line : Machine Line LineEvent := ⟨Line.step⟩

/-! ### The steps and those of the queues -/

/-- The step of the queues that a step is. -/
def LineEvent.event : LineEvent → Option Event
  | .alloc message => some (.caller (.alloc message.length))
  | .encode buf data =>
      match Slip.slipEncode Slip.encodedDataBufSize data with
      | .ok _ => some (.tx (.encoded buf))
      | .error _ => some (.tx (.encodeFailed buf))
  | .write _ => none
  | .step event => some event

/-- What one step does. -/
inductive Line.Moves (line : Line) : LineEvent → Line → Prop
  | alloc {message : List UInt8} {state : State}
      (stepped : client.step line.state (.caller (.alloc message.length)) = some state) :
      Moves line (.alloc message)
        { line with state, memory := line.memory.store line.state.allocated message }
  | encoded {buf : Buffer} {data : List UInt8} {state : State}
      (given : (line.memory.block buf.block).getD data = data)
      (fits : Slip.slipEncode Slip.encodedDataBufSize data = .ok (Slip.frame data))
      (stepped : client.step line.state (.tx (.encoded buf)) = some state) :
      Moves line (.encode buf data)
        { line with state, dataOut := Slip.frame data, memory := line.memory.without buf.block }
  | encodeFailed {buf : Buffer} {data : List UInt8} {err : EspErr} {state : State}
      (fails : Slip.slipEncode Slip.encodedDataBufSize data = .error err)
      (stepped : client.step line.state (.tx (.encodeFailed buf)) = some state) :
      Moves line (.encode buf data)
        { line with state, memory := line.memory.without buf.block }
  | write {count : Nat} (writing : line.state.txTask = .writing) (some_ : 0 < count)
      (within : count ≤ line.dataOut.length) :
      Moves line (.write count) { line with
        dataOut := line.dataOut.drop count
        wires := line.wires.modifyHead (· ++ line.dataOut.take count) }
  | step {event : Event} {state : State} (allowed : line.Allows event)
      (stepped : client.step line.state event = some state) :
      Moves line (.step event)
        { line with state, memory := line.released event, wires := line.opened event }

theorem moves_of_step {before next : Line} {event : LineEvent}
    (stepped : line.step before event = some next) : before.Moves event next := by
  cases event with
  | alloc message =>
      simp only [line, Line.step, Option.map_eq_some_iff] at stepped
      obtain ⟨state, taken, rfl⟩ := stepped
      exact .alloc taken
  | encode buf data =>
      simp only [line, Line.step] at stepped
      split at stepped
      case isFalse => cases stepped
      case isTrue given =>
        cases encoding : Slip.slipEncode Slip.encodedDataBufSize data with
        | ok dataOut =>
            rw [encoding] at stepped
            obtain ⟨state, taken, rfl⟩ := Option.map_eq_some_iff.mp stepped
            obtain rfl := (Slip.slipEncode_ok encoding).2
            exact .encoded given.2.1 encoding taken
        | error err =>
            rw [encoding] at stepped
            obtain ⟨state, taken, rfl⟩ := Option.map_eq_some_iff.mp stepped
            exact .encodeFailed encoding taken
  | write count =>
      obtain ⟨⟨writing, some_, within⟩, rfl⟩ := provided_eq_some.mp stepped
      exact .write writing some_ within
  | step event =>
      simp only [line, Line.step] at stepped
      split at stepped
      case isFalse => cases stepped
      case isTrue allowed =>
        obtain ⟨state, taken, rfl⟩ := Option.map_eq_some_iff.mp stepped
        exact .step allowed taken

/-- A step of the line is a step of the queues, or leaves them alone. -/
theorem Line.Moves.queues {before next : Line} {event : LineEvent}
    (moves : before.Moves event next) :
    match event.event with
    | none => next.state = before.state
    | some event => client.step before.state event = some next.state := by
  cases moves with
  | alloc stepped => exact stepped
  | encoded given fits stepped =>
      rw [LineEvent.event, fits]
      exact stepped
  | encodeFailed fails stepped =>
      rw [LineEvent.event, fails]
      exact stepped
  | write => rfl
  | step allowed stepped => exact stepped

/-! ### What the blocks hold -/

/-- The message that a step puts into a fresh block. -/
def LineEvent.message : LineEvent → Option (List UInt8)
  | .alloc message => some message
  | _ => none

/-- A block holds the message it was allocated for until it is freed. -/
structure Stored (messages : List (List UInt8)) (line : Line) : Prop where
  allocated : messages.length = line.state.allocated
  held (block : Nat) : line.memory.block block =
    if block ∈ line.state.freed then none else messages[block]?

/-- The blocks that a step frees. -/
def Event.freed (event : Event) : List Nat := event.frees.toList.map Buffer.block

theorem step_freed {state next : State} {event : Event}
    (stepped : client.step state event = some next) :
    next.freed = state.freed ++ event.freed := by
  cases event with
  | caller event =>
      cases event with
      | alloc len =>
          cases stepped
          exact (List.append_nil _).symm
      | free buf =>
          obtain ⟨_, rfl⟩ := provided_eq_some.mp stepped
          rfl
      | emptyRefused buf | sendQAccepts buf | sendQFull buf | cmdQAccepts buf | cmdQFull buf =>
          obtain ⟨_, rfl⟩ := provided_eq_some.mp stepped
          exact (List.append_nil _).symm
  | other event =>
      cases event with
      | longDelayAccepted | longDelayDropped | lossNoticed | reset submitter | submit submitter =>
          obtain ⟨_, rfl⟩ := provided_eq_some.mp stepped
          exact (List.append_nil _).symm
  | tx event =>
      cases event with
      | receive =>
          obtain ⟨_, _, _, _, rfl⟩ := receive_eq_some stepped
          exact (List.append_nil _).symm
      | take =>
          obtain ⟨_, _, _, _, rfl⟩ := take_eq_some stepped
          exact (List.append_nil _).symm
      | notConnected buf | emptyBuffer buf =>
          obtain ⟨_, rfl⟩ := provided_eq_some.mp stepped
          rfl
      | encodeFailed buf | encoded buf =>
          obtain ⟨_, rfl⟩ := provided_eq_some.mp stepped
          obtain ⟨readFreed, same⟩ := state.read_eq buf
          rw [same]
          rfl
      | connect | connected | connectFailed | disconnect | longDelay | sendQEmpty | written
      | writeFailed | reset | submit =>
          obtain ⟨_, rfl⟩ := provided_eq_some.mp stepped
          exact (List.append_nil _).symm

/-- What only the callers change. -/
structure State.Untouched (state next : State) : Prop where
  allocated : next.allocated = state.allocated
  preparing : next.preparing = state.preparing
  submitted : next.submitted = state.submitted

theorem otherStep_untouched {state next : State} {event : OtherEvent}
    (stepped : state.otherStep event = some next) : state.Untouched next := by
  cases event with
  | longDelayAccepted | longDelayDropped | lossNoticed | reset submitter | submit submitter =>
      obtain ⟨_, rfl⟩ := provided_eq_some.mp stepped
      exact ⟨rfl, rfl, rfl⟩

theorem txStep_untouched {state next : State} {event : TxEvent}
    (stepped : state.txStep event = some next) : state.Untouched next := by
  cases event with
  | receive =>
      obtain ⟨_, _, _, _, rfl⟩ := receive_eq_some stepped
      exact ⟨rfl, rfl, rfl⟩
  | take =>
      obtain ⟨_, _, _, _, rfl⟩ := take_eq_some stepped
      exact ⟨rfl, rfl, rfl⟩
  | encodeFailed buf | encoded buf =>
      obtain ⟨_, rfl⟩ := provided_eq_some.mp stepped
      obtain ⟨readFreed, same⟩ := state.read_eq buf
      rw [same]
      exact ⟨rfl, rfl, rfl⟩
  | connect | connected | connectFailed | disconnect | longDelay | sendQEmpty | written
  | writeFailed | reset | submit | notConnected buf | emptyBuffer buf =>
      obtain ⟨_, rfl⟩ := provided_eq_some.mp stepped
      exact ⟨rfl, rfl, rfl⟩

theorem step_allocated {state next : State} {event : Event}
    (stepped : client.step state event = some next)
    (notAlloc : ∀ len, event ≠ .caller (.alloc len)) : next.allocated = state.allocated := by
  cases event with
  | caller event =>
      cases event with
      | alloc len => exact absurd rfl (notAlloc len)
      | emptyRefused buf | sendQAccepts buf | sendQFull buf | cmdQAccepts buf | cmdQFull buf
      | free buf =>
          obtain ⟨_, rfl⟩ := provided_eq_some.mp stepped
          rfl
  | other event => exact (otherStep_untouched stepped).allocated
  | tx event => exact (txStep_untouched stepped).allocated

theorem block_released (line : Line) (event : Event) (block : Nat) :
    (line.released event).block block =
      if block ∈ event.freed then none else line.memory.block block := by
  cases frees : event.frees with
  | none => rw [Line.released, Event.freed, frees]; rfl
  | some buf =>
      simp only [Line.released, Event.freed, frees, Option.toList_some, List.map_cons,
        List.map_nil, List.mem_singleton]
      split
      case isTrue same => rw [same, Heap.block_without]
      case isFalse apart => exact Heap.block_without_of_ne apart

/-- A step that allocates nothing. -/
theorem Stored.released {messages : List (List UInt8)} {before next : Line} {event : Event}
    (stored : Stored messages before) (notAlloc : ∀ len, event ≠ .caller (.alloc len))
    (stepped : client.step before.state event = some next.state)
    (memory : next.memory = before.released event) : Stored messages next where
  allocated := stored.allocated.trans (step_allocated stepped notAlloc).symm
  held block := by
    rw [memory, block_released, stored.held, step_freed stepped]
    by_cases now : block ∈ event.freed <;> simp [now]

theorem Owned.freed_lt {state : State} (owned : Owned state) {block : Nat}
    (freed : block ∈ state.freed) : block < state.allocated := by
  have inside : block ∈ state.blocks := List.mem_append_right _ freed
  exact List.mem_range.mp (owned.once.mem_iff.mp inside)

/-- What `tx_task` is about to read is what was allocated. -/
theorem Stored.read_eq {messages : List (List UInt8)} {line : Line} {buf : Buffer}
    {data : List UInt8} (stored : Stored messages line) (owned : Owned line.state)
    (holding : line.state.txTask = .holding buf)
    (given : (line.memory.block buf.block).getD data = data) :
    messages[buf.block]? = some data := by
  have inside : buf.block ∈ line.state.blocks := by
    simp [State.blocks, holding, TxTask.held]
  have fresh : buf.block < messages.length := by
    rw [stored.allocated]
    exact List.mem_range.mp (owned.once.mem_iff.mp inside)
  rw [stored.held, if_neg (owned.held_live holding), List.getElem?_eq_getElem fresh] at given
  rw [List.getElem?_eq_getElem fresh]
  exact congrArg some given

theorem Stored.moves {messages : List (List UInt8)} {before next : Line} {event : LineEvent}
    (stored : Stored messages before) (owned : Owned before.state)
    (moves : before.Moves event next) : Stored (messages ++ event.message.toList) next := by
  cases moves with
  | @alloc message state stepped =>
      cases stepped
      refine ⟨by simp [LineEvent.message, stored.allocated], fun block => ?_⟩
      by_cases fresh : block = before.state.allocated
      · rw [fresh, Heap.block_store, if_neg, LineEvent.message, ← stored.allocated]
        · simp
        · intro freed
          exact absurd (owned.freed_lt freed) (Nat.lt_irrefl _)
      · rw [Heap.block_store_of_ne fresh, stored.held]
        congr 1
        rcases Nat.lt_or_gt_of_ne fresh with earlier | later
        · rw [List.getElem?_append_left (by rw [stored.allocated]; exact earlier)]
        · rw [List.getElem?_eq_none (by rw [stored.allocated]; omega),
            List.getElem?_eq_none (by simp [LineEvent.message, stored.allocated]; omega)]
  | encoded given fits stepped =>
      simp only [LineEvent.message, Option.toList_none, List.append_nil]
      exact stored.released (fun _ same => by cases same) stepped rfl
  | encodeFailed fails stepped =>
      simp only [LineEvent.message, Option.toList_none, List.append_nil]
      exact stored.released (fun _ same => by cases same) stepped rfl
  | write =>
      simp only [LineEvent.message, Option.toList_none, List.append_nil]
      exact ⟨stored.allocated, stored.held⟩
  | step allowed stepped =>
      simp only [LineEvent.message, Option.toList_none, List.append_nil]
      refine stored.released ?_ stepped rfl
      rintro len rfl
      exact allowed

theorem stored_initial : Stored [] .initial := ⟨rfl, fun _ => rfl⟩

end EsInverter.TcpClient
