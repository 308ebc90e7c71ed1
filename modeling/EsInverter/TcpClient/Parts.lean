import EsInverter.TcpClient.Wire

/-!
# The frames on the wire

Behind every byte that the transport took there is a message: what went out on
a connection is cut into parts, one for each buffer that reached the encoder,
and a part is the frame of its message up to where the transport stopped.
-/

set_option autoImplicit false

namespace EsInverter.TcpClient

open Lib

/-- What became of the frame of one buffer. -/
structure Part where
  buf : Buffer
  sent : List UInt8
  rest : List UInt8
  deriving DecidableEq, Repr

namespace Part

/-- The frame did not go out to its end. -/
def torn (part : Part) : Bool := !part.rest.isEmpty

/-- The part is cut from the frame of the message that its buffer was allocated for. -/
def Frames (messages : List (List UInt8)) (part : Part) : Prop :=
  ∃ message, messages[part.buf.block]? = some message ∧
    part.sent ++ part.rest = Slip.frame message

def wrote (part : Part) (count : Nat) : Part :=
  { part with sent := part.sent ++ part.rest.take count, rest := part.rest.drop count }

theorem Frames.append {messages later : List (List UInt8)} {part : Part}
    (frames : part.Frames messages) : part.Frames (messages ++ later) := by
  obtain ⟨message, given, framed⟩ := frames
  have inside := (List.getElem?_eq_some_iff.mp given).1
  exact ⟨message, by rw [List.getElem?_append_left inside, given], framed⟩

theorem Frames.wrote {messages : List (List UInt8)} {part : Part} (frames : part.Frames messages)
    (count : Nat) : (part.wrote count).Frames messages := by
  obtain ⟨message, given, framed⟩ := frames
  refine ⟨message, given, ?_⟩
  rw [Part.wrote, List.append_assoc, List.take_append_drop]
  exact framed

end Part

/-- The bytes of a connection, from its parts with the latest first. -/
def sentOf (parts : List Part) : List UInt8 := parts.reverse.flatMap Part.sent

theorem sentOf_cons (part : Part) (earlier : List Part) :
    sentOf (part :: earlier) = sentOf earlier ++ part.sent := by
  simp [sentOf]

/-- One for a frame that `send_handler` is in the middle of. -/
def Line.pending (line : Line) : Nat :=
  if line.state.txTask = .writing ∧ line.dataOut ≠ [] then 1 else 0

theorem pending_of_ne {line : Line} (idle : line.state.txTask ≠ .writing) : line.pending = 0 :=
  if_neg fun both => idle both.1

theorem pending_eq {line : Line} {part : Part} (writing : line.state.txTask = .writing)
    (rest : part.rest = line.dataOut) : line.pending = if part.torn then 1 else 0 := by
  cases left : line.dataOut with
  | nil => simp [Line.pending, Part.torn, writing, rest, left]
  | cons => simp [Line.pending, Part.torn, writing, rest, left]

/-- The parts of every connection, the latest first, with `failed` writes that failed and `dropped`
buffers that no frame was made of. -/
structure Journal (messages : List (List UInt8)) (failed dropped : Nat) (line : Line)
    (parts : List (List Part)) : Prop where
  wires : line.wires = parts.map sentOf
  framed : ∀ part ∈ parts.flatten, part.Frames messages
  order : List.Sublist ((parts.flatten.map Part.buf).reverse ++ line.state.txTask.held)
    line.state.taken
  counted : line.state.taken.length =
    parts.flatten.length + line.state.txTask.held.length + dropped
  torn : parts.flatten.countP Part.torn = failed + line.pending
  connected : line.state.connState = .connected → parts ≠ []
  writing : line.state.txTask = .writing →
    ∃ part earlier older, parts = (part :: earlier) :: older ∧ part.rest = line.dataOut

namespace Journal

variable {messages : List (List UInt8)} {failed dropped : Nat} {before next : Line}
  {parts : List (List Part)}

theorem append (journal : Journal messages failed dropped before parts)
    (later : List (List UInt8)) : Journal (messages ++ later) failed dropped before parts :=
  { journal with framed := fun part inside => (journal.framed part inside).append }

/-- A step that is none of `tx_task`, or takes it from command to command. -/
theorem same (journal : Journal messages failed dropped before parts)
    (wires : next.wires = before.wires) (dataOut : next.dataOut = before.dataOut)
    (taken : next.state.taken = before.state.taken)
    (held : next.state.txTask.held = before.state.txTask.held)
    (pending : next.pending = before.pending)
    (connected : next.state.connState = .connected → before.state.connState = .connected)
    (writing : next.state.txTask = .writing → before.state.txTask = .writing) :
    Journal messages failed dropped next parts where
  wires := wires.trans journal.wires
  framed := journal.framed
  order := by rw [held, taken]; exact journal.order
  counted := by rw [held, taken]; exact journal.counted
  torn := by rw [pending]; exact journal.torn
  connected now := journal.connected (connected now)
  writing now := by rw [dataOut]; exact journal.writing (writing now)

/-- `tx_task` goes from one place to another, with no buffer and no frame in its hands. -/
theorem moved (journal : Journal messages failed dropped before parts)
    (wires : next.wires = before.wires) (empty : before.state.txTask.held = [])
    (settled : before.pending = 0) (still : next.state.txTask.held = [])
    (idle : next.state.txTask ≠ .writing) (taken : next.state.taken = before.state.taken)
    (connected : next.state.connState = .connected → before.state.connState = .connected) :
    Journal messages failed dropped next parts where
  wires := wires.trans journal.wires
  framed := journal.framed
  order := by rw [still, taken, ← empty]; exact journal.order
  counted := by rw [still, taken, ← empty]; exact journal.counted
  torn := by rw [journal.torn, settled, pending_of_ne idle]
  connected now := journal.connected (connected now)
  writing now := absurd now idle

/-- A connection is opened. -/
theorem opened (journal : Journal messages failed dropped before parts)
    (wires : next.wires = [] :: before.wires) (empty : before.state.txTask.held = [])
    (settled : before.pending = 0) (still : next.state.txTask.held = [])
    (idle : next.state.txTask ≠ .writing) (taken : next.state.taken = before.state.taken) :
    Journal messages failed dropped next ([] :: parts) where
  wires := by rw [wires, journal.wires]; rfl
  framed := journal.framed
  order := by rw [still, taken, ← empty]; exact journal.order
  counted := by rw [still, taken, ← empty]; exact journal.counted
  torn := by
    rw [List.flatten_cons, List.nil_append, journal.torn, settled, pending_of_ne idle]
  connected _ := List.cons_ne_nil _ _
  writing now := absurd now idle

/-- The frame in the hands of `send_handler` does not go out to its end. -/
theorem tore (journal : Journal messages failed dropped before parts)
    (wires : next.wires = before.wires) (writing : before.state.txTask = .writing)
    (left : before.dataOut ≠ []) (still : next.state.txTask.held = [])
    (idle : next.state.txTask ≠ .writing) (taken : next.state.taken = before.state.taken)
    (connected : next.state.connState = before.state.connState) :
    Journal messages (failed + 1) dropped next parts where
  wires := wires.trans journal.wires
  framed := journal.framed
  order := by
    have earlier := journal.order
    rw [writing] at earlier
    rw [still, taken]
    exact earlier
  counted := by
    have earlier := journal.counted
    rw [writing] at earlier
    rw [still, taken]
    exact earlier
  torn := by
    have pending : before.pending = 1 := if_pos ⟨writing, left⟩
    rw [journal.torn, pending, pending_of_ne idle]
  connected now := journal.connected (connected ▸ now)
  writing now := absurd now idle

/-- A buffer from `send_q` comes into the hands of `send_handler`. -/
theorem took {buf : Buffer} (journal : Journal messages failed dropped before parts)
    (wires : next.wires = before.wires) (empty : before.state.txTask.held = [])
    (idle : before.state.txTask ≠ .writing) (holding : next.state.txTask = .holding buf)
    (taken : next.state.taken = before.state.taken ++ [buf])
    (connected : next.state.connState = before.state.connState) :
    Journal messages failed dropped next parts where
  wires := wires.trans journal.wires
  framed := journal.framed
  order := by
    have earlier := journal.order
    rw [empty, List.append_nil] at earlier
    rw [holding, taken]
    exact earlier.append (List.Sublist.refl _)
  counted := by
    have earlier := journal.counted
    rw [empty, List.length_nil] at earlier
    rw [holding, taken, List.length_append, earlier, TxTask.held]
    simp only [List.length_cons, List.length_nil]
    omega
  torn := by
    rw [journal.torn, pending_of_ne idle, pending_of_ne (by rw [holding]; rintro ⟨⟩)]
  connected now := journal.connected (connected ▸ now)
  writing now := by
    rw [holding] at now
    cases now

/-- The buffer is freed, and no frame is made of it. -/
theorem let_go {buf : Buffer} (journal : Journal messages failed dropped before parts)
    (holding : before.state.txTask = .holding buf) (wires : next.wires = before.wires)
    (empty : next.state.txTask.held = []) (idle : next.state.txTask ≠ .writing)
    (taken : next.state.taken = before.state.taken)
    (connected : next.state.connState = before.state.connState) :
    Journal messages failed (dropped + 1) next parts where
  wires := wires.trans journal.wires
  framed := journal.framed
  order := by
    have earlier := journal.order
    rw [empty, taken, List.append_nil]
    exact (List.sublist_append_left _ _).trans earlier
  counted := by
    have earlier := journal.counted
    rw [holding, TxTask.held, List.length_singleton] at earlier
    rw [empty, taken, earlier, List.length_nil]
    omega
  torn := by
    rw [journal.torn, pending_of_ne idle, pending_of_ne (by rw [holding]; rintro ⟨⟩)]
  connected now := journal.connected (connected ▸ now)
  writing now := absurd now idle

/-- The frame of the buffer is ready, and nothing of it is written yet. -/
theorem started {buf : Buffer} {message : List UInt8}
    (journal : Journal messages failed dropped before parts)
    (holding : before.state.txTask = .holding buf)
    (online : before.state.connState = .connected)
    (given : messages[buf.block]? = some message) (dataOut : next.dataOut = Slip.frame message)
    (wires : next.wires = before.wires) (writing : next.state.txTask = .writing)
    (taken : next.state.taken = before.state.taken) :
    ∃ parts, Journal messages failed dropped next parts := by
  obtain ⟨latest, older, rfl⟩ := List.exists_cons_of_ne_nil (journal.connected online)
  have settled : before.pending = 0 := pending_of_ne (by rw [holding]; rintro ⟨⟩)
  have begun : next.pending = 1 := by simp [Line.pending, writing, dataOut, Slip.frame]
  refine ⟨(⟨buf, [], Slip.frame message⟩ :: latest) :: older, ?_, ?_, ?_, ?_, ?_, ?_, ?_⟩
  · rw [wires, journal.wires, List.map_cons, List.map_cons, sentOf_cons, List.append_nil]
  · intro part inside
    rw [List.flatten_cons, List.cons_append] at inside
    rcases List.mem_cons.mp inside with rfl | earlier
    · exact ⟨message, given, rfl⟩
    · exact journal.framed part earlier
  · have earlier := journal.order
    rw [holding] at earlier
    rw [writing, taken]
    simpa [TxTask.held] using earlier
  · have earlier := journal.counted
    rw [holding, TxTask.held, List.length_singleton] at earlier
    rw [writing, taken, earlier]
    rfl
  · have earlier := journal.torn
    rw [settled] at earlier
    rw [begun, List.flatten_cons, List.cons_append, List.countP_cons, ← List.flatten_cons, earlier]
    rfl
  · exact fun _ => List.cons_ne_nil _ _
  · exact fun _ => ⟨_, _, _, rfl, dataOut.symm⟩

/-- The transport takes some bytes of the frame. -/
theorem wrote {count : Nat} (journal : Journal messages failed dropped before parts)
    (writing : before.state.txTask = .writing) (state : next.state = before.state)
    (dataOut : next.dataOut = before.dataOut.drop count)
    (wires : next.wires = before.wires.modifyHead (· ++ before.dataOut.take count)) :
    ∃ parts, Journal messages failed dropped next parts := by
  obtain ⟨part, earlier, older, rfl, rest⟩ := journal.writing writing
  have left : (part.wrote count).rest = next.dataOut := by rw [dataOut, Part.wrote, rest]
  refine ⟨(part.wrote count :: earlier) :: older, ?_, ?_, ?_, ?_, ?_, ?_, ?_⟩
  · rw [wires, journal.wires, List.map_cons, List.map_cons, List.modifyHead_cons, sentOf_cons,
      sentOf_cons, List.append_assoc, ← rest]
    rfl
  · intro other inside
    rw [List.flatten_cons, List.cons_append] at inside
    rcases List.mem_cons.mp inside with rfl | behind
    · exact (journal.framed part (List.mem_cons_self ..)).wrote count
    · exact journal.framed other (List.mem_cons_of_mem _ behind)
  · rw [state]
    exact journal.order
  · rw [state]
    exact journal.counted
  · have now := journal.torn
    rw [pending_eq writing rest, List.flatten_cons, List.cons_append, List.countP_cons] at now
    rw [pending_eq (state ▸ writing) left, List.flatten_cons, List.cons_append, List.countP_cons,
      Nat.add_right_cancel now]
  · exact fun _ => List.cons_ne_nil _ _
  · exact fun _ => ⟨_, _, _, rfl, left⟩

end Journal

/-- A write that fails. -/
def LineEvent.fails : LineEvent → Nat
  | .step (.tx .writeFailed) => 1
  | _ => 0

/-- A buffer that `send_handler` frees without a frame: offline, empty, or too long to encode. -/
def LineEvent.drops : LineEvent → Nat
  | .encode _ data =>
      match Slip.slipEncode Slip.encodedDataBufSize data with
      | .ok _ => 0
      | .error _ => 1
  | .step (.tx (.notConnected _)) => 1
  | .step (.tx (.emptyBuffer _)) => 1
  | _ => 0

/-- The other tasks touch nothing of `tx_task`. -/
structure State.Apart (state next : State) : Prop where
  txTask : next.txTask = state.txTask
  taken : next.taken = state.taken
  connState : next.connState = state.connState

theorem callerStep_apart {state next : State} {event : CallerEvent}
    (stepped : state.callerStep event = some next) : state.Apart next := by
  cases event with
  | alloc len =>
      cases stepped
      exact ⟨rfl, rfl, rfl⟩
  | emptyRefused buf | sendQAccepts buf | sendQFull buf | cmdQAccepts buf | cmdQFull buf
  | free buf =>
      obtain ⟨_, rfl⟩ := provided_eq_some.mp stepped
      exact ⟨rfl, rfl, rfl⟩

theorem otherStep_apart {state next : State} {event : OtherEvent}
    (stepped : state.otherStep event = some next) : state.Apart next := by
  cases event with
  | longDelayAccepted | longDelayDropped | lossNoticed | reset submitter | submit submitter =>
      obtain ⟨_, rfl⟩ := provided_eq_some.mp stepped
      exact ⟨rfl, rfl, rfl⟩

variable {messages : List (List UInt8)} {failed dropped : Nat} {before next : Line}
  {parts : List (List Part)}

theorem Journal.apart (journal : Journal messages failed dropped before parts)
    (apart : before.state.Apart next.state) (wires : next.wires = before.wires)
    (dataOut : next.dataOut = before.dataOut) : Journal messages failed dropped next parts := by
  refine journal.same wires dataOut apart.taken (by rw [apart.txTask]) ?_ ?_ ?_
  · rw [Line.pending, Line.pending, apart.txTask, dataOut]
  · exact fun now => apart.connState ▸ now
  · exact fun now => apart.txTask ▸ now

theorem journal_tx {event : TxEvent} (journal : Journal messages failed dropped before parts)
    (allowed : before.Allows (.tx event))
    (stepped : before.state.txStep event = some next.state)
    (wires : next.wires = before.opened (.tx event)) :
    ∃ parts, Journal messages (failed + LineEvent.fails (.step (.tx event)))
      (dropped + LineEvent.drops (.step (.tx event))) next parts := by
  cases event with
  | receive =>
      obtain ⟨cmd, rest, _, waiting, now⟩ := receive_eq_some stepped
      refine ⟨parts, journal.moved wires ?_ (pending_of_ne ?_) ?_ ?_ ?_ ?_⟩
      · rw [waiting]; rfl
      · rw [waiting]; rintro ⟨⟩
      · rw [now]; rfl
      · rw [now]; rintro ⟨⟩
      · rw [now]
      · exact fun online => by rwa [now] at online
  | take =>
      obtain ⟨buf, rest, _, received, now⟩ := take_eq_some stepped
      have holding : next.state.txTask = .holding buf := by rw [now]
      refine ⟨parts, journal.took wires ?_ ?_ holding ?_ ?_⟩
      · rw [received]; rfl
      · rw [received]; rintro ⟨⟩
      · rw [now]
      · rw [now]
  | connect | connectFailed | disconnect | longDelay | reset =>
      obtain ⟨task, now⟩ := provided_eq_some.mp stepped
      refine ⟨parts, journal.moved wires ?_ (pending_of_ne ?_) ?_ ?_ ?_ ?_⟩
      · rw [task]; rfl
      · rw [task]; rintro ⟨⟩
      · rw [← now]; rfl
      · rw [← now]; rintro ⟨⟩
      · rw [← now]
      · intro online
        rw [← now] at online
        first | exact online | cases online
  | sendQEmpty | submit =>
      obtain ⟨⟨task, _⟩, now⟩ := provided_eq_some.mp stepped
      refine ⟨parts, journal.moved wires ?_ (pending_of_ne ?_) ?_ ?_ ?_ ?_⟩
      · rw [task]; rfl
      · rw [task]; rintro ⟨⟩
      · rw [← now]; rfl
      · rw [← now]; rintro ⟨⟩
      · rw [← now]
      · exact fun online => by rwa [← now] at online
  | connected =>
      obtain ⟨task, now⟩ := provided_eq_some.mp stepped
      refine ⟨_, journal.opened wires ?_ (pending_of_ne ?_) ?_ ?_ ?_⟩
      · rw [task]; rfl
      · rw [task]; rintro ⟨⟩
      · rw [← now]; rfl
      · rw [← now]; rintro ⟨⟩
      · rw [← now]
  | notConnected buf | emptyBuffer buf =>
      obtain ⟨⟨holding, _⟩, now⟩ := provided_eq_some.mp stepped
      refine ⟨parts, journal.let_go holding wires ?_ ?_ ?_ ?_⟩
      · rw [← now]; rfl
      · rw [← now]; rintro ⟨⟩
      · rw [← now]; rfl
      · rw [← now]; rfl
  | encodeFailed buf | encoded buf => exact allowed.elim
  | written =>
      obtain ⟨writing, now⟩ := provided_eq_some.mp stepped
      have finished : before.dataOut = [] := allowed
      refine ⟨parts, journal.moved wires ?_ ?_ ?_ ?_ ?_ ?_⟩
      · rw [writing]; rfl
      · exact if_neg fun both => both.2 finished
      · rw [← now]; rfl
      · rw [← now]; rintro ⟨⟩
      · rw [← now]
      · exact fun online => by rwa [← now] at online
  | writeFailed =>
      obtain ⟨writing, now⟩ := provided_eq_some.mp stepped
      refine ⟨parts, journal.tore wires writing allowed ?_ ?_ ?_ ?_⟩
      · rw [← now]; rfl
      · rw [← now]; rintro ⟨⟩
      · rw [← now]
      · rw [← now]

theorem journal_moves {event : LineEvent} (journal : Journal messages failed dropped before parts)
    (stored : Stored messages before) (owned : Owned before.state)
    (moves : before.Moves event next) :
    ∃ parts, Journal (messages ++ event.message.toList) (failed + event.fails)
      (dropped + event.drops) next parts := by
  cases moves with
  | @alloc message state stepped =>
      have called : before.state.callerStep (.alloc message.length) = some state := stepped
      exact ⟨parts, (journal.append _).apart (callerStep_apart called) rfl rfl⟩
  | encoded given fits stepped =>
      obtain ⟨⟨holding, online, _⟩, rfl⟩ := provided_eq_some.mp stepped
      simp only [LineEvent.message, LineEvent.fails, LineEvent.drops, fits, Option.toList_none,
        List.append_nil, Nat.add_zero]
      refine journal.started holding online (stored.read_eq owned holding given) rfl rfl rfl ?_
      rw [owned.read_eq holding]
      rfl
  | encodeFailed fails stepped =>
      obtain ⟨⟨holding, online, _⟩, rfl⟩ := provided_eq_some.mp stepped
      simp only [LineEvent.message, LineEvent.fails, LineEvent.drops, fails, Option.toList_none,
        List.append_nil, Nat.add_zero]
      refine ⟨parts, journal.let_go holding rfl rfl (by rintro ⟨⟩) ?_ ?_⟩
      · rw [owned.read_eq holding]; rfl
      · rw [owned.read_eq holding]; rfl
  | write writing some_ within =>
      simp only [LineEvent.message, LineEvent.fails, LineEvent.drops, Option.toList_none,
        List.append_nil, Nat.add_zero]
      exact journal.wrote writing rfl rfl rfl
  | @step event state allowed stepped =>
      simp only [LineEvent.message, Option.toList_none, List.append_nil]
      cases event with
      | caller event => exact ⟨parts, journal.apart (callerStep_apart stepped) rfl rfl⟩
      | other event => exact ⟨parts, journal.apart (otherStep_apart stepped) rfl rfl⟩
      | tx event => exact journal_tx journal allowed stepped rfl

/-- The blocks of the buffers that are prepared or were accepted, each allocated once. -/
structure Fresh (state : State) : Prop where
  once : ((state.preparing ++ state.submitted).map Buffer.block).Nodup
  below : ∀ buf ∈ state.preparing ++ state.submitted, buf.block < state.allocated

theorem Fresh.fewer {state next : State} (fresh : Fresh state)
    (fewer : (next.preparing ++ next.submitted).Subperm (state.preparing ++ state.submitted))
    (allocated : next.allocated = state.allocated) : Fresh next where
  once := by
    obtain ⟨kept, same, sublist⟩ := fewer
    exact (same.map Buffer.block).nodup_iff.mp ((sublist.map Buffer.block).nodup fresh.once)
  below buf inside := by
    rw [allocated]
    exact fresh.below buf (fewer.subset inside)

theorem fresh_caller {state next : State} {event : CallerEvent} (fresh : Fresh state)
    (stepped : state.callerStep event = some next) : Fresh next := by
  cases event with
  | alloc len =>
      cases stepped
      refine ⟨?_, fun buf inside => ?_⟩
      · refine List.nodup_cons.mpr ⟨fun inside => ?_, fresh.once⟩
        obtain ⟨buf, earlier, same⟩ := List.mem_map.mp inside
        exact absurd same (Nat.ne_of_lt (fresh.below buf earlier))
      · rcases List.mem_cons.mp inside with rfl | earlier
        · exact Nat.lt_succ_self _
        · exact Nat.lt_succ_of_lt (fresh.below buf earlier)
  | sendQAccepts buf =>
      obtain ⟨⟨inside, _⟩, rfl⟩ := provided_eq_some.mp stepped
      refine fresh.fewer (List.Perm.subperm ?_) rfl
      have moved := (List.perm_cons_erase inside).append_right state.submitted
      have behind : (state.preparing.erase buf ++ (state.submitted ++ [buf])).Perm
          (buf :: (state.preparing.erase buf ++ state.submitted)) := by
        rw [← List.append_assoc]
        exact List.perm_append_singleton _ _
      exact behind.trans moved.symm
  | emptyRefused buf | sendQFull buf =>
      obtain ⟨_, rfl⟩ := provided_eq_some.mp stepped
      exact fresh.fewer (List.erase_sublist.append_right _).subperm rfl
  | cmdQAccepts buf | cmdQFull buf | free buf =>
      obtain ⟨_, rfl⟩ := provided_eq_some.mp stepped
      exact ⟨fresh.once, fresh.below⟩

theorem fresh_step {state next : State} {event : Event} (fresh : Fresh state)
    (stepped : client.step state event = some next) : Fresh next := by
  cases event with
  | caller event => exact fresh_caller fresh stepped
  | other event =>
      have untouched := otherStep_untouched stepped
      refine fresh.fewer ?_ untouched.allocated
      rw [untouched.preparing, untouched.submitted]
  | tx event =>
      have untouched := txStep_untouched stepped
      refine fresh.fewer ?_ untouched.allocated
      rw [untouched.preparing, untouched.submitted]

def LineEvent.Commanded : LineEvent → Prop
  | .step event => TcpClient.Commanded event
  | _ => True

instance (event : LineEvent) : Decidable event.Commanded := by
  unfold LineEvent.Commanded
  split <;> infer_instance

theorem LineEvent.Commanded.event {event : LineEvent} {queued : Event}
    (commanded : event.Commanded) (is : event.event = some queued) :
    TcpClient.Commanded queued := by
  cases event with
  | alloc message =>
      cases is
      trivial
  | encode buf data =>
      rw [LineEvent.event] at is
      split at is <;> cases is <;> trivial
  | write count => cases is
  | step event =>
      cases is
      exact commanded

/-- What the steps of the queues keep, the steps of the line keep. -/
theorem Line.Moves.keeps {allowed : Event → Prop} {holds : State → Prop}
    (kept : ∀ {state after event}, allowed event → holds state →
      client.step state event = some after → holds after)
    {event : LineEvent} (all : ∀ queued, event.event = some queued → allowed queued)
    (moves : before.Moves event next) (now : holds before.state) : holds next.state := by
  have stepped := moves.queues
  cases is : event.event with
  | none =>
      rw [is] at stepped
      rw [stepped]
      exact now
  | some queued =>
      rw [is] at stepped
      exact kept (all queued is) now stepped

/-- What a run has made of its messages: every connection carries, in the order the buffers were
accepted and none of them twice, the frames of messages as they were allocated.  A frame is cut
short only where a write failed, and of the buffers accepted none is missing but those still
queued, the one in hand, and those dropped without a frame. -/
structure Carried (events : List LineEvent) (line : Line) (parts : List (List Part)) : Prop where
  wires : line.wires = parts.map sentOf
  framed : ∀ part ∈ parts.flatten, part.Frames (events.filterMap LineEvent.message)
  ordered : List.Sublist (parts.flatten.map Part.buf).reverse line.state.submitted
  once : (parts.flatten.map fun part => part.buf.block).Nodup
  torn : line.state.txTask ≠ .writing →
    parts.flatten.countP Part.torn = (events.map LineEvent.fails).sum
  accounted : line.state.submitted.length = line.state.sendQ.length +
    line.state.txTask.held.length + parts.flatten.length + (events.map LineEvent.drops).sum

/-- The events of a run. -/
def eventsOf (trace : List (Line × LineEvent)) : List LineEvent := trace.map Prod.snd

structure Sound (messages : List (List UInt8)) (failed dropped : Nat) (line : Line) : Prop where
  owned : Owned line.state
  fresh : Fresh line.state
  inOrder : InOrder line.state
  stored : Stored messages line
  journal : ∃ parts, Journal messages failed dropped line parts

theorem sound_run {trace : List (Line × LineEvent)} {last : Line}
    (run : line.Run .initial trace last) (commanded : ∀ taken ∈ trace, taken.2.Commanded) :
    Sound ((eventsOf trace).filterMap LineEvent.message) ((eventsOf trace).map LineEvent.fails).sum
      ((eventsOf trace).map LineEvent.drops).sum last := by
  induction run with
  | nil =>
      refine ⟨owned_initial, ⟨List.nodup_nil, ?_⟩, rfl, stored_initial, [], rfl, ?_, .slnil, rfl,
        rfl, ?_, ?_⟩
      · rintro buf ⟨⟩
      · rintro part ⟨⟩
      · rintro ⟨⟩
      · rintro ⟨⟩
  | @snoc trace state next event run stepped ih =>
      have sound := ih fun taken inside => commanded taken (List.mem_append_left _ inside)
      have moves := moves_of_step stepped
      obtain ⟨parts, journal⟩ := sound.journal
      have last : event.Commanded := commanded (state, event) (by simp)
      have messages : (eventsOf (trace ++ [(state, event)])).filterMap LineEvent.message =
          (eventsOf trace).filterMap LineEvent.message ++ event.message.toList := by
        rw [eventsOf, List.map_append, List.filterMap_append]
        cases given : event.message <;> simp [eventsOf, given]
      rw [messages]
      simp only [eventsOf, List.map_append, List.sum_append, List.map_cons, List.map_nil,
        List.sum_singleton]
      refine ⟨?_, ?_, ?_, sound.stored.moves sound.owned moves,
        journal_moves journal sound.stored sound.owned moves⟩
      · exact moves.keeps owned_step (fun _ => last.event) sound.owned
      · exact moves.keeps (fun _ => fresh_step) (fun _ _ => trivial) sound.fresh
      · exact moves.keeps (fun _ => inOrder_step) (fun _ _ => trivial) sound.inOrder

theorem wires_carry {trace : List (Line × LineEvent)} {last : Line}
    (run : line.Run .initial trace last) (commanded : ∀ taken ∈ trace, taken.2.Commanded) :
    ∃ parts, Carried (eventsOf trace) last parts := by
  have sound := sound_run run commanded
  obtain ⟨parts, journal⟩ := sound.journal
  have taken : List.Sublist (parts.flatten.map Part.buf).reverse last.state.taken :=
    (List.sublist_append_left _ _).trans journal.order
  have ordered : List.Sublist (parts.flatten.map Part.buf).reverse last.state.submitted := by
    rw [← show _ = last.state.submitted from sound.inOrder]
    exact taken.trans (List.sublist_append_left _ _)
  refine ⟨parts, journal.wires, journal.framed, ordered, ?_, fun idle => ?_, ?_⟩
  · have distinct := sound.fresh.once
    rw [List.map_append] at distinct
    have some_ := (ordered.map Buffer.block).nodup (List.nodup_append.mp distinct).2.1
    rw [List.map_reverse, List.nodup_reverse, List.map_map] at some_
    exact some_
  · rw [journal.torn, pending_of_ne idle, Nat.add_zero]
  · have counted := journal.counted
    rw [← show _ = last.state.submitted from sound.inOrder, List.length_append]
    omega

/-- Two messages on one connection: the first goes out in two writes, the second stops behind one
byte. -/
def tornSend : List LineEvent :=
  [.step (.other (.reset .connectTimer)), .step (.other (.submit .connectTimer)),
    .step (.tx .receive), .step (.tx .connect), .step (.tx .connected),
    .alloc [1, 0xC0], .step (.caller (.sendQAccepts ⟨0, 2⟩)), .step (.caller (.cmdQAccepts ⟨0, 2⟩)),
    .alloc [7], .step (.caller (.sendQAccepts ⟨1, 1⟩)), .step (.caller (.cmdQAccepts ⟨1, 1⟩)),
    .step (.tx .receive), .step (.tx .take), .encode ⟨0, 2⟩ [1, 0xC0], .write 3, .write 2,
    .step (.tx .written), .step (.tx .receive), .step (.tx .take), .encode ⟨1, 1⟩ [7], .write 1,
    .step (.tx .writeFailed), .step (.tx .reset), .step (.tx .submit)]

/-- The line that `tornSend` leads to. -/
def tornLine : Line := (line.exec .initial tornSend).getD .initial

theorem wires_carry_tornSend :
    tornLine.wires = [[0xCF, 1, 0xDB, 0xDC, 0xC0, 0xCF]] ∧
      ∃ parts, Carried (eventsOf (line.tracing .initial tornSend)) tornLine parts := by
  have executed : line.exec .initial tornSend = some tornLine := rfl
  refine ⟨by decide, wires_carry (Machine.run_of_exec executed) ?_⟩
  decide

end EsInverter.TcpClient
