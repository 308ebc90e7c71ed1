import EsInverter.Lib.Heap
import EsInverter.SerialClient.Timing

/-!
# The payloads of the requests

The functions of the request table once more, with what they do to memory: the
payload of a request is a block that `serialize_func` allocates and
`deactivate_rq` frees.  Here `serialize_func` may fail and the timer may not
start.  Freeing or reading a block that is not live is an access out of bounds.
-/

set_option autoImplicit false

namespace EsInverter.SerialClient.Payloads

open Lib Rs232

/-- What `cmd.payload` has room for. -/
def Packet : Type := { payload : List UInt8 // payload.length ≤ maxPacketLen }

/-- The bytes that `rs232_2400_serialize` writes to its block. -/
def serialized (packet : Packet) : List UInt8 :=
  packet.val ++ crcBytes (crc16Xmodem packet.val) ++ [carriageReturn]

/-- `rq_t`; the payload is an address, and `none` is `NULL`. -/
structure Slot where
  payload : Option Nat
  rqId : UInt16
  timeout : UInt16
  sinceLastSent : Int32
  retries : UInt8
  maxRetries : UInt8
  payloadLen : UInt8
  active : Bool
  periodic : Bool
  deriving DecidableEq, Repr

def Slot.zero : Slot :=
  { payload := none, rqId := 0, timeout := 0, sinceLastSent := 0, retries := 0, maxRetries := 0,
    payloadLen := 0, active := false, periodic := false }

/-- The client with the heap that its payloads are on. -/
structure Impl where
  lastRqId : UInt16
  rq : List Slot
  timer : Option UInt32
  started : List UInt32
  written : List (List UInt8)
  heap : Heap Nat (List UInt8)

def Impl.zeroed : Impl :=
  { lastRqId := expRspInvalid, rq := List.replicate maxRqs .zero, timer := none, started := [],
    written := [], heap := .empty }

/-- The request with the bytes that its payload points to. -/
def Slot.shown (heap : Heap Nat (List UInt8)) (slot : Slot) : Rq :=
  { payload := slot.payload.bind heap.block, rqId := slot.rqId, timeout := slot.timeout,
    sinceLastSent := slot.sinceLastSent, retries := slot.retries, maxRetries := slot.maxRetries,
    payloadLen := slot.payloadLen, active := slot.active, periodic := slot.periodic }

def Impl.shown (sc : Impl) : Client :=
  { lastRqId := sc.lastRqId, rq := sc.rq.map (Slot.shown sc.heap), timer := sc.timer,
    started := sc.started, written := sc.written }

/-! ### The timer and `deactivate_rq` -/

/-- Whether `xTimerCreateStatic` and `xTimerStart` succeed. -/
structure TimerCalls where
  created : Bool
  started : Bool
  deriving DecidableEq, Repr

def startTimer (calls : TimerCalls) (durationMs : UInt32) (sc : Impl) : Impl × Int :=
  if sc.timer = none ∧ calls.created = false then (sc, -1)
  else
    let sc := { sc with timer := some durationMs }
    if calls.started then ({ sc with started := sc.started ++ [durationMs] }, 0) else (sc, -2)

def Slot.vacated (slot : Slot) : Slot := { slot with active := false, payload := none }

def deactivateRq (idx : Nat) (sc : Impl) : Except Fault Impl :=
  match sc.rq[idx]? with
  | none => .error .outOfBounds
  | some slot =>
      match slot.payload with
      | none => .ok { sc with rq := sc.rq.set idx { slot with active := false } }
      | some address =>
          match sc.heap.free address with
          | none => .error .outOfBounds
          | some heap => .ok { sc with rq := sc.rq.set idx slot.vacated, heap }

/-- A request goes back to its slot and, where it is done, is deactivated. -/
def settle (idx : Nat) (slot : Slot) (done : Bool) (sc : Impl) : Except Fault Impl :=
  let sc := { sc with rq := sc.rq.set idx slot }
  if done then deactivateRq idx sc else .ok sc

/-- What `serialize_func` ends with.  The callers expect `NULL` where it has no memory;
`rs232_2400_serialize` asserts there. -/
inductive Serializing
  | block (address : Nat)
  | null
  | asserted
  deriving DecidableEq, Repr

/-- What the two functions share. -/
def addRequest (offset : Nat → UInt32) (periodic : Bool) (serializing : Serializing)
    (calls : TimerCalls) (rqId : UInt16) (packet : Packet) (timeout : UInt32) (maxRetries : UInt8)
    (sc : Impl) : Except Fault (Impl × Int) :=
  match sc.rq.findIdx? fun slot => !slot.active with
  | none => .ok (sc, -1)
  | some idx =>
      match sc.rq[idx]? with
      | none => .error .outOfBounds
      | some free =>
          if free.payload ≠ none then .error (.assertion .rqPayload)
          else
            match serializing with
            | .asserted => .error (.assertion .serialized)
            -- The pointer was `NULL` before and is assigned `NULL`.
            | .null => .ok (sc, -2)
            | .block address =>
                let added : Slot :=
                  { payload := some address, rqId, timeout := timeout.toUInt16,
                    sinceLastSent := (timeout - offset idx).toInt32, retries := 0, maxRetries,
                    payloadLen := UInt8.ofNat (serialized packet).length, active := true, periodic }
                let sc := { sc with
                  rq := sc.rq.set idx added, heap := sc.heap.store address (serialized packet) }
                match startTimer calls 2000 sc with
                -- The request stays in its slot when the timer does not start.
                | (sc, err) => if err ≠ 0 then .ok (sc, -3) else .ok (sc, idx)

def addRq (serializing : Serializing) (calls : TimerCalls) (rqId : UInt16) (packet : Packet)
    (timeout : UInt32) (retries : UInt8) (sc : Impl) : Except Fault (Impl × Int) :=
  addRequest (fun idx => UInt32.ofNat (idx * 100)) false serializing calls rqId packet timeout
    retries sc

def addPeriodicRq (serializing : Serializing) (calls : TimerCalls) (rqId : UInt16)
    (packet : Packet) (period : UInt32) (sc : Impl) : Except Fault (Impl × Int) :=
  if period ≤ 1 then .error (.assertion .period)
  else
    addRequest (fun idx => UInt32.ofNat ((idx + 1) * 500)) true serializing calls rqId packet
      period 0 sc

def removePeriodicRq (rqId : UInt16) (sc : Impl) : Except Fault (Impl × Int) :=
  match sc.rq.findIdx? fun slot => slot.periodic && slot.rqId == rqId with
  | none => .ok (sc, -1)
  | some idx => do
      let removed ← deactivateRq idx sc
      if removed.rq.any Slot.active then .ok (removed, 0)
      else .ok ({ removed with timer := none }, 0)

def Slot.acked (slot : Slot) : Slot := { slot with sinceLastSent := 0, retries := 0 }

def ackRsp (correspondingRq : UInt16) (sc : Impl) : Except Fault Impl :=
  let sc := if sc.lastRqId = correspondingRq then { sc with lastRqId := expRspInvalid } else sc
  match sc.rq.findIdx? fun slot => slot.active && slot.rqId == correspondingRq with
  | none => .ok sc
  | some idx =>
      match sc.rq[idx]? with
      | none => .error .outOfBounds
      | some slot => settle idx slot.acked (slot.maxRetries > 0) sc

/-- The bytes that `em_uart_send` reads. -/
def readPayload (slot : Slot) (heap : Heap Nat (List UInt8)) : Except Fault (List UInt8) :=
  match slot.payload.bind heap.block with
  | none => .error .outOfBounds
  | some block =>
      if block.length < slot.payloadLen.toNat then .error .outOfBounds
      else .ok (block.take slot.payloadLen.toNat)

/-- The request was sent as often as it may be. -/
def Slot.exhausted (slot : Slot) : Bool := !slot.periodic && slot.retries + 1 > slot.maxRetries

/-- The request after a successful `em_uart_send`. -/
def Slot.sent (slot : Slot) : Slot :=
  let slot := { slot with retries := slot.retries + 1 }
  if !slot.periodic then
    let slot := { slot with sinceLastSent := 0 }
    if slot.retries > slot.maxRetries then { slot with retries := 0 } else slot
  else if slot.retries > 2 then { slot with sinceLastSent := 0, retries := 0 }
  else { slot with sinceLastSent := (slot.sinceLastSent.toUInt32 - responseDelayMs).toInt32 }

/-- `send_rq` up to its call of `schedule_next_timer_evt`; its two loops read no payload, so they
run over the requests as shown. -/
def nextDelay (sent : Bool) (sc : Impl) : Except Fault (Impl × Int32) :=
  match findEarliest sc.shown.rq 0 Int32.maxValue none with
  | (earliest, sendIdx) =>
      if earliest > 50 then .ok (sc, earliest)
      else
        match sendIdx.bind fun idx => sc.rq[idx]?.map (idx, ·) with
        | none => .error (.assertion .sendIdx)
        | some (idx, slot) =>
            if slot.payloadLen = 0 then .error (.assertion .payloadLen)
            else do
              let frame ← readPayload slot sc.heap
              let sc := { sc with lastRqId := slot.rqId }
              if !sent then .ok (sc, 500)
              else do
                let sc ← settle idx slot.sent slot.exhausted
                  { sc with written := sc.written ++ [frame] }
                let next := nextRqDelay sc.shown.rq Int32.maxValue
                if next.toUInt32 < responseDelayMs then .ok (sc, responseDelayMs.toInt32)
                else .ok (sc, next)

def Slot.waited (delayMs : Int32) (slot : Slot) : Slot :=
  if slot.active then { slot with sinceLastSent := slot.sinceLastSent + delayMs } else slot

/-- A timer that does not start is only logged. -/
def scheduleNextTimerEvt (calls : TimerCalls) (delayMs : Int32) (sc : Impl) : Impl :=
  if delayMs ≠ Int32.maxValue then
    let sc := (startTimer calls delayMs.toUInt32 sc).1
    { sc with rq := sc.rq.map (Slot.waited delayMs) }
  else sc

def sendRq (sent : Bool) (calls : TimerCalls) (sc : Impl) : Except Fault Impl := do
  let (sc, delayMs) ← nextDelay sent sc
  .ok (scheduleNextTimerEvt calls delayMs sc)

inductive Command
  | addRq (serializing : Serializing) (calls : TimerCalls) (rqId : UInt16) (packet : Packet)
      (timeout : UInt32) (retries : UInt8)
  | addPeriodicRq (serializing : Serializing) (calls : TimerCalls) (rqId : UInt16)
      (packet : Packet) (period : UInt32)
  | removePeriodicRq (rqId : UInt16)
  | ackRsp (correspondingRq : UInt16)
  | sendRq (sent : Bool) (calls : TimerCalls)

/-- The block that `malloc` returns. -/
def Command.block : Command → Option Nat
  | .addRq (.block address) .. => some address
  | .addPeriodicRq (.block address) .. => some address
  | _ => none

def perform (sc : Impl) : Command → Except Fault Impl
  | .addRq serializing calls rqId packet timeout retries =>
      (addRq serializing calls rqId packet timeout retries sc).map Prod.fst
  | .addPeriodicRq serializing calls rqId packet period =>
      (addPeriodicRq serializing calls rqId packet period sc).map Prod.fst
  | .removePeriodicRq rqId => (removePeriodicRq rqId sc).map Prod.fst
  | .ackRsp correspondingRq => ackRsp correspondingRq sc
  | .sendRq sent calls => sendRq sent calls sc

/-- `malloc` returns no block that is live. -/
def Fresh (sc : Impl) (command : Command) : Prop :=
  ∀ address, command.block = some address → sc.heap.block address = none

instance (sc : Impl) (command : Command) : Decidable (Fresh sc command) :=
  decidable_of_iff (∀ address ∈ command.block, sc.heap.block address = none) Iff.rfl

def commands : Machine Impl Command :=
  ⟨fun sc command => if Fresh sc command then (perform sc command).toOption else none⟩

end EsInverter.SerialClient.Payloads
