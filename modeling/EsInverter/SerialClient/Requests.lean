import EsInverter.Lib.Transition
import EsInverter.Rs232.Crc

/-!
# The request table of the serial client

The table is filled by `add_rq` and `add_periodic_rq`, emptied by
acknowledgements, by `remove_periodic_rq` and by requests that got no answer.
A difference of two 32-bit numbers that overflows is taken to wrap, as the
compiled code does.
-/

set_option autoImplicit false

namespace EsInverter.SerialClient

open Lib Rs232

/-- `CONFIG_EM_SERIAL_CLIENT_MAX_RQS` -/
def maxRqs : Nat := 5

/-- `CONFIG_EM_SERIAL_CLIENT_MAX_PACKET_LEN` -/
def maxPacketLen : Nat := 64

def expRspInvalid : UInt16 := 0xFFFF

/-- `rq_t`; a `payload` that is `NULL` is `none`. -/
structure Rq where
  payload : Option (List UInt8)
  rqId : UInt16
  timeout : UInt16
  sinceLastSent : Int32
  retries : UInt8
  maxRetries : UInt8
  payloadLen : UInt8
  active : Bool
  periodic : Bool
  deriving DecidableEq, Repr

def Rq.zero : Rq :=
  { payload := none, rqId := 0, timeout := 0, sinceLastSent := 0, retries := 0, maxRetries := 0,
    payloadLen := 0, active := false, periodic := false }

/-- The members of `em_sc_t` and `sc_impl_t` that change. -/
structure Client where
  lastRqId : UInt16
  rq : List Rq
  /-- The sender timer: `none` is `NULL`, otherwise the delay it was last started with. -/
  timer : Option UInt32
  /-- The delays handed to `start_timer`, in order. -/
  started : List UInt32
  /-- The frames that `em_uart_send` took. -/
  written : List (List UInt8)
  deriving DecidableEq, Repr

def Client.initial : Client :=
  { lastRqId := expRspInvalid, rq := List.replicate maxRqs .zero, timer := none, started := [],
    written := [] }

/-- Milliseconds until the request is due: `timeout - since_last_sent`. -/
def Rq.delay (rq : Rq) : Int32 := rq.timeout.toUInt32.toInt32 - rq.sinceLastSent

namespace Client

/-- The timer is started or restarted; FreeRTOS is asked to wait until it can be. -/
def startTimer (durationMs : UInt32) (client : Client) : Client :=
  { client with timer := some durationMs, started := client.started ++ [durationMs] }

def deleteTimer (client : Client) : Client := { client with timer := none }

end Client

/-- `deactivate_rq` for one slot: the payload is freed. -/
def Rq.deactivated (rq : Rq) : Rq := { rq with active := false, payload := none }

def deactivateRq (idx : Nat) (client : Client) : Client :=
  { client with rq := client.rq.modify idx Rq.deactivated }

/-- What the two functions share: the first inactive slot takes the request, which was last sent
`offset` milliseconds later than `timeout` ago. -/
def addRequest (offset : Nat → UInt32) (periodic allocated : Bool) (rqId : UInt16)
    (payload : List UInt8) (timeout : UInt32) (maxRetries : UInt8) (client : Client) :
    Except Fault (Client × Int) :=
  match client.rq.findIdx? fun rq => !rq.active with
  | none => .ok (client, -1)
  | some idx =>
      match client.rq[idx]? with
      | none => .error .outOfBounds
      | some free =>
          if free.payload ≠ none then .error (.assertion .rqPayload)
          else
            match rs232Serialize allocated payload with
            | .error fault => .error fault
            | .ok serialized =>
                let added : Rq :=
                  { payload := some serialized, rqId, timeout := timeout.toUInt16,
                    sinceLastSent := (timeout - offset idx).toInt32, retries := 0, maxRetries,
                    payloadLen := UInt8.ofNat serialized.length, active := true, periodic }
                .ok (({ client with rq := client.rq.set idx added } : Client).startTimer 2000, idx)

def addRq (allocated : Bool) (rqId : UInt16) (payload : List UInt8) (timeout : UInt32)
    (retries : UInt8) (client : Client) : Except Fault (Client × Int) :=
  addRequest (fun idx => UInt32.ofNat (idx * 100)) false allocated rqId payload timeout retries
    client

def addPeriodicRq (allocated : Bool) (rqId : UInt16) (payload : List UInt8) (period : UInt32)
    (client : Client) : Except Fault (Client × Int) :=
  if period ≤ 1 then .error (.assertion .period)
  else
    addRequest (fun idx => UInt32.ofNat ((idx + 1) * 500)) true allocated rqId payload period 0
      client

/-- The first slot that is, or last was, a periodic request of that kind. -/
def removePeriodicRq (rqId : UInt16) (client : Client) : Client × Int :=
  match client.rq.findIdx? fun rq => rq.periodic && rq.rqId == rqId with
  | none => (client, -1)
  | some idx =>
      let removed := deactivateRq idx client
      if removed.rq.any Rq.active then (removed, 0) else (removed.deleteTimer, 0)

/-- The acknowledged request is no longer overdue; a one-shot request is done. -/
def Rq.acked (rq : Rq) : Rq :=
  let rq := { rq with sinceLastSent := 0, retries := 0 }
  if rq.maxRetries > 0 then rq.deactivated else rq

def ackRsp (correspondingRq : UInt16) (client : Client) : Client :=
  let client :=
    if client.lastRqId = correspondingRq then { client with lastRqId := expRspInvalid } else client
  match client.rq.findIdx? fun rq => rq.active && rq.rqId == correspondingRq with
  | none => client
  | some idx => { client with rq := client.rq.modify idx Rq.acked }

/-- A loop over the active requests that keeps the least delay and the slot it was found in. -/
def findEarliest : List Rq → Nat → Int32 → Option Nat → Int32 × Option Nat
  | [], _, earliest, sendIdx => (earliest, sendIdx)
  | rq :: rest, idx, earliest, sendIdx =>
      if rq.active ∧ rq.delay < earliest then findEarliest rest (idx + 1) rq.delay (some idx)
      else findEarliest rest (idx + 1) earliest sendIdx

/-- The second loop, which keeps only the delay. -/
def nextRqDelay : List Rq → Int32 → Int32
  | [], next => next
  | rq :: rest, next =>
      if rq.active ∧ rq.delay < next then nextRqDelay rest rq.delay else nextRqDelay rest next

def responseDelayMs : UInt32 := 100

/-- The request after a successful `em_uart_send`. -/
def Rq.sent (rq : Rq) : Rq :=
  let rq := { rq with retries := rq.retries + 1 }
  if !rq.periodic then
    let rq := { rq with sinceLastSent := 0 }
    if rq.retries > rq.maxRetries then { rq with retries := 0 }.deactivated else rq
  else if rq.retries > 2 then { rq with sinceLastSent := 0, retries := 0 }
  else { rq with sinceLastSent := (rq.sinceLastSent.toUInt32 - responseDelayMs).toInt32 }

/-- `send_rq` up to its call of `schedule_next_timer_evt`, with the delay it passes on; `sent` is
whether `em_uart_send` succeeds. -/
def nextDelay (sent : Bool) (client : Client) : Except Fault (Client × Int32) :=
  match findEarliest client.rq 0 Int32.maxValue none with
  | (earliest, sendIdx) =>
      if earliest > 50 then .ok (client, earliest)
      else
        match sendIdx.bind fun idx => client.rq[idx]?.map (idx, ·) with
        | none => .error (.assertion .sendIdx)
        | some (idx, rq) =>
            if rq.payloadLen = 0 then .error (.assertion .payloadLen)
            else
              let client := { client with lastRqId := rq.rqId }
              if !sent then .ok (client, 500)
              else
                let frame := (rq.payload.getD []).take rq.payloadLen.toNat
                let client := { client with
                  rq := client.rq.modify idx Rq.sent, written := client.written ++ [frame] }
                let next := nextRqDelay client.rq Int32.maxValue
                -- The signed delay is compared as an unsigned one.
                if next.toUInt32 < responseDelayMs then .ok (client, responseDelayMs.toInt32)
                else .ok (client, next)

/-- An active request is taken to have waited for the delay already. -/
def Rq.waited (delayMs : Int32) (rq : Rq) : Rq :=
  if rq.active then { rq with sinceLastSent := rq.sinceLastSent + delayMs } else rq

def scheduleNextTimerEvt (delayMs : Int32) (client : Client) : Client :=
  if delayMs ≠ Int32.maxValue then
    let client := client.startTimer delayMs.toUInt32
    { client with rq := client.rq.map (Rq.waited delayMs) }
  else client

def sendRq (sent : Bool) (client : Client) : Except Fault Client :=
  match nextDelay sent client with
  | .error fault => .error fault
  | .ok (client, delayMs) => .ok (scheduleNextTimerEvt delayMs client)

/-! ### The commands of the task -/

inductive Event
  | addRq (allocated : Bool) (rqId : UInt16) (payload : List UInt8) (timeout : UInt32)
      (retries : UInt8)
  | addPeriodicRq (allocated : Bool) (rqId : UInt16) (payload : List UInt8) (period : UInt32)
  | removePeriodicRq (rqId : UInt16)
  | ackRsp (correspondingRq : UInt16)
  /-- `SC_CMD_TIMER`, and whether `em_uart_send` succeeds. -/
  | timer (sent : Bool)
  deriving DecidableEq, Repr

/-- A failed assertion stops the device. -/
def Client.step (client : Client) : Event → Option Client
  | .addRq allocated rqId payload timeout retries =>
      if payload.length ≤ maxPacketLen then
        match addRq allocated rqId payload timeout retries client with
        | .ok (next, _) => some next
        | .error _ => none
      else none
  | .addPeriodicRq allocated rqId payload period =>
      if payload.length ≤ maxPacketLen then
        match addPeriodicRq allocated rqId payload period client with
        | .ok (next, _) => some next
        | .error _ => none
      else none
  | .removePeriodicRq rqId => some (removePeriodicRq rqId client).1
  | .ackRsp correspondingRq => some (ackRsp correspondingRq client)
  | .timer sent => (sendRq sent client).toOption

def requests : Machine Client Event := ⟨Client.step⟩

end EsInverter.SerialClient
