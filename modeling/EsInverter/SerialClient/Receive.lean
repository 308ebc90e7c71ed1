import EsInverter.RingBuf.Ring
import EsInverter.Rs232.Protocol
import EsInverter.SerialClient.Requests

/-!
# Receiving replies

What the UART task hands over goes through a ring buffer; a window of the ring
is parsed as long as it holds frames, and a reply that is accepted acknowledges
its request and is given to the first handler registered for it.
-/

set_option autoImplicit false

namespace EsInverter.SerialClient

open Rs232

def expRspDetect : UInt16 := 0xDDFF

/-- `CONFIG_EM_UART_READ_BUF_SIZE` -/
def uartReadBufSize : Nat := 128

inductive Handler
  | invId
  | invFwVer
  | invMeasQpigs
  | invFault
  | invWarningFlags
  | invMode
  | invModel
  deriving DecidableEq, Repr

/-- `rsp_handlers` of the inverter's protocol. -/
def rspHandlers : List (UInt16 × Handler) :=
  [
    (Cmd.qid.code, .invId),
    (Cmd.qvfw.code, .invFwVer),
    (Cmd.qpigs.code, .invMeasQpigs),
    (Cmd.qpicf.code, .invFault),
    (Cmd.qpiws.code, .invWarningFlags),
    (Cmd.qmod.code, .invMode),
    (Cmd.qmod.code, .invModel)]

def firstHandler (msgType : UInt16) : Option Handler :=
  (rspHandlers.find? fun registered => registered.1 == msgType).map Prod.snd

/-- A handler was called with the output object. -/
structure Call where
  handler : Handler
  data : Payload
  deriving DecidableEq, Repr

structure Receiver where
  client : Client
  ring : RingBuf (2 * maxPacketLen)
  /-- The calls of handlers, in order. -/
  calls : List Call
  deriving DecidableEq, Repr

/-- The calls that `packet_handler` makes after it acknowledged the request. -/
def packetCalls (msgType : UInt16) (data : Payload) : List Call :=
  match firstHandler msgType with
  | none => []
  | some handler => [⟨handler, data⟩]

/-- `parse_result_t` -/
structure ParseResult where
  payload : Payload
  payloadLen : Nat
  rspId : UInt16
  status : UInt16
  deriving DecidableEq, Repr

def ParseResult.zero : ParseResult := ⟨.zero, 0, 0, 0⟩

/-- What a call of `parse` leaves; `rest` is the input behind the processed bytes. -/
structure ParseReturn where
  client : Client
  result : ParseResult
  processed : Nat
  rest : List UInt8
  deriving DecidableEq, Repr

/-- The rounds that are left of the loop in `parse`. -/
def parseLoop : Nat → Client → List UInt8 → ParseResult → Except Fault ParseReturn
  | 0, client, data, result => .ok ⟨client, result, 0, data⟩
  | rounds + 1, client, data, result =>
      if data = [] then .ok ⟨client, result, 0, data⟩
      else
        match rs232RspParse result.rspId data result.payload with
        | .error fault => .error fault
        | .ok parsed =>
            if parsed.output.size > maxPacketLen then .error .outOfBounds
            else
              let result := { result with payload := parsed.output, status := parsed.err }
              let rest := parsed.dataIn.drop parsed.processed
              if parsed.err = ParseStatus.ok then
                if client.lastRqId ≠ expRspDetect ∧ result.rspId ≠ client.lastRqId then
                  .ok ⟨client, { result with status := ParseStatus.rspUnexpected },
                    parsed.processed, rest⟩
                else .ok ⟨client, result, parsed.processed, rest⟩
              else if parsed.err = ParseStatus.rqRejected then
                .ok ⟨ackRsp client.lastRqId client, result, parsed.processed, rest⟩
              else if parsed.err = ParseStatus.invalidCrc ∨
                  parsed.err = ParseStatus.packetMalformed then
                .ok ⟨client, result, parsed.processed, rest⟩
              else
                -- No packet, or a status that is only logged: the next round.
                match parseLoop rounds client rest result with
                | .error fault => .error fault
                | .ok later => .ok { later with processed := parsed.processed + later.processed }

def parse (client : Client) (data : List UInt8) (result : ParseResult) :
    Except Fault ParseReturn :=
  let result :=
    { result with status := ParseStatus.noPacket, payloadLen := 0, rspId := client.lastRqId }
  if client.lastRqId = expRspInvalid then .ok ⟨client, result, 0, data⟩
  else parseLoop 8 client data result

/-- The rounds that are left of the loop in `process_data`: the client, the calls made and the
processed bytes. -/
def processRounds : Nat → Client → List UInt8 → ParseResult →
    Except Fault (Client × List Call × Nat)
  | 0, client, _, _ => .ok (client, [], 0)
  | rounds + 1, client, data, result =>
      if data = [] then .ok (client, [], 0)
      else
        match parse client data result with
        | .error fault => .error fault
        | .ok ⟨client, result, processed, rest⟩ =>
            let accepted := result.status = ParseStatus.ok
            let calls := if accepted then packetCalls client.lastRqId result.payload else []
            let client := if accepted then ackRsp client.lastRqId client else client
            match processRounds rounds client rest result with
            | .error fault => .error fault
            | .ok (client, later, count) => .ok (client, calls ++ later, processed + count)

def processData (newData : List UInt8) (receiver : Receiver) : Except Fault Receiver :=
  match receiver.ring.ringbufWrite newData with
  | .error fault => .error fault
  | .ok ring =>
      match ring.ringbufRead maxPacketLen with
      | .error fault => .error fault
      | .ok [] => .ok { receiver with ring }
      | .ok data@(_ :: _) =>
          match processRounds 8 receiver.client data .zero with
          | .error fault => .error fault
          | .ok (client, calls, processed) =>
              if processed > 0 then
                match ring.ringbufClear processed with
                | .error fault => .error fault
                | .ok ring => .ok { client, ring, calls := receiver.calls ++ calls }
              else .ok { client, ring, calls := receiver.calls ++ calls }

/-- `uart_rx_cb`: the data is copied to the payload of a command of the task. -/
def uartRxCb (data : List UInt8) : Except Fault (List UInt8) :=
  if data = [] then .error (.assertion .dataLen)
  else if data.length > maxPacketLen then .error .outOfBounds
  else .ok data

/-- A chunk from the UART task, up to the end of the command it is sent in. -/
def receive (chunk : List UInt8) (receiver : Receiver) : Except Fault Receiver :=
  match uartRxCb chunk with
  | .error fault => .error fault
  | .ok payload => processData payload receiver

def receiveAll : List (List UInt8) → Receiver → Except Fault Receiver
  | [], receiver => .ok receiver
  | chunk :: rest, receiver =>
      match receive chunk receiver with
      | .error fault => .error fault
      | .ok receiver => receiveAll rest receiver

end EsInverter.SerialClient
