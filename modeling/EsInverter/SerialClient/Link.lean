import EsInverter.RingBuf.Queue
import EsInverter.Rs232.Frame
import EsInverter.SerialClient.Commands
import EsInverter.SerialClient.Receive

/-!
# The client and the inverter

The inverter answers the requests in the order in which they were sent.  A reply
does not say what it answers, so every byte of the model carries the transmission
that it was sent in answer to.  The functions of the receiver are repeated here
with a list of what they credit; without that list they are the functions
themselves.
-/

set_option autoImplicit false

namespace EsInverter.SerialClient

open Lib Rs232

/-- A request on the wire: the slot it was taken from and its identifier. -/
structure Transmission where
  slot : Nat
  rqId : UInt16
  deriving DecidableEq, Repr

/-- An act of crediting, with the transmissions whose replies the bytes of the frame are from. -/
inductive Deed
  /-- The sub-parser of a request is called. -/
  | applied (rqId : UInt16) (origins : List Transmission)
  /-- `ack_rsp` is called and changes the slot, if there is one. -/
  | acked (rqId : UInt16) (slot : Option Nat) (origins : List Transmission)
  deriving DecidableEq, Repr

/-- The frame whose checksum is right: its opening parenthesis and its carriage return. -/
def checkedFrame (dataIn : List UInt8) : Option (Nat × Nat) :=
  if dataIn.length < 5 then none
  else
    match packetStart dataIn 0 none with
    | none => none
    | some start =>
        match packetEnd dataIn start with
        | none => none
        | some finish =>
            if finish - start ≤ 2 then none
            else
              let actCrc := (dataIn.getD (finish - 2) 0).toUInt16 <<< 8 |||
                (dataIn.getD (finish - 1) 0).toUInt16
              let expCrc := crc16Xmodem ((dataIn.drop start).take (finish - start - 2))
              if expCrc ≠ actCrc then none else some (start, finish)

def frameOrigins (dataIn : List UInt8) (tags : List Transmission) : List Transmission :=
  match checkedFrame dataIn with
  | none => []
  | some (start, finish) => (tags.drop start).take (finish + 1 - start)

def parserDeeds (rqId : UInt16) (dataIn : List UInt8) (tags : List Transmission) : List Deed :=
  match checkedFrame dataIn with
  | none => []
  | some (start, finish) =>
      if parseRspIsNak ((dataIn.drop (start + 1)).take (finish - start - 3)) then []
      else
        match Cmd.ofCode? rqId with
        | none => []
        | some _ => [.applied rqId (frameOrigins dataIn tags)]

def parseLoopDeeds : Nat → Client → List UInt8 → List Transmission → ParseResult →
    List Deed × Except Fault ParseReturn
  | 0, client, data, _, result => ([], .ok ⟨client, result, 0, data⟩)
  | rounds + 1, client, data, tags, result =>
      if data = [] then ([], .ok ⟨client, result, 0, data⟩)
      else
        let deeds := parserDeeds result.rspId data tags
        match rs232RspParse result.rspId data result.payload with
        | .error fault => (deeds, .error fault)
        | .ok parsed =>
            if parsed.output.size > maxPacketLen then (deeds, .error .outOfBounds)
            else
              let result := { result with payload := parsed.output, status := parsed.err }
              let rest := parsed.dataIn.drop parsed.processed
              if parsed.err = ParseStatus.ok then
                if client.lastRqId ≠ expRspDetect ∧ result.rspId ≠ client.lastRqId then
                  (deeds, .ok ⟨client, { result with status := ParseStatus.rspUnexpected },
                    parsed.processed, rest⟩)
                else (deeds, .ok ⟨client, result, parsed.processed, rest⟩)
              else if parsed.err = ParseStatus.rqRejected then
                (deeds ++ [.acked client.lastRqId (ackedSlot client.lastRqId client)
                    (frameOrigins data tags)],
                  .ok ⟨ackRsp client.lastRqId client, result, parsed.processed, rest⟩)
              else if parsed.err = ParseStatus.invalidCrc ∨
                  parsed.err = ParseStatus.packetMalformed then
                (deeds, .ok ⟨client, result, parsed.processed, rest⟩)
              else
                let later := parseLoopDeeds rounds client rest (tags.drop parsed.processed) result
                (deeds ++ later.1,
                  match later.2 with
                  | .error fault => .error fault
                  | .ok later => .ok { later with processed := parsed.processed + later.processed })

def parseDeeds (client : Client) (data : List UInt8) (tags : List Transmission)
    (result : ParseResult) : List Deed × Except Fault ParseReturn :=
  let result :=
    { result with status := ParseStatus.noPacket, payloadLen := 0, rspId := client.lastRqId }
  if client.lastRqId = expRspInvalid then ([], .ok ⟨client, result, 0, data⟩)
  else parseLoopDeeds 8 client data tags result

/-- `processRounds` with its deeds; `packet_handler` acknowledges what `parse` has accepted. -/
def processRoundsDeeds : Nat → Client → List UInt8 → List Transmission → ParseResult →
    List Deed × Except Fault (Client × List Call × Nat)
  | 0, client, _, _, _ => ([], .ok (client, [], 0))
  | rounds + 1, client, data, tags, result =>
      if data = [] then ([], .ok (client, [], 0))
      else
        let parsed := parseDeeds client data tags result
        match parsed.2 with
        | .error fault => (parsed.1, .error fault)
        | .ok ⟨client, result, processed, rest⟩ =>
            let accepted := result.status = ParseStatus.ok
            let deeds := parsed.1 ++
              if accepted then
                [.acked client.lastRqId (ackedSlot client.lastRqId client) (tags.take processed)]
              else []
            let calls := if accepted then packetCalls client.lastRqId result.payload else []
            let client := if accepted then ackRsp client.lastRqId client else client
            let later := processRoundsDeeds rounds client rest (tags.drop processed) result
            (deeds ++ later.1,
              match later.2 with
              | .error fault => .error fault
              | .ok (client, later, count) => .ok (client, calls ++ later, processed + count))

/-- `processData` with its deeds, and with the tags of the bytes in the ring. -/
def processDataDeeds (newData : List UInt8) (newTags : List Transmission) (receiver : Receiver)
    (tags : List Transmission) : List Deed × List Transmission × Except Fault Receiver :=
  match receiver.ring.ringbufWrite newData with
  | .error fault => ([], tags, .error fault)
  | .ok ring =>
      let tags := lastOf (2 * maxPacketLen) (tags ++ newTags)
      match ring.ringbufRead maxPacketLen with
      | .error fault => ([], tags, .error fault)
      | .ok [] => ([], tags, .ok { receiver with ring })
      | .ok data@(_ :: _) =>
          let looped := processRoundsDeeds 8 receiver.client data (tags.take maxPacketLen) .zero
          match looped.2 with
          | .error fault => (looped.1, tags, .error fault)
          | .ok (client, calls, processed) =>
              if processed > 0 then
                match ring.ringbufClear processed with
                | .error fault => (looped.1, tags, .error fault)
                | .ok ring =>
                    (looped.1, tags.drop processed,
                      .ok { client, ring, calls := receiver.calls ++ calls })
              else (looped.1, tags, .ok { client, ring, calls := receiver.calls ++ calls })

/-! ### Without the deeds they are the functions of the receiver -/

theorem parseLoopDeeds_snd (rounds : Nat) (client : Client) (data : List UInt8)
    (tags : List Transmission) (result : ParseResult) :
    (parseLoopDeeds rounds client data tags result).2 = parseLoop rounds client data result := by
  induction rounds generalizing data tags result with
  | zero => rfl
  | succ rounds ih =>
      rw [parseLoopDeeds, parseLoop]
      split
      · rfl
      · cases rs232RspParse result.rspId data result.payload with
        | error fault => rfl
        | ok parsed =>
            dsimp only
            split
            · rfl
            · split
              · split <;> rfl
              · split
                · rfl
                · split
                  · rfl
                  · dsimp only
                    cases later : (parseLoopDeeds rounds client
                        (parsed.dataIn.drop parsed.processed) (tags.drop parsed.processed)
                        { result with payload := parsed.output, status := parsed.err }).2 with
                    | error fault =>
                        rw [ih] at later
                        simp only [later]
                    | ok returned =>
                        rw [ih] at later
                        simp only [later]

theorem parseDeeds_snd (client : Client) (data : List UInt8) (tags : List Transmission)
    (result : ParseResult) : (parseDeeds client data tags result).2 = parse client data result := by
  rw [parseDeeds, parse]
  split
  · rfl
  · exact parseLoopDeeds_snd 8 client data tags _

theorem processRoundsDeeds_snd (rounds : Nat) (client : Client) (data : List UInt8)
    (tags : List Transmission) (result : ParseResult) :
    (processRoundsDeeds rounds client data tags result).2 =
      processRounds rounds client data result := by
  induction rounds generalizing client data tags result with
  | zero => rfl
  | succ rounds ih =>
      rw [processRoundsDeeds, processRounds]
      split
      · rfl
      · dsimp only
        rw [parseDeeds_snd]
        cases parse client data result with
        | error fault => rfl
        | ok returned =>
            have later := ih
              (if returned.result.status = ParseStatus.ok then
                ackRsp returned.client.lastRqId returned.client else returned.client)
              returned.rest (tags.drop returned.processed) returned.result
            dsimp only
            cases rounds_ : (processRoundsDeeds rounds
                (if returned.result.status = ParseStatus.ok then
                  ackRsp returned.client.lastRqId returned.client else returned.client)
                returned.rest (tags.drop returned.processed) returned.result).2 with
            | error fault =>
                rw [rounds_] at later
                simp only [← later]
            | ok finished =>
                rw [rounds_] at later
                simp only [← later]

theorem processDataDeeds_snd (newData : List UInt8) (newTags : List Transmission)
    (receiver : Receiver) (tags : List Transmission) :
    (processDataDeeds newData newTags receiver tags).2.2 = processData newData receiver := by
  rw [processDataDeeds, processData]
  cases receiver.ring.ringbufWrite newData with
  | error fault => rfl
  | ok ring =>
      dsimp only
      cases ring.ringbufRead maxPacketLen with
      | error fault => rfl
      | ok data =>
          cases data with
          | nil => rfl
          | cons byte rest =>
              dsimp only
              rw [processRoundsDeeds_snd]
              cases processRounds 8 receiver.client (byte :: rest) .zero with
              | error fault => rfl
              | ok looped =>
                  dsimp only
                  split
                  · cases ring.ringbufClear looped.2.2 <;> rfl
                  · rfl

/-- The receiver, and what is under way between it and the inverter. -/
structure Link where
  receiver : Receiver
  /-- The requests that the inverter has not answered yet, the oldest first. -/
  unanswered : List Transmission
  /-- The bytes that were sent and have not arrived. -/
  wire : List (UInt8 × Transmission)
  /-- What the bytes in the ring are from. -/
  arrived : List Transmission
  deeds : List Deed
  /-- A fault has stopped the device. -/
  stopped : Bool
  deriving DecidableEq, Repr

theorem ringSize_pos : 0 < 2 * maxPacketLen := by
  decide

def Link.initial : Link :=
  { receiver :=
      { client := .initial
        ring := RingBuf.ringbufInit (2 * maxPacketLen) ringSize_pos
        calls := [] }
    unanswered := [], wire := [], arrived := [], deeds := [], stopped := false }

def transmitted (sent : Bool) (client : Client) : List Transmission :=
  match chosen client with
  | some (idx, rq) => if sent then [⟨idx, rq.rqId⟩] else []
  | none => []

def Link.receive (chunk : List (UInt8 × Transmission)) (link : Link) : Link :=
  match uartRxCb (chunk.map Prod.fst) with
  | .error _ => { link with stopped := true }
  | .ok payload =>
      match processDataDeeds payload (chunk.map Prod.snd) link.receiver link.arrived with
      | (deeds, arrived, .ok receiver) =>
          { link with receiver, arrived, deeds := link.deeds ++ deeds }
      | (deeds, arrived, .error _) =>
          { link with arrived, deeds := link.deeds ++ deeds, stopped := true }

inductive LinkEvent
  | addRq (allocated : Bool) (rqId : UInt16) (payload : List UInt8) (timeout : UInt32)
      (retries : UInt8)
  | addPeriodicRq (allocated : Bool) (rqId : UInt16) (payload : List UInt8) (period : UInt32)
  | removePeriodicRq (rqId : UInt16)
  /-- `SC_CMD_TIMER`, and whether `em_uart_send` succeeds. -/
  | timer (sent : Bool)
  /-- The inverter answers the oldest request with a frame; `NAK` is one of the bodies. -/
  | answer (body : List UInt8)
  /-- The UART task hands over the next bytes. -/
  | arrive (count : Nat)
  deriving DecidableEq, Repr

/-- The commands of the task that do not receive. -/
def LinkEvent.command : LinkEvent → Option Event
  | addRq allocated rqId payload timeout retries =>
      some (.addRq allocated rqId payload timeout retries)
  | addPeriodicRq allocated rqId payload period =>
      some (.addPeriodicRq allocated rqId payload period)
  | removePeriodicRq rqId => some (.removePeriodicRq rqId)
  | timer sent => some (.timer sent)
  | answer _ => none
  | arrive _ => none

def LinkEvent.sends (client : Client) : LinkEvent → List Transmission
  | timer sent => transmitted sent client
  | _ => []

def Link.step (link : Link) (event : LinkEvent) : Option Link :=
  if link.stopped then none
  else
    match event with
    | .answer body =>
        match link.unanswered with
        | [] => none
        | oldest :: rest =>
            some { link with
              unanswered := rest
              wire := link.wire ++ (replyFrame body).map (·, oldest) }
    | .arrive count =>
        if 1 ≤ count ∧ count ≤ uartReadBufSize ∧ count ≤ link.wire.length then
          some ({ link with wire := link.wire.drop count }.receive (link.wire.take count))
        else none
    | event =>
        event.command.bind fun command =>
          (link.receiver.client.step command).map fun client =>
            { link with
              receiver := { link.receiver with client }
              unanswered := link.unanswered ++ event.sends link.receiver.client }

def links : Machine Link LinkEvent := ⟨Link.step⟩

end EsInverter.SerialClient
