import EsInverter.Rs232.Frame
import EsInverter.SerialClient.Receive

/-!
# Delivery of replies

A reply is delivered when the first handler registered for its request is called
with what the sub-parser read, and the request is acknowledged.  The status of
an accepted packet is the zero of its sub-parser, whereas `parse` and
`process_data` look for `PARSE_STATUS_OK`, which is one.
-/

set_option autoImplicit false

namespace EsInverter.SerialClient

open Rs232

/-! ### No status is `PARSE_STATUS_OK` -/

theorem parseLoop_status {rounds : Nat} {client : Client} {data : List UInt8}
    {result : ParseResult} {returned : ParseReturn} (before : result.status ≠ ParseStatus.ok)
    (done : parseLoop rounds client data result = .ok returned) :
    returned.result.status ≠ ParseStatus.ok := by
  induction rounds generalizing data result returned with
  | zero =>
      cases done
      exact before
  | succ rounds ih =>
      rw [parseLoop] at done
      split at done
      · cases done
        exact before
      · cases called : rs232RspParse result.rspId data result.payload with
        | error fault =>
            rw [called] at done
            cases done
        | ok parsed =>
            have unlike : parsed.err ≠ ParseStatus.ok := rs232RspParse_err called
            rw [called] at done
            dsimp only at done
            split at done
            · cases done
            · split at done
              · cases done
                exact unlike
              · split at done
                · cases done
                  exact unlike
                · split at done
                  · cases done
                  · rename_i later continued
                    have kept := ih unlike continued
                    cases done
                    exact kept

theorem parse_status {client : Client} {data : List UInt8} {result : ParseResult}
    {returned : ParseReturn} (done : parse client data result = .ok returned) :
    returned.result.status ≠ ParseStatus.ok := by
  rw [parse] at done
  split at done
  · cases done
    exact ParseStatus.noPacket_ne_ok
  · exact parseLoop_status ParseStatus.noPacket_ne_ok done

/-! ### No handler is called -/

theorem processRounds_calls {rounds : Nat} {client finish : Client} {data : List UInt8}
    {result : ParseResult} {calls : List Call} {processed : Nat}
    (done : processRounds rounds client data result = .ok (finish, calls, processed)) :
    calls = [] := by
  induction rounds generalizing client data result calls processed with
  | zero =>
      cases done
      rfl
  | succ rounds ih =>
      rw [processRounds] at done
      split at done
      · cases done
        rfl
      · cases called : parse client data result with
        | error fault =>
            rw [called] at done
            cases done
        | ok returned =>
            have unlike := parse_status called
            rw [called] at done
            dsimp only at done
            rw [if_neg unlike, if_neg unlike] at done
            split at done
            · cases done
            · rename_i next later count continued
              cases done
              exact ih continued

theorem processData_calls {newData : List UInt8} {receiver finish : Receiver}
    (done : processData newData receiver = .ok finish) : finish.calls = receiver.calls := by
  unfold processData at done
  split at done
  · cases done
  · split at done
    · cases done
    · cases done
      rfl
    · split at done
      · cases done
      · rename_i client calls processed looped
        have none := processRounds_calls looped
        subst none
        split at done
        · split at done
          · cases done
          · cases done
            exact List.append_nil _
        · cases done
          exact List.append_nil _

theorem receive_calls {chunk : List UInt8} {receiver finish : Receiver}
    (done : receive chunk receiver = .ok finish) : finish.calls = receiver.calls := by
  rw [receive] at done
  split at done
  · cases done
  · exact processData_calls done

/-- Whatever arrives, no handler is ever called. -/
theorem receiveAll_calls {chunks : List (List UInt8)} {receiver finish : Receiver}
    (done : receiveAll chunks receiver = .ok finish) : finish.calls = receiver.calls := by
  induction chunks generalizing receiver with
  | nil =>
      cases done
      rfl
  | cons chunk rest ih =>
      rw [receiveAll] at done
      cases received : receive chunk receiver with
      | error fault =>
          rw [received] at done
          cases done
      | ok next =>
          rw [received] at done
          exact (ih done).trans (receive_calls received)

/-- A reply to the outstanding request, as the UART task hands it over. -/
structure Exchange where
  cmd : Cmd
  handler : Handler
  registered : firstHandler cmd.code = some handler
  body : List UInt8
  bodyPlain : openingParenthesis ∉ body ∧ carriageReturn ∉ body
  crcPlain : ∀ byte ∈ crcBytes (crc16Xmodem (openingParenthesis :: body)),
    byte ≠ openingParenthesis ∧ byte ≠ carriageReturn
  response : Payload
  accepted : cmd.subParser body .zero = .ok (0, response)
  chunks : List (List UInt8)
  sizes : ∀ chunk ∈ chunks, 1 ≤ chunk.length ∧ chunk.length ≤ uartReadBufSize
  cut : chunks.flatten = replyFrame body
  receiver : Receiver
  emptyRing : receiver.ring.ringbufIsEmpty
  outstanding : receiver.client.lastRqId = cmd.code
  slot : ∃ rq ∈ receiver.client.rq, rq.active ∧ rq.rqId = cmd.code

/-- The handler is called once, for the last chunk, and the request is acknowledged. -/
def Exchange.Delivered (exchange : Exchange) : Prop :=
  ∃ earlier last before after,
    exchange.chunks = earlier ++ [last] ∧
    receiveAll earlier exchange.receiver = .ok before ∧
    before.calls = exchange.receiver.calls ∧
    receive last before = .ok after ∧
    after.calls = exchange.receiver.calls ++ [⟨exchange.handler, exchange.response⟩] ∧
    after.client.lastRqId = expRspInvalid

/-- No reply that its sub-parser accepts is delivered, whatever its kind, its body and its chunks. -/
theorem not_delivered (exchange : Exchange) : ¬ exchange.Delivered := by
  rintro ⟨earlier, last, before, after, _, _, quiet, received, called, _⟩
  have unchanged : after.calls = exchange.receiver.calls := (receive_calls received).trans quiet
  rw [unchanged] at called
  simp at called

/-! ### The reply `"(L"` to `QMOD`, in one chunk -/

def modeRq : Rq :=
  { Rq.zero with rqId := Cmd.qmod.code, timeout := 10176, active := true, periodic := true,
                 payload := some [81, 77, 79, 68, 73, 193, 13], payloadLen := 7 }

def modeClient : Client :=
  { Client.initial with lastRqId := Cmd.qmod.code, rq := modeRq :: List.replicate 4 .zero }

def modeReceiver : Receiver :=
  { client := modeClient, ring := RingBuf.ringbufInit _ (by decide), calls := [] }

def modeReply : Exchange :=
  { cmd := .qmod, handler := .invMode, registered := by decide, body := [76],
    bodyPlain := by decide, crcPlain := by decide +kernel, response := .word 76, accepted := rfl,
    chunks := [replyFrame [76]], sizes := by decide +kernel, cut := by simp,
    receiver := modeReceiver, emptyRing := by decide, outstanding := by decide,
    slot := by decide }

theorem not_delivered_modeReply : ¬ modeReply.Delivered := not_delivered modeReply

/-- The request is not even acknowledged. -/
theorem modeReply_lost : ¬ ∀ exchange : Exchange, exchange.Delivered := by
  intro always
  obtain ⟨earlier, last, before, after, cut, earlierRun, _, received, _, acknowledged⟩ :=
    always modeReply
  have single : earlier ++ [last] = [] ++ [replyFrame [76]] := cut.symm
  obtain ⟨rfl, lastFrame⟩ := List.append_inj' single rfl
  obtain rfl : last = replyFrame [76] := List.singleton_injective lastFrame
  obtain rfl : modeReceiver = before := Except.ok.inj earlierRun
  have computed : (receive (replyFrame [76]) modeReceiver).toOption.map
      (fun receiver => receiver.client.lastRqId) = some Cmd.qmod.code := by decide +kernel
  rw [received] at computed
  have outstanding : after.client.lastRqId = Cmd.qmod.code := Option.some.inj computed
  rw [acknowledged] at outstanding
  revert outstanding
  decide

end EsInverter.SerialClient
