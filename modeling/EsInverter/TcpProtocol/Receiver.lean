import EsInverter.TcpProtocol.ParserBounds

/-!
# The dispatcher of received messages

`receiver.c`: a packet is parsed by the `case` of its type, the structure is
copied to `msg_buffer` and handed to the application's callback, and a status is
sent back.  The buffer is the list of the structures copied to it since it was
last zeroed, the newest first; the callback is a parameter.
-/

set_option autoImplicit false

namespace EsInverter.TcpProtocol

open Lib.Wire

/-- `sizeof(msg_buffer)`, the size of an `energy_price_day_msg_t`. -/
def msgBufferSize : Nat := 216

/-- What `parse_message` copies to `msg_buffer`. -/
inductive Received
  | bare (type : MsgType)
  | parsed (kind : ParserKind) (msg : kind.Msg)

/-- How a `case` of `parse_message` gets what it copies. -/
inductive Form
  | bare
  | parsed (kind : ParserKind)
  deriving DecidableEq, Repr

/-- The `case` labels of `parse_message`. -/
def forms : List (MsgType × Form) :=
  [ (MsgType.connectionStatus, .parsed .connectionStatus),
    (MsgType.reboot, .bare),
    (MsgType.factoryReset, .bare),
    (MsgType.identify, .parsed .identify),
    (MsgType.updateStart, .parsed .updateStart),
    (MsgType.updateInstall, .parsed .updateInstall),
    (MsgType.wirelessEnable, .parsed .wirelessEnable),
    (MsgType.wirelessSetCredentials, .parsed .wirelessCredentials),
    (MsgType.wirelessSetTxPower, .parsed .wirelessTxPower),
    (MsgType.wirelessSetChannel, .parsed .wirelessChannel),
    (MsgType.energypriceDay, .parsed .energyPriceDay),
    (MsgType.energypriceSetPriceThreshold, .parsed .energyPriceThreshold),
    (MsgType.energypriceSetCheapPeriod, .parsed .energyPriceCheapPeriod),
    (MsgType.energypriceSetTariff, .parsed .energyPriceTariff),
    (MsgType.relaySetMode, .parsed .relayMode),
    (MsgType.relaySetState, .parsed .relayState),
    (MsgType.relaySetDefaultState, .parsed .relayDefaultState),
    (MsgType.relaySetPwm, .parsed .relayPwm),
    (MsgType.relaySetInvertedOutput, .parsed .relaySetInvertedOutput),
    (MsgType.relaySetButtonConfig, .parsed .relayButtonConfig),
    (MsgType.relaySetSchedule, .parsed .relaySchedule),
    (MsgType.relaySetOneShot, .parsed .relayOneShot),
    (MsgType.environmentSetSunnyTime, .parsed .environmentSunnyTime),
    (MsgType.environmentCloudCover, .parsed .environmentCloudCover),
    (MsgType.environmentSetPosition, .parsed .environmentPosition),
    (MsgType.meterSetCurrentLimit, .parsed .meterCurrentLimit),
    (MsgType.meterClearAlarms, .parsed .meterClearAlarms),
    (MsgType.diagCoredumpConfirmed, .bare),
    (MsgType.status, .parsed .status),
    (MsgType.get, .parsed .get) ]

/-- The `switch` of `parse_message`. -/
def formOf (type : MsgType) : Option Form := forms.lookup type

theorem forms_distinct : ∀ first ∈ forms, ∀ second ∈ forms,
    first.2 = second.2 → first.2 ≠ .bare → first.1 = second.1 := by
  decide

theorem mem_forms {type : MsgType} {form : Form} (found : formOf type = some form) :
    (type, form) ∈ forms := by
  obtain ⟨before, after, split, _⟩ := List.lookup_eq_some_iff.mp found
  rw [split]
  exact List.mem_append_right before List.mem_cons_self

/-- No two labels have the same parser. -/
theorem label_unique {type label : MsgType} {kind : ParserKind}
    (found : formOf type = some (.parsed kind)) (labelled : formOf label = some (.parsed kind)) :
    type = label :=
  forms_distinct _ (mem_forms found) _ (mem_forms labelled) rfl (by simp)

/-- A packet in the decoder's buffer.  Behind it the buffer is zero, or has the bytes of a later
packet of the same read that was cut. -/
structure Packet where
  bytes : List UInt8
  behind : Memory

def Packet.length (packet : Packet) : Nat := packet.bytes.length

/-- The memory at the address of a packet. -/
def memoryOf (packet : Packet) : Memory := Reader.ofBytes packet.bytes packet.behind

/-- The length that comes with a packet; that of the null pointer is zero. -/
def lengthOf (data : Option Packet) : Nat := (data.map Packet.length).getD 0

/-- What `parse_message` returns, with `out_type` and the buffer. -/
structure Outcome where
  ret : EspErr
  outType : MsgType
  msgBuffer : List Received

/-- The null pointer is `none`. -/
def parseMessage (data : Option Packet) (msgBuffer : List Received) :
    Except Fault Outcome :=
  match data with
  | none => .error (.assertion .dataOut)
  | some packet =>
      if packet.length ≤ msgBufferSize then do
        let type ← (parseMsgType packet.length (memoryOf packet) Cursor.start).1
        if type = MsgType.invalid then return ⟨.invalidSize, type, msgBuffer⟩
        match formOf type with
        | none => return ⟨.notSupported, type, msgBuffer⟩
        | some .bare => return ⟨.ok, type, .bare type :: msgBuffer⟩
        | some (.parsed kind) =>
            let msg ← (kind.parse packet.length (memoryOf packet) Cursor.start).1
            if Message.type msg = MsgType.invalid then return ⟨.invalidResponse, type, msgBuffer⟩
            return ⟨.ok, type, .parsed kind msg :: msgBuffer⟩
      else .error (.assertion .msgBuffer)

/-- `app_msg_dispatcher_cb_t`, with the state of the application. -/
abbrev Callback (σ : Type) := MsgType → List Received → σ → Except Fault (σ × Int32)

structure Receiver where
  msgBuffer : List Received
  /-- The arguments of the calls of `protocol_send_status`. -/
  statuses : List (MsgType × UInt8)

def Receiver.initial : Receiver := ⟨[], []⟩

/-- `app_msg_dispatcher_cb` when it is registered, and `ret` as it is otherwise. -/
def callBack {σ : Type} (appMsgDispatcherCb : Option (Callback σ)) (type : MsgType)
    (msgBuffer : List Received) (app : σ) : Except Fault (σ × Int32) :=
  match appMsgDispatcherCb with
  | some callback => callback type msgBuffer app
  | none => .ok (app, 0)

def protocolReceiverDispatcher {σ : Type} (appMsgDispatcherCb : Option (Callback σ))
    (data : Option Packet) (receiver : Receiver) (app : σ) :
    Except Fault (EspErr × Receiver × σ) :=
  if lengthOf data ≤ msgBufferSize then do
    let outcome ← parseMessage data receiver.msgBuffer
    if outcome.ret ≠ .ok then
      return (outcome.ret, { receiver with msgBuffer := outcome.msgBuffer }, app)
    let (app, ret) ← callBack appMsgDispatcherCb outcome.outType outcome.msgBuffer app
    let statuses :=
      if outcome.outType ≠ MsgType.get ∨ ret ≠ 0 then
        receiver.statuses ++ [(outcome.outType, ret.toUInt32.toUInt8)]
      else receiver.statuses
    return (.ok, ⟨[], statuses⟩, app)
  else .error (.assertion .msgBuffer)

/-! ### One message -/

/-- The type of a packet, as `parse_msg_type` reads it. -/
def typeOf (packet : Packet) : MsgType :=
  if packet.length < sizeofUint16 then MsgType.invalid else Reader.word16 (memoryOf packet) 0

theorem run_parseMsgType (packet : Packet) :
    (parseMsgType packet.length (memoryOf packet) Cursor.start).1 = .ok (typeOf packet) := by
  rw [parseMsgType, typeOf]
  split
  · rfl
  · rw [run_parseUint16]
    rfl

section Message

variable {packet : Packet} (msgBuffer : List Received)

theorem parseMessage_known (fits : packet.length ≤ msgBufferSize)
    (known : typeOf packet ≠ MsgType.invalid) :
    parseMessage (some packet) msgBuffer =
      match formOf (typeOf packet) with
      | none => .ok ⟨.notSupported, typeOf packet, msgBuffer⟩
      | some .bare => .ok ⟨.ok, typeOf packet, .bare (typeOf packet) :: msgBuffer⟩
      | some (.parsed kind) =>
          (kind.parse packet.length (memoryOf packet) Cursor.start).1 >>= fun msg =>
            if Message.type msg = MsgType.invalid then
              .ok ⟨.invalidResponse, typeOf packet, msgBuffer⟩
            else .ok ⟨.ok, typeOf packet, .parsed kind msg :: msgBuffer⟩ := by
  rw [parseMessage, if_pos fits, run_parseMsgType]
  exact if_neg known

theorem parseMessage_invalid (fits : packet.length ≤ msgBufferSize)
    (invalid : typeOf packet = MsgType.invalid) :
    parseMessage (some packet) msgBuffer = .ok ⟨.invalidSize, typeOf packet, msgBuffer⟩ := by
  rw [parseMessage, if_pos fits, run_parseMsgType]
  exact if_pos invalid

/-- `out_type` is the type of the packet, whatever is returned. -/
theorem outType_parseMessage (fits : packet.length ≤ msgBufferSize) {outcome : Outcome}
    (ran : parseMessage (some packet) msgBuffer = .ok outcome) :
    outcome.outType = typeOf packet := by
  by_cases invalid : typeOf packet = MsgType.invalid
  · rw [parseMessage_invalid msgBuffer fits invalid] at ran
    cases ran
    rfl
  rw [parseMessage_known msgBuffer fits invalid] at ran
  split at ran
  · cases ran
    rfl
  · cases ran
    rfl
  · obtain ⟨msg, _, ran⟩ := bind_ok ran
    split at ran
    · cases ran
      rfl
    · cases ran
      rfl

end Message

section Dispatch

variable {σ : Type} {callback : Option (Callback σ)} {data : Option Packet}
  {receiver : Receiver} {app : σ}

theorem not_stops_dispatcher (fits : lengthOf data ≤ msgBufferSize)
    (parsed : ¬ Stops (parseMessage data receiver.msgBuffer))
    (handled : ∀ outcome, parseMessage data receiver.msgBuffer = .ok outcome → outcome.ret = .ok →
      ¬ Stops (callBack callback outcome.outType outcome.msgBuffer app)) :
    ¬ Stops (protocolReceiverDispatcher callback data receiver app) := by
  rw [protocolReceiverDispatcher, if_pos fits]
  refine not_stops_bind parsed fun outcome ran => ?_
  by_cases accepted : outcome.ret = .ok
  · rw [if_neg (not_not_intro accepted)]
    exact not_stops_bind (handled outcome ran accepted) fun _ _ => not_stops_ok _
  · rw [if_pos accepted]
    exact not_stops_ok _

theorem stops_dispatcher_of_parse (fits : lengthOf data ≤ msgBufferSize)
    (stopped : Stops (parseMessage data receiver.msgBuffer)) :
    Stops (protocolReceiverDispatcher callback data receiver app) := by
  rw [protocolReceiverDispatcher, if_pos fits]
  exact stops_bind stopped _

theorem stops_dispatcher_of_callback (fits : lengthOf data ≤ msgBufferSize)
    {outcome : Outcome} (ran : parseMessage data receiver.msgBuffer = .ok outcome)
    (accepted : outcome.ret = .ok)
    (stopped : Stops (callBack callback outcome.outType outcome.msgBuffer app)) :
    Stops (protocolReceiverDispatcher callback data receiver app) := by
  rw [protocolReceiverDispatcher, if_pos fits, ran]
  change Stops (if outcome.ret ≠ .ok then _ else _)
  rw [if_neg (not_not_intro accepted)]
  exact stops_bind stopped _

end Dispatch

/-! ### The parsers that stop the device -/

/-- `img_url_len` and the lengths that are announced behind the type. -/
def fieldAt (memory : Memory) (offset : Nat) : Nat := (Reader.word16 memory offset).toNat

/-- The buffers on which a parser's own assertion fails. -/
def ParserKind.Trips (bufLen : Nat) (memory : Memory) : ParserKind → Prop
  | .updateStart =>
      bufLen = updateStartFixedSize + fieldAt memory 18 ∧ imageUrlMaxLen ≤ fieldAt memory 18
  | .wirelessCredentials => 7 ≤ bufLen
  | .relaySchedule => 88 ≤ bufLen ∧ fieldAt memory 2 ≠ 84
  | .environmentCloudCover => 14 ≤ bufLen ∧ fieldAt memory 12 ≠ 96
  | _ => False

section LengthCheck

variable {α : Type} [Message α] {fields : Parser α} {size count bufLen : Nat}
  [width : Reader.FixedWidth fields count]

include width in
/-- A parser of fields with a fixed width returns a message. -/
theorem parseExact_returns (memory : Memory) :
    ∃ msg, (parseExact size bufLen fields memory Cursor.start).1 = .ok msg := by
  obtain ⟨msg, ran⟩ := width.consumes memory Cursor.start
  rw [parseExact]
  split
  · exact ⟨_, rfl⟩
  · exact ⟨msg, by rw [ran]⟩

include width in
theorem parseAtLeast_returns (memory : Memory) :
    ∃ msg, (parseAtLeast size bufLen fields memory Cursor.start).1 = .ok msg := by
  obtain ⟨msg, ran⟩ := width.consumes memory Cursor.start
  rw [parseAtLeast]
  split
  · exact ⟨_, rfl⟩
  · exact ⟨msg, by rw [ran]⟩

end LengthCheck

theorem parseUpdateStartUrl_stops_iff (msg : UpdateStartMsg) (memory : Memory) (cursor : Cursor) :
    Stops (parseUpdateStartUrl msg memory cursor).1 ↔ imageUrlMaxLen ≤ msg.imgUrlLen.toNat := by
  by_cases fits : msg.imgUrlLen.toNat < (imageUrlMaxLen + 1) - 1
  · refine iff_of_false ?_ (by omega)
    obtain ⟨parsed, ran⟩ := run_parseUpdateStartUrl_fits fits memory cursor
    rw [ran]
    exact not_stops_ok parsed
  · refine iff_of_true ?_ (by omega)
    rw [run_parseUpdateStartUrl_long fits]
    exact ⟨_, rfl⟩

theorem parseUpdateStartMsg_stops_iff (bufLen : Nat) (memory : Memory) :
    Stops (parseUpdateStartMsg bufLen memory Cursor.start).1 ↔
      ParserKind.updateStart.Trips bufLen memory := by
  obtain ⟨msg, ranHead, urlLen⟩ := run_parseUpdateStartHead memory
  by_cases short : bufLen < updateStartFixedSize
  · rw [parseUpdateStartMsg, length_rejected short]
    refine iff_of_false (not_stops_ok _) ?_
    rintro ⟨whole, _⟩
    omega
  rw [parseUpdateStartMsg, length_accepted (Nat.le_of_not_lt short), Reader.run_bind_ok ranHead]
  have same : fieldAt memory 18 = msg.imgUrlLen.toNat := urlLen.symm
  by_cases whole : bufLen = updateStartFixedSize + msg.imgUrlLen.toNat
  · rw [if_neg (not_not_intro whole), parseUpdateStartUrl_stops_iff, ParserKind.Trips, same]
    exact ⟨fun long => ⟨whole, long⟩, And.right⟩
  · rw [if_pos whole, ParserKind.Trips, same]
    exact iff_of_false (not_stops_ok _) fun trips => whole trips.1

theorem parseRelayScheduleMsg_stops_iff (bufLen : Nat) (memory : Memory) :
    Stops (parseRelayScheduleMsg bufLen memory Cursor.start).1 ↔
      ParserKind.relaySchedule.Trips bufLen memory := by
  by_cases long : 88 ≤ bufLen
  case neg =>
    rw [parseRelayScheduleMsg, length_rejected (by exact Nat.lt_of_not_le long)]
    exact iff_of_false (not_stops_ok _) fun trips => long trips.1
  rcases run_parseRelayScheduleMsg long memory with ⟨partly, ran⟩ | ⟨whole, msg, ran⟩
  · rw [ran]
    exact iff_of_true ⟨_, rfl⟩ ⟨long, partly⟩
  · rw [ran]
    exact iff_of_false (not_stops_ok _) fun trips => trips.2 whole

theorem parseEnvironmentCloudCoverMsg_stops_iff (bufLen : Nat) (memory : Memory) :
    Stops (parseEnvironmentCloudCoverMsg bufLen memory Cursor.start).1 ↔
      ParserKind.environmentCloudCover.Trips bufLen memory := by
  by_cases long : 14 ≤ bufLen
  case neg =>
    rw [parseEnvironmentCloudCoverMsg, length_rejected (by exact Nat.lt_of_not_le long)]
    exact iff_of_false (not_stops_ok _) fun trips => long trips.1
  rcases run_parseEnvironmentCloudCoverMsg long memory with ⟨partly, ran⟩ | ⟨whole, msg, _, ran⟩
  · rw [ran]
    exact iff_of_true ⟨_, rfl⟩ ⟨long, partly⟩
  · rw [ran]
    exact iff_of_false (not_stops_ok _) fun trips => trips.2 whole

theorem parseRelayButtonConfigMsg_returns (bufLen : Nat) (memory : Memory) :
    ∃ msg, (parseRelayButtonConfigMsg bufLen memory Cursor.start).1 = .ok msg := by
  by_cases long : 4 ≤ bufLen
  case neg =>
    rw [parseRelayButtonConfigMsg, length_rejected (by exact Nat.lt_of_not_le long)]
    exact ⟨_, rfl⟩
  by_cases announced : bufLen = 4 + modeLenField memory
  · obtain ⟨msg, _, ran⟩ := run_parseRelayButtonConfigMsg announced
    exact ⟨msg, by rw [ran]⟩
  · obtain ⟨msg, _, ran⟩ := run_parseRelayButtonConfigMsg_rejected long announced
    exact ⟨msg, by rw [ran]⟩

/-- An assertion of a parser fails exactly on the buffers of four kinds. -/
theorem parse_stops_iff (kind : ParserKind) (bufLen : Nat) (memory : Memory) :
    Stops (kind.parse bufLen memory Cursor.start).1 ↔ kind.Trips bufLen memory := by
  cases kind with
  | updateStart => exact parseUpdateStartMsg_stops_iff bufLen memory
  | relaySchedule => exact parseRelayScheduleMsg_stops_iff bufLen memory
  | environmentCloudCover => exact parseEnvironmentCloudCoverMsg_stops_iff bufLen memory
  | wirelessCredentials =>
      by_cases long : 7 ≤ bufLen
      · rw [ParserKind.parse, run_parseWirelessCredentialsMsg long]
        exact iff_of_true ⟨_, rfl⟩ long
      · rw [ParserKind.parse, parseWirelessCredentialsMsg,
          length_rejected (by exact Nat.lt_of_not_le long)]
        exact iff_of_false (not_stops_ok _) long
  | msgType =>
      refine iff_of_false (not_stops_of_returns ?_) id
      rw [ParserKind.parse, parseMsgType]
      split
      · exact ⟨_, rfl⟩
      · exact ⟨_, rfl⟩
  | relayButtonConfig =>
      refine iff_of_false (not_stops_of_returns ?_) id
      exact parseRelayButtonConfigMsg_returns bufLen memory
  | energyPriceDay | environmentPosition =>
      exact iff_of_false (not_stops_of_returns (parseAtLeast_returns memory)) id
  | connectionStatus | identify | updateInstall | updateStop | meterCurrentLimit
  | meterClearAlarms | energyPriceThreshold | energyPriceCheapPeriod | energyPriceTariff
  | wirelessEnable | wirelessTxPower | wirelessChannel | relayMode | relayState
  | relayDefaultState | relayPwm | relaySetInvertedOutput | relayOneShot
  | environmentSunnyTime | diagSetLogsSettings | status | get =>
      exact iff_of_false (not_stops_of_returns (parseExact_returns memory)) id

/-- Behind the check of the length only the parser of the packet's type can stop at an
assertion. -/
theorem parseMessage_stops_iff {packet : Packet} (fits : packet.length ≤ msgBufferSize)
    (msgBuffer : List Received) :
    Stops (parseMessage (some packet) msgBuffer) ↔
      ∃ kind, formOf (typeOf packet) = some (.parsed kind) ∧
        kind.Trips packet.length (memoryOf packet) := by
  by_cases invalid : typeOf packet = MsgType.invalid
  · rw [parseMessage_invalid msgBuffer fits invalid]
    refine iff_of_false (not_stops_ok _) ?_
    rintro ⟨kind, found, _⟩
    rw [invalid] at found
    cases found
  rw [parseMessage_known msgBuffer fits invalid]
  cases found : formOf (typeOf packet) with
  | none => exact iff_of_false (not_stops_ok _) (by simp)
  | some form =>
      cases form with
      | bare => exact iff_of_false (not_stops_ok _) (by simp)
      | parsed kind =>
          have trips := parse_stops_iff kind packet.length (memoryOf packet)
          constructor
          · intro stops
            by_contra none
            refine not_stops_bind (fun parse => none ⟨kind, rfl, trips.mp parse⟩) ?_ stops
            exact fun _ _ => not_stops_ite (not_stops_ok _) (not_stops_ok _)
          · rintro ⟨same, found', tripping⟩
            cases found'
            exact stops_bind (trips.mpr tripping) _

end EsInverter.TcpProtocol
