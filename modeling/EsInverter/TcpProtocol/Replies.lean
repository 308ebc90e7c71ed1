import EsInverter.Lib.Simulation
import EsInverter.TcpProtocol.Capacities
import EsInverter.TcpProtocol.Receiver

/-!
# Replies to received messages

Whatever was received before, a message finds `msg_buffer` zeroed, its handler
gets its structure alone, and one status answers it.  The status carries the low
byte of what the handler returned.
-/

set_option autoImplicit false

namespace EsInverter.TcpProtocol

open Lib

/-! ### The bytes of the buffer -/

/-- `sizeof` of the structure that a `case` copies. -/
def ParserKind.size : ParserKind → Nat
  | msgType => sizeof MsgType
  | connectionStatus => sizeof ConnectionStatusMsg
  | identify => sizeof IdentifyMsg
  | updateStart => sizeof UpdateStartMsg
  | updateInstall => sizeof UpdateInstallMsg
  | updateStop => sizeof UpdateStopMsg
  | meterCurrentLimit => sizeof MeterCurrentLimitMsg
  | meterClearAlarms => sizeof MeterAlarmsMsg
  | energyPriceDay => sizeof EnergyPriceDayMsg
  | energyPriceThreshold => sizeof EnergyPriceThresholdMsg
  | energyPriceCheapPeriod => sizeof EnergyPriceCheapPeriodMsg
  | energyPriceTariff => sizeof EnergyPriceTariffMsg
  | wirelessEnable => sizeof WirelessEnableMsg
  | wirelessCredentials => sizeof WirelessCredentialsMsg
  | wirelessTxPower => sizeof WirelessTxPowerMsg
  | wirelessChannel => sizeof WirelessChannelMsg
  | relayMode => sizeof RelayModeMsg
  | relayState => sizeof RelayStateMsg
  | relayDefaultState => sizeof RelayDefaultStateMsg
  | relayPwm => sizeof RelayPwmMsg
  | relaySetInvertedOutput => sizeof RelayInvertedOutputMsg
  | relayOneShot => sizeof RelayOneShotMsg
  | relayButtonConfig => sizeof RelayButtonConfigMsg
  | relaySchedule => sizeof RelayScheduleMsg
  | environmentSunnyTime => sizeof EnvironmentSunnyTimeMsg
  | environmentCloudCover => sizeof EnvironmentCloudCoverMsg
  | environmentPosition => sizeof EnvironmentPositionMsg
  | diagSetLogsSettings => sizeof DiagSetLogsSettingsMsg
  | status => sizeof StatusMsg
  | get => sizeof GetMsg

def Received.size : Received → Nat
  | .bare _ => sizeof MsgType
  | .parsed kind _ => kind.size

theorem ParserKind.size_le (kind : ParserKind) : kind.size ≤ msgBufferSize := by
  cases kind <;> decide

/-- No `memcpy` of `parse_message` leaves the buffer. -/
theorem Received.size_le (received : Received) : received.size ≤ msgBufferSize := by
  cases received with
  | bare type => exact (by decide : sizeof MsgType ≤ msgBufferSize)
  | parsed kind msg => exact kind.size_le

/-- The buffer behind the copies; `image` gives the bytes of a structure. -/
def bufferBytes (image : Received → List UInt8) : List Received → List UInt8
  | [] => List.replicate msgBufferSize 0
  | newest :: older => image newest ++ (bufferBytes image older).drop (image newest).length

/-- A structure that is copied to the zeroed buffer is followed by zeros. -/
theorem bufferBytes_singleton {image : Received → List UInt8} {received : Received}
    (sized : (image received).length = received.size) :
    bufferBytes image [received] =
      image received ++ List.replicate (msgBufferSize - received.size) 0 := by
  rw [bufferBytes, bufferBytes, List.drop_replicate, sized]

/-! ### The law of one message -/

/-- The structure of a packet that `parse_message` accepts. -/
def Accepted (packet : Packet) (received : Received) : Prop :=
  parseMessage (some packet) [] = .ok ⟨.ok, typeOf packet, [received]⟩

/-- No status for a `GET` that succeeded, and one for any other message: it names the type, and
its error is zero exactly when the handler returned zero. -/
def Answered (type : MsgType) (ret : Int32) (before after : List (MsgType × UInt8)) : Prop :=
  (type = MsgType.get ∧ ret = 0 → after = before) ∧
    (¬(type = MsgType.get ∧ ret = 0) → ∃ error sending,
      after = before ++ [(type, error)] ∧ protocolSendStatus type error = .ok sending ∧
        sending.bytes.drop 3 = serializeUint16 type ∧ (sending.bytes[2]? = some 0 ↔ ret = 0))

section

variable {σ : Type} (callback : Option (Callback σ)) (packet : Packet) (receiver : Receiver)
  (app : σ)

/-- An accepted message is handled as if it were the first one and answered, and the buffer is
zero when the dispatcher returns. -/
structure Replied : Prop where
  accepted : ∀ outcome, parseMessage (some packet) receiver.msgBuffer = .ok outcome →
    outcome.ret = .ok → ∃ received, Accepted packet received ∧
      (∀ image : Received → List UInt8, (image received).length = received.size →
        bufferBytes image outcome.msgBuffer =
          image received ++ List.replicate (msgBufferSize - received.size) 0) ∧
      ∀ after ret, callBack callback (typeOf packet) [received] app = .ok (after, ret) →
        ∃ statuses, protocolReceiverDispatcher callback (some packet) receiver app =
            .ok (.ok, ⟨[], statuses⟩, after) ∧
          Answered (typeOf packet) ret receiver.statuses statuses
  rejected : ∀ outcome, parseMessage (some packet) receiver.msgBuffer = .ok outcome →
    outcome.ret ≠ .ok → protocolReceiverDispatcher callback (some packet) receiver app =
      .ok (outcome.ret, ⟨[], receiver.statuses⟩, app)

/-- The handler returns no multiple of 256 other than zero. -/
def Unambiguous : Prop :=
  ∀ received, Accepted packet received → ∀ after ret,
    callBack callback (typeOf packet) [received] app = .ok (after, ret) →
      ret.toInt % 256 = 0 → ret = 0

end

section Parse

variable {packet : Packet} {msgBuffer : List Received} {outcome : Outcome}

theorem fits_of_parsed (ran : parseMessage (some packet) msgBuffer = .ok outcome) :
    packet.length ≤ msgBufferSize := by
  by_contra long
  rw [parseMessage, if_neg long] at ran
  cases ran

/-- A message that is not accepted leaves the buffer, an accepted one is put on top of it. -/
theorem parseMessage_pushes (ran : parseMessage (some packet) msgBuffer = .ok outcome) :
    (outcome.ret ≠ .ok ∧ outcome.msgBuffer = msgBuffer) ∨
      ∃ received, outcome = ⟨.ok, typeOf packet, received :: msgBuffer⟩ := by
  have fits := fits_of_parsed ran
  by_cases invalid : typeOf packet = MsgType.invalid
  · rw [parseMessage_invalid msgBuffer fits invalid] at ran
    cases ran
    exact .inl ⟨by simp, rfl⟩
  rw [parseMessage_known msgBuffer fits invalid] at ran
  split at ran
  · cases ran
    exact .inl ⟨by simp, rfl⟩
  · cases ran
    exact .inr ⟨_, rfl⟩
  · obtain ⟨msg, _, ran⟩ := bind_ok ran
    split at ran
    · cases ran
      exact .inl ⟨by simp, rfl⟩
    · cases ran
      exact .inr ⟨_, rfl⟩

/-- Behind a zeroed buffer only the packet decides. -/
theorem accepted_of_parsed (ran : parseMessage (some packet) [] = .ok outcome)
    (ok : outcome.ret = .ok) :
    ∃ received, Accepted packet received ∧ outcome = ⟨.ok, typeOf packet, [received]⟩ := by
  rcases parseMessage_pushes ran with ⟨failed, _⟩ | ⟨received, rfl⟩
  · exact absurd ok failed
  · exact ⟨received, ran, rfl⟩

end Parse

section Dispatch

variable {σ : Type} {callback : Option (Callback σ)} {packet : Packet}
  {receiver : Receiver} {app : σ}

theorem dispatcher_of_rejected {outcome : Outcome}
    (ran : parseMessage (some packet) receiver.msgBuffer = .ok outcome) (failed : outcome.ret ≠ .ok) :
    protocolReceiverDispatcher callback (some packet) receiver app =
      .ok (outcome.ret, { receiver with msgBuffer := outcome.msgBuffer }, app) := by
  rw [protocolReceiverDispatcher, if_pos (by exact fits_of_parsed ran), ran]
  exact if_pos failed

/-- The statuses behind a handled message. -/
def statusesAfter (type : MsgType) (ret : Int32) (statuses : List (MsgType × UInt8)) :
    List (MsgType × UInt8) :=
  if type ≠ MsgType.get ∨ ret ≠ 0 then statuses ++ [(type, ret.toUInt32.toUInt8)] else statuses

theorem dispatcher_of_handled {received : Received}
    (ran : parseMessage (some packet) receiver.msgBuffer = .ok ⟨.ok, typeOf packet, [received]⟩)
    {after : σ} {ret : Int32}
    (handled : callBack callback (typeOf packet) [received] app = .ok (after, ret)) :
    protocolReceiverDispatcher callback (some packet) receiver app =
      .ok (.ok, ⟨[], statusesAfter (typeOf packet) ret receiver.statuses⟩, after) := by
  rw [protocolReceiverDispatcher, if_pos (by exact fits_of_parsed ran), ran]
  change (callBack callback (typeOf packet) [received] app >>= _) = _
  rw [handled]
  rfl

/-- The buffer is zero again when the dispatcher returns. -/
theorem clear_dispatcher {data : Option Packet} {ret : EspErr} {next : Receiver} {after : σ}
    (clear : receiver.msgBuffer = [])
    (ran : protocolReceiverDispatcher callback data receiver app = .ok (ret, next, after)) :
    next.msgBuffer = [] := by
  rw [protocolReceiverDispatcher] at ran
  split at ran
  case isFalse => cases ran
  obtain ⟨outcome, parsed, ran⟩ := bind_ok ran
  split at ran
  next failed =>
    cases ran
    cases data with
    | none => cases parsed
    | some packet =>
        rcases parseMessage_pushes parsed with ⟨_, kept⟩ | ⟨received, rfl⟩
        · exact kept.trans clear
        · exact absurd rfl failed
  next =>
    obtain ⟨handled, _, ran⟩ := bind_ok ran
    cases ran
    rfl

/-! ### The status on the wire -/

theorem protocolSendStatus_eq (rqType : UInt16) (error : UInt8) :
    protocolSendStatus rqType error = .ok ⟨sizeof StatusMsg,
      serializeStatusMsg { type := MsgType.status, error, rqType }⟩ :=
  sendSerialized_of_lt (by decide) _

/-- The narrowed error is zero for every multiple of 256. -/
theorem narrowed_eq_zero_iff (ret : Int32) :
    ret.toUInt32.toUInt8 = 0 ↔ ret.toInt % 256 = 0 := by
  have low : ret.toUInt32.toUInt8.toNat = ret.toUInt32.toNat % 256 := UInt32.toNat_toUInt8 _
  have signed : ret.toInt = if 2 * ret.toUInt32.toNat < 2 ^ 32 then (ret.toUInt32.toNat : Int)
      else (ret.toUInt32.toNat : Int) - 2 ^ 32 := BitVec.toInt_eq_toNat_cond _
  rw [← UInt8.toNat_inj, low, signed]
  split
  · change ret.toUInt32.toNat % 256 = 0 ↔ _
    omega
  · change ret.toUInt32.toNat % 256 = 0 ↔ _
    omega

theorem answered_iff (type : MsgType) (ret : Int32) (statuses : List (MsgType × UInt8)) :
    Answered type ret statuses (statusesAfter type ret statuses) ↔
      (ret.toInt % 256 = 0 → ret = 0) := by
  by_cases quiet : type = MsgType.get ∧ ret = 0
  · have none : statusesAfter type ret statuses = statuses :=
      if_neg (by rw [not_or, not_not, not_not]; exact quiet)
    exact iff_of_true ⟨fun _ => none, fun loud => absurd quiet loud⟩ fun _ => quiet.2
  have one : statusesAfter type ret statuses = statuses ++ [(type, ret.toUInt32.toUInt8)] :=
    if_pos (by rw [← not_and_or]; exact quiet)
  rw [← narrowed_eq_zero_iff]
  constructor
  · rintro ⟨-, answered⟩ zero
    obtain ⟨error, sending, grown, sent, -, byte⟩ := answered quiet
    rw [one, List.append_cancel_left_eq] at grown
    cases grown
    rw [protocolSendStatus_eq] at sent
    cases sent
    exact byte.mp (congrArg some zero)
  · intro faithful
    refine ⟨fun both => absurd both quiet, fun _ => ⟨ret.toUInt32.toUInt8, _, one,
      protocolSendStatus_eq type ret.toUInt32.toUInt8, rfl, ?_⟩⟩
    constructor
    · intro byte
      exact faithful (Option.some.inj byte)
    · rintro rfl
      rfl

end Dispatch

/-! ### Any messages before -/

/-- A message and the handler that is registered when it arrives. -/
structure Incoming (σ : Type) where
  callback : Option (Callback σ)
  data : Option Packet

def receive {σ : Type} (state : Receiver × σ) (incoming : Incoming σ) :
    Except Fault ((Receiver × σ) × EspErr) := do
  let (ret, receiver, app) ←
    protocolReceiverDispatcher incoming.callback incoming.data state.1 state.2
  return ((receiver, app), ret)

section History

variable {σ : Type} {history : List (Incoming σ)} {start : σ} {receiver : Receiver} {app : σ}
  {returned : List EspErr}

theorem clear_of_history
    (ran : answers receive (Receiver.initial, start) history = .ok ((receiver, app), returned)) :
    receiver.msgBuffer = [] := by
  have kept {state next : Receiver × σ} {input : Incoming σ} {answer : EspErr}
      (clear : state.1.msgBuffer = []) (stepped : receive state input = .ok (next, answer)) :
      next.1.msgBuffer = [] := by
    obtain ⟨result, dispatched, same⟩ := bind_ok stepped
    cases same
    exact clear_dispatcher clear dispatched
  exact answers_invariant kept (rfl : (Receiver.initial, start).1.msgBuffer = []) ran

/-- Behind any messages, a message gets its reply if and only if its handler returns no multiple
of 256 for it, other than zero. -/
theorem replied_iff
    (ran : answers receive (Receiver.initial, start) history = .ok ((receiver, app), returned))
    (callback : Option (Callback σ)) (packet : Packet) :
    Replied callback packet receiver app ↔ Unambiguous callback packet app := by
  have clear := clear_of_history ran
  constructor
  · intro replied received accepted after ret handled zero
    have parsed : parseMessage (some packet) receiver.msgBuffer =
        .ok ⟨.ok, typeOf packet, [received]⟩ := by
      rw [clear]
      exact accepted
    obtain ⟨same, again, -, answers⟩ := replied.accepted _ parsed rfl
    cases Except.ok.inj (accepted.symm.trans again)
    obtain ⟨statuses, dispatched, answered⟩ := answers after ret handled
    rw [dispatcher_of_handled parsed handled] at dispatched
    cases dispatched
    exact (answered_iff _ _ _).mp answered zero
  · intro unambiguous
    constructor
    · intro outcome parsed ok
      have behind := parsed
      rw [clear] at behind
      obtain ⟨received, accepted, rfl⟩ := accepted_of_parsed behind ok
      refine ⟨received, accepted, fun image sized => bufferBytes_singleton sized, ?_⟩
      intro after ret handled
      refine ⟨_, dispatcher_of_handled parsed handled, (answered_iff _ _ _).mpr ?_⟩
      exact unambiguous received accepted after ret handled
    · intro outcome parsed failed
      rw [dispatcher_of_rejected parsed failed]
      rcases parseMessage_pushes parsed with ⟨_, kept⟩ | ⟨received, rfl⟩
      · rw [kept, clear]
      · exact absurd rfl failed

end History

/-- A handler that always returns the same. -/
def constantly (ret : Int32) : Callback Unit := fun _ _ app => .ok (app, ret)

/-- `MSGTYPE_IDENTIFY` -/
def identifyPacket : Packet := ⟨[0x13, 0x00, 0x01, 0x03], fun _ => 0⟩

/-- `MSGTYPE_WIRELESS_SET_TX_POWER`, with a packet behind it that was cut: its byte is the high
byte of the power. -/
def txPowerPacket : Packet :=
  ⟨[0x34, 0x00, 0x02, 0x64], fun index => if index = 4 then 0x01 else 0⟩

theorem replied_txPower :
    Accepted txPowerPacket
        (.parsed .wirelessTxPower { type := 0x34, protocol := 2, txPower := 0x0164 }) ∧
      Replied (some (constantly 0x106)) txPowerPacket ⟨[], [(MsgType.identify, 5)]⟩ () := by
  have ran : answers receive (Receiver.initial, ()) [⟨some (constantly 5), some identifyPacket⟩] =
      .ok ((⟨[], [(MsgType.identify, 5)]⟩, ()), [.ok]) := rfl
  refine ⟨rfl, (replied_iff ran (some (constantly 0x106)) txPowerPacket).mpr ?_⟩
  rintro received - after ret handled zero
  cases handled
  exact absurd zero (by decide)

/-- A handler that returns 256 is reported as successful. -/
theorem narrowed_not_replied :
    ¬∀ (history : List (Incoming Unit)) (receiver : Receiver) (returned : List EspErr),
      answers receive (Receiver.initial, ()) history = .ok ((receiver, ()), returned) →
        ∀ callback packet, Replied callback packet receiver () := by
  intro always
  have replied := always [] .initial [] rfl (some (constantly 256)) identifyPacket
  obtain ⟨received, accepted, -, answers⟩ := replied.accepted _ rfl rfl
  obtain ⟨statuses, dispatched, -, answered⟩ := answers () 256 rfl
  obtain ⟨error, sending, grown, sent, -, byte⟩ := answered (by decide)
  have computed : protocolReceiverDispatcher (some (constantly 256)) (some identifyPacket)
      Receiver.initial () = .ok (.ok, ⟨[], [(MsgType.identify, 0)]⟩, ()) := rfl
  rw [computed] at dispatched
  cases dispatched
  have zero : 0 = error := (Prod.mk.inj (List.singleton_inj.mp grown)).2
  rw [← zero, protocolSendStatus_eq] at sent
  cases sent
  exact absurd (byte.mp rfl) (by decide)

end EsInverter.TcpProtocol
