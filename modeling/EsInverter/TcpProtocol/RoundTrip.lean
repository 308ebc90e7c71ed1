import EsInverter.TcpProtocol.ParserBounds
import EsInverter.TcpProtocol.Serializer

/-!
# Which messages survive being sent and received

The bytes of a serializer are handed to the parser of the same structure, in a
buffer of exactly their number and in front of any other memory.
-/

namespace EsInverter.TcpProtocol

open Lib.Wire Lib.Wire.Reader

/-- The structures with both a serializer and a parser. -/
inductive CodecKind
  | wirelessCredentials | wirelessTxPower | wirelessChannel
  | relayMode | relayState | relayDefaultState | relayPwm | relayInvertedOutput
  | relayOneShot | relayButtonConfig | relaySchedule
  | energyPriceThreshold | energyPriceCheapPeriod | energyPriceTariff
  | environmentSunnyTime | environmentCloudCover | environmentPosition
  | meterCurrentLimit | meterAlarms | status
  deriving DecidableEq, Repr

namespace CodecKind

abbrev Msg : CodecKind → Type
  | wirelessCredentials => WirelessCredentialsMsg
  | wirelessTxPower => WirelessTxPowerMsg
  | wirelessChannel => WirelessChannelMsg
  | relayMode => RelayModeMsg
  | relayState => RelayStateMsg
  | relayDefaultState => RelayDefaultStateMsg
  | relayPwm => RelayPwmMsg
  | relayInvertedOutput => RelayInvertedOutputMsg
  | relayOneShot => RelayOneShotMsg
  | relayButtonConfig => RelayButtonConfigMsg
  | relaySchedule => RelayScheduleMsg
  | energyPriceThreshold => EnergyPriceThresholdMsg
  | energyPriceCheapPeriod => EnergyPriceCheapPeriodMsg
  | energyPriceTariff => EnergyPriceTariffMsg
  | environmentSunnyTime => EnvironmentSunnyTimeMsg
  | environmentCloudCover => EnvironmentCloudCoverMsg
  | environmentPosition => EnvironmentPositionMsg
  | meterCurrentLimit => MeterCurrentLimitMsg
  | meterAlarms => MeterAlarmsMsg
  | status => StatusMsg

/-- The bytes for a value; a serializer that takes single fields is given them. -/
def serialize : (kind : CodecKind) → kind.Msg → Except Fault (List UInt8)
  | wirelessCredentials, msg => serializeWirelessCredentialsMsg msg
  | wirelessTxPower, msg => .ok (serializeWirelessTxPowerMsg msg.protocol msg.txPower)
  | wirelessChannel, msg => .ok (serializeWirelessChannelMsg msg.protocol msg.channel)
  | relayMode, msg => .ok (serializeRelayModeMsg msg)
  | relayState, msg => .ok (serializeRelayStateMsg msg)
  | relayDefaultState, msg => .ok (serializeRelayDefaultStateMsg msg)
  | relayPwm, msg => .ok (serializeRelayPwmMsg msg)
  | relayInvertedOutput, msg => .ok (serializeRelayOutputInvertedMsg msg.inverted)
  | relayOneShot, msg => .ok (serializeRelayOneShotMsg msg)
  | relayButtonConfig, msg => serializeRelayDefinedModesMsg msg
  | relaySchedule, msg => serializeRelayScheduleMsg msg
  | energyPriceThreshold, msg => .ok (serializeEnergyPriceThresholdMsg msg)
  | energyPriceCheapPeriod, msg => .ok (serializeEnergyPriceCheapPeriodMsg msg)
  | energyPriceTariff, msg => .ok (serializeEnergyPriceTariffMsg msg)
  | environmentSunnyTime, msg => .ok (serializeEnvironmentSunnyTimeMsg msg)
  | environmentCloudCover, msg => serializeEnvironmentCloudCoverMsg msg
  | environmentPosition, msg => .ok (serializeEnvironmentPositionMsg msg)
  | meterCurrentLimit, msg => .ok (serializeMeterCurrentLimitMsg msg.limit)
  | meterAlarms, msg => .ok (serializeMeterAlarmsMsg msg.mask)
  | status, msg => .ok (serializeStatusMsg msg)

def parse : (kind : CodecKind) → (bufLen : Nat) → Parser kind.Msg
  | wirelessCredentials => parseWirelessCredentialsMsg
  | wirelessTxPower => parseWirelessTxPowerMsg
  | wirelessChannel => parseWirelessChannelMsg
  | relayMode => parseRelayModeMsg
  | relayState => parseRelayStateMsg
  | relayDefaultState => parseRelayDefaultStateMsg
  | relayPwm => parseRelayPwmMsg
  | relayInvertedOutput => parseRelaySetInvertedOutputMsg
  | relayOneShot => parseRelayOneShotMsg
  | relayButtonConfig => parseRelayButtonConfigMsg
  | relaySchedule => parseRelayScheduleMsg
  | energyPriceThreshold => parseEnergyPriceThresholdMsg
  | energyPriceCheapPeriod => parseEnergyPriceCheapPeriodMsg
  | energyPriceTariff => parseEnergyPriceTariffMsg
  | environmentSunnyTime => parseEnvironmentSunnyTimeMsg
  | environmentCloudCover => parseEnvironmentCloudCoverMsg
  | environmentPosition => parseEnvironmentPositionMsg
  | meterCurrentLimit => parseMeterCurrentLimitMsg
  | meterAlarms => parseMeterClearAlarmsMsg
  | status => parseStatusMsg

instance : (kind : CodecKind) → Message kind.Msg
  | wirelessCredentials => inferInstanceAs (Message WirelessCredentialsMsg)
  | wirelessTxPower => inferInstanceAs (Message WirelessTxPowerMsg)
  | wirelessChannel => inferInstanceAs (Message WirelessChannelMsg)
  | relayMode => inferInstanceAs (Message RelayModeMsg)
  | relayState => inferInstanceAs (Message RelayStateMsg)
  | relayDefaultState => inferInstanceAs (Message RelayDefaultStateMsg)
  | relayPwm => inferInstanceAs (Message RelayPwmMsg)
  | relayInvertedOutput => inferInstanceAs (Message RelayInvertedOutputMsg)
  | relayOneShot => inferInstanceAs (Message RelayOneShotMsg)
  | relayButtonConfig => inferInstanceAs (Message RelayButtonConfigMsg)
  | relaySchedule => inferInstanceAs (Message RelayScheduleMsg)
  | energyPriceThreshold => inferInstanceAs (Message EnergyPriceThresholdMsg)
  | energyPriceCheapPeriod => inferInstanceAs (Message EnergyPriceCheapPeriodMsg)
  | energyPriceTariff => inferInstanceAs (Message EnergyPriceTariffMsg)
  | environmentSunnyTime => inferInstanceAs (Message EnvironmentSunnyTimeMsg)
  | environmentCloudCover => inferInstanceAs (Message EnvironmentCloudCoverMsg)
  | environmentPosition => inferInstanceAs (Message EnvironmentPositionMsg)
  | meterCurrentLimit => inferInstanceAs (Message MeterCurrentLimitMsg)
  | meterAlarms => inferInstanceAs (Message MeterAlarmsMsg)
  | status => inferInstanceAs (Message StatusMsg)

/-- The length fields fit their arrays, and are full where the serializer asserts it. -/
def LengthsFit : (kind : CodecKind) → kind.Msg → Prop
  | wirelessCredentials, msg => msg.networkLen.toNat ≤ 32 ∧ msg.passwordLen.toNat ≤ 64
  | relayButtonConfig, msg => msg.modeLen.toNat ≤ maxDefinedModes
  | relaySchedule, msg => msg.scheduleLen.toNat = quartersInDay * 7 / 8
  | environmentCloudCover, msg => msg.percentageLen.toNat ≤ quartersInDay
  | _, _ => True

/-- Whatever lies behind the sent bytes, the parser returns the value that was serialized. -/
def RoundTrips (kind : CodecKind) (msg : kind.Msg) : Prop :=
  ∀ behind, ∃ sent cursor, kind.serialize msg = .ok sent ∧
    kind.parse sent.length (ofBytes sent behind) Cursor.start = (.ok msg, cursor) ∧
    Message.type msg ≠ MsgType.invalid

/-- The values that come back. -/
def Survives : (kind : CodecKind) → kind.Msg → Prop
  | wirelessCredentials, _ => False
  | wirelessTxPower, _ => False
  | wirelessChannel, msg => msg.type = MsgType.wirelessChannel
  | relayInvertedOutput, msg => msg.type = MsgType.relayInvertedOutput
  | meterCurrentLimit, msg => msg.type = MsgType.meterCurrentLimit
  | meterAlarms, msg => msg.type = MsgType.meterAlarms
  | relayButtonConfig, msg => msg.type ≠ MsgType.invalid ∧ msg.modeLen.toNat = maxDefinedModes
  | environmentCloudCover, msg =>
      msg.type ≠ MsgType.invalid ∧ msg.percentageLen.toNat = quartersInDay
  | _, msg => Message.type msg ≠ MsgType.invalid

end CodecKind

/-! ### Primitive round trips -/

theorem decodes_uint8 (value : UInt8) : Decodes parseUint8 (serializeUint8 value) value :=
  .byte value

theorem decodes_uint16 (value : UInt16) : Decodes parseUint16 (serializeUint16 value) value :=
  .uint16le value

theorem decodes_int32 (value : Int32) : Decodes parseInt32 (serializeInt32 value) value :=
  (Decodes.uint32le value.toUInt32).map UInt32.toInt32

theorem decodes_uint64 (value : UInt64) : Decodes parseUint64 (serializeUint64 value) value :=
  .uint64le value

theorem decodes_int64 (value : Int64) : Decodes parseInt64 (serializeInt64 value) value :=
  (Decodes.uint64le value.toUInt64).map UInt64.toInt64

/-! ### Length checks on the bytes sent -/

/-- The parser answers the sent bytes with `returned`, whatever lies behind them. -/
abbrev CodecKind.Answers (kind : CodecKind) (sent : List UInt8) (returned : kind.Msg) : Prop :=
  ∀ behind, ∃ cursor,
    kind.parse sent.length (ofBytes sent behind) Cursor.start = (.ok returned, cursor)

namespace CodecKind

variable {kind : CodecKind} {msg returned : kind.Msg} {sent : List UInt8}

theorem answers_of_exact {fields : Parser kind.Msg} {size : Nat}
    (parser : kind.parse sent.length = parseExact size sent.length fields)
    (same : sent.length = size) (decodes : Decodes fields sent returned) :
    kind.Answers sent returned := by
  intro behind
  rw [parser, parseExact, if_neg (not_not_intro same)]
  exact ⟨_, decodes _ _ (holds_ofBytes sent behind)⟩

theorem answers_of_atLeast {fields : Parser kind.Msg} {size : Nat}
    (parser : kind.parse sent.length = parseAtLeast size sent.length fields)
    (enough : size ≤ sent.length) (decodes : Decodes fields sent returned) :
    kind.Answers sent returned := by
  intro behind
  rw [parser, parseAtLeast, if_neg (Nat.not_lt_of_le enough)]
  exact ⟨_, decodes _ _ (holds_ofBytes sent behind)⟩

/-- One answer to the sent bytes decides the round trip. -/
theorem roundTrips_iff_of_answers (written : kind.serialize msg = .ok sent)
    (answers : kind.Answers sent returned) :
    kind.RoundTrips msg ↔ returned = msg ∧ Message.type msg ≠ MsgType.invalid := by
  constructor
  · intro roundTrips
    obtain ⟨bytes, cursor, wrote, ran, valid⟩ := roundTrips fun _ => 0
    obtain ⟨moved, answer⟩ := answers fun _ => 0
    obtain rfl : sent = bytes := Except.ok.inj (written.symm.trans wrote)
    rw [answer] at ran
    exact ⟨Except.ok.inj (Prod.mk.inj ran).1, valid⟩
  · rintro ⟨rfl, valid⟩ behind
    obtain ⟨cursor, answer⟩ := answers behind
    exact ⟨sent, cursor, written, answer, valid⟩

/-- A structure whose every field was sent only needs a valid type. -/
theorem roundTrips_iff_valid (written : kind.serialize msg = .ok sent)
    (answers : kind.Answers sent msg) :
    kind.RoundTrips msg ↔ Message.type msg ≠ MsgType.invalid :=
  (roundTrips_iff_of_answers written answers).trans (and_iff_right rfl)

end CodecKind

/-! ### The kinds whose parser and serializer differ -/

theorem serializeFirst_all {α : Type} {size : Nat} (serialize : α → List UInt8)
    (values : Vector α size) :
    serializeFirst serialize values size = .ok (values.toList.flatMap serialize) := by
  rw [serializeFirst, if_pos (Nat.le_refl size), List.take_of_length_le (by simp)]

theorem serializeFirst_ok {α : Type} {size length : Nat} (serialize : α → List UInt8)
    (values : Vector α size) (fits : length ≤ size) :
    serializeFirst serialize values length =
      .ok ((values.toList.take length).flatMap serialize) :=
  if_pos fits

/-- A structure sent under a constant type comes back when it had that type. -/
theorem CodecKind.roundTrips_iff_constant {kind : CodecKind} {msg returned : kind.Msg}
    {sent : List UInt8} {constant : MsgType} (written : kind.serialize msg = .ok sent)
    (answers : kind.Answers sent returned) (typed : Message.type returned = constant)
    (valid : constant ≠ MsgType.invalid) (same : Message.type msg = constant → returned = msg) :
    kind.RoundTrips msg ↔ Message.type msg = constant := by
  rw [roundTrips_iff_of_answers written answers]
  constructor
  · rintro ⟨rfl, _⟩
    exact typed
  · intro had
    exact ⟨same had, had ▸ valid⟩

/-- A transmit power is sent in two bytes and received in one. -/
theorem txPower_not_roundTrips (msg : WirelessTxPowerMsg) :
    ¬ CodecKind.wirelessTxPower.RoundTrips msg := by
  have answers : CodecKind.wirelessTxPower.Answers
      (serializeWirelessTxPowerMsg msg.protocol msg.txPower) {} := by
    intro behind
    exact ⟨_, rfl⟩
  rw [CodecKind.roundTrips_iff_of_answers rfl answers]
  rintro ⟨rfl, valid⟩
  exact valid rfl

theorem credentials_sent_length {msg : WirelessCredentialsMsg} {sent : List UInt8}
    (written : serializeWirelessCredentialsMsg msg = .ok sent) : 7 ≤ sent.length := by
  rw [serializeWirelessCredentialsMsg] at written
  by_cases networkFits : msg.networkLen.toNat < 32
  case neg => simp [assertThat, networkFits, bind, Except.bind] at written
  by_cases passwordFits : msg.passwordLen.toNat < 64
  case neg =>
    rw [serializeFirst_ok _ _ (Nat.le_of_lt networkFits)] at written
    simp [assertThat, networkFits, passwordFits, bind, Except.bind] at written
  rw [serializeFirst_ok _ _ (Nat.le_of_lt networkFits),
    serializeFirst_ok _ _ (Nat.le_of_lt passwordFits)] at written
  simp only [assertThat, if_pos networkFits, if_pos passwordFits, bind, Except.bind, pure,
    Except.pure, Except.ok.injEq] at written
  rw [← written]
  simp [serializeUint16, serializeUint8]
  omega

/-- The parser of credentials accepts none that are long enough to be credentials. -/
theorem credentials_not_roundTrips (msg : WirelessCredentialsMsg) :
    ¬ CodecKind.wirelessCredentials.RoundTrips msg := by
  intro roundTrips
  obtain ⟨sent, cursor, written, ran, _⟩ := roundTrips fun _ => 0
  have long : 7 ≤ sent.length := credentials_sent_length written
  rw [CodecKind.parse, run_parseWirelessCredentialsMsg long] at ran
  cases ran

theorem wirelessChannel_roundTrips_iff (msg : WirelessChannelMsg) :
    CodecKind.wirelessChannel.RoundTrips msg ↔ msg.type = MsgType.wirelessChannel := by
  have answers : CodecKind.wirelessChannel.Answers
      (serializeWirelessChannelMsg msg.protocol msg.channel)
      { msg with type := MsgType.wirelessChannel } := by
    refine CodecKind.answers_of_exact rfl rfl ?_
    exact .bind (decodes_uint16 _) (.bind (decodes_uint8 _) (.bind (decodes_uint8 _) (.pure _)))
  refine CodecKind.roundTrips_iff_constant rfl answers rfl (by decide) fun typed => ?_
  obtain ⟨type, protocol, channel⟩ := msg
  cases typed
  rfl

theorem invertedOutput_roundTrips_iff (msg : RelayInvertedOutputMsg) :
    CodecKind.relayInvertedOutput.RoundTrips msg ↔ msg.type = MsgType.relayInvertedOutput := by
  have answers : CodecKind.relayInvertedOutput.Answers
      (serializeRelayOutputInvertedMsg msg.inverted)
      { msg with type := MsgType.relayInvertedOutput } := by
    refine CodecKind.answers_of_exact rfl rfl ?_
    exact .bind (decodes_uint16 _) (.bind (decodes_uint8 _) (.pure _))
  refine CodecKind.roundTrips_iff_constant rfl answers rfl (by decide) fun typed => ?_
  obtain ⟨type, inverted⟩ := msg
  cases typed
  rfl

theorem currentLimit_roundTrips_iff (msg : MeterCurrentLimitMsg) :
    CodecKind.meterCurrentLimit.RoundTrips msg ↔ msg.type = MsgType.meterCurrentLimit := by
  have answers : CodecKind.meterCurrentLimit.Answers (serializeMeterCurrentLimitMsg msg.limit)
      { msg with type := MsgType.meterCurrentLimit } := by
    refine CodecKind.answers_of_exact rfl rfl ?_
    exact .bind (decodes_uint16 _) (.bind (decodes_int32 _) (.pure _))
  refine CodecKind.roundTrips_iff_constant rfl answers rfl (by decide) fun typed => ?_
  obtain ⟨type, limit⟩ := msg
  cases typed
  rfl

theorem alarms_roundTrips_iff (msg : MeterAlarmsMsg) :
    CodecKind.meterAlarms.RoundTrips msg ↔ msg.type = MsgType.meterAlarms := by
  have answers : CodecKind.meterAlarms.Answers (serializeMeterAlarmsMsg msg.mask)
      { msg with type := MsgType.meterAlarms } := by
    refine CodecKind.answers_of_exact rfl rfl ?_
    exact .bind (decodes_uint16 _) (.bind (decodes_uint64 _) (.pure _))
  refine CodecKind.roundTrips_iff_constant rfl answers rfl (by decide) fun typed => ?_
  obtain ⟨type, mask⟩ := msg
  cases typed
  rfl

theorem flatMap_serializeUint8 (bytes : List UInt8) : bytes.flatMap serializeUint8 = bytes := by
  induction bytes with
  | nil => rfl
  | cons head rest ih => rw [List.flatMap_cons, ih]; rfl

theorem schedule_roundTrips_iff (msg : RelayScheduleMsg)
    (whole : msg.scheduleLen.toNat = quartersInDay * 7 / 8) :
    CodecKind.relaySchedule.RoundTrips msg ↔ msg.type ≠ MsgType.invalid := by
  have written : CodecKind.relaySchedule.serialize msg =
      .ok (List.flatten [serializeUint16 msg.type, serializeUint16 msg.scheduleLen,
        msg.schedule.toList.flatMap serializeUint8]) := by
    rw [CodecKind.serialize, serializeRelayScheduleMsg, serializeFirst_all, assertThat,
      if_pos whole]
    rfl
  refine CodecKind.roundTrips_iff_valid written (CodecKind.answers_of_atLeast rfl ?_ ?_)
  · simp [serializeUint16, flatMap_serializeUint8, sizeofUint16]
    omega
  · exact .bind (decodes_uint16 _) (.bind (decodes_uint16 _) (.require whole
      (.bind (.array decodes_uint8 _) (.pure _))))

/-- The modes behind the announced ones are read from behind the message. -/
theorem buttonConfig_not_roundTrips {msg : RelayButtonConfigMsg}
    (few : msg.modeLen.toNat < maxDefinedModes) :
    ¬ CodecKind.relayButtonConfig.RoundTrips msg := by
  intro roundTrips
  obtain ⟨sent, cursor, written, ran, valid⟩ :=
    roundTrips fun _ => msg.modes[msg.modeLen.toNat] + 1
  rw [CodecKind.serialize, serializeRelayDefinedModesMsg,
    serializeFirst_ok _ _ (Nat.le_of_lt few)] at written
  have sentLength : sent.length = 4 + msg.modeLen.toNat := by
    rw [← Except.ok.inj written]
    simp [serializeUint16, flatMap_serializeUint8]
    omega
  rw [CodecKind.parse] at ran
  by_cases announced : sent.length = 4 + modeLenField (ofBytes sent fun _ =>
      msg.modes[msg.modeLen.toNat] + 1)
  · obtain ⟨returned, modes, answer⟩ := run_parseRelayButtonConfigMsg announced
    rw [answer] at ran
    obtain rfl : returned = msg := Except.ok.inj (Prod.mk.inj ran).1
    have read : returned.modes[returned.modeLen.toNat] =
        returned.modes[returned.modeLen.toNat] + 1 := by
      conv_lhs => rw [getElem_congr_coll modes, Vector.getElem_ofFn]
      exact ofBytes_behind (Nat.le_of_eq sentLength)
    simp at read
  · obtain ⟨returned, invalid, answer⟩ :=
      run_parseRelayButtonConfigMsg_rejected (by omega) announced
    rw [answer] at ran
    have same : returned = msg := Except.ok.inj (Prod.mk.inj ran).1
    exact valid (same ▸ invalid)

theorem buttonConfig_roundTrips_iff (msg : RelayButtonConfigMsg)
    (fits : msg.modeLen.toNat ≤ maxDefinedModes) :
    CodecKind.relayButtonConfig.RoundTrips msg ↔
      msg.type ≠ MsgType.invalid ∧ msg.modeLen.toNat = maxDefinedModes := by
  rcases Nat.lt_or_eq_of_le fits with few | full
  · exact iff_of_false (buttonConfig_not_roundTrips few) fun both => Nat.ne_of_lt few both.2
  · have written : CodecKind.relayButtonConfig.serialize msg =
        .ok (List.flatten [serializeUint16 msg.type, serializeUint16 msg.modeLen,
          msg.modes.toList.flatMap serializeUint8]) := by
      rw [CodecKind.serialize, serializeRelayDefinedModesMsg, full, serializeFirst_all]
      rfl
    have announced : (List.flatten [serializeUint16 msg.type, serializeUint16 msg.modeLen,
        msg.modes.toList.flatMap serializeUint8]).length =
          sizeofUint16 + sizeofUint16 + msg.modeLen.toNat * sizeofUint8 := by
      simp [serializeUint16, flatMap_serializeUint8, full, sizeofUint16]
      omega
    refine (CodecKind.roundTrips_iff_valid written
      (CodecKind.answers_of_atLeast
        (by rw [CodecKind.parse, parseRelayButtonConfigMsg]) ?_ ?_)).trans
      (and_iff_left full).symm
    · simp [serializeUint16, sizeofUint16]
      omega
    · refine .bind (decodes_uint16 _) (.bind (decodes_uint16 _) ?_)
      rw [if_neg (not_not_intro announced)]
      exact .bind (.array decodes_uint8 _) (.pure _)

/-- Any other number of values than 96 ends in the parser's assertion. -/
theorem cloudCover_not_roundTrips {msg : EnvironmentCloudCoverMsg}
    (few : msg.percentageLen.toNat < quartersInDay) :
    ¬ CodecKind.environmentCloudCover.RoundTrips msg := by
  intro roundTrips
  obtain ⟨sent, cursor, written, ran, _⟩ := roundTrips fun _ => 0
  rw [CodecKind.serialize, serializeEnvironmentCloudCoverMsg,
    serializeFirst_ok _ _ (Nat.le_of_lt few)] at written
  have long : 14 ≤ sent.length := by
    rw [← Except.ok.inj written]
    simp [serializeUint16, serializeUint64]
    omega
  rw [CodecKind.parse] at ran
  rcases run_parseEnvironmentCloudCoverMsg long (ofBytes sent fun _ => 0) with
    ⟨_, stopped⟩ | ⟨_, returned, whole, answer⟩
  · rw [stopped] at ran
    cases ran
  · rw [answer] at ran
    have same : returned = msg := Except.ok.inj (Prod.mk.inj ran).1
    rw [same] at whole
    omega

theorem cloudCover_roundTrips_iff (msg : EnvironmentCloudCoverMsg)
    (fits : msg.percentageLen.toNat ≤ quartersInDay) :
    CodecKind.environmentCloudCover.RoundTrips msg ↔
      msg.type ≠ MsgType.invalid ∧ msg.percentageLen.toNat = quartersInDay := by
  rcases Nat.lt_or_eq_of_le fits with few | full
  · exact iff_of_false (cloudCover_not_roundTrips few) fun both => Nat.ne_of_lt few both.2
  · have written : CodecKind.environmentCloudCover.serialize msg =
        .ok (List.flatten [serializeUint16 msg.type, serializeUint64 msg.refTimestamp.toUInt64,
          serializeUint16 msg.period, serializeUint16 msg.percentageLen,
          msg.percentage.toList.flatMap serializeUint16]) := by
      rw [CodecKind.serialize, serializeEnvironmentCloudCoverMsg, full, serializeFirst_all]
      rfl
    refine (CodecKind.roundTrips_iff_valid written
      (CodecKind.answers_of_atLeast
        (by rw [CodecKind.parse, parseEnvironmentCloudCoverMsg]) ?_ ?_)).trans
      (and_iff_left full).symm
    · simp [serializeUint16, serializeUint64, sizeofUint16, sizeofUint64]
      omega
    · exact .bind (decodes_uint16 _) (.bind (decodes_uint64 _) (.bind (decodes_uint16 _)
        (.bind (decodes_uint16 _) (.require full (.bind (.array decodes_uint16 _) (.pure _))))))

/-- The bytes of a position decode to it. -/
theorem position_answers (msg : EnvironmentPositionMsg) :
    CodecKind.environmentPosition.Answers (serializeEnvironmentPositionMsg msg) msg := by
  refine CodecKind.answers_of_atLeast (by rw [CodecKind.parse, parseEnvironmentPositionMsg]) ?_ ?_
  · exact Nat.le_of_ble_eq_true rfl
  · exact .bind (decodes_uint16 _) (.bind (decodes_int64 _) (.bind (decodes_int64 _) (.pure _)))

/-- A value comes back unchanged exactly when it is one of those that survive. -/
theorem roundTrips_iff_survives (kind : CodecKind) (msg : kind.Msg) (fits : kind.LengthsFit msg) :
    kind.RoundTrips msg ↔ kind.Survives msg := by
  cases kind with
  | wirelessCredentials => exact iff_false_intro (credentials_not_roundTrips msg)
  | wirelessTxPower => exact iff_false_intro (txPower_not_roundTrips msg)
  | wirelessChannel => exact wirelessChannel_roundTrips_iff msg
  | relayInvertedOutput => exact invertedOutput_roundTrips_iff msg
  | meterCurrentLimit => exact currentLimit_roundTrips_iff msg
  | meterAlarms => exact alarms_roundTrips_iff msg
  | relayMode | relayState | relayDefaultState | energyPriceCheapPeriod | environmentSunnyTime =>
      refine CodecKind.roundTrips_iff_valid rfl (CodecKind.answers_of_exact rfl rfl ?_)
      exact .bind (decodes_uint16 _) (.bind (decodes_uint8 _) (.pure _))
  | relayPwm =>
      refine CodecKind.roundTrips_iff_valid rfl (CodecKind.answers_of_exact rfl rfl ?_)
      exact .bind (decodes_uint16 _) (.bind (decodes_uint8 _) (.bind (decodes_uint16 _)
        (.bind (decodes_uint8 _) (.pure _))))
  | relayOneShot =>
      refine CodecKind.roundTrips_iff_valid rfl (CodecKind.answers_of_exact rfl rfl ?_)
      exact .bind (decodes_uint16 _) (.bind (decodes_uint8 _) (.bind (decodes_uint64 _)
        (.bind (decodes_uint64 _) (.bind (decodes_uint8 _) (.pure _)))))
  | energyPriceThreshold =>
      refine CodecKind.roundTrips_iff_valid rfl (CodecKind.answers_of_exact rfl rfl ?_)
      exact .bind (decodes_uint16 _) (.bind (decodes_int32 _) (.pure _))
  | energyPriceTariff =>
      refine CodecKind.roundTrips_iff_valid rfl (CodecKind.answers_of_exact rfl rfl ?_)
      exact .bind (decodes_uint16 _) (.bind (decodes_uint16 _) (.pure _))
  | environmentPosition => exact CodecKind.roundTrips_iff_valid rfl (position_answers msg)
  | status =>
      refine CodecKind.roundTrips_iff_valid rfl (CodecKind.answers_of_exact rfl rfl ?_)
      exact .bind (decodes_uint16 _) (.bind (decodes_uint8 _) (.bind (decodes_uint16 _) (.pure _)))
  | relaySchedule => exact schedule_roundTrips_iff msg fits
  | relayButtonConfig => exact buttonConfig_roundTrips_iff msg fits
  | environmentCloudCover => exact cloudCover_roundTrips_iff msg fits

/-- A relay mode of type `MSGTYPE_RELAY_SET_MODE` comes back. -/
theorem roundTrips_iff_survives_relayMode :
    CodecKind.relayMode.RoundTrips { type := MsgType.relaySetMode, mode := 1 } :=
  (roundTrips_iff_survives .relayMode { type := MsgType.relaySetMode, mode := 1 } trivial).mpr
    (by decide : MsgType.relaySetMode ≠ MsgType.invalid)

/-- The transmit power of 8 dBm that the device reports is no transmit power to its parser. -/
theorem txPower_of_eight_lost :
    ¬ CodecKind.wirelessTxPower.RoundTrips
      { type := MsgType.wirelessTxPower, protocol := 1, txPower := 8 } := by
  intro roundTrips
  obtain ⟨sent, cursor, written, ran, _⟩ := roundTrips fun _ => 0
  obtain rfl : [0x35, 0, 1, 8, 0] = sent := Except.ok.inj written
  have rejected : (Except.ok ({} : WirelessTxPowerMsg) : Except Fault WirelessTxPowerMsg) =
      .ok { type := MsgType.wirelessTxPower, protocol := 1, txPower := 8 } :=
    (Prod.mk.inj ran).1
  exact absurd (Except.ok.inj rejected) (by decide)

end EsInverter.TcpProtocol
