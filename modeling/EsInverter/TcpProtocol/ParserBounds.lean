import EsInverter.TcpProtocol.Parser

/-!
# What the parsers read and write

A call is judged by the indices its cursor dereferenced, by whether a store
left its array, and by what it returns for a buffer that does not hold all of
the fields the function reads.
-/

namespace EsInverter.TcpProtocol

open Lib.Wire

/-- One call on a buffer of `bufLen` bytes, for a parser whose fields take `fieldsLen` bytes. -/
structure StaysInside {α : Type} [Message α] (fieldsLen bufLen : Nat)
    (call : Except Fault α × Cursor) : Prop where
  reads : ∀ index ∈ call.2.reads, index < bufLen
  writes : call.1 ≠ .error .outOfBounds
  tooShort : bufLen < fieldsLen →
    ∃ msg, call.1 = .ok msg ∧ Message.type msg = MsgType.invalid

namespace StaysInside

variable {α : Type} [Message α] {fieldsLen bufLen count : Nat}

/-- A message of type `MSGTYPE_INVALID` is a correct answer to any buffer that was read inside. -/
theorem rejected {msg : α} (inside : count ≤ bufLen)
    (invalid : Message.type msg = MsgType.invalid) :
    StaysInside fieldsLen bufLen (.ok msg, Cursor.start.advance count) where
  reads _ read := Nat.lt_of_lt_of_le ((Cursor.mem_reads_start _ _).mp read) inside
  writes := by simp
  tooShort _ := ⟨msg, rfl, invalid⟩

/-- A buffer that holds every field only has to be read inside. -/
theorem longEnough {result : Except Fault α} (inside : count ≤ bufLen)
    (fits : fieldsLen ≤ bufLen) (writes : result ≠ .error .outOfBounds) :
    StaysInside fieldsLen bufLen (result, Cursor.start.advance count) where
  reads _ read := Nat.lt_of_lt_of_le ((Cursor.mem_reads_start _ _).mp read) inside
  writes := writes
  tooShort short := absurd fits (Nat.not_le_of_lt short)

theorem not_overrun {result : Except Fault α} (outside : bufLen < count) :
    ¬ StaysInside fieldsLen bufLen (result, Cursor.start.advance count) := by
  intro stays
  have read := stays.reads bufLen ((Cursor.mem_reads_start _ _).mpr outside)
  exact Nat.lt_irrefl _ read

/-- Stopping is no answer to a buffer that is too short. -/
theorem not_aborted {fault : Fault} {cursor : Cursor} (short : bufLen < fieldsLen) :
    ¬ StaysInside fieldsLen bufLen ((.error fault : Except Fault α), cursor) := by
  intro stays
  obtain ⟨msg, returned, _⟩ := stays.tooShort short
  cases returned

end StaysInside

section LengthCheck

variable {α : Type} [Message α] {fields : Parser α} {size count fieldsLen bufLen : Nat}
  [width : Reader.FixedWidth fields count]

omit width in
theorem length_accepted (enough : size ≤ bufLen) :
    parseAtLeast size bufLen fields = fields :=
  if_neg (Nat.not_lt_of_le enough)

omit width in
theorem length_rejected (short : bufLen < size) :
    parseAtLeast size bufLen fields = pure Message.zero :=
  if_pos short

omit width in
/-- What a rejecting length check returns. -/
theorem staysInside_zero (memory : Memory) :
    StaysInside fieldsLen bufLen ((pure Message.zero : Parser α) memory Cursor.start) := by
  have rejected : StaysInside fieldsLen bufLen
      (.ok (Message.zero : α), Cursor.start.advance 0) :=
    StaysInside.rejected (Nat.zero_le bufLen) Message.type_zero
  rwa [Cursor.advance_zero] at rejected

/-- With an exact length check only a size below the bytes read goes wrong, on that size. -/
theorem staysInside_parseExact_iff (same : count = fieldsLen) (memory : Memory) :
    StaysInside fieldsLen bufLen (parseExact size bufLen fields memory Cursor.start) ↔
      ¬ (bufLen = size ∧ size < fieldsLen) := by
  subst same
  obtain ⟨msg, ran⟩ := width.consumes memory Cursor.start
  by_cases exact : bufLen = size
  · rw [parseExact, if_neg (not_not_intro exact), ran]
    constructor
    · rintro stays ⟨_, short⟩
      exact StaysInside.not_overrun (exact ▸ short) stays
    · intro fits
      have inside : count ≤ bufLen := by
        by_contra short
        exact fits ⟨exact, by omega⟩
      exact StaysInside.longEnough inside inside (by simp)
  · rw [parseExact, if_pos exact]
    constructor
    · rintro _ ⟨same, _⟩
      exact exact same
    · intro _
      exact staysInside_zero memory

/-- With a lower bound the sizes between the bound and the bytes read go wrong. -/
theorem staysInside_parseAtLeast_iff (same : count = fieldsLen) (memory : Memory) :
    StaysInside fieldsLen bufLen (parseAtLeast size bufLen fields memory Cursor.start) ↔
      ¬ (size ≤ bufLen ∧ bufLen < fieldsLen) := by
  subst same
  obtain ⟨msg, ran⟩ := width.consumes memory Cursor.start
  by_cases short : bufLen < size
  · rw [length_rejected short]
    constructor
    · rintro _ ⟨enough, _⟩
      omega
    · intro _
      exact staysInside_zero memory
  · rw [length_accepted (Nat.le_of_not_lt short), ran]
    constructor
    · rintro stays ⟨_, overrun⟩
      exact StaysInside.not_overrun overrun stays
    · intro fits
      have inside : count ≤ bufLen := by omega
      exact StaysInside.longEnough inside inside (by simp)

/-- A length check that accepts no size below the fields. -/
theorem staysInside_of_exact (same : count = fieldsLen) (covers : count ≤ size) (memory : Memory) :
    StaysInside fieldsLen bufLen (parseExact size bufLen fields memory Cursor.start) :=
  (staysInside_parseExact_iff same memory).mpr fun both => by omega

theorem staysInside_of_atLeast (same : count = fieldsLen) (covers : count ≤ size)
    (memory : Memory) :
    StaysInside fieldsLen bufLen (parseAtLeast size bufLen fields memory Cursor.start) :=
  (staysInside_parseAtLeast_iff same memory).mpr fun both => by omega

/-- An exact length check with a size below what the fields take. -/
theorem staysInside_of_exact_above (same : count = fieldsLen) (short : size < count)
    (memory : Memory) :
    StaysInside fieldsLen bufLen (parseExact size bufLen fields memory Cursor.start) ↔
      ¬ bufLen = size :=
  (staysInside_parseExact_iff same memory).trans
    (not_congr ⟨fun both => both.1, fun accepted => ⟨accepted, same ▸ short⟩⟩)

end LengthCheck

/-! ### The parsers with a branch of their own -/

/-- A URL that leaves room for the terminator is read inside its array. -/
theorem run_parseUpdateStartUrl_fits {msg : UpdateStartMsg}
    (fits : msg.imgUrlLen.toNat < (imageUrlMaxLen + 1) - 1) (memory : Memory) (cursor : Cursor) :
    ∃ parsed, parseUpdateStartUrl msg memory cursor =
      (.ok parsed, cursor.advance msg.imgUrlLen.toNat) := by
  rw [parseUpdateStartUrl, Reader.run_require_true fits]
  obtain ⟨copied, ran⟩ : ∃ copied, parseString msg.imgUrl msg.imgUrlLen.toNat memory cursor =
      (.ok copied, cursor.advance msg.imgUrlLen.toNat) := by
    rw [parseString, Reader.run_bind_ok rfl, Reader.lift, copyInto, if_pos (by simp; omega)]
    exact ⟨_, rfl⟩
  rw [Reader.run_bind_ok ran, store, dif_pos (by omega)]
  exact ⟨_, rfl⟩

theorem run_parseUpdateStartUrl_long {msg : UpdateStartMsg}
    (long : ¬ msg.imgUrlLen.toNat < (imageUrlMaxLen + 1) - 1) (memory : Memory) (cursor : Cursor) :
    parseUpdateStartUrl msg memory cursor = (.error (.assertion .imgUrlLen), cursor) := by
  rw [parseUpdateStartUrl, Reader.run_require_false long]

/-- The URL is read and terminated inside its array, or the assertion stops the call first. -/
theorem run_parseUpdateStartUrl (msg : UpdateStartMsg) (memory : Memory) (cursor : Cursor) :
    (∃ fault, fault ≠ Fault.outOfBounds ∧
      parseUpdateStartUrl msg memory cursor = (.error fault, cursor)) ∨
    ∃ parsed, parseUpdateStartUrl msg memory cursor =
      (.ok parsed, cursor.advance msg.imgUrlLen.toNat) := by
  by_cases fits : msg.imgUrlLen.toNat < (imageUrlMaxLen + 1) - 1
  · exact .inr (run_parseUpdateStartUrl_fits fits memory cursor)
  · exact .inl ⟨_, by simp, run_parseUpdateStartUrl_long fits memory cursor⟩

/-- `img_url_len` of the message at the start of a buffer. -/
def imgUrlLenField (memory : Memory) : Nat := (Reader.word16 memory 18).toNat

theorem run_parseUpdateStartHead (memory : Memory) :
    ∃ msg, parseUpdateStartHead memory Cursor.start =
        (.ok msg, Cursor.start.advance updateStartFixedSize) ∧
      msg.imgUrlLen.toNat = imgUrlLenField memory :=
  ⟨_, rfl, rfl⟩

theorem staysInside_parseUpdateStartMsg (bufLen : Nat) (memory : Memory) :
    StaysInside (updateStartFixedSize + imgUrlLenField memory) bufLen
      (parseUpdateStartMsg bufLen memory Cursor.start) := by
  obtain ⟨msg, ranHead, urlLen⟩ := run_parseUpdateStartHead memory
  by_cases short : bufLen < updateStartFixedSize
  · rw [parseUpdateStartMsg, length_rejected short]
    exact staysInside_zero memory
  rw [parseUpdateStartMsg, length_accepted (Nat.le_of_not_lt short), Reader.run_bind_ok ranHead]
  by_cases same : bufLen = updateStartFixedSize + msg.imgUrlLen.toNat
  · rw [if_neg (not_not_intro same)]
    have fits : updateStartFixedSize + imgUrlLenField memory ≤ bufLen := by omega
    rcases run_parseUpdateStartUrl msg memory (Cursor.start.advance updateStartFixedSize) with
      ⟨fault, other, ran⟩ | ⟨parsed, ran⟩
    · rw [ran]
      exact StaysInside.longEnough (Nat.le_of_not_lt short) fits (by simpa using other)
    · rw [ran, Cursor.advance_advance]
      exact StaysInside.longEnough (Nat.le_of_eq same.symm) fits (by simp)
  · rw [if_pos same]
    exact StaysInside.rejected (Nat.le_of_not_lt short) rfl

/-- The check of two constant sizes fails on every message that is long enough. -/
theorem run_parseWirelessCredentialsMsg {bufLen : Nat} (long : 7 ≤ bufLen) (memory : Memory) :
    parseWirelessCredentialsMsg bufLen memory Cursor.start =
      (.error (.assertion .networkLen), Cursor.start.advance 3) := by
  rw [parseWirelessCredentialsMsg, length_accepted (by exact long)]
  rfl

theorem staysInside_parseWirelessCredentialsMsg (bufLen : Nat) (memory : Memory) :
    StaysInside 7 bufLen (parseWirelessCredentialsMsg bufLen memory Cursor.start) := by
  by_cases long : 7 ≤ bufLen
  · rw [run_parseWirelessCredentialsMsg long]
    exact StaysInside.longEnough (by omega) long (by simp)
  · rw [parseWirelessCredentialsMsg, length_rejected (by exact Nat.lt_of_not_le long)]
    exact staysInside_zero memory

/-- `mode_len` of the message at the start of a buffer. -/
def modeLenField (memory : Memory) : Nat := (Reader.word16 memory 2).toNat

/-- Behind the length check all six modes are read, however many were announced. -/
theorem run_parseRelayButtonConfigMsg {bufLen : Nat} {memory : Memory}
    (announced : bufLen = 4 + modeLenField memory) :
    ∃ msg, msg.modes = Vector.ofFn (fun index => memory (4 + index)) ∧
      parseRelayButtonConfigMsg bufLen memory Cursor.start =
        (.ok msg, Cursor.start.advance 10) := by
  have ran : Reader.array parseUint8 maxDefinedModes memory (Cursor.start.advance 4) =
      (.ok (Vector.ofFn fun index => memory (4 + index)), (Cursor.start.advance 4).advance 6) :=
    Reader.run_array_byte maxDefinedModes memory _
  have long : 4 ≤ bufLen := by omega
  rw [parseRelayButtonConfigMsg, length_accepted (by exact long)]
  rw [Reader.run_bind_ok (run_parseUint16 _ _), Reader.run_bind_ok (run_parseUint16 _ _)]
  rw [if_neg (not_not_intro
    (by simpa [modeLenField, Cursor.start, sizeofUint16] using announced))]
  rw [Cursor.advance_advance, Reader.run_bind_ok ran, Cursor.advance_advance]
  exact ⟨_, rfl, rfl⟩

theorem run_parseRelayButtonConfigMsg_rejected {bufLen : Nat} {memory : Memory}
    (long : 4 ≤ bufLen) (other : ¬ bufLen = 4 + modeLenField memory) :
    ∃ msg, msg.type = MsgType.invalid ∧
      parseRelayButtonConfigMsg bufLen memory Cursor.start =
        (.ok msg, Cursor.start.advance 4) := by
  rw [parseRelayButtonConfigMsg, length_accepted (by exact long)]
  rw [Reader.run_bind_ok (run_parseUint16 _ _), Reader.run_bind_ok (run_parseUint16 _ _)]
  rw [if_pos (by simpa [modeLenField, Cursor.start, sizeofUint16] using other)]
  rw [Cursor.advance_advance]
  exact ⟨_, rfl, rfl⟩

theorem staysInside_parseRelayButtonConfigMsg_iff (bufLen : Nat) (memory : Memory) :
    StaysInside 10 bufLen (parseRelayButtonConfigMsg bufLen memory Cursor.start) ↔
      ¬ (bufLen = 4 + modeLenField memory ∧ modeLenField memory < 6) := by
  by_cases announced : bufLen = 4 + modeLenField memory
  · obtain ⟨msg, _, ran⟩ := run_parseRelayButtonConfigMsg announced
    rw [ran]
    constructor
    · rintro stays ⟨_, few⟩
      exact StaysInside.not_overrun (by omega) stays
    · intro enough
      exact StaysInside.longEnough (by omega) (by omega) (by simp)
  · refine iff_of_true ?_ fun both => announced both.1
    by_cases long : 4 ≤ bufLen
    case neg =>
      rw [parseRelayButtonConfigMsg, length_rejected (by exact Nat.lt_of_not_le long)]
      exact staysInside_zero memory
    case pos =>
      obtain ⟨msg, invalid, ran⟩ := run_parseRelayButtonConfigMsg_rejected long announced
      rw [ran]
      exact StaysInside.rejected (by omega) invalid

/-- All 84 bytes of a schedule are read if 84 bytes are announced. -/
theorem run_parseRelayScheduleMsg {bufLen : Nat} (long : 88 ≤ bufLen) (memory : Memory) :
    ((Reader.word16 memory 2).toNat ≠ quartersInDay * 7 / 8 ∧
      parseRelayScheduleMsg bufLen memory Cursor.start =
        (.error (.assertion .scheduleLen), Cursor.start.advance 4)) ∨
    ((Reader.word16 memory 2).toNat = quartersInDay * 7 / 8 ∧
      ∃ msg, parseRelayScheduleMsg bufLen memory Cursor.start =
        (.ok msg, Cursor.start.advance 88)) := by
  rw [parseRelayScheduleMsg, length_accepted (by exact long)]
  rw [Reader.run_bind_ok (run_parseUint16 _ _), Reader.run_bind_ok (run_parseUint16 _ _)]
  rw [Cursor.advance_advance]
  by_cases whole : (Reader.word16 memory (Cursor.start.advance 2).ptr).toNat = quartersInDay * 7 / 8
  · obtain ⟨schedule, ran⟩ : ∃ schedule, Reader.array parseUint8 (quartersInDay * 7 / 8) memory
        (Cursor.start.advance 4) = (.ok schedule, (Cursor.start.advance 4).advance 84) :=
      Reader.Consumes.array .byte 84 memory _
    rw [Reader.run_require_true whole, Reader.run_bind_ok ran, Cursor.advance_advance]
    exact .inr ⟨whole, _, rfl⟩
  · rw [Reader.run_require_false whole]
    exact .inl ⟨whole, rfl⟩

theorem staysInside_parseRelayScheduleMsg (bufLen : Nat) (memory : Memory) :
    StaysInside 88 bufLen (parseRelayScheduleMsg bufLen memory Cursor.start) := by
  by_cases long : 88 ≤ bufLen
  case neg =>
    rw [parseRelayScheduleMsg, length_rejected (by exact Nat.lt_of_not_le long)]
    exact staysInside_zero memory
  rcases run_parseRelayScheduleMsg long memory with ⟨_, ran⟩ | ⟨_, msg, ran⟩
  · rw [ran]
    exact StaysInside.longEnough (by omega) long (by simp)
  · rw [ran]
    exact StaysInside.longEnough long long (by simp)

/-- `percentage_len` of the message at the start of a buffer. -/
def percentageLenField (memory : Memory) : Nat := (Reader.word16 memory 12).toNat

/-- All 96 values are read as soon as the fixed fields fit and 96 values are announced. -/
theorem run_parseEnvironmentCloudCoverMsg {bufLen : Nat} (long : 14 ≤ bufLen) (memory : Memory) :
    (percentageLenField memory ≠ quartersInDay ∧
      parseEnvironmentCloudCoverMsg bufLen memory Cursor.start =
        (.error (.assertion .percentageLen), Cursor.start.advance 14)) ∨
    (percentageLenField memory = quartersInDay ∧
      ∃ msg, msg.percentageLen.toNat = quartersInDay ∧
        parseEnvironmentCloudCoverMsg bufLen memory Cursor.start =
          (.ok msg, Cursor.start.advance 206)) := by
  rw [parseEnvironmentCloudCoverMsg, length_accepted (by exact long)]
  obtain ⟨refTimestamp, ranTime⟩ : ∃ refTimestamp, parseUint64 memory (Cursor.start.advance 2) =
      (.ok refTimestamp, (Cursor.start.advance 2).advance 8) :=
    Reader.Consumes.uint64le memory _
  rw [Reader.run_bind_ok (run_parseUint16 _ _), Reader.run_bind_ok ranTime,
    Reader.run_bind_ok (run_parseUint16 _ _), Reader.run_bind_ok (run_parseUint16 _ _)]
  by_cases whole : (Reader.word16 memory
      (((Cursor.start.advance 2).advance 8).advance 2).ptr).toNat = quartersInDay
  · obtain ⟨percentage, ran⟩ : ∃ percentage, Reader.array parseUint16 quartersInDay memory
        (Cursor.start.advance 14) = (.ok percentage, (Cursor.start.advance 14).advance 192) :=
      Reader.Consumes.array .uint16le 96 memory _
    refine Or.inr ⟨whole, ?_⟩
    rw [Reader.run_require_true whole]
    simp only [Cursor.advance_advance]
    rw [Reader.run_bind_ok ran, Cursor.advance_advance]
    exact ⟨_, whole, rfl⟩
  · rw [Reader.run_require_false whole]
    exact Or.inl ⟨whole, by simp⟩

theorem staysInside_parseEnvironmentCloudCoverMsg_iff (bufLen : Nat) (memory : Memory) :
    StaysInside 206 bufLen (parseEnvironmentCloudCoverMsg bufLen memory Cursor.start) ↔
      ¬ (14 ≤ bufLen ∧ bufLen < 206) := by
  by_cases long : 14 ≤ bufLen
  case neg =>
    refine iff_of_true ?_ fun both => long both.1
    rw [parseEnvironmentCloudCoverMsg, length_rejected (by exact Nat.lt_of_not_le long)]
    exact staysInside_zero memory
  rcases run_parseEnvironmentCloudCoverMsg long memory with ⟨_, ran⟩ | ⟨_, msg, _, ran⟩
  · rw [ran]
    constructor
    · rintro stays ⟨_, short⟩
      exact StaysInside.not_aborted short stays
    · intro enough
      exact StaysInside.longEnough long (by omega) (by simp)
  · rw [ran]
    constructor
    · rintro stays ⟨_, short⟩
      exact StaysInside.not_overrun short stays
    · intro enough
      exact StaysInside.longEnough (by omega) (by omega) (by simp)

/-- The functions of `parser.c` that take a received buffer. -/
inductive ParserKind
  | msgType | connectionStatus | identify | updateStart | updateInstall | updateStop
  | meterCurrentLimit | meterClearAlarms
  | energyPriceDay | energyPriceThreshold | energyPriceCheapPeriod | energyPriceTariff
  | wirelessEnable | wirelessCredentials | wirelessTxPower | wirelessChannel
  | relayMode | relayState | relayDefaultState | relayPwm | relaySetInvertedOutput
  | relayOneShot | relayButtonConfig | relaySchedule
  | environmentSunnyTime | environmentCloudCover | environmentPosition
  | diagSetLogsSettings | status | get
  deriving DecidableEq, Repr

/-- The bare type that `parse_msg_type` returns counts as a message of that type. -/
instance : Message MsgType := ⟨MsgType.invalid, id, rfl⟩

namespace ParserKind

/-- The structure the parser returns. -/
abbrev Msg : ParserKind → Type
  | msgType => MsgType
  | connectionStatus => ConnectionStatusMsg
  | identify => IdentifyMsg
  | updateStart => UpdateStartMsg
  | updateInstall => UpdateInstallMsg
  | updateStop => UpdateStopMsg
  | meterCurrentLimit => MeterCurrentLimitMsg
  | meterClearAlarms => MeterAlarmsMsg
  | energyPriceDay => EnergyPriceDayMsg
  | energyPriceThreshold => EnergyPriceThresholdMsg
  | energyPriceCheapPeriod => EnergyPriceCheapPeriodMsg
  | energyPriceTariff => EnergyPriceTariffMsg
  | wirelessEnable => WirelessEnableMsg
  | wirelessCredentials => WirelessCredentialsMsg
  | wirelessTxPower => WirelessTxPowerMsg
  | wirelessChannel => WirelessChannelMsg
  | relayMode => RelayModeMsg
  | relayState => RelayStateMsg
  | relayDefaultState => RelayDefaultStateMsg
  | relayPwm => RelayPwmMsg
  | relaySetInvertedOutput => RelayInvertedOutputMsg
  | relayOneShot => RelayOneShotMsg
  | relayButtonConfig => RelayButtonConfigMsg
  | relaySchedule => RelayScheduleMsg
  | environmentSunnyTime => EnvironmentSunnyTimeMsg
  | environmentCloudCover => EnvironmentCloudCoverMsg
  | environmentPosition => EnvironmentPositionMsg
  | diagSetLogsSettings => DiagSetLogsSettingsMsg
  | status => StatusMsg
  | get => GetMsg

instance (kind : ParserKind) : Message kind.Msg := by
  cases kind <;> unfold Msg <;> infer_instance

def parse : (kind : ParserKind) → (bufLen : Nat) → Parser kind.Msg
  | msgType => parseMsgType
  | connectionStatus => parseConnectionStatusMsg
  | identify => parseIdentifyMsg
  | updateStart => parseUpdateStartMsg
  | updateInstall => parseUpdateInstallMsg
  | updateStop => parseUpdateStopMsg
  | meterCurrentLimit => parseMeterCurrentLimitMsg
  | meterClearAlarms => parseMeterClearAlarmsMsg
  | energyPriceDay => parseEnergyPriceDayMsg
  | energyPriceThreshold => parseEnergyPriceThresholdMsg
  | energyPriceCheapPeriod => parseEnergyPriceCheapPeriodMsg
  | energyPriceTariff => parseEnergyPriceTariffMsg
  | wirelessEnable => parseWirelessEnableMsg
  | wirelessCredentials => parseWirelessCredentialsMsg
  | wirelessTxPower => parseWirelessTxPowerMsg
  | wirelessChannel => parseWirelessChannelMsg
  | relayMode => parseRelayModeMsg
  | relayState => parseRelayStateMsg
  | relayDefaultState => parseRelayDefaultStateMsg
  | relayPwm => parseRelayPwmMsg
  | relaySetInvertedOutput => parseRelaySetInvertedOutputMsg
  | relayOneShot => parseRelayOneShotMsg
  | relayButtonConfig => parseRelayButtonConfigMsg
  | relaySchedule => parseRelayScheduleMsg
  | environmentSunnyTime => parseEnvironmentSunnyTimeMsg
  | environmentCloudCover => parseEnvironmentCloudCoverMsg
  | environmentPosition => parseEnvironmentPositionMsg
  | diagSetLogsSettings => parseDiagSetLogsSettings
  | status => parseStatusMsg
  | get => parseGetMsg

/-- The bytes the parser's field reads take; only the URL's length comes from the message. -/
def fieldsLen (memory : Memory) : ParserKind → Nat
  | msgType => 2
  | connectionStatus => 22
  | identify => 4
  | updateStart => updateStartFixedSize + imgUrlLenField memory
  | updateInstall => 10
  | updateStop => 2
  | meterCurrentLimit => 6
  | meterClearAlarms => 10
  | energyPriceDay => 207
  | energyPriceThreshold => 6
  | energyPriceCheapPeriod => 3
  | energyPriceTariff => 4
  | wirelessEnable => 4
  | wirelessCredentials => 7
  | wirelessTxPower => 5
  | wirelessChannel => 4
  | relayMode => 3
  | relayState => 3
  | relayDefaultState => 3
  | relayPwm => 6
  | relaySetInvertedOutput => 3
  | relayOneShot => 20
  | relayButtonConfig => 10
  | relaySchedule => 88
  | environmentSunnyTime => 3
  | environmentCloudCover => 206
  | environmentPosition => 18
  | diagSetLogsSettings => 12
  | status => 5
  | get => 8

/-- The lengths on which a parser's length check lets a buffer through that its fields overrun. -/
def Overruns (bufLen : Nat) (memory : Memory) : ParserKind → Prop
  | wirelessEnable => bufLen = 2
  | wirelessTxPower => bufLen = 4
  | relayButtonConfig => bufLen = 4 + modeLenField memory ∧ modeLenField memory < 6
  | environmentCloudCover => 14 ≤ bufLen ∧ bufLen < 206
  | environmentPosition => 10 ≤ bufLen ∧ bufLen < 18
  | _ => False

end ParserKind

theorem staysInside_parseMsgType (bufLen : Nat) (memory : Memory) :
    StaysInside 2 bufLen (parseMsgType bufLen memory Cursor.start) := by
  by_cases short : bufLen < 2
  · rw [parseMsgType, if_pos short]
    exact staysInside_zero memory
  · rw [parseMsgType, if_neg short, run_parseUint16]
    exact StaysInside.longEnough (by omega) (by omega) (by simp)

/-- A parser stays inside a received buffer exactly when its length check is not one of the five
that let a buffer through which its fields overrun, on such a length. -/
theorem parse_staysInside_iff (kind : ParserKind) (bufLen : Nat) (memory : Memory) :
    StaysInside (kind.fieldsLen memory) bufLen (kind.parse bufLen memory Cursor.start) ↔
      ¬ kind.Overruns bufLen memory := by
  cases kind with
  | msgType => exact iff_of_true (staysInside_parseMsgType bufLen memory) id
  | updateStart => exact iff_of_true (staysInside_parseUpdateStartMsg bufLen memory) id
  | wirelessCredentials =>
      exact iff_of_true (staysInside_parseWirelessCredentialsMsg bufLen memory) id
  | relaySchedule => exact iff_of_true (staysInside_parseRelayScheduleMsg bufLen memory) id
  | energyPriceDay => exact iff_of_true (staysInside_of_atLeast (by rfl) (by decide) memory) id
  | connectionStatus | identify | updateInstall | updateStop | meterCurrentLimit
  | meterClearAlarms | energyPriceThreshold | energyPriceCheapPeriod | energyPriceTariff
  | wirelessChannel | relayMode | relayState | relayDefaultState | relayPwm
  | relaySetInvertedOutput | relayOneShot | environmentSunnyTime | diagSetLogsSettings
  | status | get =>
      exact iff_of_true (staysInside_of_exact (by rfl) (by decide) memory) id
  | wirelessEnable | wirelessTxPower =>
      exact staysInside_of_exact_above (by rfl) (by decide) memory
  | relayButtonConfig => exact staysInside_parseRelayButtonConfigMsg_iff bufLen memory
  | environmentCloudCover => exact staysInside_parseEnvironmentCloudCoverMsg_iff bufLen memory
  | environmentPosition => exact staysInside_parseAtLeast_iff (by rfl) memory

/-- A transmit-power request of the accepted four bytes is read one byte too far. -/
theorem parse_txPower_overruns :
    ¬ StaysInside
      (ParserKind.wirelessTxPower.fieldsLen (Reader.ofBytes [0x34, 0, 0, 0] fun _ => 0)) 4
      (ParserKind.wirelessTxPower.parse 4 (Reader.ofBytes [0x34, 0, 0, 0] fun _ => 0)
        Cursor.start) := by
  intro stays
  have read : 4 < 4 := stays.reads 4 (by decide)
  exact Nat.lt_irrefl 4 read

end EsInverter.TcpProtocol
