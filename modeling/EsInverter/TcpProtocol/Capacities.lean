import EsInverter.TcpProtocol.Sender

/-!
# Which senders fill a buffer that holds the message

Every call of a sender, with the type it is named after.  The members of a
structure fit into it, so that most capacities hold what is written; the others
are settled by the lengths of the arguments.
-/

set_option autoImplicit false

namespace EsInverter.TcpProtocol

open Lib

/-- The calls of the senders. -/
inductive Call
  | clientInfo (uniqueId : UInt32) (devId : UInt64) (hwVer : UInt8) (appVer : UInt32)
      (reconnReason : UInt8) (devType : UInt16) (ipAddr : UInt32) (resetReason : UInt8)
      (sessionId : UInt16)
  | installedFw (fwVer downloadedFwVer : UInt32) (hwVer : UInt8) (buildTime : Int64)
  | updateStatus (fwVer : UInt32) (progress phase error : UInt8)
  | wirelessStatus (protocol enabled : UInt8) (ip : UInt32) (rssi : Int8) (lqi : UInt8)
  | wirelessCredentials (protocol : UInt8) (network password : List UInt8)
  | wirelessTxPower (protocol : UInt8) (txPower : Int16)
  | wirelessChannel (protocol channel : UInt8)
  | energyPriceDayGet (reqTariff : UInt32) (reqDayTime : Int64)
  | energyThreshold (price : Int32)
  | energyCheapPeriod (quarters : UInt8)
  | energyActivePriceLimit (price : Int32)
  | energySunnyhours (percentage : UInt8)
  | energyTariff (tariff : UInt16)
  | relayMode (mode : UInt8)
  | relayState (state : UInt8)
  | relayDefState (enabled : UInt8)
  | relayPwm (enabled : UInt8) (periodMin : UInt16) (dutyCycle : UInt8)
  | relayInvertedOutput (inverted : UInt8)
  | relayButtonConfig (modeLen : UInt8) (modes : Vector UInt8 modeLen.toNat)
  | relaySchedule (len : UInt8) (schedule : Vector UInt8 len.toNat)
  | relayOneShot (enabled : UInt8) (start «end» : Int64) (state : UInt8)
  | relaySnapshots (entriesNum : UInt16) (refTimestamp : Int64) (factor : Int8)
      (tOffset : Vector UInt32 entriesNum.toNat) (snapshot : Vector UInt8 entriesNum.toNat)
      (thresholds : Vector Int16 entriesNum.toNat)
  | environmentPosition (latitude longitude : Int32)
  | meterMeasurements (entriesNum : UInt16) (refTimestamp : Int64)
      (measTypes : Vector UInt8 entriesNum.toNat) (values : Vector Int32 entriesNum.toNat)
  | meterMeasurementsHistory (entriesNum : UInt16) (refTimestamp : Int64) (measType : UInt8)
      (tOffset : Vector UInt32 entriesNum.toNat) (values : Vector Int32 entriesNum.toNat)
  | meterCurrentLimit (limit : Int32)
  | meterAlarms (mask : UInt64)
  | energyAccumulated (timestamp : Int64) (measType : UInt8) (energy : UInt64)
  | energyHistory (entriesNum : UInt16) (measType : UInt8) (refTimestamp : Int64)
      (interval : UInt32) (entries : Vector UInt32 entriesNum.toNat)
  | diagCoredumpStart (coredumpVersion : UInt32)
  | diagCoredumpBody (coredumpVersion : UInt32) (blockLen : UInt16)
      (data : Vector UInt8 blockLen.toNat)
  | diagCoredumpEnd (coredumpVersion : UInt32)
  | diagDebugInfo (info : List UInt8)
  | diagLogsSettings (medium : UInt8) (modulsLevels : Vector UInt64 6)
  | status (rqType : UInt16) (error : UInt8)

namespace Call

def run (crc32Le : List UInt8 → UInt32) : Call → Except Fault Sending
  | clientInfo uniqueId devId hwVer appVer reconnReason devType ipAddr resetReason sessionId =>
      protocolSendClientInfo crc32Le uniqueId devId hwVer appVer reconnReason devType ipAddr
        resetReason sessionId
  | installedFw fwVer downloadedFwVer hwVer buildTime =>
      protocolSendInstalledFw fwVer downloadedFwVer hwVer buildTime
  | updateStatus fwVer progress phase error => protocolSendUpdateStatus fwVer progress phase error
  | wirelessStatus protocol enabled ip rssi lqi =>
      protocolSendWirelessStatus protocol enabled ip rssi lqi
  | wirelessCredentials protocol network password =>
      protocolSendWirelessCredentials protocol network password
  | wirelessTxPower protocol txPower => protocolSendWirelessTxPower protocol txPower
  | wirelessChannel protocol channel => protocolSendWirelessChannel protocol channel
  | energyPriceDayGet reqTariff reqDayTime => protocolSendEnergyPriceDayGet reqTariff reqDayTime
  | energyThreshold price => protocolSendEnergyThreshold price
  | energyCheapPeriod quarters => protocolSendEnergyCheapPeriod quarters
  | energyActivePriceLimit price => protocolSendEnergyActivePriceLimit price
  | energySunnyhours percentage => protocolSendEnergySunnyhours percentage
  | energyTariff tariff => protocolSendEnergyTariff tariff
  | relayMode mode => protocolSendRelayMode mode
  | relayState state => protocolSendRelayState state
  | relayDefState enabled => protocolSendRelayDefState enabled
  | relayPwm enabled periodMin dutyCycle => protocolSendRelayPwm enabled periodMin dutyCycle
  | relayInvertedOutput inverted => protocolSendRelayInvertedOutput inverted
  | relayButtonConfig modeLen modes => protocolSendRelayButtonConfig modeLen modes
  | relaySchedule len schedule => protocolSendRelaySchedule len schedule
  | relayOneShot enabled start «end» state => protocolSendRelayOneShot enabled start «end» state
  | relaySnapshots entriesNum refTimestamp factor tOffset snapshot thresholds =>
      protocolSendRelaySnapshots entriesNum refTimestamp factor tOffset snapshot thresholds
  | environmentPosition latitude longitude => protocolSendEnvironmentPosition latitude longitude
  | meterMeasurements entriesNum refTimestamp measTypes values =>
      protocolSendMeterMeasurements entriesNum refTimestamp measTypes values
  | meterMeasurementsHistory entriesNum refTimestamp measType tOffset values =>
      protocolSendMeterMeasurementsHistory entriesNum refTimestamp measType tOffset values
  | meterCurrentLimit limit => protocolSendMeterCurrentLimit limit
  | meterAlarms mask => protocolSendMeterAlarms mask
  | energyAccumulated timestamp measType energy =>
      protocolSendEnergyAccumulated timestamp measType energy
  | energyHistory entriesNum measType refTimestamp interval entries =>
      protocolSendEnergyHistory entriesNum measType refTimestamp interval entries
  | diagCoredumpStart coredumpVersion => protocolSendDiagCoredumpStart coredumpVersion
  | diagCoredumpBody coredumpVersion blockLen data =>
      protocolSendDiagCoredumpBody coredumpVersion blockLen data
  | diagCoredumpEnd coredumpVersion => protocolSendDiagCoredumpEnd coredumpVersion
  | diagDebugInfo info => protocolSendDiagDebugInfo info
  | diagLogsSettings medium modulsLevels => protocolSendDiagLogsSettings medium modulsLevels
  | status rqType error => protocolSendStatus rqType error

/-- The message type that the function is named after. -/
def named : Call → MsgType
  | clientInfo .. => MsgType.clientInfo
  | installedFw .. => MsgType.updateInstalledfw
  | updateStatus .. => MsgType.updateStatus
  | wirelessStatus .. => MsgType.wirelessStatus
  | wirelessCredentials .. => MsgType.wirelessCredentials
  | wirelessTxPower .. => MsgType.wirelessTxPower
  | wirelessChannel .. => MsgType.wirelessChannel
  | energyPriceDayGet .. => MsgType.energypriceDayGet
  | energyThreshold _ => MsgType.energypricePriceThreshold
  | energyCheapPeriod _ => MsgType.energypriceCheapPeriod
  | energyActivePriceLimit _ => MsgType.energypriceActivePriceLimit
  | energySunnyhours _ => MsgType.environmentSunnyTime
  | energyTariff _ => MsgType.energypriceTariff
  | relayMode _ => MsgType.relayMode
  | relayState _ => MsgType.relayState
  | relayDefState _ => MsgType.relayDefaultState
  | relayPwm .. => MsgType.relayPwm
  | relayInvertedOutput _ => MsgType.relayInvertedOutput
  | relayButtonConfig .. => MsgType.relayButtonConfig
  | relaySchedule .. => MsgType.relaySchedule
  | relayOneShot .. => MsgType.relayOneShot
  | relaySnapshots .. => MsgType.relaySnapshots
  | environmentPosition .. => MsgType.environmentPosition
  | meterMeasurements .. => MsgType.meterMeasurement
  | meterMeasurementsHistory .. => MsgType.meterMeasurementHistory
  | meterCurrentLimit _ => MsgType.meterCurrentLimit
  | meterAlarms _ => MsgType.meterAlarms
  | energyAccumulated .. => MsgType.energyAccumulated
  | energyHistory .. => MsgType.energyHistory
  | diagCoredumpStart _ => MsgType.diagCoredumpStart
  | diagCoredumpBody .. => MsgType.diagCoredumpBody
  | diagCoredumpEnd _ => MsgType.diagCoredumpEnd
  | diagDebugInfo _ => MsgType.diagDebugInfo
  | diagLogsSettings .. => MsgType.diagLogsSettings
  | status .. => MsgType.status

/-- The lengths for which the buffer holds the message. -/
def Fitting : Call → Prop
  | wirelessCredentials _ network password =>
      (cString network).length < 32 ∧ (cString password).length < 64
  | wirelessChannel _ _ => False
  | relayButtonConfig modeLen _ => modeLen.toNat ≤ maxDefinedModes
  | relaySchedule len _ => len.toNat = quartersInDay * 7 / 8
  | relaySnapshots entriesNum .. => 17 + 7 * entriesNum.toNat < 1200
  | meterMeasurements entriesNum .. => 14 + 5 * entriesNum.toNat < 1200
  | meterMeasurementsHistory entriesNum .. => 15 + 8 * entriesNum.toNat < 1200
  | energyHistory entriesNum .. => 17 + 4 * entriesNum.toNat < 1200
  | _ => True

end Call

/-- The message is written inside the buffer, and its type comes first. -/
def Filled (run : Except Fault Sending) (type : MsgType) : Prop :=
  ∃ sending, run = .ok sending ∧ sending.bytes.length ≤ sending.cap ∧
    sending.bytes.take 2 = serializeUint16 type

/-- A call fills its buffer, or the sender itself refuses the length of the block. -/
def Fills (crc32Le : List UInt8 → UInt32) (call : Call) : Prop :=
  Filled (call.run crc32Le) call.named ∨ call.run crc32Le = .error (.assertion .blockLen)

/-! ### Widths of the primitive writes -/

@[simp]
theorem length_serializeUint8 (value : UInt8) : (serializeUint8 value).length = 1 := rfl

@[simp]
theorem length_serializeInt8 (value : Int8) : (serializeInt8 value).length = 1 := rfl

@[simp]
theorem length_serializeUint16 (value : UInt16) : (serializeUint16 value).length = 2 := rfl

@[simp]
theorem length_serializeInt16 (value : Int16) : (serializeInt16 value).length = 2 := rfl

@[simp]
theorem length_serializeUint32 (value : UInt32) : (serializeUint32 value).length = 4 := rfl

@[simp]
theorem length_serializeInt32 (value : Int32) : (serializeInt32 value).length = 4 := rfl

@[simp]
theorem length_serializeUint64 (value : UInt64) : (serializeUint64 value).length = 8 := rfl

/-! ### One buffer -/

section Buffer

variable {len : Nat} {type : MsgType} {bytes : List UInt8}

theorem bufferDynamicAlloc_of_lt (small : len < 1200) :
    bufferDynamicAlloc (UInt16.ofNat len) = .ok len := by
  have same : (UInt16.ofNat len).toNat = len := UInt16.toNat_ofNat_of_lt' (by
    rw [UInt16.size]
    omega)
  rw [bufferDynamicAlloc, assertThat, same, if_pos small]
  rfl

theorem sendSerialized_of_lt (small : len < 1200) (bytes : List UInt8) :
    sendSerialized len (.ok bytes) = .ok ⟨len, bytes⟩ := by
  rw [sendSerialized, bufferDynamicAlloc_of_lt small]
  rfl

/-- The type is written first. -/
theorem take_flatten (type : MsgType) (fields : List (List UInt8)) :
    (List.flatten (serializeUint16 type :: fields)).take 2 = serializeUint16 type := rfl

theorem filled_of_le (small : len < 1200) (fits : bytes.length ≤ len)
    (typed : bytes.take 2 = serializeUint16 type) :
    Filled (sendSerialized len (.ok bytes)) type :=
  ⟨⟨len, bytes⟩, sendSerialized_of_lt small bytes, fits, typed⟩

/-- A capacity that is the number of bytes is either small enough or not allocated. -/
theorem filled_iff_of_eq (exact : bytes.length = len)
    (typed : bytes.take 2 = serializeUint16 type) :
    Filled (sendSerialized len (.ok bytes)) type ↔ len < 1200 := by
  constructor
  · rintro ⟨sending, ran, fits, -⟩
    obtain ⟨cap, allocated, ran⟩ := bind_ok ran
    cases ran
    rw [bufferDynamicAlloc, assertThat] at allocated
    split at allocated
    next small =>
      cases allocated
      have truncated : (UInt16.ofNat len).toNat = len % 2 ^ 16 := UInt16.toNat_ofNat'
      have held : bytes.length ≤ (UInt16.ofNat len).toNat := fits
      omega
    next => cases allocated
  · intro small
    exact filled_of_le small exact.le typed

/-- An assertion of the serializer comes behind the allocation. -/
theorem sendSerialized_error (small : len < 1200) (fault : Fault) :
    sendSerialized len (.error fault) = .error fault := by
  rw [sendSerialized, bufferDynamicAlloc_of_lt small]
  rfl

theorem sendSerialized_ne_blockLen (len : Nat) (bytes : List UInt8) :
    sendSerialized len (.ok bytes) ≠ .error (.assertion .blockLen) := by
  rw [sendSerialized, bufferDynamicAlloc, assertThat]
  split
  · intro same
    cases same
  · intro same
    cases same

theorem not_filled_error (fault : Fault) : ¬Filled (.error fault) type := by
  rintro ⟨sending, ran, -⟩
  cases ran

end Buffer

/-- A serializer that writes the members of a structure as they are declared. -/
theorem filled_of_members (α : Type) [Declared α] {type : MsgType} {fields : List (List UInt8)}
    (small : sizeof α < 1200)
    (written : (List.flatten (serializeUint16 type :: fields)).length =
      (Declared.members α).packedSize) :
    Filled (sendSerialized (sizeof α) (.ok (List.flatten (serializeUint16 type :: fields)))) type :=
  filled_of_le small (written.le.trans (packedSize_le_sizeof α)) (take_flatten type fields)

section Run

variable {crc32Le : List UInt8 → UInt32} {call : Call}

/-- A call whose message has the length of its buffer. -/
theorem fills_iff_of_eq {len : Nat} {bytes : List UInt8}
    (ran : call.run crc32Le = sendSerialized len (.ok bytes)) (exact : bytes.length = len)
    (typed : bytes.take 2 = serializeUint16 call.named) : Fills crc32Le call ↔ len < 1200 := by
  rw [← filled_iff_of_eq exact typed, Fills, ran]
  exact or_iff_left (sendSerialized_ne_blockLen len bytes)

theorem not_fills_of_error (fault : Fault) (ran : call.run crc32Le = .error fault)
    (other : fault ≠ .assertion .blockLen) : ¬Fills crc32Le call := by
  rintro (filled | refused)
  · rw [ran] at filled
    exact not_filled_error fault filled
  · rw [ran] at refused
    exact other (Except.error.inj refused)

end Run

/-! ### Copies and loops -/

theorem copyInto_of_le {size : Nat} (target : Vector UInt8 size) (copied : List UInt8)
    (fits : copied.length ≤ size) : ∃ copy, copyInto target copied = .ok copy :=
  ⟨_, if_pos fits⟩

theorem copyInto_of_lt {size : Nat} (target : Vector UInt8 size) {copied : List UInt8}
    (long : size < copied.length) : copyInto target copied = .error .outOfBounds :=
  if_neg (Nat.not_le.mpr long)

theorem serializeFirst_of_le {size length : Nat} (values : Vector UInt8 size)
    (fits : length ≤ size) :
    ∃ bytes, serializeFirst serializeUint8 values length = .ok bytes ∧ bytes.length = length := by
  refine ⟨_, if_pos fits, ?_⟩
  rw [List.length_flatMap]
  simp [serializeUint8, fits]

theorem length_flatMap_of_width {α : Type} {size width : Nat} {serialize : α → List UInt8}
    (widths : ∀ value, (serialize value).length = width) (values : Vector α size) :
    (values.toList.flatMap serialize).length = size * width := by
  rw [List.length_flatMap]
  simp [widths]

/-! ### Arguments of any length -/

theorem strnlen_le (string : List UInt8) (maxlen : Nat) : strnlen string maxlen ≤ maxlen :=
  Nat.min_le_right _ _

theorem toNat_strnlen (string : List UInt8) {maxlen : Nat} (small : maxlen < 2 ^ 16) :
    (UInt16.ofNat (strnlen string maxlen)).toNat = strnlen string maxlen := by
  have bound := strnlen_le string maxlen
  exact UInt16.toNat_ofNat_of_lt' (by rw [UInt16.size]; omega)

theorem length_take_strnlen_le (string : List UInt8) (maxlen : Nat) :
    (string.take (strnlen string maxlen)).length ≤ maxlen :=
  (List.length_take_le _ _).trans (strnlen_le string maxlen)

/-- Both strings leave room for the terminator, which the serializer demands. -/
theorem fills_wirelessCredentials (crc32Le : List UInt8 → UInt32) (protocol : UInt8)
    (network password : List UInt8) :
    Fills crc32Le (.wirelessCredentials protocol network password) ↔
      (cString network).length < 32 ∧ (cString password).length < 64 := by
  have networkBound := strnlen_le network 32
  have passwordBound := strnlen_le password 64
  have networkShort : strnlen network 32 < 32 ↔ (cString network).length < 32 := by
    rw [strnlen]
    omega
  have passwordShort : strnlen password 64 < 64 ↔ (cString password).length < 64 := by
    rw [strnlen]
    omega
  rw [← networkShort, ← passwordShort]
  obtain ⟨networkCopy, networkCopied⟩ :=
    copyInto_of_le ({ } : WirelessCredentialsMsg).network _ (length_take_strnlen_le network 32)
  obtain ⟨passwordCopy, passwordCopied⟩ :=
    copyInto_of_le ({ } : WirelessCredentialsMsg).password _ (length_take_strnlen_le password 64)
  obtain ⟨networkBytes, networkWritten, networkLength⟩ :=
    serializeFirst_of_le networkCopy networkBound
  obtain ⟨passwordBytes, passwordWritten, passwordLength⟩ :=
    serializeFirst_of_le passwordCopy passwordBound
  have ran : protocolSendWirelessCredentials protocol network password =
      sendSerialized (2 + 1 + 2 + strnlen network 32 + 2 + strnlen password 64)
        (do
          assertThat (strnlen network 32 < 32) .networkLen
          assertThat (strnlen password 64 < 64) .passwordLen
          pure (List.flatten [serializeUint16 MsgType.wirelessCredentials, serializeUint8 protocol,
            serializeUint16 (UInt16.ofNat (strnlen network 32)), networkBytes,
            serializeUint16 (UInt16.ofNat (strnlen password 64)), passwordBytes])) := by
    unfold protocolSendWirelessCredentials
    dsimp only
    rw [networkCopied, ok_bind, passwordCopied, ok_bind, serializeWirelessCredentialsMsg]
    dsimp only
    rw [toNat_strnlen network (by decide), toNat_strnlen password (by decide), networkWritten,
      passwordWritten]
    rfl
  by_cases networkFits : strnlen network 32 < 32
  case neg =>
    refine iff_of_false (not_fills_of_error (.assertion .networkLen) ?_ (by decide))
      fun both => networkFits both.1
    rw [Call.run, ran, assertThat, if_neg networkFits]
    exact sendSerialized_error (by omega) _
  by_cases passwordFits : strnlen password 64 < 64
  case neg =>
    refine iff_of_false (not_fills_of_error (.assertion .passwordLen) ?_ (by decide))
      fun both => passwordFits both.2
    rw [Call.run, ran, assertThat, assertThat, if_pos networkFits, if_neg passwordFits]
    exact sendSerialized_error (by omega) _
  rw [assertThat, assertThat, if_pos networkFits, if_pos passwordFits] at ran
  refine iff_of_true (.inl ?_) ⟨networkFits, passwordFits⟩
  rw [Call.run, ran]
  refine filled_of_le (by omega) ?_ (take_flatten _ _)
  simp [networkLength, passwordLength]
  omega

/-- A copy of at most six modes. -/
theorem fills_relayButtonConfig (crc32Le : List UInt8 → UInt32) (modeLen : UInt8)
    (modes : Vector UInt8 modeLen.toNat) :
    Fills crc32Le (.relayButtonConfig modeLen modes) ↔ modeLen.toNat ≤ maxDefinedModes := by
  by_cases fits : modeLen.toNat ≤ maxDefinedModes
  · refine iff_of_true (.inl ?_) fits
    obtain ⟨copy, copied⟩ := copyInto_of_le ({ } : RelayButtonConfigMsg).modes modes.toList
      (by simpa using fits)
    obtain ⟨bytes, written, length⟩ := serializeFirst_of_le copy fits
    have same : modeLen.toUInt16.toNat = modeLen.toNat := UInt8.toNat_toUInt16 modeLen
    have ran : protocolSendRelayButtonConfig modeLen modes =
        sendSerialized (sizeof RelayButtonConfigMsg) (.ok (List.flatten
          [serializeUint16 MsgType.relayButtonConfig, serializeUint16 modeLen.toUInt16, bytes])) := by
      rw [protocolSendRelayButtonConfig, copied, ok_bind, serializeRelayDefinedModesMsg, same,
        written]
      rfl
    have size : sizeof RelayButtonConfigMsg = 4 + maxDefinedModes := by decide
    rw [Call.run, ran, size]
    refine filled_of_le (by decide) ?_ (take_flatten _ _)
    simpa [length, ← Nat.add_assoc] using fits
  · refine iff_of_false (not_fills_of_error .outOfBounds ?_ (by decide)) fits
    rw [Call.run, protocolSendRelayButtonConfig, copyInto_of_lt _ (by simpa using fits)]
    rfl

/-- The array takes a schedule that is not longer, and the serializer one that is not shorter. -/
theorem fills_relaySchedule (crc32Le : List UInt8 → UInt32) (len : UInt8)
    (schedule : Vector UInt8 len.toNat) :
    Fills crc32Le (.relaySchedule len schedule) ↔ len.toNat = quartersInDay * 7 / 8 := by
  have same : len.toUInt16.toNat = len.toNat := UInt8.toNat_toUInt16 len
  by_cases fits : len.toNat ≤ quartersInDay * 7 / 8
  case neg =>
    refine iff_of_false (not_fills_of_error .outOfBounds ?_ (by decide)) fun full => fits full.le
    rw [Call.run, protocolSendRelaySchedule, copyInto_of_lt _ (by simpa using fits)]
    rfl
  obtain ⟨copy, copied⟩ := copyInto_of_le ({ } : RelayScheduleMsg).schedule schedule.toList
    (by simpa using fits)
  obtain ⟨bytes, written, length⟩ := serializeFirst_of_le copy le_rfl
  by_cases full : len.toNat = quartersInDay * 7 / 8
  · refine iff_of_true (.inl ?_) full
    have ran : protocolSendRelaySchedule len schedule =
        sendSerialized (sizeof RelayScheduleMsg) (.ok (List.flatten
          [serializeUint16 MsgType.relaySchedule, serializeUint16 len.toUInt16, bytes])) := by
      rw [protocolSendRelaySchedule, copied, ok_bind, serializeRelayScheduleMsg, assertThat, same,
        if_pos full, ok_bind, written]
      rfl
    have size : sizeof RelayScheduleMsg = 4 + quartersInDay * 7 / 8 := by decide
    rw [Call.run, ran, size]
    refine filled_of_le (by decide) ?_ (take_flatten _ _)
    simp [length, ← Nat.add_assoc]
  · refine iff_of_false (not_fills_of_error (.assertion .scheduleLen) ?_ (by decide)) full
    rw [Call.run, protocolSendRelaySchedule, copied, ok_bind, serializeRelayScheduleMsg, assertThat,
      same, if_neg full]
    exact sendSerialized_error (by decide) _

/-- The sender refuses a block that is too long. -/
theorem fills_diagCoredumpBody (crc32Le : List UInt8 → UInt32) (coredumpVersion : UInt32)
    (blockLen : UInt16) (data : Vector UInt8 blockLen.toNat) :
    Fills crc32Le (.diagCoredumpBody coredumpVersion blockLen data) := by
  by_cases fits : blockLen.toNat ≤ coredumpBlockMaxSize
  case neg =>
    refine .inr ?_
    rw [Call.run, protocolSendDiagCoredumpBody, assertThat, if_neg fits]
    rfl
  refine .inl ?_
  obtain ⟨copy, copied⟩ := copyInto_of_le ({ } : DiagCoredumpBodyMsg).blockData data.toList
    (by simpa using fits)
  obtain ⟨bytes, written, length⟩ := serializeFirst_of_le copy fits
  have ran : protocolSendDiagCoredumpBody coredumpVersion blockLen data =
      sendSerialized (sizeof DiagCoredumpBodyMsg) (.ok (List.flatten
        [serializeUint16 MsgType.diagCoredumpBody, serializeUint32 coredumpVersion,
          serializeUint16 blockLen, bytes])) := by
    rw [protocolSendDiagCoredumpBody, assertThat, if_pos fits, ok_bind, copied, ok_bind,
      serializeDiagCoredumpBodyMsg, written]
    rfl
  have size : sizeof DiagCoredumpBodyMsg = 12 + coredumpBlockMaxSize := by decide
  rw [Call.run, ran, size]
  refine filled_of_le (by decide) ?_ (take_flatten _ _)
  simp [length]
  omega

theorem fills_diagDebugInfo (crc32Le : List UInt8 → UInt32) (info : List UInt8) :
    Fills crc32Le (.diagDebugInfo info) := by
  refine .inl ?_
  have bound : strnlen info coredumpBlockMaxSize ≤ 1024 := strnlen_le info coredumpBlockMaxSize
  have same := toNat_strnlen info (by decide : coredumpBlockMaxSize < 2 ^ 16)
  obtain ⟨copy, copied⟩ := copyInto_of_le ({ } : DiagDebugInfoMsg).data _
    (length_take_strnlen_le info coredumpBlockMaxSize)
  obtain ⟨bytes, written, length⟩ := serializeFirst_of_le copy bound
  have ran : protocolSendDiagDebugInfo info =
      sendSerialized (2 + 2 + strnlen info coredumpBlockMaxSize) (.ok (List.flatten
        [serializeUint16 MsgType.diagDebugInfo,
          serializeUint16 (UInt16.ofNat (strnlen info coredumpBlockMaxSize)), bytes])) := by
    unfold protocolSendDiagDebugInfo
    dsimp only
    rw [same, copied, ok_bind, serializeDiagDebugInfoMsg]
    dsimp only
    rw [same, written]
    rfl
  rw [Call.run, ran]
  refine filled_of_le (by omega) ?_ (take_flatten _ _)
  simp [length]
  omega

/-- The type and the last byte have no room. -/
theorem not_fills_wirelessChannel (crc32Le : List UInt8 → UInt32) (protocol channel : UInt8) :
    ¬Fills crc32Le (.wirelessChannel protocol channel) := by
  have ran : (Call.wirelessChannel protocol channel).run crc32Le =
      .ok ⟨4, serializeWirelessTxPowerMsg protocol channel.toUInt16.toInt16⟩ :=
    sendSerialized_of_lt (by decide) _
  rintro (⟨sending, sent, fits, -⟩ | refused)
  · rw [ran] at sent
    cases sent
    exact absurd fits (by decide : ¬5 ≤ 4)
  · rw [ran] at refused
    cases refused

theorem filled_diagLogsSettings (medium : UInt8) (modulsLevels : Vector UInt64 6) :
    Filled (protocolSendDiagLogsSettings medium modulsLevels) MsgType.diagLogsSettings := by
  refine filled_of_le (by decide) ?_ (take_flatten _ _)
  have levels := length_flatMap_of_width length_serializeUint64 modulsLevels
  simp [serializeDiagLogsSettingsMsg, levels]

section Entries

variable (crc32Le : List UInt8 → UInt32) (entriesNum : UInt16) (refTimestamp : Int64)

theorem fills_relaySnapshots (factor : Int8) (tOffset : Vector UInt32 entriesNum.toNat)
    (snapshot : Vector UInt8 entriesNum.toNat) (thresholds : Vector Int16 entriesNum.toNat) :
    Fills crc32Le (.relaySnapshots entriesNum refTimestamp factor tOffset snapshot thresholds) ↔
      17 + 7 * entriesNum.toNat < 1200 := by
  have offsets := length_flatMap_of_width length_serializeUint32 tOffset
  have states := length_flatMap_of_width length_serializeUint8 snapshot
  have limits := length_flatMap_of_width length_serializeInt16 thresholds
  rw [fills_iff_of_eq rfl ?_ (take_flatten _ _)]
  · omega
  · simp [offsets, states, limits]
    omega

theorem fills_meterMeasurements (measTypes : Vector UInt8 entriesNum.toNat)
    (values : Vector Int32 entriesNum.toNat) :
    Fills crc32Le (.meterMeasurements entriesNum refTimestamp measTypes values) ↔
      14 + 5 * entriesNum.toNat < 1200 := by
  have types := length_flatMap_of_width length_serializeUint8 measTypes
  have measured := length_flatMap_of_width length_serializeInt32 values
  rw [fills_iff_of_eq rfl ?_ (take_flatten _ _)]
  · omega
  · simp [types, measured]
    omega

theorem fills_meterMeasurementsHistory (measType : UInt8)
    (tOffset : Vector UInt32 entriesNum.toNat) (values : Vector Int32 entriesNum.toNat) :
    Fills crc32Le (.meterMeasurementsHistory entriesNum refTimestamp measType tOffset values) ↔
      15 + 8 * entriesNum.toNat < 1200 := by
  have offsets := length_flatMap_of_width length_serializeUint32 tOffset
  have measured := length_flatMap_of_width length_serializeInt32 values
  rw [fills_iff_of_eq rfl ?_ (take_flatten _ _)]
  · omega
  · simp [offsets, measured]
    omega

theorem fills_energyHistory (measType : UInt8) (interval : UInt32)
    (entries : Vector UInt32 entriesNum.toNat) :
    Fills crc32Le (.energyHistory entriesNum measType refTimestamp interval entries) ↔
      17 + 4 * entriesNum.toNat < 1200 := by
  have energies := length_flatMap_of_width length_serializeUint32 entries
  rw [fills_iff_of_eq rfl ?_ (take_flatten _ _)]
  · omega
  · simp [energies]
    omega

end Entries

/-- A buffer holds the message of a call exactly when the lengths are fitting. -/
theorem fills_iff_fitting (crc32Le : List UInt8 → UInt32) (call : Call) :
    Fills crc32Le call ↔ call.Fitting := by
  cases call with
  | clientInfo _ _ _ _ _ _ _ _ _ | updateStatus _ _ _ _ | energyPriceDayGet _ _
  | energyThreshold _ | energyCheapPeriod _ | energyActivePriceLimit _ | energySunnyhours _
  | energyTariff _ | relayMode _ | relayState _ | relayDefState _ | relayPwm _ _ _
  | relayOneShot _ _ _ _ | environmentPosition _ _ | diagCoredumpStart _ | diagCoredumpEnd _
  | status _ _ =>
      -- The capacity is the size of the structure whose members are written.
      exact iff_of_true (.inl (filled_of_members _ (by decide) rfl)) trivial
  | wirelessStatus _ _ _ _ _ | wirelessTxPower _ _ | relayInvertedOutput _ | meterCurrentLimit _
  | meterAlarms _ | energyAccumulated _ _ _ =>
      -- The capacity is the sum of the widths that are written.
      exact iff_of_true (.inl (filled_of_le (by decide) le_rfl (take_flatten _ _))) trivial
  | installedFw _ _ _ _ =>
      -- The hardware version is written with four bytes, for which the padding has room.
      exact iff_of_true (.inl (filled_of_le (by decide) (by decide : 22 ≤ sizeof InstalledFwMsg)
        (take_flatten _ _))) trivial
  | wirelessCredentials protocol network password =>
      exact fills_wirelessCredentials crc32Le protocol network password
  | wirelessChannel protocol channel =>
      exact iff_of_false (not_fills_wirelessChannel crc32Le protocol channel) not_false
  | relayButtonConfig modeLen modes => exact fills_relayButtonConfig crc32Le modeLen modes
  | relaySchedule len schedule => exact fills_relaySchedule crc32Le len schedule
  | relaySnapshots entriesNum refTimestamp factor tOffset snapshot thresholds =>
      exact fills_relaySnapshots crc32Le entriesNum refTimestamp factor tOffset snapshot thresholds
  | meterMeasurements entriesNum refTimestamp measTypes values =>
      exact fills_meterMeasurements crc32Le entriesNum refTimestamp measTypes values
  | meterMeasurementsHistory entriesNum refTimestamp measType tOffset values =>
      exact fills_meterMeasurementsHistory crc32Le entriesNum refTimestamp measType tOffset values
  | energyHistory entriesNum measType refTimestamp interval entries =>
      exact fills_energyHistory crc32Le entriesNum refTimestamp measType interval entries
  | diagCoredumpBody coredumpVersion blockLen data =>
      exact iff_of_true (fills_diagCoredumpBody crc32Le coredumpVersion blockLen data) trivial
  | diagDebugInfo info => exact iff_of_true (fills_diagDebugInfo crc32Le info) trivial
  | diagLogsSettings medium modulsLevels =>
      exact iff_of_true (.inl (filled_diagLogsSettings medium modulsLevels)) trivial

theorem wirelessChannel_not_fills :
    ¬∀ (crc32Le : List UInt8 → UInt32) (call : Call), Fills crc32Le call := by
  intro always
  exact not_fills_wirelessChannel (fun _ => 0) 0 6 (always _ _)

end EsInverter.TcpProtocol
