import EsInverter.TcpProtocol.Parser

/-!
# The serializers

A serializer writes its fields through one cursor from the start of the send
buffer, so it is given by the bytes written.  An assertion, or a length field
beyond its array, leaves no bytes.
-/

namespace EsInverter.TcpProtocol

open Lib.Wire

/-! ### Primitive writes -/

def serializeUint8 (value : UInt8) : List UInt8 := [value]
def serializeInt8 (value : Int8) : List UInt8 := [value.toUInt8]
def serializeUint16 (value : UInt16) : List UInt8 := le16 value
def serializeInt16 (value : Int16) : List UInt8 := le16 value.toUInt16
def serializeUint32 (value : UInt32) : List UInt8 := le32 value
def serializeInt32 (value : Int32) : List UInt8 := le32 value.toUInt32
def serializeUint64 (value : UInt64) : List UInt8 := le64 value
def serializeInt64 (value : Int64) : List UInt8 := le64 value.toUInt64

/-- `serialize_string`, and the loops over the first `length` elements of an array. -/
def serializeFirst {α : Type} {size : Nat} (serialize : α → List UInt8) (values : Vector α size)
    (length : Nat) : Except Fault (List UInt8) :=
  if length ≤ size then .ok ((values.toList.take length).flatMap serialize)
  else .error .outOfBounds

/-- `assert(condition)` in a serializer. -/
def assertThat (condition : Prop) [Decidable condition] (failed : Assert) : Except Fault Unit :=
  if condition then .ok () else .error (.assertion failed)

def serializeEnergyPriceCheapPeriodMsg (msg : EnergyPriceCheapPeriodMsg) : List UInt8 :=
  List.flatten [serializeUint16 msg.type, serializeUint8 msg.quarters]

def serializeEnergyPriceTariffMsg (msg : EnergyPriceTariffMsg) : List UInt8 :=
  List.flatten [serializeUint16 msg.type, serializeUint16 msg.tariff]

def serializeWirelessCredentialsMsg (msg : WirelessCredentialsMsg) :
    Except Fault (List UInt8) := do
  assertThat (msg.networkLen.toNat < 32) .networkLen
  let network ← serializeFirst serializeUint8 msg.network msg.networkLen.toNat
  assertThat (msg.passwordLen.toNat < 64) .passwordLen
  let password ← serializeFirst serializeUint8 msg.password msg.passwordLen.toNat
  pure (List.flatten [serializeUint16 MsgType.wirelessCredentials, serializeUint8 msg.protocol,
    serializeUint16 msg.networkLen, network, serializeUint16 msg.passwordLen, password])

def serializeWirelessTxPowerMsg (protocol : UInt8) (txPower : Int16) : List UInt8 :=
  List.flatten [serializeUint16 MsgType.wirelessTxPower, serializeUint8 protocol,
    serializeInt16 txPower]

def serializeWirelessChannelMsg (protocol channel : UInt8) : List UInt8 :=
  List.flatten [serializeUint16 MsgType.wirelessChannel, serializeUint8 protocol,
    serializeUint8 channel]

def serializeRelayModeMsg (msg : RelayModeMsg) : List UInt8 :=
  List.flatten [serializeUint16 msg.type, serializeUint8 msg.mode]

def serializeRelayDefaultStateMsg (msg : RelayDefaultStateMsg) : List UInt8 :=
  List.flatten [serializeUint16 msg.type, serializeUint8 msg.state]

def serializeRelayStateMsg (msg : RelayStateMsg) : List UInt8 :=
  List.flatten [serializeUint16 msg.type, serializeUint8 msg.state]

def serializeRelayPwmMsg (msg : RelayPwmMsg) : List UInt8 :=
  List.flatten [serializeUint16 msg.type, serializeUint8 msg.enabled, serializeUint16 msg.period,
    serializeUint8 msg.dutyCycle]

def serializeRelayOutputInvertedMsg (inverted : UInt8) : List UInt8 :=
  List.flatten [serializeUint16 MsgType.relayInvertedOutput, serializeUint8 inverted]

def serializeRelayOneShotMsg (msg : RelayOneShotMsg) : List UInt8 :=
  List.flatten [serializeUint16 msg.type, serializeUint8 msg.enabled,
    serializeUint64 msg.start.toUInt64, serializeUint64 msg.end.toUInt64,
    serializeUint8 msg.state]

def serializeRelayDefinedModesMsg (msg : RelayButtonConfigMsg) : Except Fault (List UInt8) := do
  let modes ← serializeFirst serializeUint8 msg.modes msg.modeLen.toNat
  pure (List.flatten [serializeUint16 msg.type, serializeUint16 msg.modeLen, modes])

def serializeRelayScheduleMsg (msg : RelayScheduleMsg) : Except Fault (List UInt8) := do
  assertThat (msg.scheduleLen.toNat = quartersInDay * 7 / 8) .scheduleLen
  let schedule ← serializeFirst serializeUint8 msg.schedule (quartersInDay * 7 / 8)
  pure (List.flatten [serializeUint16 msg.type, serializeUint16 msg.scheduleLen, schedule])

def serializeEnergyPriceThresholdMsg (msg : EnergyPriceThresholdMsg) : List UInt8 :=
  List.flatten [serializeUint16 msg.type, serializeInt32 msg.price]

def serializeEnvironmentSunnyTimeMsg (msg : EnvironmentSunnyTimeMsg) : List UInt8 :=
  List.flatten [serializeUint16 msg.type, serializeUint8 msg.percentage]

def serializeEnvironmentCloudCoverMsg (msg : EnvironmentCloudCoverMsg) :
    Except Fault (List UInt8) := do
  let percentage ← serializeFirst serializeUint16 msg.percentage msg.percentageLen.toNat
  pure (List.flatten [serializeUint16 msg.type, serializeUint64 msg.refTimestamp.toUInt64,
    serializeUint16 msg.period, serializeUint16 msg.percentageLen, percentage])

def serializeEnvironmentPositionMsg (msg : EnvironmentPositionMsg) : List UInt8 :=
  List.flatten [serializeUint16 msg.type, serializeInt64 msg.latitude, serializeInt64 msg.longitude]

def serializeMeterCurrentLimitMsg (currentLimit : Int32) : List UInt8 :=
  List.flatten [serializeUint16 MsgType.meterCurrentLimit, serializeInt32 currentLimit]

def serializeMeterAlarmsMsg (mask : UInt64) : List UInt8 :=
  List.flatten [serializeUint16 MsgType.meterAlarms, serializeUint64 mask]

def serializeStatusMsg (msg : StatusMsg) : List UInt8 :=
  List.flatten [serializeUint16 msg.type, serializeUint8 msg.error, serializeUint16 msg.rqType]

/-! ### Serializers without a parser -/

def serializeClientInfoMsg (msg : ClientInfoMsg) : List UInt8 :=
  List.flatten [serializeUint16 msg.type, serializeUint16 msg.devType, serializeUint64 msg.devId,
    serializeUint32 msg.uniqueId, serializeUint32 msg.ipAddr, serializeUint8 msg.hwVer,
    serializeUint32 msg.appVer, serializeUint8 msg.reconnReason, serializeUint8 msg.resetReason,
    serializeUint8 msg.reserved, serializeUint16 msg.sessionId, serializeUint32 msg.crc]

/-- The hardware version is written as a word. -/
def serializeInstalledFwMsg (msg : InstalledFwMsg) : List UInt8 :=
  List.flatten [serializeUint16 msg.type, serializeUint32 msg.instFwVer,
    serializeUint32 msg.downloadedFwVer, serializeUint32 msg.hwVer.toUInt32,
    serializeUint64 msg.buildTime]

def serializeUpdateStatusMsg (msg : UpdateStatusMsg) : List UInt8 :=
  List.flatten [serializeUint16 msg.type, serializeUint32 msg.fwVer, serializeUint8 msg.progress,
    serializeUint8 msg.phase, serializeUint8 msg.error]

def serializeEnergyPriceDayGetMsg (msg : EnergyPriceDayGetMsg) : List UInt8 :=
  List.flatten [serializeUint16 msg.type, serializeUint16 msg.tariff,
    serializeUint64 msg.dayTime.toUInt64]

def serializeEnergyPriceActivePriceLimitMsg (msg : EnergyPriceActivePriceLimitMsg) : List UInt8 :=
  List.flatten [serializeUint16 msg.type, serializeInt32 msg.price]

def serializeWirelessStatusMsg (protocol enabled : UInt8) (ip : UInt32) (rssi : Int8)
    (lqi : UInt8) : List UInt8 :=
  List.flatten [serializeUint16 MsgType.wirelessStatus, serializeUint8 protocol,
    serializeUint8 enabled, serializeUint32 ip, serializeInt8 rssi, serializeUint8 lqi]

section Entries

variable {entriesNum : UInt16}

def serializeRelaySnapshotsMsg (refTimestamp : Int64) (priceFactor : Int8)
    (tOffset : Vector UInt32 entriesNum.toNat) (snapshots : Vector UInt8 entriesNum.toNat)
    (thresholds : Vector Int16 entriesNum.toNat) : List UInt8 :=
  List.flatten [serializeUint16 MsgType.relaySnapshots, serializeUint64 refTimestamp.toUInt64,
    serializeInt8 priceFactor,
    serializeUint16 entriesNum, tOffset.toList.flatMap serializeUint32,
    serializeUint16 entriesNum, snapshots.toList.flatMap serializeUint8,
    serializeUint16 entriesNum, thresholds.toList.flatMap serializeInt16]

def serializeMeterMeasMsg (timestamp : Int64) (measType : Vector UInt8 entriesNum.toNat)
    (values : Vector Int32 entriesNum.toNat) : List UInt8 :=
  List.flatten [serializeUint16 MsgType.meterMeasurement, serializeUint64 timestamp.toUInt64,
    serializeUint16 entriesNum, measType.toList.flatMap serializeUint8,
    serializeUint16 entriesNum, values.toList.flatMap serializeInt32]

def serializeMeterMeasHistoryMsg (refTimestamp : Int64) (measType : UInt8)
    (tOffset : Vector UInt32 entriesNum.toNat) (values : Vector Int32 entriesNum.toNat) :
    List UInt8 :=
  List.flatten [serializeUint16 MsgType.meterMeasurementHistory,
    serializeUint64 refTimestamp.toUInt64, serializeUint8 measType,
    serializeUint16 entriesNum, tOffset.toList.flatMap serializeUint32,
    serializeUint16 entriesNum, values.toList.flatMap serializeInt32]

def serializeEnergyHistoryMsg (refTimestamp : Int64) (measType : UInt8) (interval : UInt32)
    (energy : Vector UInt32 entriesNum.toNat) : List UInt8 :=
  List.flatten [serializeUint16 MsgType.energyHistory, serializeUint64 refTimestamp.toUInt64,
    serializeUint8 measType, serializeUint32 interval,
    serializeUint16 entriesNum, energy.toList.flatMap serializeUint32]

end Entries

def serializeEnergyAccumulatedMsg (timestamp : Int64) (measType : UInt8) (energy : UInt64) :
    List UInt8 :=
  List.flatten [serializeUint16 MsgType.energyAccumulated, serializeUint64 timestamp.toUInt64,
    serializeUint8 measType, serializeUint64 energy]

def serializeDiagCoredumpStartMsg (msg : DiagCoredumpStartMsg) : List UInt8 :=
  List.flatten [serializeUint16 msg.type, serializeUint32 msg.coredumpVersion,
    serializeUint32 msg.numericAppVersion]

def serializeDiagCoredumpBodyMsg (msg : DiagCoredumpBodyMsg) : Except Fault (List UInt8) := do
  let blockData ← serializeFirst serializeUint8 msg.blockData msg.blockLen.toNat
  pure (List.flatten [serializeUint16 msg.type, serializeUint32 msg.coredumpVersion,
    serializeUint16 msg.blockLen, blockData])

def serializeDiagCoredumpEndMsg (msg : DiagCoredumpEndMsg) : List UInt8 :=
  List.flatten [serializeUint16 msg.type, serializeUint32 msg.coredumpVersion]

def serializeDiagDebugInfoMsg (msg : DiagDebugInfoMsg) : Except Fault (List UInt8) := do
  let data ← serializeFirst serializeUint8 msg.data msg.len.toNat
  pure (List.flatten [serializeUint16 msg.type, serializeUint16 msg.len, data])

def serializeDiagLogsSettingsMsg (msg : DiagLogsSettingsMsg) : List UInt8 :=
  List.flatten [serializeUint16 msg.type, serializeUint8 msg.medium,
    msg.levelModules.toList.flatMap serializeUint64]

end EsInverter.TcpProtocol
