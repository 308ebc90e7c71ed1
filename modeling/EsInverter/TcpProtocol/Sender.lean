import EsInverter.Lib.Scanf
import EsInverter.TcpProtocol.Layouts
import EsInverter.TcpProtocol.Serializer

/-!
# The senders

`sender.c`: every function builds a message on its stack, allocates a buffer and
serializes the message to it.  The capacity comes from the sizes of structures
or from a sum, and the serializer decides how many bytes are written.
-/

set_option autoImplicit false

namespace EsInverter.TcpProtocol

open Lib

/-! ### What the senders share -/

/-- What a sender hands to `send_data`: the capacity it allocated and the bytes written there. -/
structure Sending where
  cap : Nat
  bytes : List UInt8
  deriving DecidableEq, Repr

/-- `buffer_dynamic_alloc`; `malloc` succeeds. -/
def bufferDynamicAlloc (cap : UInt16) : Except Fault Nat := do
  assertThat (cap.toNat < 1200) .bufferCap
  return cap.toNat

/-- The end of a sender; the length becomes a `uint16_t` on the call. -/
def sendSerialized (len : Nat) (serialized : Except Fault (List UInt8)) : Except Fault Sending := do
  let cap ← bufferDynamicAlloc (UInt16.ofNat len)
  let bytes ← serialized
  return ⟨cap, bytes⟩

def strnlen (string : List UInt8) (maxlen : Nat) : Nat := min (cString string).length maxlen

/-- `esp_rom_crc32_le` from 0 is `crc32Le`. -/
def protocolSendClientInfo (crc32Le : List UInt8 → UInt32) (uniqueId : UInt32) (devId : UInt64)
    (hwVer : UInt8) (appVer : UInt32) (reconnReason : UInt8) (devType : UInt16) (ipAddr : UInt32)
    (resetReason : UInt8) (sessionId : UInt16) : Except Fault Sending :=
  let msg : ClientInfoMsg :=
    { type := MsgType.clientInfo, devType, devId, uniqueId, ipAddr, hwVer, appVer, reconnReason,
      resetReason, sessionId, crc := 0 }
  let serialized := serializeClientInfoMsg msg
  let crc := crc32Le (serialized.take (serialized.length - 4))
  sendSerialized (sizeof ClientInfoMsg) (.ok (serializeClientInfoMsg { msg with crc }))

def protocolSendInstalledFw (fwVer downloadedFwVer : UInt32) (hwVer : UInt8) (buildTime : Int64) :
    Except Fault Sending :=
  sendSerialized (sizeof InstalledFwMsg) (.ok (serializeInstalledFwMsg
    { type := MsgType.updateInstalledfw, instFwVer := fwVer, downloadedFwVer, hwVer,
      buildTime := buildTime.toUInt64 }))

def protocolSendUpdateStatus (fwVer : UInt32) (progress phase error : UInt8) :
    Except Fault Sending :=
  sendSerialized (sizeof UpdateStatusMsg) (.ok (serializeUpdateStatusMsg
    { type := MsgType.updateStatus, fwVer, progress, phase, error }))

def protocolSendWirelessStatus (protocol enabled : UInt8) (ip : UInt32) (rssi : Int8)
    (lqi : UInt8) : Except Fault Sending :=
  sendSerialized (2 + 1 + 1 + 4 + 1 + 1)
    (.ok (serializeWirelessStatusMsg protocol enabled ip rssi lqi))

def protocolSendWirelessCredentials (protocol : UInt8) (network password : List UInt8) :
    Except Fault Sending := do
  let msg : WirelessCredentialsMsg := { type := MsgType.wirelessSetCredentials, protocol }
  let networkLen := strnlen network 32
  let passwordLen := strnlen password 64
  let networkCopy ← copyInto msg.network (network.take networkLen)
  let passwordCopy ← copyInto msg.password (password.take passwordLen)
  sendSerialized (2 + 1 + 2 + networkLen + 2 + passwordLen) (serializeWirelessCredentialsMsg
    { msg with networkLen := UInt16.ofNat networkLen, passwordLen := UInt16.ofNat passwordLen,
               network := networkCopy, password := passwordCopy })

def protocolSendWirelessTxPower (protocol : UInt8) (txPower : Int16) : Except Fault Sending :=
  sendSerialized (2 + 1 + 2) (.ok (serializeWirelessTxPowerMsg protocol txPower))

/-- The serializer is the one of the power, to which the channel is promoted. -/
def protocolSendWirelessChannel (protocol channel : UInt8) : Except Fault Sending :=
  sendSerialized (2 + 2 * 1)
    (.ok (serializeWirelessTxPowerMsg protocol channel.toUInt16.toInt16))

def protocolSendEnergyPriceDayGet (reqTariff : UInt32) (reqDayTime : Int64) :
    Except Fault Sending :=
  sendSerialized (sizeof EnergyPriceDayGetMsg) (.ok (serializeEnergyPriceDayGetMsg
    { type := MsgType.energypriceDayGet, tariff := reqTariff.toUInt16, dayTime := reqDayTime }))

def protocolSendEnergyThreshold (price : Int32) : Except Fault Sending :=
  sendSerialized (sizeof EnergyPriceThresholdMsg) (.ok (serializeEnergyPriceThresholdMsg
    { type := MsgType.energypricePriceThreshold, price }))

def protocolSendEnergyCheapPeriod (quarters : UInt8) : Except Fault Sending :=
  sendSerialized (sizeof EnergyPriceCheapPeriodMsg) (.ok (serializeEnergyPriceCheapPeriodMsg
    { type := MsgType.energypriceCheapPeriod, quarters }))

def protocolSendEnergyActivePriceLimit (price : Int32) : Except Fault Sending :=
  sendSerialized (sizeof EnergyPriceActivePriceLimitMsg)
    (.ok (serializeEnergyPriceActivePriceLimitMsg
      { type := MsgType.energypriceActivePriceLimit, price }))

def protocolSendEnergySunnyhours (percentage : UInt8) : Except Fault Sending :=
  sendSerialized (sizeof EnvironmentSunnyTimeMsg) (.ok (serializeEnvironmentSunnyTimeMsg
    { type := MsgType.environmentSunnyTime, percentage }))

def protocolSendEnergyTariff (tariff : UInt16) : Except Fault Sending :=
  sendSerialized (sizeof EnergyPriceTariffMsg) (.ok (serializeEnergyPriceTariffMsg
    { type := MsgType.energypriceTariff, tariff }))

def protocolSendRelayMode (mode : UInt8) : Except Fault Sending :=
  sendSerialized (sizeof RelayModeMsg)
    (.ok (serializeRelayModeMsg { type := MsgType.relayMode, mode }))

def protocolSendRelayState (state : UInt8) : Except Fault Sending :=
  sendSerialized (sizeof RelayStateMsg)
    (.ok (serializeRelayStateMsg { type := MsgType.relayState, state }))

def protocolSendRelayDefState (enabled : UInt8) : Except Fault Sending :=
  sendSerialized (sizeof RelayDefaultStateMsg) (.ok (serializeRelayDefaultStateMsg
    { type := MsgType.relayDefaultState, state := enabled }))

def protocolSendRelayPwm (enabled : UInt8) (periodMin : UInt16) (dutyCycle : UInt8) :
    Except Fault Sending :=
  sendSerialized (sizeof RelayPwmMsg) (.ok (serializeRelayPwmMsg
    { type := MsgType.relayPwm, enabled, period := periodMin, dutyCycle }))

def protocolSendRelayInvertedOutput (inverted : UInt8) : Except Fault Sending :=
  sendSerialized (2 + 1) (.ok (serializeRelayOutputInvertedMsg inverted))

/-- The length is not compared with the array of the message. -/
def protocolSendRelayButtonConfig (modeLen : UInt8) (modes : Vector UInt8 modeLen.toNat) :
    Except Fault Sending := do
  let msg : RelayButtonConfigMsg :=
    { type := MsgType.relayButtonConfig, modeLen := modeLen.toUInt16 }
  let copy ← copyInto msg.modes modes.toList
  sendSerialized (sizeof RelayButtonConfigMsg)
    (serializeRelayDefinedModesMsg { msg with modes := copy })

def protocolSendRelaySchedule (len : UInt8) (schedule : Vector UInt8 len.toNat) :
    Except Fault Sending := do
  let msg : RelayScheduleMsg := { type := MsgType.relaySchedule, scheduleLen := len.toUInt16 }
  let copy ← copyInto msg.schedule schedule.toList
  sendSerialized (sizeof RelayScheduleMsg)
    (serializeRelayScheduleMsg { msg with schedule := copy })

def protocolSendRelayOneShot (enabled : UInt8) (start «end» : Int64) (state : UInt8) :
    Except Fault Sending :=
  sendSerialized (sizeof RelayOneShotMsg) (.ok (serializeRelayOneShotMsg
    { type := MsgType.relayOneShot, enabled, start, «end», state }))

def protocolSendEnvironmentPosition (latitude longitude : Int32) : Except Fault Sending :=
  sendSerialized (sizeof EnvironmentPositionMsg) (.ok (serializeEnvironmentPositionMsg
    { type := MsgType.environmentPosition, latitude := latitude.toInt64,
      longitude := longitude.toInt64 }))

section Entries

variable (entriesNum : UInt16)

def protocolSendRelaySnapshots (refTimestamp : Int64) (factor : Int8)
    (tOffset : Vector UInt32 entriesNum.toNat) (snapshot : Vector UInt8 entriesNum.toNat)
    (thresholds : Vector Int16 entriesNum.toNat) : Except Fault Sending :=
  sendSerialized (2 + 8 + 1 + entriesNum.toNat * (4 + 1 + 2) + 3 * 2)
    (.ok (serializeRelaySnapshotsMsg refTimestamp factor tOffset snapshot thresholds))

def protocolSendMeterMeasurements (refTimestamp : Int64)
    (measTypes : Vector UInt8 entriesNum.toNat) (values : Vector Int32 entriesNum.toNat) :
    Except Fault Sending :=
  sendSerialized (2 + 8 + entriesNum.toNat * (1 + 4) + 2 * 2)
    (.ok (serializeMeterMeasMsg refTimestamp measTypes values))

def protocolSendMeterMeasurementsHistory (refTimestamp : Int64) (measType : UInt8)
    (tOffset : Vector UInt32 entriesNum.toNat) (values : Vector Int32 entriesNum.toNat) :
    Except Fault Sending :=
  sendSerialized (2 + 8 + 1 + entriesNum.toNat * (4 + 4) + 2 * 2)
    (.ok (serializeMeterMeasHistoryMsg refTimestamp measType tOffset values))

def protocolSendEnergyHistory (measType : UInt8) (refTimestamp : Int64) (interval : UInt32)
    (entries : Vector UInt32 entriesNum.toNat) : Except Fault Sending :=
  sendSerialized (2 + 1 + 8 + 4 + entriesNum.toNat * 4 + 2)
    (.ok (serializeEnergyHistoryMsg refTimestamp measType interval entries))

end Entries

def protocolSendMeterCurrentLimit (limit : Int32) : Except Fault Sending :=
  sendSerialized (2 + 4) (.ok (serializeMeterCurrentLimitMsg limit))

def protocolSendMeterAlarms (mask : UInt64) : Except Fault Sending :=
  sendSerialized (2 + 8) (.ok (serializeMeterAlarmsMsg mask))

def protocolSendEnergyAccumulated (timestamp : Int64) (measType : UInt8) (energy : UInt64) :
    Except Fault Sending :=
  sendSerialized (2 + 8 + 1 + 8) (.ok (serializeEnergyAccumulatedMsg timestamp measType energy))

def protocolSendDiagCoredumpStart (coredumpVersion : UInt32) : Except Fault Sending :=
  sendSerialized (sizeof DiagCoredumpStartMsg) (.ok (serializeDiagCoredumpStartMsg
    { type := MsgType.diagCoredumpStart, numericAppVersion := 0, coredumpVersion }))

def protocolSendDiagCoredumpBody (coredumpVersion : UInt32) (blockLen : UInt16)
    (data : Vector UInt8 blockLen.toNat) : Except Fault Sending := do
  let msg : DiagCoredumpBodyMsg := { type := MsgType.diagCoredumpBody, blockLen, coredumpVersion }
  assertThat (blockLen.toNat ≤ coredumpBlockMaxSize) .blockLen
  let blockData ← copyInto msg.blockData data.toList
  sendSerialized (sizeof DiagCoredumpBodyMsg) (serializeDiagCoredumpBodyMsg { msg with blockData })

def protocolSendDiagCoredumpEnd (coredumpVersion : UInt32) : Except Fault Sending :=
  sendSerialized (sizeof DiagCoredumpEndMsg) (.ok (serializeDiagCoredumpEndMsg
    { type := MsgType.diagCoredumpEnd, coredumpVersion }))

def protocolSendDiagDebugInfo (info : List UInt8) : Except Fault Sending := do
  let msg : DiagDebugInfoMsg := { type := MsgType.diagDebugInfo }
  let len := UInt16.ofNat (strnlen info coredumpBlockMaxSize)
  let data ← copyInto msg.data (info.take len.toNat)
  sendSerialized (2 + 2 + len.toNat) (serializeDiagDebugInfoMsg { msg with len, data })

/-- The medium is not sent, and the capacity counts the array six times. -/
def protocolSendDiagLogsSettings (_medium : UInt8) (modulsLevels : Vector UInt64 6) :
    Except Fault Sending :=
  sendSerialized (2 + 1 + 6 * (6 * 8)) (.ok (serializeDiagLogsSettingsMsg
    { type := MsgType.diagLogsSettings, medium := 0, levelModules := modulsLevels }))

def protocolSendStatus (rqType : UInt16) (error : UInt8) : Except Fault Sending :=
  sendSerialized (sizeof StatusMsg)
    (.ok (serializeStatusMsg { type := MsgType.status, error, rqType }))

end EsInverter.TcpProtocol
