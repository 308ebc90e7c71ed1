/-!
# Message structures

The structures of `messages.h` that a parser returns or a serializer takes.
Every field starts at zero, so `{}` is the `{0}` of the source, and the type of
that value is `MSGTYPE_INVALID`.
-/

namespace EsInverter.TcpProtocol

abbrev MsgType := UInt16

namespace MsgType

abbrev invalid : MsgType := 0x00
abbrev clientInfo : MsgType := 0x01
abbrev connectionStatus : MsgType := 0x02
abbrev reboot : MsgType := 0x10
abbrev factoryReset : MsgType := 0x11
abbrev identify : MsgType := 0x13
abbrev updateInstalledfw : MsgType := 0x20
abbrev updateStart : MsgType := 0x21
abbrev updateInstall : MsgType := 0x22
abbrev updateStatus : MsgType := 0x23
abbrev wirelessEnable : MsgType := 0x30
abbrev wirelessStatus : MsgType := 0x31
abbrev wirelessSetCredentials : MsgType := 0x32
abbrev wirelessCredentials : MsgType := 0x33
abbrev wirelessSetTxPower : MsgType := 0x34
abbrev wirelessTxPower : MsgType := 0x35
abbrev wirelessSetChannel : MsgType := 0x36
abbrev wirelessChannel : MsgType := 0x37
abbrev energypriceDayGet : MsgType := 0x42
abbrev energypriceDay : MsgType := 0x43
abbrev energypriceSetPriceThreshold : MsgType := 0x46
abbrev energypricePriceThreshold : MsgType := 0x47
abbrev energypriceSetCheapPeriod : MsgType := 0x48
abbrev energypriceCheapPeriod : MsgType := 0x49
abbrev energypriceActivePriceLimit : MsgType := 0x4b
abbrev energypriceSetTariff : MsgType := 0x4c
abbrev energypriceTariff : MsgType := 0x4d
abbrev relaySetMode : MsgType := 0x50
abbrev relayMode : MsgType := 0x51
abbrev relaySetState : MsgType := 0x52
abbrev relayState : MsgType := 0x53
abbrev relaySetDefaultState : MsgType := 0x54
abbrev relayDefaultState : MsgType := 0x55
abbrev relaySetPwm : MsgType := 0x56
abbrev relayPwm : MsgType := 0x57
abbrev relaySetInvertedOutput : MsgType := 0x58
abbrev relayInvertedOutput : MsgType := 0x59
abbrev relaySetButtonConfig : MsgType := 0x5a
abbrev relayButtonConfig : MsgType := 0x5b
abbrev relaySetSchedule : MsgType := 0x5c
abbrev relaySchedule : MsgType := 0x5d
abbrev relaySetOneShot : MsgType := 0x5e
abbrev relayOneShot : MsgType := 0x5f
abbrev relaySnapshots : MsgType := 0x61
abbrev environmentSetSunnyTime : MsgType := 0x70
abbrev environmentSunnyTime : MsgType := 0x71
abbrev environmentCloudCover : MsgType := 0x73
abbrev environmentSetPosition : MsgType := 0x74
abbrev environmentPosition : MsgType := 0x75
abbrev meterMeasurement : MsgType := 0xB0
abbrev meterMeasurementHistory : MsgType := 0xB1
abbrev meterSetCurrentLimit : MsgType := 0xB2
abbrev meterCurrentLimit : MsgType := 0xB3
abbrev meterClearAlarms : MsgType := 0xB4
abbrev meterAlarms : MsgType := 0xB5
abbrev energyAccumulated : MsgType := 0xC0
abbrev energyHistory : MsgType := 0xC1
abbrev diagCoredumpStart : MsgType := 0xD0
abbrev diagCoredumpBody : MsgType := 0xD1
abbrev diagCoredumpEnd : MsgType := 0xD2
abbrev diagCoredumpConfirmed : MsgType := 0xD3
abbrev diagDebugInfo : MsgType := 0xD4
abbrev diagLogsSettings : MsgType := 0xD7
abbrev status : MsgType := 0xF0
abbrev get : MsgType := 0xF1

end MsgType

abbrev imageUrlMaxLen : Nat := 128
abbrev quartersInDay : Nat := 24 * 4
abbrev maxDefinedModes : Nat := 6

/-- `CONFIG_EM_COREDUMP_BLOCK_MAX_SIZE` -/
abbrev coredumpBlockMaxSize : Nat := 1024

/-- A message structure: its zero value and its leading type field. -/
class Message (α : Type) where
  zero : α
  type : α → MsgType
  type_zero : type zero = MsgType.invalid

structure ConnectionStatusMsg where
  type : MsgType := 0
  devId : UInt64 := 0
  uniqueId : UInt32 := 0
  reserved : UInt16 := 0
  sessionId : UInt16 := 0
  crc : UInt32 := 0
  deriving DecidableEq, Repr

structure ClientInfoMsg where
  type : MsgType := 0
  devType : UInt16 := 0
  devId : UInt64 := 0
  uniqueId : UInt32 := 0
  ipAddr : UInt32 := 0
  hwVer : UInt8 := 0
  appVer : UInt32 := 0
  reconnReason : UInt8 := 0
  resetReason : UInt8 := 0
  reserved : UInt8 := 0
  sessionId : UInt16 := 0
  crc : UInt32 := 0
  deriving DecidableEq, Repr

structure InstalledFwMsg where
  type : MsgType := 0
  instFwVer : UInt32 := 0
  downloadedFwVer : UInt32 := 0
  hwVer : UInt8 := 0
  buildTime : UInt64 := 0
  deriving DecidableEq, Repr

structure UpdateStatusMsg where
  type : MsgType := 0
  fwVer : UInt32 := 0
  progress : UInt8 := 0
  phase : UInt8 := 0
  error : UInt8 := 0
  deriving DecidableEq, Repr

structure IdentifyMsg where
  type : MsgType := 0
  mode : UInt8 := 0
  count : UInt8 := 0
  deriving DecidableEq, Repr

structure UpdateStartMsg where
  type : MsgType := 0
  devType : UInt16 := 0
  hwVer : UInt8 := 0
  fwVer : UInt32 := 0
  imgSize : UInt32 := 0
  crc : UInt32 := 0
  updatePolicy : UInt8 := 0
  imgUrlLen : UInt16 := 0
  imgUrl : Vector UInt8 (imageUrlMaxLen + 1) := Vector.replicate _ 0
  deriving DecidableEq, Repr

structure UpdateInstallMsg where
  type : MsgType := 0
  fwVer : UInt32 := 0
  delay : UInt32 := 0
  deriving DecidableEq, Repr

structure UpdateStopMsg where
  type : MsgType := 0
  deriving DecidableEq, Repr

structure MeterCurrentLimitMsg where
  type : MsgType := 0
  limit : Int32 := 0
  deriving DecidableEq, Repr

structure MeterAlarmsMsg where
  type : MsgType := 0
  mask : UInt64 := 0
  deriving DecidableEq, Repr

structure EnergyPriceDayMsg where
  type : MsgType := 0
  tariff : UInt16 := 0
  dayTime : Int64 := 0
  priceFactor : Int8 := 0
  pricesLen : UInt16 := 0
  prices : Vector Int16 quartersInDay := Vector.replicate _ 0
  deriving DecidableEq, Repr

structure EnergyPriceThresholdMsg where
  type : MsgType := 0
  price : Int32 := 0
  deriving DecidableEq, Repr

structure EnergyPriceDayGetMsg where
  type : MsgType := 0
  tariff : UInt16 := 0
  dayTime : Int64 := 0
  deriving DecidableEq, Repr

structure EnergyPriceActivePriceLimitMsg where
  type : MsgType := 0
  price : Int32 := 0
  deriving DecidableEq, Repr

structure EnergyPriceCheapPeriodMsg where
  type : MsgType := 0
  quarters : UInt8 := 0
  deriving DecidableEq, Repr

structure EnergyPriceTariffMsg where
  type : MsgType := 0
  tariff : UInt16 := 0
  deriving DecidableEq, Repr

structure WirelessEnableMsg where
  type : MsgType := 0
  protocol : UInt8 := 0
  enabled : UInt8 := 0
  deriving DecidableEq, Repr

structure WirelessCredentialsMsg where
  type : MsgType := 0
  protocol : UInt8 := 0
  networkLen : UInt16 := 0
  network : Vector UInt8 32 := Vector.replicate _ 0
  passwordLen : UInt16 := 0
  password : Vector UInt8 64 := Vector.replicate _ 0
  deriving DecidableEq, Repr

structure WirelessTxPowerMsg where
  type : MsgType := 0
  protocol : UInt8 := 0
  txPower : Int16 := 0
  deriving DecidableEq, Repr

structure WirelessChannelMsg where
  type : MsgType := 0
  protocol : UInt8 := 0
  channel : UInt8 := 0
  deriving DecidableEq, Repr

structure RelayModeMsg where
  type : MsgType := 0
  mode : UInt8 := 0
  deriving DecidableEq, Repr

structure RelayStateMsg where
  type : MsgType := 0
  state : UInt8 := 0
  deriving DecidableEq, Repr

structure RelayDefaultStateMsg where
  type : MsgType := 0
  state : UInt8 := 0
  deriving DecidableEq, Repr

structure RelayPwmMsg where
  type : MsgType := 0
  enabled : UInt8 := 0
  period : UInt16 := 0
  dutyCycle : UInt8 := 0
  deriving DecidableEq, Repr

structure RelayInvertedOutputMsg where
  type : MsgType := 0
  inverted : UInt8 := 0
  deriving DecidableEq, Repr

structure RelayOneShotMsg where
  type : MsgType := 0
  enabled : UInt8 := 0
  start : Int64 := 0
  «end» : Int64 := 0
  state : UInt8 := 0
  deriving DecidableEq, Repr

structure RelayButtonConfigMsg where
  type : MsgType := 0
  modeLen : UInt16 := 0
  modes : Vector UInt8 maxDefinedModes := Vector.replicate _ 0
  deriving DecidableEq, Repr

structure RelayScheduleMsg where
  type : MsgType := 0
  scheduleLen : UInt16 := 0
  schedule : Vector UInt8 (quartersInDay * 7 / 8) := Vector.replicate _ 0
  deriving DecidableEq, Repr

structure EnvironmentSunnyTimeMsg where
  type : MsgType := 0
  percentage : UInt8 := 0
  deriving DecidableEq, Repr

structure EnvironmentCloudCoverMsg where
  type : MsgType := 0
  refTimestamp : Int64 := 0
  period : UInt16 := 0
  percentageLen : UInt16 := 0
  percentage : Vector UInt16 quartersInDay := Vector.replicate _ 0
  deriving DecidableEq, Repr

structure EnvironmentPositionMsg where
  type : MsgType := 0
  latitude : Int64 := 0
  longitude : Int64 := 0
  deriving DecidableEq, Repr

structure DiagSetLogsSettingsMsg where
  type : MsgType := 0
  medium : UInt8 := 0
  level : UInt8 := 0
  modules : UInt64 := 0
  deriving DecidableEq, Repr

structure DiagCoredumpStartMsg where
  type : MsgType := 0
  coredumpVersion : UInt32 := 0
  numericAppVersion : UInt32 := 0
  deriving DecidableEq, Repr

structure DiagCoredumpBodyMsg where
  type : MsgType := 0
  coredumpVersion : UInt32 := 0
  blockLen : UInt16 := 0
  blockData : Vector UInt8 coredumpBlockMaxSize := Vector.replicate _ 0
  deriving DecidableEq, Repr

structure DiagCoredumpEndMsg where
  type : MsgType := 0
  coredumpVersion : UInt32 := 0
  deriving DecidableEq, Repr

structure DiagDebugInfoMsg where
  type : MsgType := 0
  len : UInt16 := 0
  data : Vector UInt8 coredumpBlockMaxSize := Vector.replicate _ 0
  deriving DecidableEq, Repr

structure DiagLogsSettingsMsg where
  type : MsgType := 0
  medium : UInt8 := 0
  levelModules : Vector UInt64 6 := Vector.replicate _ 0
  deriving DecidableEq, Repr

structure StatusMsg where
  type : MsgType := 0
  error : UInt8 := 0
  rqType : MsgType := 0
  deriving DecidableEq, Repr

structure GetMsg where
  type : MsgType := 0
  rqType : MsgType := 0
  param : UInt32 := 0
  deriving DecidableEq, Repr

instance : Message ConnectionStatusMsg := ⟨{}, ConnectionStatusMsg.type, rfl⟩
instance : Message IdentifyMsg := ⟨{}, IdentifyMsg.type, rfl⟩
instance : Message UpdateStartMsg := ⟨{}, UpdateStartMsg.type, rfl⟩
instance : Message UpdateInstallMsg := ⟨{}, UpdateInstallMsg.type, rfl⟩
instance : Message UpdateStopMsg := ⟨{}, UpdateStopMsg.type, rfl⟩
instance : Message MeterCurrentLimitMsg := ⟨{}, MeterCurrentLimitMsg.type, rfl⟩
instance : Message MeterAlarmsMsg := ⟨{}, MeterAlarmsMsg.type, rfl⟩
instance : Message EnergyPriceDayMsg := ⟨{}, EnergyPriceDayMsg.type, rfl⟩
instance : Message EnergyPriceThresholdMsg := ⟨{}, EnergyPriceThresholdMsg.type, rfl⟩
instance : Message EnergyPriceCheapPeriodMsg := ⟨{}, EnergyPriceCheapPeriodMsg.type, rfl⟩
instance : Message EnergyPriceTariffMsg := ⟨{}, EnergyPriceTariffMsg.type, rfl⟩
instance : Message WirelessEnableMsg := ⟨{}, WirelessEnableMsg.type, rfl⟩
instance : Message WirelessCredentialsMsg := ⟨{}, WirelessCredentialsMsg.type, rfl⟩
instance : Message WirelessTxPowerMsg := ⟨{}, WirelessTxPowerMsg.type, rfl⟩
instance : Message WirelessChannelMsg := ⟨{}, WirelessChannelMsg.type, rfl⟩
instance : Message RelayModeMsg := ⟨{}, RelayModeMsg.type, rfl⟩
instance : Message RelayStateMsg := ⟨{}, RelayStateMsg.type, rfl⟩
instance : Message RelayDefaultStateMsg := ⟨{}, RelayDefaultStateMsg.type, rfl⟩
instance : Message RelayPwmMsg := ⟨{}, RelayPwmMsg.type, rfl⟩
instance : Message RelayInvertedOutputMsg := ⟨{}, RelayInvertedOutputMsg.type, rfl⟩
instance : Message RelayOneShotMsg := ⟨{}, RelayOneShotMsg.type, rfl⟩
instance : Message RelayButtonConfigMsg := ⟨{}, RelayButtonConfigMsg.type, rfl⟩
instance : Message RelayScheduleMsg := ⟨{}, RelayScheduleMsg.type, rfl⟩
instance : Message EnvironmentSunnyTimeMsg := ⟨{}, EnvironmentSunnyTimeMsg.type, rfl⟩
instance : Message EnvironmentCloudCoverMsg := ⟨{}, EnvironmentCloudCoverMsg.type, rfl⟩
instance : Message EnvironmentPositionMsg := ⟨{}, EnvironmentPositionMsg.type, rfl⟩
instance : Message DiagSetLogsSettingsMsg := ⟨{}, DiagSetLogsSettingsMsg.type, rfl⟩
instance : Message StatusMsg := ⟨{}, StatusMsg.type, rfl⟩
instance : Message GetMsg := ⟨{}, GetMsg.type, rfl⟩

end EsInverter.TcpProtocol
