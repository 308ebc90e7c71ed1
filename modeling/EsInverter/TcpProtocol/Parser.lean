import EsInverter.Lib.Wire
import EsInverter.Fault
import EsInverter.TcpProtocol.Messages

/-!
# The parsers of received messages

Each function of `parser.c` compares the buffer's length with a size computed
by hand and then reads its fields through one cursor.  A rejected buffer gives
the zero message, whose type is `MSGTYPE_INVALID`; `time_t` has 64 bits.
-/

namespace EsInverter.TcpProtocol

open Lib.Wire

abbrev Parser := Reader Fault

abbrev sizeofUint8 : Nat := 1
abbrev sizeofUint16 : Nat := 2
abbrev sizeofUint32 : Nat := 4
abbrev sizeofUint64 : Nat := 8

/-! ### Primitive reads -/

def parseUint8 : Parser UInt8 := Reader.byte
def parseInt8 : Parser Int8 := UInt8.toInt8 <$> parseUint8
def parseUint16 : Parser UInt16 := Reader.uint16le
def parseInt16 : Parser Int16 := UInt16.toInt16 <$> parseUint16
def parseUint32 : Parser UInt32 := Reader.uint32le
def parseInt32 : Parser Int32 := UInt32.toInt32 <$> parseUint32
def parseUint64 : Parser UInt64 := Reader.uint64le
def parseInt64 : Parser Int64 := UInt64.toInt64 <$> parseUint64

instance : Reader.FixedWidth parseUint8 1 := inferInstanceAs (Reader.FixedWidth Reader.byte 1)
instance : Reader.FixedWidth parseInt8 1 := inferInstanceAs (Reader.FixedWidth (_ <$> _) 1)
instance : Reader.FixedWidth parseUint16 2 := inferInstanceAs (Reader.FixedWidth Reader.uint16le 2)
instance : Reader.FixedWidth parseInt16 2 := inferInstanceAs (Reader.FixedWidth (_ <$> _) 2)
instance : Reader.FixedWidth parseUint32 4 := inferInstanceAs (Reader.FixedWidth Reader.uint32le 4)
instance : Reader.FixedWidth parseInt32 4 := inferInstanceAs (Reader.FixedWidth (_ <$> _) 4)
instance : Reader.FixedWidth parseUint64 8 := inferInstanceAs (Reader.FixedWidth Reader.uint64le 8)
instance : Reader.FixedWidth parseInt64 8 := inferInstanceAs (Reader.FixedWidth (_ <$> _) 8)

theorem run_parseUint16 (memory : Memory) (cursor : Cursor) :
    parseUint16 memory cursor = (.ok (Reader.word16 memory cursor.ptr), cursor.advance 2) :=
  Reader.run_uint16le memory cursor

/-- The first bytes of an array are replaced; longer data leaves the array. -/
def copyInto {size : Nat} (target : Vector UInt8 size) (copied : List UInt8) :
    Except Fault (Vector UInt8 size) :=
  if copied.length ≤ size then
    .ok (Vector.ofFn fun index => copied[index.val]?.getD (target.get index))
  else .error .outOfBounds

def parseString {size : Nat} (str : Vector UInt8 size) (length : Nat) :
    Parser (Vector UInt8 size) := do
  let copied ← Reader.bytes length
  Reader.lift (copyInto str copied)

/-- `array[index] = value` -/
def store {size : Nat} {α : Type} (array : Vector α size) (index : Nat) (value : α) :
    Parser (Vector α size) :=
  if inside : index < size then pure (array.set index value inside) else .fail .outOfBounds

/-! ### The length checks -/

section LengthCheck

variable {α : Type} [Message α]

/-- `if (buf_len != size)` reject. -/
def parseExact (size bufLen : Nat) (fields : Parser α) : Parser α :=
  if bufLen ≠ size then pure Message.zero else fields

/-- `if (buf_len < size)` reject. -/
def parseAtLeast (size bufLen : Nat) (fields : Parser α) : Parser α :=
  if bufLen < size then pure Message.zero else fields

end LengthCheck

def parseMsgType (bufLen : Nat) : Parser MsgType :=
  if bufLen < sizeofUint16 then pure MsgType.invalid else parseUint16

def parseConnectionStatusMsg (bufLen : Nat) : Parser ConnectionStatusMsg :=
  parseExact (sizeofUint16 + sizeofUint64 + 3 * sizeofUint32) bufLen do
    let type ← parseUint16
    let devId ← parseUint64
    let uniqueId ← parseUint32
    let reserved ← parseUint16
    let sessionId ← parseUint16
    let crc ← parseUint32
    pure { type, devId, uniqueId, reserved, sessionId, crc }

def parseIdentifyMsg (bufLen : Nat) : Parser IdentifyMsg :=
  parseExact (sizeofUint16 + 2 * sizeofUint8) bufLen do
    let type ← parseUint16
    let mode ← parseUint8
    let count ← parseUint8
    pure { type, mode, count }

/-- `fixed_size` of `parse_update_start_msg`. -/
def updateStartFixedSize : Nat := 3 * sizeofUint32 + 3 * sizeofUint16 + 2 * sizeofUint8

/-- The fields before the image URL. -/
def parseUpdateStartHead : Parser UpdateStartMsg := do
  let type ← parseUint16
  let devType ← parseUint16
  let hwVer ← parseUint8
  let fwVer ← parseUint32
  let imgSize ← parseUint32
  let crc ← parseUint32
  let updatePolicy ← parseUint8
  let imgUrlLen ← parseUint16
  pure { type, devType, hwVer, fwVer, imgSize, crc, updatePolicy, imgUrlLen }

/-- The URL behind the fixed fields, zero-terminated. -/
def parseUpdateStartUrl (msg : UpdateStartMsg) : Parser UpdateStartMsg := do
  Reader.require (msg.imgUrlLen.toNat < (imageUrlMaxLen + 1) - 1) (.assertion .imgUrlLen)
  let copied ← parseString msg.imgUrl msg.imgUrlLen.toNat
  let imgUrl ← store copied msg.imgUrlLen.toNat 0
  pure { msg with imgUrl }

def parseUpdateStartMsg (bufLen : Nat) : Parser UpdateStartMsg :=
  parseAtLeast updateStartFixedSize bufLen do
    let msg ← parseUpdateStartHead
    if bufLen ≠ updateStartFixedSize + msg.imgUrlLen.toNat then
      pure { msg with type := MsgType.invalid }
    else parseUpdateStartUrl msg

def parseUpdateInstallMsg (bufLen : Nat) : Parser UpdateInstallMsg :=
  parseExact (2 * sizeofUint32 + sizeofUint16) bufLen do
    let type ← parseUint16
    let fwVer ← parseUint32
    let delay ← parseUint32
    pure { type, fwVer, delay }

def parseUpdateStopMsg (bufLen : Nat) : Parser UpdateStopMsg :=
  parseExact sizeofUint16 bufLen do
    let type ← parseUint16
    pure { type }

def parseMeterCurrentLimitMsg (bufLen : Nat) : Parser MeterCurrentLimitMsg :=
  parseExact (sizeofUint16 + sizeofUint32) bufLen do
    let type ← parseUint16
    let limit ← parseInt32
    pure { type, limit }

def parseMeterClearAlarmsMsg (bufLen : Nat) : Parser MeterAlarmsMsg :=
  parseExact (sizeofUint16 + sizeofUint64) bufLen do
    let type ← parseUint16
    let mask ← parseUint64
    pure { type, mask }

def parseEnergyPriceDayMsg (bufLen : Nat) : Parser EnergyPriceDayMsg :=
  parseAtLeast (sizeofUint64 + sizeofUint8 + sizeofUint16 + sizeofUint16 + sizeofUint16 +
      quartersInDay * sizeofUint16) bufLen do
    let type ← parseUint16
    let tariff ← parseUint16
    let dayTime ← parseUint64
    let priceFactor ← parseInt8
    let pricesLen ← parseUint16
    let prices ← Reader.array parseInt16 quartersInDay
    pure { type, tariff, dayTime := dayTime.toInt64, priceFactor, pricesLen, prices }

def parseEnergyPriceThresholdMsg (bufLen : Nat) : Parser EnergyPriceThresholdMsg :=
  parseExact (sizeofUint16 + sizeofUint32) bufLen do
    let type ← parseUint16
    let price ← parseInt32
    pure { type, price }

def parseEnergyPriceCheapPeriodMsg (bufLen : Nat) : Parser EnergyPriceCheapPeriodMsg :=
  parseExact (sizeofUint16 + sizeofUint8) bufLen do
    let type ← parseUint16
    let quarters ← parseUint8
    pure { type, quarters }

def parseEnergyPriceTariffMsg (bufLen : Nat) : Parser EnergyPriceTariffMsg :=
  parseExact (sizeofUint16 + sizeofUint16) bufLen do
    let type ← parseUint16
    let tariff ← parseUint16
    pure { type, tariff }

def parseWirelessEnableMsg (bufLen : Nat) : Parser WirelessEnableMsg :=
  parseExact (2 * sizeofUint8) bufLen do
    let type ← parseUint16
    let protocol ← parseUint8
    let enabled ← parseUint8
    pure { type, protocol, enabled }

/-- The strings and their lengths as the source reads them: behind two checks on constant sizes. -/
def parseWirelessCredentialsMsg (bufLen : Nat) : Parser WirelessCredentialsMsg :=
  parseAtLeast (sizeofUint16 + sizeofUint8 + 2 * sizeofUint16) bufLen do
    let type ← parseUint16
    let protocol ← parseUint8
    let msg : WirelessCredentialsMsg := { type, protocol }
    Reader.require (32 < sizeofUint16 - 1) (.assertion .networkLen)
    Reader.require (64 < sizeofUint16 - 1) (.assertion .passwordLen)
    let network ← parseString msg.network sizeofUint16
    let password ← parseString msg.password sizeofUint16
    let network ← store network msg.networkLen.toNat 0
    let password ← store password msg.passwordLen.toNat 0
    pure { msg with network, password }

def parseWirelessTxPowerMsg (bufLen : Nat) : Parser WirelessTxPowerMsg :=
  parseExact (sizeofUint16 + sizeofUint8 + sizeofUint8) bufLen do
    let type ← parseUint16
    let protocol ← parseUint8
    let txPower ← parseInt16
    pure { type, protocol, txPower }

def parseWirelessChannelMsg (bufLen : Nat) : Parser WirelessChannelMsg :=
  parseExact (sizeofUint16 + sizeofUint8 + sizeofUint8) bufLen do
    let type ← parseUint16
    let protocol ← parseUint8
    let channel ← parseUint8
    pure { type, protocol, channel }

def parseRelayModeMsg (bufLen : Nat) : Parser RelayModeMsg :=
  parseExact (sizeofUint16 + sizeofUint8) bufLen do
    let type ← parseUint16
    let mode ← parseUint8
    pure { type, mode }

def parseRelayStateMsg (bufLen : Nat) : Parser RelayStateMsg :=
  parseExact (sizeofUint16 + sizeofUint8) bufLen do
    let type ← parseUint16
    let state ← parseUint8
    pure { type, state }

def parseRelayDefaultStateMsg (bufLen : Nat) : Parser RelayDefaultStateMsg :=
  parseExact (sizeofUint16 + sizeofUint8) bufLen do
    let type ← parseUint16
    let state ← parseUint8
    pure { type, state }

def parseRelayPwmMsg (bufLen : Nat) : Parser RelayPwmMsg :=
  parseExact (2 * sizeofUint16 + 2 * sizeofUint8) bufLen do
    let type ← parseUint16
    let enabled ← parseUint8
    let period ← parseUint16
    let dutyCycle ← parseUint8
    pure { type, enabled, period, dutyCycle }

def parseRelaySetInvertedOutputMsg (bufLen : Nat) : Parser RelayInvertedOutputMsg :=
  parseExact (sizeofUint16 + sizeofUint8) bufLen do
    let type ← parseUint16
    let inverted ← parseUint8
    pure { type, inverted }

def parseRelayOneShotMsg (bufLen : Nat) : Parser RelayOneShotMsg :=
  parseExact (sizeofUint16 + sizeofUint8 + sizeofUint64 + sizeofUint64 + sizeofUint8) bufLen do
    let type ← parseUint16
    let enabled ← parseUint8
    let start ← parseUint64
    let finish ← parseUint64
    let state ← parseUint8
    pure { type, enabled, start := start.toInt64, «end» := finish.toInt64, state }

def parseRelayButtonConfigMsg (bufLen : Nat) : Parser RelayButtonConfigMsg :=
  parseAtLeast (sizeofUint16 + sizeofUint16) bufLen do
    let type ← parseUint16
    let modeLen ← parseUint16
    if bufLen ≠ (sizeofUint16 + sizeofUint16) + modeLen.toNat * sizeofUint8 then
      pure { modeLen }
    else do
      let modes ← Reader.array parseUint8 maxDefinedModes
      pure { type, modeLen, modes }

def parseRelayScheduleMsg (bufLen : Nat) : Parser RelayScheduleMsg :=
  parseAtLeast (sizeofUint16 + sizeofUint16 + quartersInDay * 7 / 8 * sizeofUint8) bufLen do
    let type ← parseUint16
    let scheduleLen ← parseUint16
    Reader.require (scheduleLen.toNat = quartersInDay * 7 / 8) (.assertion .scheduleLen)
    let schedule ← Reader.array parseUint8 (quartersInDay * 7 / 8)
    pure { type, scheduleLen, schedule }

def parseEnvironmentSunnyTimeMsg (bufLen : Nat) : Parser EnvironmentSunnyTimeMsg :=
  parseExact (sizeofUint16 + sizeofUint8) bufLen do
    let type ← parseUint16
    let percentage ← parseUint8
    pure { type, percentage }

def parseEnvironmentCloudCoverMsg (bufLen : Nat) : Parser EnvironmentCloudCoverMsg :=
  parseAtLeast (sizeofUint16 + sizeofUint64 + sizeofUint16 + sizeofUint16) bufLen do
    let type ← parseUint16
    let refTimestamp ← parseUint64
    let period ← parseUint16
    let percentageLen ← parseUint16
    Reader.require (percentageLen.toNat = quartersInDay) (.assertion .percentageLen)
    let percentage ← Reader.array parseUint16 quartersInDay
    pure { type, refTimestamp := refTimestamp.toInt64, period, percentageLen, percentage }

def parseEnvironmentPositionMsg (bufLen : Nat) : Parser EnvironmentPositionMsg :=
  parseAtLeast (sizeofUint16 + 2 * sizeofUint32) bufLen do
    let type ← parseUint16
    let latitude ← parseInt64
    let longitude ← parseInt64
    pure { type, latitude, longitude }

def parseDiagSetLogsSettings (bufLen : Nat) : Parser DiagSetLogsSettingsMsg :=
  parseExact (sizeofUint16 + sizeofUint8 + sizeofUint8 + 6 * sizeofUint64) bufLen do
    let type ← parseUint16
    let medium ← parseUint8
    let level ← parseUint8
    let modules ← parseUint64
    pure { type, medium, level, modules }

def parseStatusMsg (bufLen : Nat) : Parser StatusMsg :=
  parseExact (2 * sizeofUint16 + sizeofUint8) bufLen do
    let type ← parseUint16
    let error ← parseUint8
    let rqType ← parseUint16
    pure { type, error, rqType }

def parseGetMsg (bufLen : Nat) : Parser GetMsg :=
  parseExact (2 * sizeofUint16 + sizeofUint32) bufLen do
    let type ← parseUint16
    let rqType ← parseUint16
    let param ← parseUint32
    pure { type, rqType, param }

end EsInverter.TcpProtocol
