import EsInverter.Led.Scene
import EsInverter.TcpProtocol.Receiver
import EsInverter.Update.Phase

/-!
# The handlers of received messages

`dispatcher.c` and the handler of the identify message.  The LED and the update
module are part of the state; what the handlers ask of the other modules is kept
in order, and what those answer is a parameter.
-/

set_option autoImplicit false

namespace EsInverter.Dispatcher

open TcpProtocol

/-- The callbacks that the handlers schedule. -/
inductive Delayed
  | authenticationDelayedHandler
  | delayedEspReboot
  | delayedEspFactoryReset
  deriving DecidableEq, Repr

/-- `protocol_t` -/
abbrev protocolBle : UInt8 := 1
abbrev protocolWifi : UInt8 := 2

/-- `CONFIG_EM_TCP_REBOOT_ON_MSG_DELAY_MS` -/
def rebootOnMsgDelayMs : UInt32 := 1000

/-- `COORDINATES_FIXED_FACTOR` -/
def coordinatesFixedFactor : Int8 := -5

/-- The calls of other modules. -/
inductive Call
  | postAuth (uniqueId : UInt32)
  | setCallback (callback : Delayed) (delayMs : UInt32)
  | setDeviceUniqueId (uniqueId : UInt32)
  | bleProvStart (disconnDelay : UInt32)
  | bleProvStop
  | staConnect (ssid : Vector UInt8 32) (password : Vector UInt8 64)
  | setTxPower (power : Int8)
  | setChannel (channel : UInt8)
  | setCoordinates (latitude longitude : Int64)
  | coredumpErase
  | setLongReconnectingDelay
  | sendInstalledFw
  | sendWirelessStatus (protocol enabled : UInt8) (ip : UInt32) (rssi : Int8) (lqi : UInt8)
  | sendWirelessCredentials (protocol : UInt8) (network password : List UInt8)
  | sendWirelessTxPower (protocol : UInt8) (txPower : Int16)
  | sendWirelessChannel (protocol channel : UInt8)
  | sendEnvironmentPosition (latitude longitude : Int32)
  | sendDiagLogsSettings (medium : UInt8) (modulsLevels : Vector UInt64 6)
  deriving DecidableEq, Repr

/-- The answers of the other modules; a value that a function writes only when it succeeds is
optional. -/
structure Services where
  device : Update.Device
  otaTask : Ota.State
  /-- Whether `esp_event_post` returned `ESP_OK`. -/
  authPosted : Bool
  /-- `esp_random` -/
  random : UInt32
  bleProvStart : Int32
  setTxPower : Int32
  setChannel : Int32
  localIpAddr : UInt32
  rssi : Option Int32
  staSsid : Option (List UInt8)
  txPower : Option Int8
  channel : Option UInt8
  /-- `storage_device().perm.coord` -/
  latitude : Int64
  longitude : Int64

structure App where
  updater : Update.Updater
  player : Led.Player
  calls : List Call

def App.initial : App := ⟨.initial, .initial, []⟩

def App.call (app : App) (calls : List Call) : App := { app with calls := app.calls ++ calls }

/-- A handler with the buffer it is given, the newest structure first.  The buffer's address is
never null, so that `assert(data)` holds. -/
abbrev Handler := Services → List Received → App → Except Fault (App × Int32)

/-- A cast of `data`; a structure is only read as the one that was stored. -/
def castTo (kind : ParserKind) : List Received → Except Fault kind.Msg
  | .parsed stored msg :: _ =>
      if same : stored = kind then .ok (same ▸ msg) else .error .outOfBounds
  | _ => .error .outOfBounds

def espOk (app : App) : Except Fault (App × Int32) := .ok (app, EspErr.ok.code)

def connectionStatusHandler : Handler := fun services data app => do
  let msg ← castTo .connectionStatus data
  let app := app.call [.postAuth msg.uniqueId]
  if !services.authPosted then throw .errorCheck
  let delayMs := (services.random &&& 0x7FFF) + 10000
  espOk (app.call
    [.setCallback .authenticationDelayedHandler delayMs, .setDeviceUniqueId msg.uniqueId])

def rebootHandler : Handler := fun _ _ app =>
  espOk (app.call [.setCallback .delayedEspReboot rebootOnMsgDelayMs])

def factoryResetHandler : Handler := fun _ _ app =>
  espOk (app.call [.setCallback .delayedEspFactoryReset rebootOnMsgDelayMs])

/-- The scene of `led_evt_identify_msg_handler`. -/
def identifyScene (msg : IdentifyMsg) : Led.Scene :=
  { type := msg.mode.toUInt32 + 1, color := Led.rgbLedPink, brightness := 100
    blink := { tOn := 150, tOff := 150, repeats := msg.count.toUInt16, period := 5000 } }

def ledEvtIdentifyMsgHandler : Handler := fun _ data app => do
  let msg ← castTo .identify data
  let player ← Led.ledSceneTrigger (identifyScene msg) app.player
  espOk { app with player }

def updateStartHandler : Handler := fun services data app => do
  let msg ← castTo .updateStart data
  let app := app.call [.bleProvStop]
  let (updater, error) ← Update.updateStart services.device
    (Update.httpOtaSubmitStart services.otaTask)
    { devType := msg.devType, newFwVer := msg.fwVer, hwVer := msg.hwVer
      newUrl := some msg.imgUrl.toList, fwUrlLen := msg.imgUrlLen, policy := msg.updatePolicy }
    app.updater
  return ({ app with updater }, error.code.toUInt32.toInt32)

def updateApplyHandler : Handler := fun _ data app => do
  let msg ← castTo .updateInstall data
  espOk { app with updater := Update.updateApply msg.delay app.updater }

def wirelessEnableHandle : Handler := fun services data app => do
  let msg ← castTo .wirelessEnable data
  if msg.protocol ≠ protocolBle then return (app, EspErr.invalidArg.code)
  if msg.enabled ≠ 0 then return (app.call [.bleProvStart 60000], services.bleProvStart)
  espOk (app.call [.bleProvStop])

def wirelessSetCredentialsHandle : Handler := fun _ data app => do
  let msg ← castTo .wirelessCredentials data
  if msg.protocol ≠ protocolWifi then return (app, EspErr.invalidArg.code)
  espOk (app.call [.staConnect msg.network msg.password])

/-- The power in 0.1 dBm is passed on in 0.25 dBm. -/
def wirelessSetTxPowerHandle : Handler := fun services data app => do
  let msg ← castTo .wirelessTxPower data
  if msg.protocol ≠ protocolWifi then return (app, EspErr.invalidArg.code)
  if msg.txPower < 20 ∨ 210 < msg.txPower then return (app, EspErr.invalidArg.code)
  let power := (4 * msg.txPower.toInt32 / 10).toUInt32.toUInt8.toInt8
  return (app.call [.setTxPower power], services.setTxPower)

def wirelessSetChannelHandle : Handler := fun services data app => do
  let msg ← castTo .wirelessChannel data
  if msg.protocol ≠ protocolWifi then return (app, EspErr.invalidArg.code)
  return (app.call [.setChannel msg.channel], services.setChannel)

def environmentCloudCoverHandler : Handler := fun _ _ app => espOk app

/-- `value *= 10`, some number of times. -/
def timesTen : (count : Nat) → (value : Int32) → Int32
  | 0, value => value
  | count + 1, value => timesTen count (value * 10)

/-- `em_utils_decode_scaler`: the multiplier and the divisor. -/
def emUtilsDecodeScaler (scaler : Int8) : Int32 × Int32 :=
  if scaler = 0 then (1, 1)
  else if 0 < scaler then (timesTen scaler.toInt.natAbs 1, 1)
  else (1, timesTen scaler.toInt.natAbs 1)

/-- The quotients are integers that a `double` holds exactly. -/
def environmentSetPositionHandler : Handler := fun _ data app => do
  let msg ← castTo .environmentPosition data
  let (multiplier, divisor) := emUtilsDecodeScaler coordinatesFixedFactor
  let lati := msg.latitude * multiplier.toInt64 / divisor.toInt64
  let longi := msg.longitude * multiplier.toInt64 / divisor.toInt64
  if lati < -90 ∨ 90 < lati ∨ longi < -180 ∨ 180 < longi then
    return (app, EspErr.invalidArg.code)
  espOk (app.call [.setCoordinates msg.latitude msg.longitude])

def coredumpConfirmedHandler : Handler := fun _ _ app => espOk (app.call [.coredumpErase])

def statusHandler : Handler := fun _ data app => do
  let msg ← castTo .status data
  if msg.rqType = MsgType.clientInfo then
    let app := app.call [.setLongReconnectingDelay]
    if msg.error = 3 then espOk (app.call [.setDeviceUniqueId 0]) else espOk app
  else espOk app

def getHandler : Handler := fun services data app => do
  let msg ← castTo .get data
  if msg.rqType = MsgType.updateInstalledfw then espOk (app.call [.sendInstalledFw])
  else if msg.rqType = MsgType.updateStatus then
    let updater ← Update.sendUpdateStatus services.device app.updater
    espOk { app with updater }
  else if msg.rqType = MsgType.wirelessStatus then
    match services.rssi with
    | none => return (app, -2)
    | some rssi =>
        espOk (app.call
          [.sendWirelessStatus protocolWifi 1 services.localIpAddr rssi.toInt8 0xFF])
  else if msg.rqType = MsgType.wirelessCredentials then
    match services.staSsid with
    | none => return (app, EspErr.fail.code)
    | some ssid => espOk (app.call [.sendWirelessCredentials protocolWifi ssid []])
  else if msg.rqType = MsgType.wirelessTxPower then
    match services.txPower with
    | none => return (app, EspErr.fail.code)
    | some txPower =>
        espOk (app.call [.sendWirelessTxPower protocolWifi (4 * txPower.toInt32).toInt16])
  else if msg.rqType = MsgType.wirelessChannel then
    match services.channel with
    | none => return (app, EspErr.fail.code)
    | some chan => espOk (app.call [.sendWirelessChannel protocolWifi chan])
  else if msg.rqType = MsgType.environmentPosition then
    espOk (app.call
      [.sendEnvironmentPosition services.latitude.toInt32 services.longitude.toInt32])
  else if msg.rqType = MsgType.meterMeasurement then espOk app
  else if msg.rqType = MsgType.meterMeasurementHistory then
    if msg.param = 0 ∨ msg.param = 2 then espOk app else return (app, -2)
  else if msg.rqType = MsgType.meterCurrentLimit then espOk app
  else if msg.rqType = MsgType.energyAccumulated then espOk app
  else if msg.rqType = MsgType.energyHistory then espOk app
  else if msg.rqType = MsgType.diagLogsSettings then
    espOk (app.call [.sendDiagLogsSettings 1 (Vector.replicate 6 0)])
  else return (app, EspErr.notFound.code)

/-- `mapper` -/
def mapper : List (MsgType × Handler) :=
  [ (MsgType.connectionStatus, connectionStatusHandler),
    (MsgType.reboot, rebootHandler),
    (MsgType.factoryReset, factoryResetHandler),
    (MsgType.identify, ledEvtIdentifyMsgHandler),
    (MsgType.updateStart, updateStartHandler),
    (MsgType.updateInstall, updateApplyHandler),
    (MsgType.wirelessEnable, wirelessEnableHandle),
    (MsgType.wirelessSetCredentials, wirelessSetCredentialsHandle),
    (MsgType.wirelessSetTxPower, wirelessSetTxPowerHandle),
    (MsgType.wirelessSetChannel, wirelessSetChannelHandle),
    (MsgType.environmentCloudCover, environmentCloudCoverHandler),
    (MsgType.environmentSetPosition, environmentSetPositionHandler),
    (MsgType.diagCoredumpConfirmed, coredumpConfirmedHandler),
    (MsgType.status, statusHandler),
    (MsgType.get, getHandler) ]

def dispatcherHandler (services : Services) : Callback App := fun type data app =>
  match mapper.lookup type with
  | some handler => handler services data app
  | none => .ok (app, EspErr.notSupported.code)

end EsInverter.Dispatcher
