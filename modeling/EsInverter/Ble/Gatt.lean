import EsInverter.Lib.Lockstep
import EsInverter.Wifi.Station

/-!
# The provisioning service over BLE

`default_chr_access_cb` takes every read and write of a characteristic through
one static buffer and the two handlers of the provisioning service.  What a
handler leaves in the buffer stays there for the next access.  A write to the
connection characteristic runs `em_wifi_sta_connect`, and its assertions, in the
handler.
-/

set_option autoImplicit false

namespace EsInverter.Ble

open Lib Wifi

/-! ### Result codes of the attribute protocol -/

def bleAttErrReadNotPermitted : Int := 0x02
def bleAttErrWriteNotPermitted : Int := 0x03
def bleAttErrInvalidAttrValueLen : Int := 0x0d
def bleAttErrUnlikely : Int := 0x0e
def bleAttErrInsufficientRes : Int := 0x11
def bleAttErrValueNotAllowed : Int := 0x13

/-! ### The data of the service -/

/-- The characteristics, by the variable that holds their handle. -/
inductive Chr
  | ssid
  | pass
  | connection
  | devId
  | aps
  | apId
  /-- A handle of another service. -/
  | unknown
  deriving DecidableEq, Repr

/-- The static variables of the service, and the WiFi component that it calls. -/
structure ProvSvc where
  devId : UInt64
  wifiCredentials : WifiCredentials
  wifiConnStatus : Vector UInt8 36
  wifiConnResult : Int8
  selectedApId : UInt8
  apList : WifiApList
  station : Station
  deriving DecidableEq, Repr

def connectionNone : Int8 := -1
def connectionInProgress : Int8 := -2
def connectionSuccessful : Int8 := -3

/-- The text `Disconnected`. -/
def disconnectedStatusString : List UInt8 :=
  [0x44, 0x69, 0x73, 0x63, 0x6f, 0x6e, 0x6e, 0x65, 0x63, 0x74, 0x65, 0x64]

/-- The text `Connecting...`. -/
def connectingStatusString : List UInt8 :=
  [0x43, 0x6f, 0x6e, 0x6e, 0x65, 0x63, 0x74, 0x69, 0x6e, 0x67, 0x2e, 0x2e, 0x2e]

def ProvSvc.initial (devId : UInt64) : ProvSvc :=
  { devId := devId
    wifiCredentials :=
      { ssid := zeros 32, password := zeros 64, ssidSet := false, passwordSet := false }
    wifiConnStatus := overlay disconnectedStatusString (zeros 36)
    wifiConnResult := connectionNone
    selectedApId := 0
    apList := ⟨[], by decide⟩
    station := .initial }

/-- The eight bytes of `dev_id`, the lowest first. -/
def devIdBytes (devId : UInt64) : List UInt8 :=
  [devId.toUInt8, (devId >>> 8).toUInt8, (devId >>> 16).toUInt8, (devId >>> 24).toUInt8,
    (devId >>> 32).toUInt8, (devId >>> 40).toUInt8, (devId >>> 48).toUInt8,
    (devId >>> 56).toUInt8]

/-- `read_chr_handler`: its result, and the bytes it stores at `chr_val`. -/
def readChrHandler (svc : ProvSvc) (attr : Chr) : Except Fault (Int × List UInt8) :=
  match attr with
  | .ssid =>
      let ssid := text svc.wifiCredentials.ssid
      if ssid.length = 0 then .ok (1, [0]) else .ok (ssid.length, ssid)
  -- No byte is stored: the result is an error code.
  | .pass => .ok (bleAttErrReadNotPermitted, [])
  | .connection =>
      .ok (36, (overlay (text svc.wifiConnStatus) (zeros 36)).toList)
  | .devId => .ok (8, devIdBytes svc.devId)
  | .aps =>
      match svc.apList.val[svc.selectedApId.toNat]? with
      | none => .ok (3, [0, 0, 0])
      | some ap =>
          let ssid := text ap.ssid
          -- `strlen` runs over the end of a full array.
          if ssid.length < 32 then
            -- The sizes of `rssi` and `channel`, not their values.
            .ok (3 + ssid.length, [1, 1, UInt8.ofNat ssid.length] ++ ssid)
          else .error .outOfBounds
  | .apId =>
      if configEmWifiMaxScanRecords ≤ svc.selectedApId.toNat then
        .ok (bleAttErrReadNotPermitted, [])
      else
        -- The store through `int *` is four bytes wide.
        .ok (1, [svc.selectedApId, 0, 0, 0])
  | .unknown => .ok (-1, [])

/-- `write_chr_handler` on the bytes at `chr_val`: its result and the service after it. -/
def writeChrHandler (driver : Driver) (svc : ProvSvc) (attr : Chr) (value : List UInt8) :
    Except Fault (Int × ProvSvc) :=
  match attr with
  | .ssid => do
      let ssid ← memcpy (zeros 32) value
      return (0, { svc with
        wifiCredentials := { svc.wifiCredentials with ssid := ssid, ssidSet := true } })
  | .pass => do
      let password ← memcpy (zeros 64) value
      return (0, { svc with
        wifiCredentials := { svc.wifiCredentials with password := password, passwordSet := true } })
  | .connection =>
      if svc.wifiCredentials.ssidSet = false ∨ svc.wifiCredentials.passwordSet = false then
        .ok (0, svc)
      else do
        let svc := { svc with wifiConnResult := connectionInProgress }
        let station ← emWifiStaConnect driver svc.wifiCredentials.ssid
          svc.wifiCredentials.password svc.station
        return (0, { svc with
          station := station
          wifiConnStatus := overlay connectingStatusString (zeros 36) })
  | .devId => .ok (bleAttErrWriteNotPermitted, svc)
  | .apId =>
      match value with
      | [selected] => .ok (0, { svc with selectedApId := selected })
      | _ => .ok (bleAttErrValueNotAllowed, svc)
  | .aps | .unknown => .ok (bleAttErrUnlikely, svc)

def minChrLen : Nat := 1
def maxChrLen : Nat := 128

/-- The buffer of the component and the service behind it. -/
structure Gatt where
  chrOpBuffer : Vector UInt8 maxChrLen
  svc : ProvSvc
  deriving DecidableEq, Repr

def Gatt.initial (devId : UInt64) : Gatt :=
  { chrOpBuffer := zeros maxChrLen, svc := .initial devId }

/-- What the client receives: the status and the bytes of the value. -/
structure Answer where
  status : Int
  value : List UInt8
  deriving DecidableEq, Repr

/-- A read; `appended` says whether `os_mbuf_append` succeeds. -/
def readChr (gatt : Gatt) (attr : Chr) (appended : Bool) : Except Fault (Gatt × Answer) := do
  let (chrLen, stored) ← readChrHandler gatt.svc attr
  let chrOpBuffer ← memcpy gatt.chrOpBuffer stored
  let next := { gatt with chrOpBuffer := chrOpBuffer }
  if (maxChrLen : Int) < chrLen then
    .error (.assertion .chrLen)
  else if chrLen ≤ 0 then
    return (next, { status := bleAttErrUnlikely, value := [] })
  else if appended then
    return (next, { status := 0, value := chrOpBuffer.toList.take chrLen.toNat })
  else
    return (next, { status := bleAttErrInsufficientRes, value := [] })

/-- A write of the bytes of a packet. -/
def writeChr (driver : Driver) (gatt : Gatt) (attr : Chr) (packet : List UInt8) :
    Except Fault (Gatt × Answer) :=
  -- `gatt_svr_chr_write`
  if packet.length < minChrLen ∨ maxChrLen < packet.length then
    .ok (gatt, { status := bleAttErrInvalidAttrValueLen, value := [] })
  else do
    let chrOpBuffer ← memcpy gatt.chrOpBuffer packet
    let (err, svc) ← writeChrHandler driver gatt.svc attr (chrOpBuffer.toList.take packet.length)
    let next := { chrOpBuffer := chrOpBuffer, svc := svc }
    if err < 0 then
      return (next, { status := bleAttErrUnlikely, value := [] })
    else
      return (next, { status := 0, value := [] })

/-! ### One access, as an equation -/

/-- A read that the handler refuses with `BLE_ATT_ERR_READ_NOT_PERMITTED`. -/
def Refused (svc : ProvSvc) (attr : Chr) : Prop :=
  attr = .pass ∨ attr = .apId ∧ configEmWifiMaxScanRecords ≤ svc.selectedApId.toNat

/-- The answer to a read whose handler gave the length `chrLen`. -/
def readAnswer (chrOpBuffer : Vector UInt8 maxChrLen) (chrLen : Int) (appended : Bool) : Answer :=
  if chrLen ≤ 0 then { status := bleAttErrUnlikely, value := [] }
  else if appended then { status := 0, value := chrOpBuffer.toList.take chrLen.toNat }
  else { status := bleAttErrInsufficientRes, value := [] }

/-- A handler either stores the whole value or refuses the read. -/
theorem readChrHandler_stored {svc : ProvSvc} {attr : Chr} {chrLen : Int} {stored : List UInt8}
    (handled : readChrHandler svc attr = .ok (chrLen, stored)) :
    stored.length ≤ maxChrLen ∧ chrLen ≤ maxChrLen ∧
      (Refused svc attr ∧ chrLen = bleAttErrReadNotPermitted ∧ stored = [] ∨
        ¬ Refused svc attr ∧ chrLen ≤ stored.length) := by
  cases attr with
  | ssid =>
      have short := length_text svc.wifiCredentials.ssid
      simp only [readChrHandler] at handled
      split at handled
      · cases handled
        simp [Refused, maxChrLen]
      · cases handled
        simp [Refused, maxChrLen]
        omega
  | pass =>
      cases handled
      simp [Refused, maxChrLen, bleAttErrReadNotPermitted]
  | connection =>
      cases handled
      simp [Refused, maxChrLen]
  | devId =>
      cases handled
      simp [Refused, maxChrLen, devIdBytes]
  | aps =>
      simp only [readChrHandler] at handled
      split at handled
      · cases handled
        simp [Refused, maxChrLen]
      · split at handled
        · cases handled
          simp [Refused, maxChrLen]
          omega
        · cases handled
  | apId =>
      rw [readChrHandler] at handled
      split at handled
      case isTrue large =>
        cases handled
        simp [Refused, maxChrLen, bleAttErrReadNotPermitted, large]
      case isFalse small =>
        cases handled
        simp [Refused, maxChrLen, small]
  | unknown =>
      cases handled
      simp [Refused, maxChrLen]

/-- The assertion on the length holds. -/
theorem readChr_eq (gatt : Gatt) (attr : Chr) (appended : Bool) :
    readChr gatt attr appended =
      (readChrHandler gatt.svc attr).map fun outcome =>
        ({ gatt with chrOpBuffer := overlay outcome.2 gatt.chrOpBuffer },
          readAnswer (overlay outcome.2 gatt.chrOpBuffer) outcome.1 appended) := by
  rw [readChr]
  cases handled : readChrHandler gatt.svc attr with
  | error fault => rfl
  | ok outcome =>
      obtain ⟨room, short, -⟩ := readChrHandler_stored handled
      have copied : memcpy gatt.chrOpBuffer outcome.2 =
          .ok (overlay outcome.2 gatt.chrOpBuffer) := if_pos room
      have inBuffer : ¬ (maxChrLen : Int) < outcome.1 := by omega
      simp only [Except.map, bind, Except.bind, copied, if_neg inBuffer, readAnswer]
      split
      · rfl
      · split <;> rfl

/-- A write of a packet of an allowed length. -/
theorem writeChr_eq (driver : Driver) (gatt : Gatt) (attr : Chr) {packet : List UInt8}
    (allowed : ¬ (packet.length < minChrLen ∨ maxChrLen < packet.length)) :
    writeChr driver gatt attr packet =
      (writeChrHandler driver gatt.svc attr packet).map fun outcome =>
        ({ chrOpBuffer := overlay packet gatt.chrOpBuffer, svc := outcome.2 },
          { status := if outcome.1 < 0 then bleAttErrUnlikely else 0, value := [] }) := by
  have room : packet.length ≤ maxChrLen := by omega
  have copied : memcpy gatt.chrOpBuffer packet = .ok (overlay packet gatt.chrOpBuffer) :=
    if_pos room
  have value : (overlay packet gatt.chrOpBuffer).toList.take packet.length = packet := by
    rw [take_overlay gatt.chrOpBuffer le_rfl room, List.take_length]
  rw [writeChr, if_neg allowed]
  simp only [bind, Except.bind, copied, value]
  cases writeChrHandler driver gatt.svc attr packet with
  | error fault => rfl
  | ok outcome =>
      simp only [Except.map]
      split <;> rfl

/-- With both credentials set, a write to the connection characteristic is a connect. -/
theorem writeChrHandler_connection (driver : Driver) {svc : ProvSvc} (value : List UInt8)
    (ssidSet : svc.wifiCredentials.ssidSet = true)
    (passwordSet : svc.wifiCredentials.passwordSet = true) :
    writeChrHandler driver svc .connection value =
      (emWifiStaConnect driver svc.wifiCredentials.ssid svc.wifiCredentials.password
        svc.station).map fun station =>
          (0, { svc with
            wifiConnResult := connectionInProgress
            station := station
            wifiConnStatus := overlay connectingStatusString (zeros 36) }) := by
  have set : ¬ (svc.wifiCredentials.ssidSet = false ∨ svc.wifiCredentials.passwordSet = false) := by
    simp [ssidSet, passwordSet]
  rw [writeChrHandler, if_neg set]
  dsimp only
  cases emWifiStaConnect driver svc.wifiCredentials.ssid svc.wifiCredentials.password
    svc.station <;> rfl

/-! ### Events of the WiFi component -/

/-- `wifi_disconnected_hnd` -/
def wifiDisconnectedHnd (svc : ProvSvc) (reason : List UInt8) : ProvSvc :=
  { svc with
    wifiConnResult := connectionNone
    wifiConnStatus := overlay ((reason.takeWhile (· ≠ 0)).take 36) (zeros 36) }

/-- A byte under `%d`. -/
def decimal (byte : UInt8) : List UInt8 :=
  (Nat.toDigits 10 byte.toNat).map fun digit => UInt8.ofNat digit.toNat

/-- The text `Connected  ` with the address behind it. -/
def connectedStatus (localIp : Vector UInt8 4) : List UInt8 :=
  ([0x43, 0x6f, 0x6e, 0x6e, 0x65, 0x63, 0x74, 0x65, 0x64, 0x20, 0x20] : List UInt8) ++
    List.intercalate [0x2e] (localIp.toList.map decimal)

/-- `wifi_connected_hnd` -/
def wifiConnectedHnd (svc : ProvSvc) (localIp : Vector UInt8 4) : Except Fault ProvSvc := do
  let wifiConnStatus ← memcpy (zeros 36) (connectedStatus localIp ++ [0])
  return { svc with wifiConnStatus := wifiConnStatus, wifiConnResult := connectionSuccessful }

theorem length_decimal (byte : UInt8) : (decimal byte).length ≤ 3 := by
  have small : byte.toNat < 10 ^ 3 := byte.toNat_lt.trans (by decide)
  rw [decimal, List.length_map]
  exact (Nat.length_toDigits_le_iff (by decide) (by decide)).mpr small

theorem length_connectedStatus (localIp : Vector UInt8 4) :
    (connectedStatus localIp).length ≤ 26 := by
  obtain ⟨first, second, third, fourth, bytes⟩ : ∃ first second third fourth,
      localIp.toList = [first, second, third, fourth] := List.length_eq_four.mp (by simp)
  have short := length_decimal
  have one := short first
  have two := short second
  have three := short third
  have four := short fourth
  simp [connectedStatus, bytes, List.intercalate, List.intersperse]
  omega

/-- The text has room in the status. -/
theorem wifiConnectedHnd_eq (svc : ProvSvc) (localIp : Vector UInt8 4) :
    wifiConnectedHnd svc localIp = .ok { svc with
      wifiConnStatus := overlay (connectedStatus localIp ++ [0]) (zeros 36)
      wifiConnResult := connectionSuccessful } := by
  have room : (connectedStatus localIp ++ [0]).length ≤ 36 := by
    have short := length_connectedStatus localIp
    rw [List.length_append, List.length_singleton]
    omega
  rw [wifiConnectedHnd, memcpy_of_le room]
  rfl

/-- `wifi_scan_done_hnd`, without the start of the advertising. -/
def wifiScanDoneHnd (svc : ProvSvc) (found : WifiApList) : ProvSvc := { svc with apList := found }

inductive Event
  | readChr (attr : Chr) (appended : Bool)
  | writeChr (attr : Chr) (packet : List UInt8) (driver : Driver)
  | wifiDisconnected (reason : List UInt8)
  | wifiConnected (localIp : Vector UInt8 4)
  | wifiScanDone (found : WifiApList)
  /-- The event handlers of the WiFi component set and clear bits of `wifi_evt_group`. -/
  | wifiBits (disconnectDemand provisioned connected : Bool)
  deriving DecidableEq, Repr

/-- One event, with the answer if it is a read. -/
def Gatt.step (gatt : Gatt) : Event → Except Fault (Gatt × List Answer)
  | .readChr attr appended => do
      let (next, answer) ← Ble.readChr gatt attr appended
      return (next, [answer])
  | .writeChr attr packet driver => do
      let (next, _) ← Ble.writeChr driver gatt attr packet
      return (next, [])
  | .wifiDisconnected reason => .ok ({ gatt with svc := wifiDisconnectedHnd gatt.svc reason }, [])
  | .wifiConnected localIp => do
      let svc ← wifiConnectedHnd gatt.svc localIp
      return ({ gatt with svc := svc }, [])
  | .wifiScanDone found => .ok ({ gatt with svc := wifiScanDoneHnd gatt.svc found }, [])
  | .wifiBits disconnectDemand provisioned connected =>
      .ok ({ gatt with svc := { gatt.svc with
        station := { gatt.svc.station with
          disconnectDemand := disconnectDemand
          provisioned := provisioned
          connected := connected } } }, [])

/-- The answers to the reads of a run. -/
def reads (devId : UInt64) (events : List Event) : List Answer :=
  outputs Gatt.step (.initial devId) events

end EsInverter.Ble
