import EsInverter.Fault
import EsInverter.Lib.Overlay

/-!
# The WiFi station

`em_wifi_sta_connect` hands the credentials to the driver.  What the driver answers is data.
-/

set_option autoImplicit false

namespace EsInverter.Wifi

open Lib

/-- `ESP_ERROR_CHECK` of a call that returns `ESP_OK` or not. -/
def espErrorCheck (succeeds : Bool) : Except Fault Unit :=
  if succeeds then .ok () else .error .errorCheck

/-! ### Texts in arrays -/

/-- An array after `memset` to zero. -/
def zeros (size : Nat) : Vector UInt8 size := Vector.replicate size 0

/-- `memcpy` to the start of an array. -/
def memcpy {size : Nat} (array : Vector UInt8 size) (bytes : List UInt8) :
    Except Fault (Vector UInt8 size) :=
  if bytes.length ≤ size then .ok (overlay bytes array) else .error .outOfBounds

/-- The characters of an array in front of the first NUL: `strnlen` is their number. -/
def text {size : Nat} (array : Vector UInt8 size) : List UInt8 :=
  array.toList.takeWhile (· ≠ 0)

theorem memcpy_of_le {size : Nat} {array : Vector UInt8 size} {bytes : List UInt8}
    (room : bytes.length ≤ size) : memcpy array bytes = .ok (overlay bytes array) := if_pos room

theorem length_text {size : Nat} (array : Vector UInt8 size) : (text array).length ≤ size := by
  have short := (List.takeWhile_prefix (p := (· ≠ 0)) (l := array.toList)).length_le
  rw [Vector.length_toList] at short
  exact short

theorem takeWhile_zeros (size : Nat) :
    (List.replicate size (0 : UInt8)).takeWhile (· ≠ 0) = [] := by
  rw [List.takeWhile_replicate, if_neg (by simp)]

section Copied

variable {size : Nat} {bytes : List UInt8}

/-- A text is read back from a cleared array that it fits in. -/
theorem text_overlay_zeros (plain : ∀ byte ∈ bytes, byte ≠ 0) (room : bytes.length ≤ size) :
    text (overlay bytes (zeros size)) = bytes := by
  rw [text, toList_overlay _ room, zeros, Vector.toList_replicate, List.drop_replicate,
    List.takeWhile_append_of_pos (by simpa using plain), takeWhile_zeros, List.append_nil]

theorem text_overlay_blank (blank : ∀ byte ∈ bytes, byte = 0) (room : bytes.length ≤ size) :
    text (overlay bytes (zeros size)) = [] := by
  rw [text, toList_overlay _ room, zeros, Vector.toList_replicate, List.drop_replicate,
    List.eq_replicate_of_mem blank, List.length_replicate, List.replicate_append_replicate,
    takeWhile_zeros]

theorem length_text_overlay (room : bytes.length ≤ size) :
    (text (overlay bytes (zeros size))).length ≤ bytes.length := by
  rw [text, toList_overlay _ room, zeros, Vector.toList_replicate, List.drop_replicate,
    List.takeWhile_append, takeWhile_zeros, List.append_nil]
  split
  · exact le_rfl
  · exact (List.takeWhile_prefix _).length_le

end Copied

/-! ### The data of the component -/

/-- `em_wifi_ap_t` -/
structure WifiAp where
  ssid : Vector UInt8 32
  rssi : Int8
  channel : UInt8
  deriving DecidableEq, Repr

def configEmWifiMaxScanRecords : Nat := 8

/-- `em_wifi_ap_list_t`: `scan_done_handler` asserts the bound on `len`. -/
abbrev WifiApList := { aps : List WifiAp // aps.length ≤ configEmWifiMaxScanRecords }

/-- `em_wifi_credentials_t` -/
structure WifiCredentials where
  ssid : Vector UInt8 32
  password : Vector UInt8 64
  ssidSet : Bool
  passwordSet : Bool
  deriving DecidableEq, Repr

/-! ### Connecting -/

/-- The members of `wifi_auth_mode_t` that the component uses. -/
inductive WifiAuthMode
  | authOpen
  | authWpa2Psk
  deriving DecidableEq, Repr

/-- What `set_credentials` stores in `wifi_config_t`. -/
structure StaConfig where
  ssid : Vector UInt8 32
  password : Vector UInt8 64
  authmode : WifiAuthMode
  channel : UInt8
  deriving DecidableEq, Repr

/-- The bits of `wifi_evt_group` that `em_wifi_sta_connect` uses, and the stored configuration. -/
structure Station where
  disconnectDemand : Bool
  provisioned : Bool
  connected : Bool
  sta : StaConfig
  deriving DecidableEq, Repr

def Station.initial : Station :=
  { disconnectDemand := false
    provisioned := false
    connected := false
    sta := { ssid := zeros 32, password := zeros 64, authmode := .authOpen, channel := 0 } }

/-- The results of `esp_wifi_connect` that `em_wifi_sta_connect` tells apart. -/
inductive ConnectErr
  | ok
  | wifiConn
  | other
  deriving DecidableEq, Repr

/-- What the driver answers: whether a call returns `ESP_OK`, and the result of the connect. -/
structure Driver where
  setStorage : Bool
  setConfig : Bool
  disconnect : Bool
  connect : ConnectErr
  deriving DecidableEq, Repr

def Driver.fine : Driver :=
  { setStorage := true, setConfig := true, disconnect := true, connect := .ok }

/-- The driver takes a configuration whose lengths are in order. -/
structure Driver.Working (driver : Driver) : Prop where
  setStorage : driver.setStorage = true
  setConfig : driver.setConfig = true
  disconnect : driver.disconnect = true
  connect : driver.connect ≠ .other

/-- `set_credentials`; `text` is the part of an array that `strnlen` counts. -/
def setCredentials (driver : Driver) (ssid : Vector UInt8 32) (password : Vector UInt8 64)
    (station : Station) : Except Fault Station :=
  if 32 ≤ (text ssid).length then .error (.assertion .staSsid)
  else if 64 ≤ (text password).length then .error (.assertion .staPassword)
  else do
    let staSsid ← memcpy (zeros 32) (text ssid)
    let staPassword ← memcpy (zeros 64) (text password)
    espErrorCheck driver.setStorage
    espErrorCheck driver.setConfig
    return { station with
      sta := { ssid := staSsid, password := staPassword, authmode := .authWpa2Psk, channel := 1 }
      provisioned := true }

/-- `em_wifi_sta_connect` -/
def emWifiStaConnect (driver : Driver) (ssid : Vector UInt8 32) (password : Vector UInt8 64)
    (station : Station) : Except Fault Station := do
  let station := { station with disconnectDemand := false }
  let wasProvisioned := station.provisioned
  let station ← setCredentials driver ssid password station
  if wasProvisioned && station.connected then
    espErrorCheck driver.disconnect
    return station
  match driver.connect with
  | .ok | .wifiConn => return station
  | .other => throw (.assertion .wifiConnect)

/-- What is left of a connect behind the assertions on the lengths. -/
def Driver.answer (driver : Driver) (station : Station) : Except Fault Unit := do
  espErrorCheck driver.setStorage
  espErrorCheck driver.setConfig
  if station.provisioned && station.connected then
    espErrorCheck driver.disconnect
  else if driver.connect = .other then
    throw (.assertion .wifiConnect)

/-- The station with a text for each credential in its configuration. -/
def Station.configured (station : Station) (ssid password : List UInt8) : Station :=
  { station with
    disconnectDemand := false
    provisioned := true
    sta := { ssid := overlay ssid (zeros 32), password := overlay password (zeros 64)
             authmode := .authWpa2Psk, channel := 1 } }

theorem emWifiStaConnect_eq (driver : Driver) (ssid : Vector UInt8 32)
    (password : Vector UInt8 64) (station : Station) :
    emWifiStaConnect driver ssid password station =
      if 32 ≤ (text ssid).length then .error (.assertion .staSsid)
      else if 64 ≤ (text password).length then .error (.assertion .staPassword)
      else (driver.answer station).map fun _ =>
        station.configured (text ssid) (text password) := by
  rw [emWifiStaConnect, setCredentials]
  split
  · rfl
  split
  · rfl
  rw [memcpy_of_le (length_text ssid), memcpy_of_le (length_text password), Driver.answer]
  rcases driver with ⟨setStorage, setConfig, disconnect, connect⟩
  cases setStorage with
  | false => rfl
  | true =>
      cases setConfig with
      | false => rfl
      | true =>
          simp only [espErrorCheck, if_true, bind, Except.bind, pure, Except.pure]
          split
          · cases disconnect <;> rfl
          · cases connect <;> rfl

theorem Driver.answer_working {driver : Driver} (working : driver.Working) (station : Station) :
    driver.answer station = .ok () := by
  obtain ⟨setStorage, setConfig, disconnect, connect⟩ := working
  simp only [answer, espErrorCheck, setStorage, setConfig, disconnect, if_true, if_neg connect,
    bind, Except.bind, pure, Except.pure, ite_self]

/-- The driver's answers are no accesses to memory. -/
theorem Driver.answer_ne_outOfBounds (driver : Driver) (station : Station) :
    driver.answer station ≠ .error .outOfBounds := by
  rcases driver with ⟨setStorage, setConfig, disconnect, connect⟩
  cases setStorage with
  | false =>
      intro same
      cases same
  | true =>
      cases setConfig with
      | false =>
      intro same
      cases same
      | true =>
          simp only [answer, espErrorCheck, if_true, bind, Except.bind, pure, Except.pure]
          split
          · cases disconnect <;> simp
          · cases connect <;> simp [throw, throwThe, MonadExceptOf.throw]

end EsInverter.Wifi
