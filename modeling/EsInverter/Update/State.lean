import EsInverter.Fault
import EsInverter.Lib.Scanf

/-!
# The update module

The state of a firmware update, the commands that start and apply it, and the
handlers of the OTA events.  The device's own type, hardware version and
application descriptor are a parameter.
-/

set_option autoImplicit false

namespace EsInverter.Update

open Lib

/-- `IMAGE_URL_MAX_LEN` -/
def imageUrlMaxLen : Nat := 128

/-- `update_phase_e` -/
inductive UpdatePhase
  | idle
  | started
  | transfer
  | downloaded
  | ready
  | apply
  deriving DecidableEq, Repr

/-- `UPDATE_IMMEDIATE`; a policy is the byte that was cast to `update_policy_t`. -/
def updateImmediate : UInt8 := 0

/-- `update_error_e` -/
inductive UpdateError
  | none
  | invalidDevType
  | invalidHwVer
  | alreadyInstalled
  | invalidUrl
  | swFault
  deriving DecidableEq, Repr

def UpdateError.code : UpdateError → UInt8
  | none => 0
  | invalidDevType => 8
  | invalidHwVer => 9
  | alreadyInstalled => 10
  | invalidUrl => 11
  | swFault => 12

/-- `update_state_t` -/
structure UpdateState where
  newFwVer : UInt32
  phase : UpdatePhase
  progress : UInt8
  error : UInt8
  newFwImageUrl : List UInt8
  policy : UInt8
  deriving DecidableEq, Repr

/-- The arguments of `protocol_send_update_status`. -/
structure UpdateStatus where
  newFwVer : UInt32
  progress : UInt8
  phase : UpdatePhase
  error : UInt8
  deriving DecidableEq, Repr

/-- The module: its state, the messages sent, the delay of a scheduled `update_apply_delayed`, and
whether `esp_restart` was called. -/
structure Updater where
  state : UpdateState
  sent : List UpdateStatus
  scheduled : Option UInt32
  restarted : Bool
  deriving DecidableEq, Repr

def Updater.initial : Updater :=
  { state := { newFwVer := 0, phase := .idle, progress := 0, error := UpdateError.none.code,
               newFwImageUrl := List.replicate imageUrlMaxLen 0, policy := updateImmediate }
    sent := [], scheduled := none, restarted := false }

/-- What the module asks of the device. -/
structure Device where
  /-- `em_utils_dev_type` -/
  devType : UInt16
  /-- `em_utils_hw_ver` -/
  hwVer : UInt8
  /-- The array `version` of `esp_app_get_description()`. -/
  version : List UInt8
  deriving DecidableEq, Repr

/-! ### Version numbers -/

/-- `strtoul` on an array, with what is left of the array at `end_ptr`. -/
def strtoul (array : List UInt8) : Except Fault (UInt32 × List UInt8) :=
  let text := array.dropWhile isSpace
  match readInteger 10 text with
  | some (number, length) =>
      if length < text.length then .ok (UInt32.ofNat (number.toUnsigned 32), text.drop length)
      else .error .outOfBounds
  | none => if (readSign text).2 = [] then .error .outOfBounds else .ok (0, array)

def getFwVersionString (version : List UInt8) : Except Fault UInt32 := do
  let (prod, endPtr) ← strtoul version
  let (feat, endPtr) ← strtoul (endPtr.drop 1)
  let (fix, _) ← strtoul (endPtr.drop 1)
  return prod.toUInt8.toUInt32 <<< 16 ||| feat.toUInt8.toUInt32 <<< 8 ||| fix.toUInt8.toUInt32

/-- `update_numeric_fw_ver(NULL)` -/
def updateNumericFwVer (device : Device) : Except Fault UInt32 :=
  getFwVersionString device.version

/-! ### Handlers of the OTA events -/

def sendUpdateStatus (device : Device) (updater : Updater) : Except Fault Updater := do
  let state := updater.state
  let newFwVer ← (if state.phase = .idle then updateNumericFwVer device else .ok state.newFwVer)
  return { updater with
    sent := updater.sent ++ [⟨newFwVer, state.progress, state.phase, state.error⟩] }

def updateErrorHandler (device : Device) (errorCode : UInt8) (updater : Updater) :
    Except Fault Updater :=
  sendUpdateStatus device { updater with state := { updater.state with error := errorCode } }

def updateNewProgressHandler (device : Device) (newProgress : UInt8) (updater : Updater) :
    Except Fault Updater :=
  if newProgress = updater.state.progress then .ok updater
  else
    sendUpdateStatus device
      { updater with state := { updater.state with progress := newProgress, phase := .transfer } }

def updateStartedHandler (device : Device) (version : List UInt8) (updater : Updater) :
    Except Fault Updater := do
  let newFwVer ← getFwVersionString version
  sendUpdateStatus device
    { updater with state := { updater.state with
        phase := .started, newFwVer, progress := 0, error := UpdateError.none.code } }

def updateDownloadedHandler (device : Device) (updater : Updater) : Except Fault Updater :=
  sendUpdateStatus device
    { updater with state := { updater.state with phase := .downloaded, progress := 100 } }

def updateReadyHandler (device : Device) (updater : Updater) : Except Fault Updater :=
  sendUpdateStatus device { updater with state := { updater.state with phase := .ready } }

/-- With another policy the image is left to the next restart. -/
def updateApply (delayMs : UInt32) (updater : Updater) : Updater :=
  let updater := { updater with state := { updater.state with phase := .apply } }
  if updater.state.policy ≠ updateImmediate then updater
  else if delayMs = 0 then { updater with restarted := true }
  else { updater with scheduled := some delayMs }

/-- `update_apply_delayed` -/
def updateApplyDelayed (updater : Updater) : Updater :=
  { updater with scheduled := none, restarted := true }

/-- A URL is taken over if it can be; the array behind `new_url` must hold it. -/
def setNewFwUrl (newUrl : Option (List UInt8)) (fwUrlLen : UInt16) (updater : Updater) :
    Except Fault (Updater × Bool) :=
  match newUrl with
  | none => .ok (updater, false)
  | some url =>
      if fwUrlLen = 0 then .ok (updater, false)
      else
        match url with
        | [] => .error .outOfBounds
        | first :: _ =>
            if first ≠ 47 then .ok (updater, false)
            else if imageUrlMaxLen < fwUrlLen.toNat then .ok (updater, false)
            else if url.length < fwUrlLen.toNat then .error .outOfBounds
            else
              let newFwImageUrl := url.take fwUrlLen.toNat ++
                List.replicate (imageUrlMaxLen - fwUrlLen.toNat) 0
              .ok ({ updater with state := { updater.state with newFwImageUrl } }, true)

/-- The arguments of `update_start` but the first. -/
structure StartRequest where
  devType : UInt16
  newFwVer : UInt32
  hwVer : UInt8
  newUrl : Option (List UInt8)
  fwUrlLen : UInt16
  policy : UInt8
  deriving DecidableEq, Repr

def Updater.withError (updater : Updater) (error : UpdateError) : Updater × UpdateError :=
  ({ updater with state := { updater.state with error := error.code } }, error)

/-- `start` is called with the stored URL; it says whether it returned `ESP_OK`. -/
def updateStart (device : Device) (start : List UInt8 → Except Fault Bool)
    (request : StartRequest) (updater : Updater) : Except Fault (Updater × UpdateError) := do
  if request.devType ≠ device.devType then return updater.withError .invalidDevType
  if request.hwVer ≠ device.hwVer then return updater.withError .invalidHwVer
  let installedFw ← updateNumericFwVer device
  if request.newFwVer = installedFw then return updater.withError .alreadyInstalled
  let (updater, valid) ← setNewFwUrl request.newUrl request.fwUrlLen updater
  if !valid then return updater.withError .invalidUrl
  let updater := { updater with
    state := { updater.state with newFwVer := request.newFwVer, policy := request.policy } }
  let started ← start updater.state.newFwImageUrl
  if !started then return updater.withError .swFault
  return updater.withError .none

def updateInProgress (updater : Updater) : Bool := updater.state.phase ≠ .idle

end EsInverter.Update
