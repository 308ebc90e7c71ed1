import EsInverter.Fault
import EsInverter.Lib.Transition

/-!
# The OTA task

One event is a message put into `ota_q` or one iteration of the loop of
`http_ota_task`.  What the ESP functions called in an iteration return is the
event's `Outcome`; a handle is the number of the call that returned it.  The
application descriptors passed to `validate_image_header` and the decrypted
chunks of the running OTA are recorded, so that a finished OTA can be judged
by them.
-/

set_option autoImplicit false

namespace EsInverter.Ota

open Lib

/-- `CONFIG_EM_HTTP_OTA_MAX_QUEUE_MSGS` -/
def maxQueueMsgs : Nat := 3

/-- `CONFIG_EM_HTTP_OTA_PROGRESS_ACCURACY` -/
def progressAccuracy : UInt8 := 20

/-- `sizeof(esp_image_header_t) + sizeof(esp_image_segment_header_t)` -/
def appDescOffset : Nat := 24 + 8

/-- `sizeof(esp_app_desc_t)` -/
def appDescSize : Nat := 256

/-- The member `version` of an `esp_app_desc_t`. -/
def version (appDesc : List UInt8) : List UInt8 := (appDesc.drop 16).take 32

inductive Action
  | start
  | abort
  deriving DecidableEq, Repr

/-- What a URL points to; the bytes are read by `esp_https_ota_begin` only. -/
inductive UrlPointer
  /-- The array of the update module, which a later request overwrites. -/
  | newFwImageUrl
  | other (address : Nat)
  deriving DecidableEq, Repr

structure OtaMsg where
  action : Action
  param : Option UrlPointer
  deriving DecidableEq, Repr

/-- `em_http_ota_event_t` -/
inductive OtaEvent
  | begin
  | validated
  | transfer
  | downloaded
  | verified
  | finished
  | abort
  deriving DecidableEq, Repr

/-- `em_http_ota_err_code_t`; `esp` is an `esp_err_t` other than `ESP_OK` stored in it. -/
inductive ErrCode
  | none
  | rejected
  | aborted
  | imgInvalid
  | verify
  | init
  | internal
  | incomplete
  | cleanup
  | other
  | esp
  deriving DecidableEq, Repr

inductive Posted
  | begin
  | validated (version : List UInt8)
  | transfer (progress : UInt8)
  | downloaded
  | verified
  | finished
  | abort (errCode : ErrCode)
  deriving DecidableEq, Repr

/-- A static handle: what the variable holds and which handles are live. -/
structure Handle where
  var : Option Nat
  live : List Nat
  deriving DecidableEq, Repr

namespace Handle

def null : Handle := ⟨none, []⟩

/-- The variable holds a handle that has been freed. -/
def dangling (handle : Handle) : Bool :=
  match handle.var with
  | none => false
  | some token => decide (token ∉ handle.live)

def opened (handle : Handle) (token : Nat) : Handle := ⟨some token, token :: handle.live⟩

/-- The callee frees the handle; the variable is not touched. -/
def freed (handle : Handle) : Handle :=
  match handle.var with
  | none => handle
  | some token => { handle with live := handle.live.erase token }

def cleared (handle : Handle) : Handle := { handle with var := none }

end Handle

structure DecryptCtx where
  imgValidated : Bool
  decryptErr : ErrCode
  decryptedSize : UInt32
  deriving DecidableEq, Repr

/-- A call of `validate_image_header`: where in the decrypted image the descriptor lay. -/
structure Validation where
  offset : Nat
  appDesc : List UInt8
  accepted : Bool
  deriving DecidableEq, Repr

/-- An OTA for which `esp_https_ota_finish` returned `ESP_OK`. -/
structure Finished where
  chunks : List (List UInt8)
  validations : List Validation
  deriving DecidableEq, Repr

structure State where
  otaQ : List OtaMsg
  otaMsg : OtaMsg
  /-- `ticks_to_wait` is `portMAX_DELAY`. -/
  waits : Bool
  ms : OtaEvent
  httpsOtaHandle : Handle
  decryptHandle : Handle
  decryptCtx : DecryptCtx
  progressLast : UInt8
  url : Option UrlPointer
  /-- Handles returned so far. -/
  tokens : Nat
  /-- A freed handle was passed to an ESP function. -/
  passedFreed : Bool
  /-- Why the device stopped. -/
  fault : Option Fault
  posted : List Posted
  /-- The chunks that were decrypted since the state BEGIN, without the empty ones. -/
  chunks : List (List UInt8)
  /-- The descriptors validated since the state BEGIN. -/
  validations : List Validation
  finished : List Finished
  deriving DecidableEq, Repr

def State.initial : State :=
  { otaQ := [], otaMsg := ⟨.start, none⟩, waits := true, ms := .begin, httpsOtaHandle := .null,
    decryptHandle := .null, decryptCtx := ⟨false, .none, 0⟩, progressLast := 255, url := none,
    tokens := 0, passedFreed := false, fault := none, posted := [], chunks := [],
    validations := [], finished := [] }

/-- A call of the decrypt callback by `esp_https_ota_perform`. -/
inductive Delivery
  /-- Without arguments. -/
  | noArgs
  /-- `esp_encrypted_img_decrypt_data` fails. -/
  | undecryptable
  /-- The bytes decrypted from the chunk, and whether the event of a validation is posted. -/
  | data (dataOut : List UInt8) (posted : Bool)
  deriving DecidableEq, Repr

/-- What `esp_https_ota_perform` returns when no callback failed. -/
inductive PerformRet
  | ok
  | inProgress
  | error
  deriving DecidableEq, Repr

/-- What the ESP functions return in one iteration. -/
structure Outcome where
  decryptStart : Bool := true
  otaBegin : Bool := true
  deliveries : List Delivery := []
  perform : PerformRet := .ok
  imgSize : Int32 := 0
  transferPosted : Bool := true
  complete : Bool := true
  decryptEnd : Bool := true
  otaFinish : Bool := true
  otaAbort : Bool := true
  decryptAbort : Bool := true
  deriving DecidableEq, Repr

namespace State

def stop (state : State) (fault : Fault) : State := { state with fault := some fault }

/-- The next statement, unless the device has stopped. -/
def andThen (state : State) (next : State → State) : State :=
  if state.fault = none then next state else state

def post (state : State) (event : Posted) : State :=
  { state with posted := state.posted ++ [event] }

def passHttps (state : State) : State :=
  { state with passedFreed := state.passedFreed || state.httpsOtaHandle.dangling }

def passDecrypt (state : State) : State :=
  { state with passedFreed := state.passedFreed || state.decryptHandle.dangling }

def freeHttps (state : State) : State :=
  { state.passHttps with httpsOtaHandle := state.httpsOtaHandle.freed }

def freeDecrypt (state : State) : State :=
  { state.passDecrypt with decryptHandle := state.decryptHandle.freed }

end State

@[simp]
theorem State.andThen_of_fault_none {state : State} (running : state.fault = none)
    (next : State → State) : state.andThen next = next state := if_pos running

theorem State.andThen_of_fault {state : State} {fault : Fault} (stopped : state.fault = some fault)
    (next : State → State) : state.andThen next = state := by
  refine if_neg ?_
  rw [stopped]
  simp

def abortHttps (outcome : Outcome) (state : State) : State :=
  if state.httpsOtaHandle.var = none then state
  else if outcome.otaAbort then
    { state.freeHttps with httpsOtaHandle := state.httpsOtaHandle.freed.cleared }
  else state.freeHttps.stop .errorCheck

def abortDecrypt (outcome : Outcome) (state : State) : State :=
  if state.decryptHandle.var = none then state
  else if outcome.decryptAbort then
    { state.freeDecrypt with decryptHandle := state.decryptHandle.freed.cleared }
  else state.freeDecrypt.stop .errorCheck

def abortOtaHandle (outcome : Outcome) (errCode : ErrCode) (state : State) : State :=
  ((abortHttps outcome state).andThen (abortDecrypt outcome)).andThen
    fun state => state.post (.abort errCode)

/-- The `memcmp` of the two versions decides. -/
def validateImageHeader (installed appDesc : List UInt8) (posted : Bool) (state : State) :
    State × EspErr :=
  if version appDesc = installed then (state, .fail)
  else if posted then (state.post (.validated (version appDesc)), .ok)
  else (state.stop .errorCheck, .ok)

def State.record (state : State) (offset : Nat) (appDesc : List UInt8) (accepted : Bool) : State :=
  { state with validations := state.validations ++ [⟨offset, appDesc, accepted⟩] }

def State.deliver (state : State) (dataOut : List UInt8) : State :=
  { state with
    decryptCtx := { state.decryptCtx with
      decryptedSize := state.decryptCtx.decryptedSize + UInt32.ofNat dataOut.length }
    chunks := state.chunks ++ [dataOut] }

def State.image (state : State) : List UInt8 := state.chunks.flatten

/-- The part of `ota_img_decrypt_handler` behind the test of `img_validated`; `start` is where the
chunk begins in the image. -/
def validateChunk (installed : List UInt8) (start : Nat) (dataOut : List UInt8) (posted : Bool)
    (state : State) : State × EspErr :=
  if dataOut.length < appDescOffset + appDescSize then (state, .ok)
  else
    let appDesc := (dataOut.drop appDescOffset).take appDescSize
    match validateImageHeader installed appDesc posted state with
    | (state, .ok) =>
        (state.andThen fun state =>
          { state.record (start + appDescOffset) appDesc true with
            decryptCtx := { state.decryptCtx with imgValidated := true } }, .ok)
    | (state, _) =>
        ({ state.record (start + appDescOffset) appDesc false with
            decryptCtx := { state.decryptCtx with decryptErr := .rejected } }, .fail)

def otaImgDecryptHandler (installed : List UInt8) (delivery : Delivery) (state : State) :
    State × EspErr :=
  match delivery with
  | .noArgs =>
      ({ state with decryptCtx := { state.decryptCtx with decryptErr := .internal } }, .invalidArg)
  | .undecryptable =>
      ({ state.passDecrypt with
          decryptCtx := { state.decryptCtx with decryptErr := .imgInvalid } }, .fail)
  | .data [] _ => (state.passDecrypt, .ok)
  | .data dataOut posted =>
      let delivered := state.passDecrypt.deliver dataOut
      if state.decryptCtx.imgValidated then (delivered, .ok)
      else validateChunk installed state.image.length dataOut posted delivered

/-- The callbacks of one `esp_https_ota_perform`, up to the first that fails. -/
def runCallbacks (installed : List UInt8) : List Delivery → State → State × EspErr
  | [], state => (state, .ok)
  | delivery :: rest, state =>
      match otaImgDecryptHandler installed delivery state with
      | (state, .ok) =>
          if state.fault = none then runCallbacks installed rest state else (state, .ok)
      | (state, err) => (state, err)

/-- The error of a callback is handed on. -/
def otaPerform (installed : List UInt8) (outcome : Outcome) (state : State) : State × PerformRet :=
  match runCallbacks installed outcome.deliveries state.passHttps with
  | (state, .ok) => (state, outcome.perform)
  | (state, _) => (state, .error)

def handleBegin (outcome : Outcome) (binaryUrl : Option UrlPointer) (state : State) :
    State × ErrCode :=
  let state := { state with
    decryptCtx := ⟨false, .none, 0⟩, progressLast := 255, chunks := [], validations := [] }
  if state.decryptHandle.var ≠ none then (state.stop (.assertion .decryptHandle), .none)
  else if state.httpsOtaHandle.var ≠ none then (state.stop (.assertion .httpsOtaHandle), .none)
  else if !outcome.decryptStart then (state, .init)
  else
    let state := { state with
      decryptHandle := state.decryptHandle.opened state.tokens
      tokens := state.tokens + 1
      url := binaryUrl }
    if !outcome.otaBegin then
      ({ state with httpsOtaHandle := state.httpsOtaHandle.cleared }, .internal)
    else
      ({ state.post .begin with
          httpsOtaHandle := state.httpsOtaHandle.opened state.tokens
          tokens := state.tokens + 1
          ms := .transfer }, .none)

/-- Unsigned division of the RV32IM core. -/
def divu (dividend divisor : UInt32) : UInt32 :=
  if divisor = 0 then 0xFFFFFFFF else dividend / divisor

/-- The progress event behind `esp_https_ota_get_image_size`. -/
def reportProgress (outcome : Outcome) (state : State) : State × ErrCode :=
  if outcome.imgSize < 0 then (state.stop (.assertion .imgSize), .none)
  else
    let progress :=
      (divu (state.decryptCtx.decryptedSize * 100) outcome.imgSize.toUInt32).toUInt8
    if progress = state.progressLast then (state, .none)
    else if progress % progressAccuracy ≠ 0 then ({ state with progressLast := progress }, .none)
    else if outcome.transferPosted then
      ({ state.post (.transfer progress) with progressLast := progress }, .none)
    else (state.stop .errorCheck, .none)

def handleTransfer (installed : List UInt8) (outcome : Outcome) (state : State) :
    State × ErrCode :=
  match otaPerform installed outcome state with
  | (state, ret) =>
      if state.fault ≠ none then (state, .none)
      else
        match ret with
        | .ok => ({ state with ms := .downloaded }, .none)
        | .error =>
            (state, if state.decryptCtx.decryptErr = .none then .esp else state.decryptCtx.decryptErr)
        | .inProgress => reportProgress outcome state.passHttps

def handleDownloaded (outcome : Outcome) (state : State) : State × ErrCode :=
  if !outcome.complete then (state.passHttps, .incomplete)
  else ({ state.passHttps.post .downloaded with ms := .finished }, .none)

def handleFinished (outcome : Outcome) (state : State) : State × ErrCode :=
  if !outcome.decryptEnd then (state.freeDecrypt, .verify)
  else
    let state := state.freeDecrypt.post .verified
    if !outcome.otaFinish then (state.freeHttps, .cleanup)
    else
      ({ state.freeHttps.post .finished with
          ms := .begin
          finished := state.finished ++ [⟨state.chunks, state.validations⟩] }, .none)

/-- The `switch` over the machine's state. -/
def handleState (installed : List UInt8) (outcome : Outcome) (binaryUrl : Option UrlPointer)
    (state : State) : State × ErrCode :=
  match state.ms with
  | .begin => handleBegin outcome binaryUrl state
  | .transfer => handleTransfer installed outcome state
  | .downloaded => handleDownloaded outcome state
  | .finished => handleFinished outcome state
  | .validated | .verified | .abort => ({ state with ms := .begin }, .other)

/-- The new request: the handles are freed and the machine starts again. -/
def handleRestart (outcome : Outcome) (state : State) : State :=
  let aborted :=
    if state.httpsOtaHandle.var ≠ none ∨ state.decryptHandle.var ≠ none then
      abortOtaHandle outcome .aborted state
    else state
  aborted.andThen fun state => { state with ms := .begin, waits := false }

def handleResult (outcome : Outcome) : State × ErrCode → State
  | (state, .none) => state.andThen fun state => { state with waits := decide (state.ms = .begin) }
  | (state, otaErr) =>
      (abortOtaHandle outcome otaErr { state with ms := .begin }).andThen
        fun state => { state with waits := true }

def handleOtaProcess (installed : List UInt8) (outcome : Outcome) (binaryUrl : Option UrlPointer)
    (restart : Bool) (state : State) : State :=
  if restart then handleRestart outcome state
  else handleResult outcome (handleState installed outcome binaryUrl state)

/-- The body of the loop of `http_ota_task` behind `xQueueReceive`. -/
def otaTaskBody (installed : List UInt8) (outcome : Outcome) (newMsg : Bool) (state : State) :
    State :=
  match state.otaMsg.action with
  | .start => handleOtaProcess installed outcome state.otaMsg.param newMsg state
  | .abort =>
      (abortOtaHandle outcome .aborted state).andThen fun state => { state with waits := true }

inductive Event
  /-- `http_ota_submit_start` or `http_ota_submit_abort` gets its message into `ota_q`. -/
  | submit (msg : OtaMsg)
  | iterate (outcome : Outcome)
  deriving DecidableEq, Repr

def State.step (installed : List UInt8) (state : State) : Event → Option State
  | .submit msg =>
      provided (state.fault = none ∧ state.otaQ.length < maxQueueMsgs)
        { state with otaQ := state.otaQ ++ [msg] }
  | .iterate outcome =>
      match state.otaQ with
      | [] =>
          provided (state.fault = none ∧ state.waits = false)
            (otaTaskBody installed outcome false state)
      | msg :: rest =>
          provided (state.fault = none)
            (otaTaskBody installed outcome true { state with otaQ := rest, otaMsg := msg })

/-- The OTA task on a device with the given version string in its application descriptor. -/
def otaTask (installed : List UInt8) : Machine State Event := ⟨State.step installed⟩

/-- An iteration continues the running OTA, or takes a message. -/
theorem iterate_cases {installed : List UInt8} {state next : State} {outcome : Outcome}
    (stepped : (otaTask installed).step state (.iterate outcome) = some next) :
    state.fault = none ∧
      (state.otaQ = [] ∧ state.waits = false ∧ next = otaTaskBody installed outcome false state ∨
        ∃ msg rest, state.otaQ = msg :: rest ∧
          next = otaTaskBody installed outcome true { state with otaQ := rest, otaMsg := msg }) := by
  unfold otaTask State.step at stepped
  cases queue : state.otaQ with
  | nil =>
      simp only [queue] at stepped
      obtain ⟨⟨running, going⟩, rfl⟩ := provided_eq_some.mp stepped
      exact ⟨running, .inl ⟨rfl, going, rfl⟩⟩
  | cons msg rest =>
      simp only [queue] at stepped
      obtain ⟨running, rfl⟩ := provided_eq_some.mp stepped
      exact ⟨running, .inr ⟨msg, rest, rfl, rfl⟩⟩

end EsInverter.Ota
