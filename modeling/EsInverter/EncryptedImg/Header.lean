import EsInverter.EncryptedImg.Binary

/-!
# The header of an image

The image is the stream of all bytes received.  Between two calls the handle has
the fields that are complete in the stream, and the part of the next one.
-/

set_option autoImplicit false

namespace EsInverter.EncryptedImg

open Lib

/-! ### The fields of a stream -/

/-- Where in the image a state begins to read. -/
def State.offset : State → Nat
  | .readMagic => 0
  | .readGcm => 4
  | .readIv => 388
  | .readBinsize => 404
  | .readAuth => 408
  | .readExtraHeader => 424
  | .dataDecode => 512

/-- How much of the image it reads. -/
def State.size : State → Nat
  | .readMagic => magicSize
  | .readGcm => encGcmKeySize
  | .readIv => ivSize
  | .readBinsize => binSizeData
  | .readAuth => authSize
  | .readExtraHeader => reservedHeader
  | .dataDecode => 0

/-- The states in front of `dataDecode` read something of the header. -/
theorem State.inside_header {state : State} (header : state ≠ .dataDecode) :
    0 < state.size ∧ state.offset + state.size ≤ 512 := by
  cases state with
  | dataDecode => exact absurd rfl header
  | _ => decide

def field (state : State) (stream : List UInt8) : List UInt8 :=
  window state.offset state.size stream

theorem field_append {state : State} {stream : List UInt8}
    (inside : state.offset + state.size ≤ stream.length) (more : List UInt8) :
    field state (stream ++ more) = field state stream := window_append inside more

def imageKey (crypto : Crypto) (rsaPem stream : List UInt8) : Option Key :=
  crypto.pkDecrypt rsaPem (field .readGcm stream)

def binSize (stream : List UInt8) : UInt32 := word (field .readBinsize stream)

/-- What follows the header. -/
def body (stream : List UInt8) : List UInt8 := stream.drop State.dataDecode.offset

/-- `gcm_key` of the handle with a deciphered key. -/
def Key.stored (key : Key) : List UInt8 :=
  key.val ++ (List.replicate gcmKeySize 0).drop key.val.length

/-! ### What the handle has of a stream -/

variable {crypto : Crypto} {calls : Calls} {rsaPem stream rest : List UInt8} {handle : Handle}

/-- The magic number or the key that the image has received is refused. -/
def Refused (crypto : Crypto) (rsaPem stream : List UInt8) : Prop :=
  (4 ≤ stream.length ∧ word (field .readMagic stream) ≠ espEncImgMagic) ∨
    (388 ≤ stream.length ∧ imageKey crypto rsaPem stream = none)

theorem Refused.append (refused : Refused crypto rsaPem stream) (more : List UInt8) :
    Refused crypto rsaPem (stream ++ more) := by
  rcases refused with ⟨received, differs⟩ | ⟨received, unknown⟩
  · refine .inl ⟨by rw [List.length_append]; omega, ?_⟩
    rwa [@field_append .readMagic stream received more]
  · refine .inr ⟨by rw [List.length_append]; omega, ?_⟩
    rwa [imageKey, @field_append .readGcm stream received more]

/-- The fields in front of a state. -/
structure Knows (crypto : Crypto) (rsaPem : List UInt8) (state : State) (stream : List UInt8)
    (handle : Handle) : Prop where
  received : state.offset ≤ stream.length
  secret : state.offset ≤ 4 → handle.rsaPem = some rsaPem ∧
    handle.gcmKey = List.replicate gcmKeySize 0 ∧ handle.cacheBuf.length = encGcmKeySize
  magic : 4 ≤ state.offset → word (field .readMagic stream) = espEncImgMagic
  key : 388 ≤ state.offset → handle.cacheBuf.length = 16 ∧
    ∃ key, imageKey crypto rsaPem stream = some key ∧ handle.gcmKey = key.stored
  cipher : 404 ≤ state.offset → handle.gcmCtx.key = handle.gcmKey ∧
    handle.gcmCtx.iv = field .readIv stream
  unused : state.offset < 512 → handle.gcmCtx.input = []
  size : 408 ≤ state.offset → handle.binaryFileLen = binSize stream
  auth : 424 ≤ state.offset → handle.authTag = field .readAuth stream
  rooms : handle.iv.length = ivSize ∧ handle.authTag.length = authSize

/-- Complete fields stay what they are. -/
theorem Knows.append {state : State} (knows : Knows crypto rsaPem state stream handle)
    (more : List UInt8) : Knows crypto rsaPem state (stream ++ more) handle := by
  have received := knows.received
  refine { knows with received := ?_, magic := ?_, key := ?_, cipher := ?_, size := ?_, auth := ?_ }
  · rw [List.length_append]
    omega
  · intro behind
    rw [field_append (Nat.le_trans behind received)]
    exact knows.magic behind
  · intro behind
    rw [imageKey, field_append (Nat.le_trans behind received)]
    exact knows.key behind
  · intro behind
    rw [field_append (Nat.le_trans behind received)]
    exact knows.cipher behind
  · intro behind
    rw [binSize, field_append (Nat.le_trans behind received)]
    exact knows.size behind
  · intro behind
    rw [field_append (Nat.le_trans behind received)]
    exact knows.auth behind

/-- Where `read_and_cache_data` puts the bytes of a field. -/
def Handle.dest (handle : Handle) : List UInt8 :=
  match handle.state with
  | .readIv => handle.iv
  | .readAuth => handle.authTag
  | _ => handle.cacheBuf

def Handle.withDest (handle : Handle) (dest : List UInt8) : Handle :=
  match handle.state with
  | .readIv => { handle with iv := dest }
  | .readAuth => { handle with authTag := dest }
  | _ => { handle with cacheBuf := dest }

/-- The part of a field that was received. -/
structure Gathered (stream : List UInt8) (handle : Handle) : Prop where
  short : stream.length < handle.state.offset + handle.state.size
  read : handle.binaryFileRead.toNat = stream.length - handle.state.offset
  len : handle.cacheBufLen = stream.length - handle.state.offset
  cached : handle.dest.take handle.cacheBufLen = stream.drop handle.state.offset

structure Skipped (stream : List UInt8) (handle : Handle) : Prop where
  short : stream.length < handle.state.offset + handle.state.size
  read : handle.binaryFileRead.toNat = stream.length - handle.state.offset

/-- The part of the binary that was received. -/
structure Decoding (stream : List UInt8) (handle : Handle) : Prop where
  read : handle.binaryFileRead.toNat = (body stream).length
  cached : handle.cacheBufLen < 16
  binary : handle.binary = body stream
  inner : (body stream).length < (binSize stream).toNat →
    handle.cacheBufLen = (body stream).length % 16
  complete : (body stream).length = (binSize stream).toNat → handle.cacheBufLen = 0

/-- The handle when all of the stream was given to the decoder. -/
inductive At (crypto : Crypto) (rsaPem stream : List UInt8) (handle : Handle) : Prop
  | field (knows : Knows crypto rsaPem handle.state stream handle)
      (header : handle.state ≠ .readExtraHeader ∧ handle.state ≠ .dataDecode)
      (gathered : Gathered stream handle)
  | extraHeader (knows : Knows crypto rsaPem handle.state stream handle)
      (header : handle.state = .readExtraHeader) (skipped : Skipped stream handle)
  | data (knows : Knows crypto rsaPem handle.state stream handle)
      (decodes : handle.state = .dataDecode) (decoding : Decoding stream handle)

theorem At.knows (at_ : At crypto rsaPem stream handle) :
    Knows crypto rsaPem handle.state stream handle := by
  cases at_ with
  | field knows => exact knows
  | extraHeader knows => exact knows
  | data knows => exact knows

theorem At.decoding (at_ : At crypto rsaPem stream handle) (decodes : handle.state = .dataDecode) :
    Decoding stream handle := by
  cases at_ with
  | field _ header => exact absurd decodes header.2
  | extraHeader _ header =>
      rw [header] at decodes
      cases decodes
  | data _ _ decoding => exact decoding

theorem At.short (at_ : At crypto rsaPem stream handle) (header : handle.state ≠ .dataDecode) :
    stream.length < handle.state.offset + handle.state.size := by
  cases at_ with
  | field _ _ gathered => exact gathered.short
  | extraHeader _ _ skipped => exact skipped.short
  | data _ decodes => exact absurd decodes header

theorem At.short_header (at_ : At crypto rsaPem stream handle)
    (header : handle.state ≠ .dataDecode) : stream.length < 512 :=
  (at_.short header).trans_le (State.inside_header header).2

theorem At.not_refused (at_ : At crypto rsaPem stream handle) : ¬Refused crypto rsaPem stream := by
  have knows := at_.knows
  have short := at_.short
  rintro (⟨received, differs⟩ | ⟨received, unknown⟩)
  · by_cases behind : 4 ≤ handle.state.offset
    · exact differs (knows.magic behind)
    · cases state : handle.state with
      | readMagic =>
          rw [state] at short
          have few : stream.length < 4 := short (by decide)
          omega
      | _ =>
          rw [state] at behind
          exact behind (by decide)
  · by_cases behind : 388 ≤ handle.state.offset
    · obtain ⟨-, key, known, -⟩ := knows.key behind
      rw [unknown] at known
      cases known
    · cases state : handle.state with
      | readMagic =>
          rw [state] at short
          have few : stream.length < 4 := short (by decide)
          omega
      | readGcm =>
          rw [state] at short
          have few : stream.length < 4 + 384 := short (by decide)
          omega
      | _ =>
          rw [state] at behind
          exact behind (by decide)

end EsInverter.EncryptedImg
