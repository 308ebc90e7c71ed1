import EsInverter.Fault
import EsInverter.Lib.Pieces

/-!
# The decoder of pre-encrypted images

`esp_encrypted_img_decrypt_data` in its RSA configuration.  A call is given one
chunk of the downloaded image and falls through the states of the header as far
as the chunk goes; `rest` is what the chunk has behind `curr_index`.  A copy or a
read that does not stay inside its block is an access out of bounds.
-/

set_option autoImplicit false

namespace EsInverter.EncryptedImg

open Lib

def magicSize : Nat := 4

def encGcmKeySize : Nat := 384

def gcmKeySize : Nat := 32

def ivSize : Nat := 16

def authSize : Nat := 16

def binSizeData : Nat := 4

def reservedHeader : Nat := 88

def espEncImgMagic : UInt32 := 0x0788b6cf

def memcpy {α : Type} (offset : Nat) (values cells : List α) : Except Fault (List α) :=
  match splice offset values cells with
  | none => .error .outOfBounds
  | some cells => .ok cells

/-- The bytes of a block that a copy or a call of the cipher library is given. -/
def readBytes (offset count : Nat) (bytes : List UInt8) : Except Fault (List UInt8) :=
  if offset + count ≤ bytes.length then .ok (window offset count bytes) else .error .outOfBounds

/-- The value of the first four bytes. -/
def word (bytes : List UInt8) : UInt32 :=
  (bytes.getD 0 0).toUInt32 ||| (bytes.getD 1 0).toUInt32 <<< 8 |||
    (bytes.getD 2 0).toUInt32 <<< 16 ||| (bytes.getD 3 0).toUInt32 <<< 24

/-- `*(uint32_t *)` -/
def readWord (bytes : List UInt8) : Except Fault UInt32 := do
  let bytes ← readBytes 0 4 bytes
  .ok (word bytes)

/-! ### What is called -/

/-- A key that `mbedtls_pk_decrypt` has room for. -/
def Key : Type := { bytes : List UInt8 // bytes.length ≤ gcmKeySize }

/-- The functions of the cipher library: the deciphering of the key with a private key, the bytes
that counter mode combines a text with, and the tag of a ciphertext. -/
structure Crypto where
  pkDecrypt : List UInt8 → List UInt8 → Option Key
  keystream : List UInt8 → List UInt8 → Nat → UInt8
  tag : List UInt8 → List UInt8 → List UInt8 → Vector UInt8 authSize

/-- The calls of a run of `esp_encrypted_img_decrypt_data` that may fail. -/
inductive Call
  /-- `mbedtls_ctr_drbg_seed` -/
  | ctrDrbgSeed
  /-- `mbedtls_pk_parse_key` -/
  | pkParseKey
  /-- `realloc` of `cache_buf` -/
  | cacheBuf
  /-- `mbedtls_gcm_setkey` -/
  | setkey
  /-- `mbedtls_gcm_starts` -/
  | starts
  /-- `realloc` of `data_out` -/
  | dataOut
  /-- `mbedtls_gcm_update` of `cache_buf` -/
  | updateCache
  /-- `mbedtls_gcm_update` of the chunk -/
  | updateChunk
  deriving DecidableEq, Repr

/-- Which of them succeed. -/
abbrev Calls : Type := Call → Bool

/-- `mbedtls_gcm_context` with all that it was given so far. -/
structure Gcm where
  key : List UInt8
  iv : List UInt8
  input : List UInt8
  deriving DecidableEq, Repr

/-- The text that comes out of `mbedtls_gcm_update`. -/
def Gcm.deciphered (crypto : Crypto) (gcm : Gcm) (input : List UInt8) : List UInt8 :=
  masked (· ^^^ ·) (crypto.keystream gcm.key gcm.iv) gcm.input.length input

/-! ### The handle -/

/-- `esp_encrypted_img_state` -/
inductive State
  | readMagic
  | readGcm
  | readIv
  | readBinsize
  | readAuth
  | readExtraHeader
  | dataDecode
  deriving DecidableEq, Repr

/-- `struct esp_encrypted_img_handle` -/
structure Handle where
  rsaPem : Option (List UInt8)
  binaryFileLen : UInt32
  binaryFileRead : UInt32
  gcmKey : List UInt8
  iv : List UInt8
  authTag : List UInt8
  state : State
  gcmCtx : Gcm
  cacheBufLen : Nat
  cacheBuf : List UInt8
  deriving DecidableEq, Repr

/-- What `esp_encrypted_img_decrypt_start` returns where its allocations succeed. -/
def Handle.started (rsaPem : List UInt8) : Handle :=
  { rsaPem := some rsaPem, binaryFileLen := 0, binaryFileRead := 0,
    gcmKey := List.replicate gcmKeySize 0, iv := List.replicate ivSize 0,
    authTag := List.replicate authSize 0, state := .readMagic, gcmCtx := ⟨[], [], []⟩,
    cacheBufLen := 0, cacheBuf := List.replicate encGcmKeySize 0 }

def decryptStart (rsaPem : List UInt8) (allocated : Bool) : Option Handle :=
  if rsaPem = [] ∨ allocated = false then none else some (.started rsaPem)

/-- The `esp_err_t` codes that the decoder returns. -/
inductive Reply
  | ok
  | notFinished
  | fail
  | noMem
  deriving DecidableEq, Repr

/-- The output of `pre_enc_decrypt_arg_t`; a cell of a new block has no value. -/
structure Args where
  dataOut : List (Option UInt8)
  dataOutLen : Nat
  deriving DecidableEq, Repr

def Args.none : Args := ⟨[], 0⟩

/-- How a state of the header is left. -/
inductive Flow
  | fallThrough (handle : Handle) (rest : List UInt8)
  | return_ (reply : Reply) (handle : Handle)

/-! ### The header -/

/-- The copy of `read_and_cache_data`. -/
def cacheData (values : List UInt8) (handle : Handle) : Except Fault Handle :=
  match handle.state with
  | .readIv => do
      let iv ← memcpy handle.cacheBufLen values handle.iv
      .ok { handle with iv }
  | .readAuth => do
      let authTag ← memcpy handle.cacheBufLen values handle.authTag
      .ok { handle with authTag }
  | _ => do
      let cacheBuf ← memcpy handle.cacheBufLen values handle.cacheBuf
      .ok { handle with cacheBuf }

def readAndCacheData (dataSize : Nat) (handle : Handle) (rest : List UInt8) :
    Except Fault (Handle × List UInt8) :=
  -- With a negative `data_left` the copy runs over everything.
  if dataSize < handle.binaryFileRead.toNat then .error .outOfBounds
  else do
    let count := min rest.length (dataSize - handle.binaryFileRead.toNat)
    let values ← readBytes 0 count rest
    let handle ← cacheData values handle
    .ok ({ handle with
      cacheBufLen := handle.cacheBufLen + count
      binaryFileRead := handle.binaryFileRead + UInt32.ofNat count }, rest.drop count)

def readMagic (handle : Handle) (rest : List UInt8) : Except Fault Flow :=
  if handle.cacheBufLen = 0 ∧ magicSize ≤ rest.length then do
    let recvMagic ← readWord rest
    if recvMagic ≠ espEncImgMagic then .ok (.return_ .fail { handle with rsaPem := none })
    else .ok (.fallThrough { handle with state := .readGcm } (rest.drop magicSize))
  else do
    let (handle, rest) ← readAndCacheData magicSize handle rest
    if handle.binaryFileRead.toNat = magicSize then do
      let recvMagic ← readWord handle.cacheBuf
      if recvMagic ≠ espEncImgMagic then
        .ok (.return_ .fail { handle with rsaPem := none })
      else
        .ok (.fallThrough
          { handle with binaryFileRead := 0, cacheBufLen := 0, state := .readGcm } rest)
    else .ok (.return_ .notFinished handle)

/-- Whether the key was deciphered, and the handle behind it. -/
def decipherGcmKey (crypto : Crypto) (calls : Calls) (encGcm : List UInt8) (handle : Handle) :
    Bool × Handle :=
  if calls .ctrDrbgSeed = false ∨ calls .pkParseKey = false then
    (false, { handle with rsaPem := none })
  else
    match handle.rsaPem.bind fun rsaPem => crypto.pkDecrypt rsaPem encGcm with
    | none => (false, { handle with rsaPem := none })
    | some key =>
        let handle :=
          { handle with gcmKey := key.val ++ handle.gcmKey.drop key.val.length }
        if calls .cacheBuf then
          (true, { handle with
            cacheBuf := handle.cacheBuf.take 16, state := .readIv, binaryFileRead := 0,
            cacheBufLen := 0, rsaPem := none })
        -- This way out frees neither the key nor the contexts.
        else (false, { handle with cacheBuf := [] })

def processGcmKey (crypto : Crypto) (calls : Calls) (dataIn rest : List UInt8) (handle : Handle) :
    Except Fault Flow := do
  let encGcm ← readBytes 0 encGcmKeySize dataIn
  match decipherGcmKey crypto calls encGcm handle with
  | (true, handle) => .ok (.fallThrough handle rest)
  | (false, handle) => .ok (.return_ .fail handle)

def readGcm (crypto : Crypto) (calls : Calls) (handle : Handle) (rest : List UInt8) :
    Except Fault Flow :=
  if handle.cacheBufLen = 0 ∧ encGcmKeySize ≤ rest.length then
    processGcmKey crypto calls rest (rest.drop encGcmKeySize) handle
  else do
    let (handle, rest) ← readAndCacheData encGcmKeySize handle rest
    if handle.cacheBufLen = encGcmKeySize then
      processGcmKey crypto calls handle.cacheBuf rest handle
    else .ok (.return_ .notFinished handle)

def receiveIv (handle : Handle) (rest : List UInt8) : Except Fault (Handle × List UInt8) :=
  if handle.cacheBufLen = 0 ∧ ivSize ≤ rest.length then do
    let iv ← readBytes 0 ivSize rest
    .ok ({ handle with iv, binaryFileRead := UInt32.ofNat ivSize }, rest.drop ivSize)
  else readAndCacheData ivSize handle rest

def readIv (calls : Calls) (handle : Handle) (rest : List UInt8) : Except Fault Flow := do
  let (handle, rest) ← receiveIv handle rest
  if handle.binaryFileRead.toNat = ivSize then
    let handle := { handle with state := .readBinsize, binaryFileRead := 0, cacheBufLen := 0 }
    if calls .setkey && calls .starts then
      .ok (.fallThrough { handle with gcmCtx := ⟨handle.gcmKey, handle.iv, []⟩ } rest)
    else .ok (.return_ .fail handle)
  else .ok (.return_ .notFinished handle)

def readBinsize (handle : Handle) (rest : List UInt8) : Except Fault Flow :=
  if handle.cacheBufLen = 0 ∧ binSizeData ≤ rest.length then do
    let binaryFileLen ← readWord rest
    .ok (.fallThrough { handle with
      binaryFileLen, state := .readAuth, binaryFileRead := 0, cacheBufLen := 0 }
      (rest.drop binSizeData))
  else do
    let (handle, rest) ← readAndCacheData binSizeData handle rest
    if handle.binaryFileRead.toNat = binSizeData then do
      let binaryFileLen ← readWord handle.cacheBuf
      .ok (.fallThrough { handle with
        binaryFileLen, state := .readAuth, binaryFileRead := 0, cacheBufLen := 0 } rest)
    else .ok (.return_ .notFinished handle)

def receiveAuth (handle : Handle) (rest : List UInt8) : Except Fault (Handle × List UInt8) :=
  if handle.cacheBufLen = 0 ∧ authSize ≤ rest.length then do
    let authTag ← readBytes 0 authSize rest
    .ok ({ handle with authTag, binaryFileRead := UInt32.ofNat authSize }, rest.drop authSize)
  else readAndCacheData authSize handle rest

def readAuth (handle : Handle) (rest : List UInt8) : Except Fault Flow := do
  let (handle, rest) ← receiveAuth handle rest
  if handle.binaryFileRead.toNat = authSize then
    .ok (.fallThrough
      { handle with state := .readExtraHeader, binaryFileRead := 0, cacheBufLen := 0 } rest)
  else .ok (.return_ .notFinished handle)

def readExtraHeader (handle : Handle) (rest : List UInt8) : Except Fault Flow :=
  let count := min rest.length (UInt32.ofNat reservedHeader - handle.binaryFileRead).toNat
  let handle := { handle with binaryFileRead := handle.binaryFileRead + UInt32.ofNat count }
  if handle.binaryFileRead.toNat = reservedHeader then
    .ok (.fallThrough { handle with state := .dataDecode, binaryFileRead := 0, cacheBufLen := 0 }
      (rest.drop count))
  else .ok (.return_ .notFinished handle)

/-! ### The encrypted binary -/

/-- `mbedtls_gcm_update`, which writes to a place of `data_out` with the given room. -/
def gcmUpdate (crypto : Crypto) (succeeds : Bool) (input : List UInt8) (place room : Nat)
    (handle : Handle) (dataOut : List (Option UInt8)) :
    Except Fault (Option (Handle × List (Option UInt8))) :=
  if succeeds = false ∨ room < input.length then .ok none
  else do
    let dataOut ← memcpy place ((handle.gcmCtx.deciphered crypto input).map some) dataOut
    let gcmCtx := { handle.gcmCtx with input := handle.gcmCtx.input ++ input }
    .ok (some ({ handle with gcmCtx }, dataOut))

/-- The bytes behind the last whole block go to the cache. -/
def cacheLeft (left : Nat) (rest cacheBuf : List UInt8) : Except Fault (List UInt8) :=
  if left ≠ 0 then do
    let values ← readBytes (rest.length - left) left rest
    memcpy 0 values cacheBuf
  else .ok cacheBuf

/-- The blocks of a chunk behind the one that was in the cache, and what is left for the cache. -/
def processRest (crypto : Crypto) (calls : Calls) (rest : List UInt8) (copyLen decLen room : Nat)
    (handle : Handle) (dataOut : List (Option UInt8)) : Except Fault (Reply × Handle × Args) := do
  let left := (rest.length - copyLen) % 16
  let cacheBuf ← cacheLeft left rest handle.cacheBuf
  let handle := { handle with cacheBufLen := left, cacheBuf }
  let count := rest.length - left - copyLen
  if count > 0 then do
    let blocks ← readBytes copyLen count rest
    match ← gcmUpdate crypto (calls .updateChunk) blocks decLen (room - decLen) handle dataOut with
    | none => .ok (.fail, handle, .none)
    | some (handle, dataOut) => .ok (.notFinished, handle, ⟨dataOut, decLen + count⟩)
  else .ok (.notFinished, handle, ⟨dataOut, decLen + count⟩)

/-- A chunk that is not the last one. -/
def processBlocks (crypto : Crypto) (calls : Calls) (handle : Handle) (rest : List UInt8) :
    Except Fault (Reply × Handle × Args) :=
  let size := handle.cacheBufLen + rest.length - (handle.cacheBufLen + rest.length) % 16
  if size > 0 ∧ calls .dataOut = false then .ok (.noMem, handle, .none)
  else
    let dataOut := List.replicate size Option.none
    if handle.cacheBufLen = 0 then processRest crypto calls rest 0 0 size handle dataOut
    else do
      let copyLen := min (16 - handle.cacheBufLen) rest.length
      let values ← readBytes 0 copyLen rest
      let cacheBuf ← memcpy handle.cacheBufLen values handle.cacheBuf
      let handle := { handle with cacheBufLen := handle.cacheBufLen + copyLen, cacheBuf }
      if handle.cacheBufLen ≠ 16 then .ok (.notFinished, handle, ⟨dataOut, 0⟩)
      else do
        let block ← readBytes 0 16 handle.cacheBuf
        match ← gcmUpdate crypto (calls .updateCache) block 0 size handle dataOut with
        | none => .ok (.fail, handle, .none)
        | some (handle, dataOut) => processRest crypto calls rest copyLen 16 size handle dataOut

/-- The last chunk. -/
def processLast (crypto : Crypto) (calls : Calls) (handle : Handle) (rest : List UInt8) :
    Except Fault (Reply × Handle × Args) :=
  let size := handle.cacheBufLen + rest.length
  if calls .dataOut = false then .ok (.noMem, handle, .none)
  else do
    let dataOut := List.replicate size Option.none
    let copyLen := min (16 - handle.cacheBufLen) rest.length
    let values ← readBytes 0 copyLen rest
    let cacheBuf ← memcpy handle.cacheBufLen values handle.cacheBuf
    let handle := { handle with cacheBufLen := handle.cacheBufLen + copyLen, cacheBuf }
    let block ← readBytes 0 handle.cacheBufLen handle.cacheBuf
    match ← gcmUpdate crypto (calls .updateCache) block 0 size handle dataOut with
    | none => .ok (.fail, handle, .none)
    | some (handle, dataOut) =>
        let outLen := handle.cacheBufLen + rest.length - copyLen
        if rest.length - copyLen > 0 then do
          let behind ← readBytes copyLen (rest.length - copyLen) rest
          match ← gcmUpdate crypto (calls .updateChunk) behind 16 (size - 16) handle dataOut with
          | none => .ok (.fail, handle, .none)
          | some (handle, dataOut) => .ok (.ok, { handle with cacheBufLen := 0 }, ⟨dataOut, outLen⟩)
        else .ok (.ok, { handle with cacheBufLen := 0 }, ⟨dataOut, outLen⟩)

def processBin (crypto : Crypto) (calls : Calls) (handle : Handle) (rest : List UInt8) :
    Except Fault (Reply × Handle × Args) :=
  let handle :=
    { handle with binaryFileRead := handle.binaryFileRead + UInt32.ofNat rest.length }
  if handle.binaryFileRead ≠ handle.binaryFileLen then processBlocks crypto calls handle rest
  else processLast crypto calls handle rest

/-- A state and the one that it falls through to. -/
def thenRun (flow : Except Fault Flow)
    (next : Handle → List UInt8 → Except Fault (Reply × Handle × Args)) :
    Except Fault (Reply × Handle × Args) := do
  match ← flow with
  | .fallThrough handle rest => next handle rest
  | .return_ reply handle => .ok (reply, handle, .none)

def fromExtraHeader (crypto : Crypto) (calls : Calls) (handle : Handle) (rest : List UInt8) :
    Except Fault (Reply × Handle × Args) :=
  thenRun (readExtraHeader handle rest) (processBin crypto calls)

def fromAuth (crypto : Crypto) (calls : Calls) (handle : Handle) (rest : List UInt8) :
    Except Fault (Reply × Handle × Args) :=
  thenRun (readAuth handle rest) (fromExtraHeader crypto calls)

def fromBinsize (crypto : Crypto) (calls : Calls) (handle : Handle) (rest : List UInt8) :
    Except Fault (Reply × Handle × Args) :=
  thenRun (readBinsize handle rest) (fromAuth crypto calls)

def fromIv (crypto : Crypto) (calls : Calls) (handle : Handle) (rest : List UInt8) :
    Except Fault (Reply × Handle × Args) :=
  thenRun (readIv calls handle rest) (fromBinsize crypto calls)

def fromGcm (crypto : Crypto) (calls : Calls) (handle : Handle) (rest : List UInt8) :
    Except Fault (Reply × Handle × Args) :=
  thenRun (readGcm crypto calls handle rest) (fromIv crypto calls)

def fromMagic (crypto : Crypto) (calls : Calls) (handle : Handle) (rest : List UInt8) :
    Except Fault (Reply × Handle × Args) :=
  thenRun (readMagic handle rest) (fromGcm crypto calls)

def decryptData (crypto : Crypto) (calls : Calls) (handle : Handle) (dataIn : List UInt8) :
    Except Fault (Reply × Handle × Args) :=
  match handle.state with
  | .readMagic => fromMagic crypto calls handle dataIn
  | .readGcm => fromGcm crypto calls handle dataIn
  | .readIv => fromIv crypto calls handle dataIn
  | .readBinsize => fromBinsize crypto calls handle dataIn
  | .readAuth => fromAuth crypto calls handle dataIn
  | .readExtraHeader => fromExtraHeader crypto calls handle dataIn
  | .dataDecode => processBin crypto calls handle dataIn

/-- `finished` says whether `mbedtls_gcm_finish` succeeds. -/
def decryptEnd (crypto : Crypto) (finished : Bool) (handle : Handle) : Reply :=
  if handle.state = .dataDecode then
    if handle.cacheBufLen ≠ 0 ∨ handle.binaryFileRead ≠ handle.binaryFileLen then .fail
    else if finished = false then .fail
    else
      let gcm := handle.gcmCtx
      if (crypto.tag gcm.key gcm.iv gcm.input).toList ≠ handle.authTag then .fail else .ok
  else .fail

/-- A chunk of the image and what the calls made for it return. -/
abbrev Chunk : Type := List UInt8 × Calls

/-- The chunks of a download, up to the one that is not decrypted, and what comes out. -/
def decryptAll (crypto : Crypto) : Handle → List Chunk →
    Except Fault (Option Handle × List (Option UInt8))
  | handle, [] => .ok (some handle, [])
  | handle, (dataIn, calls) :: later => do
      let (reply, handle, args) ← decryptData crypto calls handle dataIn
      if reply = .ok ∨ reply = .notFinished then do
        let (last, out) ← decryptAll crypto handle later
        .ok (last, args.dataOut.take args.dataOutLen ++ out)
      else .ok (none, [])

end EsInverter.EncryptedImg
