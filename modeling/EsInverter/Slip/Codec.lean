import EsInverter.Fault

/-!
# The SLIP encoder and decoder

`slip.c` with its byte buffers as lists: a buffer's list holds the bytes below
`len`, and `buffer_pop_front` drops from its front.  The decoder's `static`
state is passed explicitly.
-/

set_option autoImplicit false

namespace EsInverter.Slip

def slipBegin : UInt8 := 0xCF
def slipEnd : UInt8 := 0xC0
def slipEsc : UInt8 := 0xDB
def slipEscBegin : UInt8 := 0xDE
def slipEscEnd : UInt8 := 0xDC
def slipEscEsc : UInt8 := 0xDD

/-- `CONFIG_EM_SLIP_DECODED_DATA_BUF_SIZE` -/
def decodedDataBufSize : Nat := 2048

/-- `CONFIG_EM_SLIP_ENCODED_DATA_BUF_SIZE` -/
def encodedDataBufSize : Nat := 1536

inductive SlipErr
  | none
  | incompletePacket
  | incompleteEscSequence
  | invalidEscSequence
  | packetStartNotFound
  | packetCut
  | invalidArg
  | noMemory
  | unknown
  deriving DecidableEq, Repr

/-- `slip_codec_t` -/
structure SlipCodec where
  decoded : List UInt8
  encoded : List UInt8
  insideOfPacket : Bool
  escActive : Bool
  deriving DecidableEq, Repr

def SlipCodec.initial : SlipCodec := ⟨[], [], false, false⟩

/-- What `decode` keeps through its pointer arguments. -/
structure DecodeState where
  decoded : List UInt8
  processedNum : Nat
  insideOfPacket : Bool
  escActive : Bool
  deriving DecidableEq, Repr

def DecodeState.bufferPush (state : DecodeState) (byte : UInt8) : DecodeState :=
  { state with decoded := state.decoded ++ [byte] }

/-- The loop of `decode` over the bytes not yet processed. -/
def decodeLoop (cap : Nat) : List UInt8 → DecodeState → SlipErr × DecodeState
  | [], state =>
      (if state.insideOfPacket then .incompletePacket else .packetStartNotFound, state)
  | encodedByte :: rest, state =>
      if state.processedNum ≥ cap then (.noMemory, state)
      else
        let state := { state with processedNum := state.processedNum + 1 }
        if ¬ state.insideOfPacket ∧ encodedByte ≠ slipBegin then decodeLoop cap rest state
        else if encodedByte = slipBegin then
          if ¬ state.insideOfPacket then
            decodeLoop cap rest { state with insideOfPacket := true }
          else
            -- `--processedNum` moves the pointer: the count still covers this byte.
            (.packetCut, { state with insideOfPacket := false })
        else if encodedByte = slipEsc then
          decodeLoop cap rest
            (if state.insideOfPacket then { state with escActive := true } else state)
        else if encodedByte = slipEscBegin then
          decodeLoop cap rest
            (if state.escActive then { state with escActive := false }.bufferPush slipBegin
             else state.bufferPush encodedByte)
        else if encodedByte = slipEscEnd then
          decodeLoop cap rest
            (if state.escActive then { state with escActive := false }.bufferPush slipEnd
             else state.bufferPush encodedByte)
        else if encodedByte = slipEscEsc then
          decodeLoop cap rest
            (if state.escActive then { state with escActive := false }.bufferPush slipEsc
             else state.bufferPush encodedByte)
        else if encodedByte = slipEnd then
          if ¬ state.insideOfPacket then decodeLoop cap rest state
          else if state.escActive then
            (.incompleteEscSequence, { state with insideOfPacket := false, escActive := false })
          else (.none, { state with insideOfPacket := false })
        else if state.escActive then
          (.invalidEscSequence, { state with insideOfPacket := false, escActive := false })
        else decodeLoop cap rest (state.bufferPush encodedByte)

/-- `decode`, and the removal of the bytes it processed. -/
def decode (codec : SlipCodec) : SlipErr × SlipCodec :=
  if codec.encoded.length = 0 then (.packetStartNotFound, codec)
  else
    let (err, state) := decodeLoop decodedDataBufSize codec.encoded
      ⟨codec.decoded, 0, codec.insideOfPacket, codec.escActive⟩
    (err, ⟨state.decoded, codec.encoded.drop state.processedNum, state.insideOfPacket,
      state.escActive⟩)

/-- The rounds of `slip_decode`: only a cut packet takes another one. -/
def slipDecodeRounds : (rounds : Nat) → SlipCodec → SlipErr × SlipCodec
  | 0, codec => (.unknown, codec)
  | rounds + 1, codec =>
      match decode codec with
      | (.packetCut, codec) => slipDecodeRounds rounds codec
      | (.incompletePacket, codec) => (.incompletePacket, codec)
      | (.none, codec) => (.none, codec)
      | (.incompleteEscSequence, codec) => (.incompleteEscSequence, { codec with decoded := [] })
      | (.invalidEscSequence, codec) => (.invalidEscSequence, { codec with decoded := [] })
      | (.packetStartNotFound, codec) => (.packetStartNotFound, { codec with decoded := [] })
      | (.noMemory, codec) => (.noMemory, { codec with decoded := [] })
      | (_, codec) => (.unknown, { codec with decoded := [] })

def slipDecode (codec : SlipCodec) : SlipErr × SlipCodec := slipDecodeRounds 16 codec

def slipAddData (codec : SlipCodec) (newEncodedData : List UInt8) : Except EspErr SlipCodec :=
  if newEncodedData.length = 0 then .error .invalidArg
  else if encodedDataBufSize < codec.encoded.length + newEncodedData.length then .error .noMem
  else .ok { codec with encoded := codec.encoded ++ newEncodedData }

/-- The `while (!done)` loop.  `dataOut` is the decoded buffer up to `len_out` when a packet was
complete; later packets of the call are appended behind it. -/
def decoderLoop : (fuel : Nat) → SlipCodec → (dataOut : Option (List UInt8)) →
    SlipErr × SlipCodec × Option (List UInt8)
  | 0, codec, dataOut => (.unknown, codec, dataOut)
  | fuel + 1, codec, dataOut =>
      match slipDecode codec with
      | (.none, codec) => decoderLoop fuel codec (some codec.decoded)
      | (err, codec) => (err, codec, dataOut)

structure DecoderResult where
  ret : EspErr
  /-- `none` is the caller's null pointer of length zero. -/
  dataOut : Option (List UInt8)
  codec : SlipCodec
  deriving DecidableEq, Repr

def slipStaticDataDecoder (codec : SlipCodec) (dataIn : List UInt8) :
    Except Fault DecoderResult :=
  if dataIn.length ≤ decodedDataBufSize then
    let codec := { codec with decoded := [] }
    match slipAddData codec dataIn with
    | .error err => .ok ⟨err, none, codec⟩
    | .ok codec =>
        let (err, codec, dataOut) := decoderLoop (codec.encoded.length + 1) codec none
        .ok ⟨if err = .packetStartNotFound then .ok else .fail, dataOut,
          { codec with decoded := [], encoded := [] }⟩
  else .error (.assertion .slipLenIn)

/-- The bytes that stand for one byte of the payload. -/
def escape (byte : UInt8) : List UInt8 :=
  if byte = slipBegin then [slipEsc, slipEscBegin]
  else if byte = slipEnd then [slipEsc, slipEscEnd]
  else if byte = slipEsc then [slipEsc, slipEscEsc]
  else [byte]

/-- The loop of `slip_encode` behind the bytes already written. -/
def slipEncodeLoop (maxEncodedDataLen : Nat) (written : List UInt8) :
    List UInt8 → Except EspErr (List UInt8)
  | [] =>
      if written.length + 1 > maxEncodedDataLen then .error .noMem
      else .ok (written ++ [slipEnd])
  | byte :: rest =>
      if written.length + (escape byte).length > maxEncodedDataLen then .error .noMem
      else slipEncodeLoop maxEncodedDataLen (written ++ escape byte) rest

def slipEncode (maxEncodedDataLen : Nat) (data : List UInt8) : Except EspErr (List UInt8) :=
  if data.length = 0 then .error .invalidArg
  else slipEncodeLoop maxEncodedDataLen [slipBegin] data

end EsInverter.Slip
