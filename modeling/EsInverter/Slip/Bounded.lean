import EsInverter.Slip.Buffer
import EsInverter.Slip.Sweep

/-!
# The decoder in its buffers

The decoder once more, with the two arrays that it works in and its 16-bit counts, for
any configured sizes.  A loop of the source has a bound on its turns here, and a run
that meets the bound has no outcome.
-/

set_option autoImplicit false

namespace EsInverter.Slip.Bounded

open EsInverter Lib

/-- The sizes of the buffers, in the range that the configuration allows. -/
structure Config where
  /-- `CONFIG_EM_SLIP_DECODED_DATA_BUF_SIZE` -/
  decodedCap : Nat
  /-- `CONFIG_EM_SLIP_ENCODED_DATA_BUF_SIZE` -/
  encodedCap : Nat
  encoded_le : encodedCap ≤ decodedCap
  small : decodedCap < 65536

/-- The committed configuration. -/
def Config.committed : Config where
  decodedCap := decodedDataBufSize
  encodedCap := encodedDataBufSize
  encoded_le := by decide
  small := by decide

/-- What a run comes to, or nothing when a loop takes more turns than its bound. -/
abbrev Run (α : Type) := ExceptT Fault Option α

namespace Run

def outOfTurns {α : Type} : Run α := (none : Option (Except Fault α))

def ofExcept {α : Type} (outcome : Except Fault α) : Run α := (some outcome : Option (Except Fault α))

theorem ofExcept_ok {α : Type} (value : α) : ofExcept (.ok value) = pure value := rfl

end Run

/-- `slip_codec_t` -/
structure Codec (config : Config) where
  decoded : Buffer config.decodedCap
  encoded : Buffer config.encodedCap
  insideOfPacket : Bool
  escActive : Bool

section

variable {config : Config}

/-- What `decode` keeps through its pointer arguments. -/
structure Progress (config : Config) where
  decoded : Buffer config.decodedCap
  processedNum : UInt16
  insideOfPacket : Bool
  escActive : Bool

def Progress.bufferPush (state : Progress config) (byte : UInt8) :
    Except Fault (Progress config) :=
  match state.decoded.bufferPush byte with
  | .error fault => .error fault
  | .ok decoded => .ok { state with decoded }

/-- The loop goes on behind a push. -/
def goesOnWith (pushed : Except Fault (Progress config)) :
    Except Fault (Option SlipErr × Progress config) :=
  match pushed with
  | .error fault => .error fault
  | .ok state => .ok (none, state)

/-- An escaped byte, or the byte itself. -/
def pushEscaped (original encodedByte : UInt8) (state : Progress config) :
    Except Fault (Option SlipErr × Progress config) :=
  goesOnWith <|
    if state.escActive then { state with escActive := false }.bufferPush original
    else state.bufferPush encodedByte

/-- The body of the loop behind `++(*processedNum)`: the error that it returns, unless it goes
on. -/
def decodeByte (encodedByte : UInt8) (state : Progress config) :
    Except Fault (Option SlipErr × Progress config) :=
  if ¬ state.insideOfPacket ∧ encodedByte ≠ slipBegin then .ok (none, state)
  else if encodedByte = slipBegin then
    if ¬ state.insideOfPacket then .ok (none, { state with insideOfPacket := true })
    else
      -- `--processedNum` moves the pointer: the count still covers this byte.
      .ok (some .packetCut, { state with insideOfPacket := false })
  else if encodedByte = slipEsc then
    .ok (none, if state.insideOfPacket then { state with escActive := true } else state)
  else if encodedByte = slipEscBegin then pushEscaped slipBegin encodedByte state
  else if encodedByte = slipEscEnd then pushEscaped slipEnd encodedByte state
  else if encodedByte = slipEscEsc then pushEscaped slipEsc encodedByte state
  else if encodedByte = slipEnd then
    if ¬ state.insideOfPacket then .ok (none, state)
    else if state.escActive then
      .ok (some .incompleteEscSequence, { state with insideOfPacket := false, escActive := false })
    else .ok (some .none, { state with insideOfPacket := false })
  else if state.escActive then
    .ok (some .invalidEscSequence, { state with insideOfPacket := false, escActive := false })
  else goesOnWith (state.bufferPush encodedByte)

def decodeLoop (encoded : Buffer config.encodedCap) :
    (turns : Nat) → Progress config → Run (SlipErr × Progress config)
  | 0, _ => Run.outOfTurns
  | turns + 1, state =>
      if inside : state.processedNum < encoded.len then
        if state.processedNum.toNat ≥ config.decodedCap then pure (.noMemory, state)
        else do
          let encodedByte := encoded.byteAt state.processedNum inside
          let (returned, state) ← Run.ofExcept <|
            decodeByte encodedByte { state with processedNum := state.processedNum + 1 }
          match returned with
          | some err => pure (err, state)
          | none => decodeLoop encoded turns state
      else
        pure (if state.insideOfPacket then .incompletePacket else .packetStartNotFound, state)

def decode (turns : Nat) (codec : Codec config) : Run (SlipErr × Progress config) :=
  let state := ⟨codec.decoded, 0, codec.insideOfPacket, codec.escActive⟩
  if codec.encoded.len = 0 then pure (.packetStartNotFound, state)
  else decodeLoop codec.encoded turns state

/-- The codec behind `decode` and `buffer_pop_front`. -/
def Codec.discard (codec : Codec config) (state : Progress config) : Codec config where
  decoded := state.decoded
  encoded := codec.encoded.bufferPopFront state.processedNum
  insideOfPacket := state.insideOfPacket
  escActive := state.escActive

/-- `buffer_clean(&s->decoded)` -/
def Codec.clean (codec : Codec config) : Codec config :=
  { codec with decoded := codec.decoded.bufferClean }

/-- The `switch` behind a call of `decode` that has not cut a packet. -/
def Codec.settle (codec : Codec config) : SlipErr → SlipErr × Codec config
  | .incompletePacket => (.incompletePacket, codec)
  | .none => (.none, codec)
  | .incompleteEscSequence => (.incompleteEscSequence, codec.clean)
  | .invalidEscSequence => (.invalidEscSequence, codec.clean)
  | .packetStartNotFound => (.packetStartNotFound, codec.clean)
  | .noMemory => (.noMemory, codec.clean)
  | _ => (.unknown, codec.clean)

/-- Only a cut packet takes another round. -/
def slipDecodeRounds (turns : Nat) :
    (rounds : Nat) → Codec config → Run (SlipErr × Codec config)
  | 0, codec => pure (.unknown, codec)
  | rounds + 1, codec => do
      let (err, state) ← decode turns codec
      if err = .packetCut then slipDecodeRounds turns rounds (codec.discard state)
      else pure ((codec.discard state).settle err)

def slipDecode (turns : Nat) (codec : Codec config) : Run (SlipErr × Codec config) :=
  slipDecodeRounds turns 16 codec

/-- The sum of the lengths has 32 bits. -/
def slipAddData (codec : Codec config) (newEncodedData : List UInt8) :
    Except Fault (EspErr × Codec config) :=
  if newEncodedData.length = 0 then .ok (.invalidArg, codec)
  else
    let neededBufLen := codec.encoded.len.toUInt32 + UInt32.ofNat newEncodedData.length
    if config.encodedCap < neededBufLen.toNat then .ok (.noMem, codec)
    else
      match codec.encoded.append newEncodedData with
      | .error fault => .error fault
      | .ok encoded => .ok (.ok, { codec with encoded })

/-- The `while (!done)` loop, whose turns are bounded like those of `decode`. -/
def decoderLoop (turns : Nat) : (packets : Nat) → Codec config → Option (List UInt8) →
    Run (SlipErr × Codec config × Option (List UInt8))
  | 0, _, _ => Run.outOfTurns
  | packets + 1, codec, dataOut => do
      let (err, codec) ← slipDecode turns codec
      if err = .none then decoderLoop turns packets codec (some codec.decoded.contents)
      else pure (err, codec, dataOut)

/-- What a call returns, and the `static` decoder behind it. -/
structure Returned (config : Config) where
  ret : EspErr
  dataOut : Option (List UInt8)
  codec : Codec config

/-- `slip_clear` -/
def Codec.cleared (codec : Codec config) : Codec config :=
  { codec with decoded := codec.decoded.bufferClean, encoded := codec.encoded.bufferClean }

/-- The `static` decoder at the start of a call: what was decoded is discarded, and both arrays are
zeroed. -/
def Codec.started (codec : Codec config) : Codec config :=
  { codec with
    decoded := (codec.decoded.bufferPopFront codec.decoded.len).zeroed
    encoded := codec.encoded.zeroed }

def slipStaticDataDecoder (turns : Nat) (codec : Codec config) (dataIn : List UInt8) :
    Run (Returned config) :=
  if dataIn.length ≤ config.decodedCap then do
    let (ret, codec) ← Run.ofExcept (slipAddData codec.started dataIn)
    if ret ≠ .ok then pure ⟨ret, none, codec⟩
    else do
      let (err, codec, dataOut) ← decoderLoop turns turns codec none
      pure ⟨if err = .packetStartNotFound then .ok else .fail, dataOut, codec.cleared⟩
  else throw (.assertion .slipLenIn)

/-- The `static` initializer. -/
def Codec.initial (config : Config) : Codec config where
  decoded := ⟨Vector.replicate _ 0, 0, Nat.zero_le _⟩
  encoded := ⟨Vector.replicate _ 0, 0, Nat.zero_le _⟩
  insideOfPacket := false
  escActive := false

/-- Calls one after the other. -/
def calls (turns : Nat) : Codec config → List (List UInt8) → Run (Codec config)
  | codec, [] => pure codec
  | codec, dataIn :: later => do
      let returned ← slipStaticDataDecoder turns codec dataIn
      calls turns returned.codec later

end

end EsInverter.Slip.Bounded
