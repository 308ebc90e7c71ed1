import EsInverter.Slip.Stream

/-!
# Any bytes through the decoder

The three nested loops of the decoder go over the bytes of a read once, from
left to right.  What a call returns for arbitrary bytes is stated over that one
pass.
-/

set_option autoImplicit false

namespace EsInverter.Slip

/-- What the decoder makes of one byte. -/
inductive Taken
  | goesOn (insideOfPacket escActive : Bool) (pushed : List UInt8)
  | cut
  | ended
  | broken (err : SlipErr)
  deriving DecidableEq, Repr

def taken (insideOfPacket escActive : Bool) (byte : UInt8) : Taken :=
  if ¬ insideOfPacket then .goesOn (byte = slipBegin) escActive []
  else if byte = slipBegin then .cut
  else if byte = slipEsc then .goesOn true true []
  else if byte = slipEnd then
    if escActive then .broken .incompleteEscSequence else .ended
  else if ¬ escActive then .goesOn true false [byte]
  else
    match unescape byte with
    | some original => .goesOn true false [original]
    | none => .broken .invalidEscSequence

/-- One pass over a read: `cuts` more packets may be cut before the next one ends, and what was
decoded stays in front of the next packet. -/
def sweep : (cuts : Nat) → (insideOfPacket escActive : Bool) → (decoded : List UInt8) →
    (dataOut : Option (List UInt8)) → List UInt8 → DecoderResult
  | _, insideOfPacket, escActive, _, dataOut, [] =>
      ⟨if insideOfPacket then .fail else .ok, dataOut, ⟨[], [], insideOfPacket, escActive⟩⟩
  | cuts, insideOfPacket, escActive, decoded, dataOut, byte :: rest =>
      match taken insideOfPacket escActive byte, cuts with
      | .goesOn inside esc pushed, cuts => sweep cuts inside esc (decoded ++ pushed) dataOut rest
      | .cut, 0 => ⟨.fail, dataOut, ⟨[], [], false, escActive⟩⟩
      | .cut, cuts + 1 => sweep cuts false escActive decoded dataOut rest
      | .ended, _ => sweep 15 false false decoded (some decoded) rest
      | .broken _, _ => ⟨.fail, dataOut, ⟨[], [], false, false⟩⟩

/-! ### The innermost loop -/

/-- One turn of the loop of `decode`. -/
theorem decodeLoop_cons {cap processedNum : Nat} (room : processedNum < cap) (byte : UInt8)
    (rest decoded : List UInt8) (insideOfPacket escActive : Bool) :
    decodeLoop cap (byte :: rest) ⟨decoded, processedNum, insideOfPacket, escActive⟩ =
      match taken insideOfPacket escActive byte with
      | .goesOn inside esc pushed =>
          decodeLoop cap rest ⟨decoded ++ pushed, processedNum + 1, inside, esc⟩
      | .cut => (.packetCut, ⟨decoded, processedNum + 1, false, escActive⟩)
      | .ended => (.none, ⟨decoded, processedNum + 1, false, false⟩)
      | .broken err => (err, ⟨decoded, processedNum + 1, false, false⟩) := by
  rw [decodeLoop, if_neg (by exact Nat.not_le_of_lt room), taken]
  cases insideOfPacket with
  | false => by_cases begin_ : byte = slipBegin <;> simp [begin_]
  | true =>
      by_cases begin_ : byte = slipBegin
      · simp [begin_]
      by_cases esc : byte = slipEsc
      · simp [esc, slipEsc, slipBegin]
      by_cases escBegin : byte = slipEscBegin
      · cases escActive <;>
          simp [escBegin, DecodeState.bufferPush, unescape, slipEscBegin, slipBegin, slipEsc,
            slipEnd]
      by_cases escEnd : byte = slipEscEnd
      · cases escActive <;>
          simp [escEnd, DecodeState.bufferPush, unescape, slipEscBegin, slipEscEnd, slipBegin,
            slipEsc, slipEnd]
      by_cases escEsc : byte = slipEscEsc
      · cases escActive <;>
          simp [escEsc, DecodeState.bufferPush, unescape, slipEscBegin, slipEscEnd, slipEscEsc,
            slipBegin, slipEsc, slipEnd]
      by_cases end_ : byte = slipEnd
      · cases escActive <;>
          simp [end_, slipEscBegin, slipEscEnd, slipEscEsc, slipBegin, slipEsc, slipEnd]
      cases escActive <;>
        simp [begin_, esc, escBegin, escEnd, escEsc, end_, unescape, DecodeState.bufferPush]

/-- The count only grows with the bytes. -/
theorem decodeLoop_processed {cap processedNum : Nat} {bytes : List UInt8}
    (room : processedNum + 1 + bytes.length ≤ cap) (decoded : List UInt8)
    (insideOfPacket escActive : Bool) :
    decodeLoop cap bytes ⟨decoded, processedNum + 1, insideOfPacket, escActive⟩ =
      ((decodeLoop cap bytes ⟨decoded, processedNum, insideOfPacket, escActive⟩).1,
        let state := (decodeLoop cap bytes ⟨decoded, processedNum, insideOfPacket, escActive⟩).2
        { state with processedNum := state.processedNum + 1 }) := by
  induction bytes generalizing processedNum decoded insideOfPacket escActive with
  | nil => rfl
  | cons byte rest ih =>
      rw [List.length_cons] at room
      rw [decodeLoop_cons (by omega), decodeLoop_cons (by omega)]
      cases taken insideOfPacket escActive byte with
      | goesOn inside esc pushed => exact ih (by omega) (decoded ++ pushed) inside esc
      | cut | ended | broken err => rfl

/-! ### One call of `decode` -/

theorem decode_cons {byte : UInt8} {rest : List UInt8}
    (room : (byte :: rest).length ≤ decodedDataBufSize) (decoded : List UInt8)
    (insideOfPacket escActive : Bool) :
    decode ⟨decoded, byte :: rest, insideOfPacket, escActive⟩ =
      match taken insideOfPacket escActive byte with
      | .goesOn inside esc pushed =>
          if rest = [] then
            (if inside then .incompletePacket else .packetStartNotFound,
              ⟨decoded ++ pushed, [], inside, esc⟩)
          else decode ⟨decoded ++ pushed, rest, inside, esc⟩
      | .cut => (.packetCut, ⟨decoded, rest, false, escActive⟩)
      | .ended => (.none, ⟨decoded, rest, false, false⟩)
      | .broken err => (err, ⟨decoded, rest, false, false⟩) := by
  rw [List.length_cons] at room
  rw [decode, if_neg (by simp)]
  dsimp only
  rw [decodeLoop_cons (by omega)]
  cases taken insideOfPacket escActive byte with
  | cut | ended | broken err => rfl
  | goesOn inside esc pushed =>
      dsimp only
      by_cases empty : rest = []
      · subst empty
        rw [if_pos rfl]
        rfl
      · rw [if_neg empty, decode, if_neg (by simpa using empty)]
        rw [decodeLoop_processed (by omega)]
        rfl

/-! ### One call of the decoder -/

/-- What `slip_static_data_decoder` makes of the end of its loop. -/
def returned (ended : SlipErr × SlipCodec × Option (List UInt8)) : DecoderResult :=
  ⟨if ended.1 = .packetStartNotFound then .ok else .fail, ended.2.2,
    { ended.2.1 with decoded := [], encoded := [] }⟩

/-- The rest of a turn of the outer loop, after its call of `slip_decode`. -/
def turn (fuel : Nat) (dataOut : Option (List UInt8)) :
    SlipErr × SlipCodec → SlipErr × SlipCodec × Option (List UInt8)
  | (.none, codec) => decoderLoop fuel codec (some codec.decoded)
  | (err, codec) => (err, codec, dataOut)

theorem decoderLoop_succ (fuel : Nat) (codec : SlipCodec) (dataOut : Option (List UInt8)) :
    decoderLoop (fuel + 1) codec dataOut = turn fuel dataOut (slipDecodeRounds 16 codec) := by
  rw [decoderLoop, slipDecode]
  unfold turn
  rfl

theorem taken_broken {insideOfPacket escActive : Bool} {byte : UInt8} {err : SlipErr}
    (broke : taken insideOfPacket escActive byte = .broken err) :
    err = .incompleteEscSequence ∨ err = .invalidEscSequence := by
  rw [taken] at broke
  split_ifs at broke
  · cases broke
    exact .inl rfl
  · split at broke
    · cases broke
    · cases broke
      exact .inr rfl

/-- The nested loops are one pass. -/
theorem returned_turn {fuel : Nat} {bytes : List UInt8} (enough : bytes.length ≤ fuel)
    (room : bytes.length ≤ decodedDataBufSize) (cuts : Nat) {insideOfPacket : Bool}
    (started : bytes = [] → insideOfPacket = false) (escActive : Bool) (decoded : List UInt8)
    (dataOut : Option (List UInt8)) :
    returned (turn fuel dataOut
        (slipDecodeRounds (cuts + 1) ⟨decoded, bytes, insideOfPacket, escActive⟩)) =
      sweep cuts insideOfPacket escActive decoded dataOut bytes := by
  induction bytes generalizing fuel cuts insideOfPacket escActive decoded dataOut with
  | nil =>
      rw [started rfl]
      rfl
  | cons byte rest ih =>
      have shorter : rest.length ≤ decodedDataBufSize := by
        rw [List.length_cons] at room
        omega
      rw [List.length_cons] at enough
      rw [slipDecodeRounds, decode_cons room]
      unfold sweep
      cases read : taken insideOfPacket escActive byte with
      | goesOn inside esc pushed =>
          dsimp only
          by_cases empty : rest = []
          · subst empty
            rw [if_pos rfl]
            cases inside <;> rfl
          · rw [if_neg empty]
            exact ih (by omega) shorter cuts (fun none => absurd none empty) esc
              (decoded ++ pushed) dataOut
      | cut =>
          dsimp only
          cases cuts with
          | zero => rfl
          | succ cuts => exact ih (by omega) shorter cuts (fun _ => rfl) escActive decoded dataOut
      | ended =>
          obtain ⟨fuel, rfl⟩ : ∃ less, fuel = less + 1 := ⟨fuel - 1, by omega⟩
          dsimp only [turn]
          rw [decoderLoop_succ]
          exact ih (by omega) shorter 15 (fun _ => rfl) false decoded (some decoded)
      | broken err =>
          rcases taken_broken read with rfl | rfl
          · rfl
          · rfl

/-- A call of the decoder between packets of a stream, on any bytes that fit its buffer. -/
theorem slipStaticDataDecoder_sweep {chunk : List UInt8} (some_ : chunk ≠ [])
    (fits : chunk.length ≤ encodedDataBufSize) (insideOfPacket escActive : Bool) :
    slipStaticDataDecoder ⟨[], [], insideOfPacket, escActive⟩ chunk =
      .ok (sweep 15 insideOfPacket escActive [] none chunk) := by
  have room : chunk.length ≤ decodedDataBufSize := Nat.le_trans fits (by decide)
  have added : slipAddData ⟨[], [], insideOfPacket, escActive⟩ chunk =
      .ok ⟨[], chunk, insideOfPacket, escActive⟩ := by
    rw [slipAddData, if_neg (by simpa using some_), if_neg (by simpa using fits)]
    rfl
  rw [slipStaticDataDecoder, if_pos room]
  simp only [added]
  rw [decoderLoop_succ, ← returned_turn (Nat.le_refl chunk.length) room 15
    (fun empty => absurd empty some_)]
  rfl

end EsInverter.Slip
