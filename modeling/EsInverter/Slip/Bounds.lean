import EsInverter.Slip.Bounded

/-!
# The buffers of the decoder

The check in `decode` counts the bytes that are processed, while what is decoded adds
up over the packets of a call.  Every decoded byte stands for a processed one, so both
buffers hold what a call brings, and the loops end because every packet takes a byte.
-/

set_option autoImplicit false

namespace EsInverter.Slip.Bounded

open EsInverter Lib

section

variable {config : Config}

/-! ### One byte -/

def Progress.pushAll (state : Progress config) : List UInt8 → Except Fault (Progress config)
  | [] => .ok state
  | byte :: rest =>
      match state.bufferPush byte with
      | .error fault => .error fault
      | .ok state => state.pushAll rest

theorem goesOnWith_pushAll (state : Progress config) (byte : UInt8) :
    goesOnWith (state.pushAll [byte]) = goesOnWith (state.bufferPush byte) := by
  rw [Progress.pushAll]
  cases state.bufferPush byte with
  | error fault => rfl
  | ok after => rfl

theorem pushEscaped_eq (original byte : UInt8) (decoded : Buffer config.decodedCap)
    (processedNum : UInt16) (escActive : Bool) :
    pushEscaped original byte ⟨decoded, processedNum, true, escActive⟩ =
      goesOnWith ((⟨decoded, processedNum, true, false⟩ : Progress config).pushAll
        [if escActive then original else byte]) := by
  rw [goesOnWith_pushAll, pushEscaped]
  cases escActive with
  | false => rfl
  | true => rfl

/-- One turn of the loop, by what the decoder on lists makes of the byte. -/
theorem decodeByte_taken (byte : UInt8) (state : Progress config) :
    decodeByte byte state =
      match taken state.insideOfPacket state.escActive byte with
      | .goesOn inside esc pushed =>
          goesOnWith ({ state with insideOfPacket := inside, escActive := esc }.pushAll pushed)
      | .cut => .ok (some .packetCut, { state with insideOfPacket := false })
      | .ended =>
          .ok (some .none, { state with insideOfPacket := false, escActive := false })
      | .broken err =>
          .ok (some err, { state with insideOfPacket := false, escActive := false }) := by
  obtain ⟨decoded, processedNum, insideOfPacket, escActive⟩ := state
  rw [decodeByte]
  cases insideOfPacket with
  | false => by_cases begin_ : byte = slipBegin <;> simp [taken, begin_, goesOnWith, Progress.pushAll]
  | true =>
      by_cases begin_ : byte = slipBegin
      · simp [taken, begin_]
      by_cases esc : byte = slipEsc
      · simp [taken, esc, slipEsc, slipBegin, goesOnWith, Progress.pushAll]
      by_cases escBegin : byte = slipEscBegin
      · cases escActive <;>
          simp [taken, escBegin, pushEscaped_eq, unescape, slipEscBegin, slipBegin, slipEsc,
            slipEnd]
      by_cases escEnd : byte = slipEscEnd
      · cases escActive <;>
          simp [taken, escEnd, pushEscaped_eq, unescape, slipEscBegin, slipEscEnd, slipBegin,
            slipEsc, slipEnd]
      by_cases escEsc : byte = slipEscEsc
      · cases escActive <;>
          simp [taken, escEsc, pushEscaped_eq, unescape, slipEscBegin, slipEscEnd, slipEscEsc,
            slipBegin, slipEsc, slipEnd]
      by_cases end_ : byte = slipEnd
      · cases escActive <;>
          simp [taken, end_, slipEscBegin, slipEscEnd, slipEscEsc, slipBegin, slipEsc, slipEnd]
      cases escActive with
      | false =>
          simp [taken, begin_, esc, escBegin, escEnd, escEsc, end_, goesOnWith_pushAll]
      | true => simp [taken, begin_, esc, escBegin, escEnd, escEsc, end_, unescape]

/-- The state without the arrays behind its buffer. -/
def Progress.listed (state : Progress config) : DecodeState :=
  ⟨state.decoded.contents, state.processedNum.toNat, state.insideOfPacket, state.escActive⟩

theorem length_pushed {insideOfPacket escActive inside esc : Bool} {byte : UInt8}
    {pushed : List UInt8} (goesOn : taken insideOfPacket escActive byte = .goesOn inside esc pushed) :
    pushed.length ≤ 1 := by
  rw [taken] at goesOn
  repeat' split at goesOn
  all_goals
    cases goesOn
    try exact Nat.le_refl _
    try exact Nat.zero_le _

theorem pushAll_ok {state : Progress config} {pushed : List UInt8} (few : pushed.length ≤ 1)
    (room : state.decoded.contents.length < config.decodedCap) :
    ∃ after, state.pushAll pushed = .ok after ∧ after.processedNum = state.processedNum ∧
      after.listed = ⟨state.decoded.contents ++ pushed, state.processedNum.toNat,
        state.insideOfPacket, state.escActive⟩ := by
  cases pushed with
  | nil => exact ⟨state, rfl, rfl, by rw [List.append_nil]; rfl⟩
  | cons byte rest =>
      have none_ : rest = [] := List.eq_nil_of_length_eq_zero (by simpa using few)
      obtain ⟨decoded, called, contents⟩ := Buffer.bufferPush_ok config.small room byte
      rw [none_, Progress.pushAll, Progress.bufferPush, called]
      exact ⟨_, rfl, rfl, by rw [Progress.listed, contents]⟩

/-- What is behind a turn of the loop of the decoder on lists. -/
def continued (cap : Nat) (rest : List UInt8) :
    Option SlipErr × Progress config → SlipErr × DecodeState
  | (some err, after) => (err, after.listed)
  | (none, after) => Slip.decodeLoop cap rest after.listed

/-- With room for a byte a turn stays inside the buffer, and is that of the decoder on lists. -/
theorem decodeByte_ok {state : Progress config}
    (room : state.decoded.contents.length < config.decodedCap) (byte : UInt8) :
    ∃ turn, decodeByte byte state = .ok turn ∧ turn.2.processedNum = state.processedNum ∧
      turn.2.decoded.contents.length ≤ state.decoded.contents.length + 1 ∧
      ∀ {cap processedNum : Nat}, processedNum + 1 = state.processedNum.toNat →
        processedNum < cap → ∀ rest,
          Slip.decodeLoop cap (byte :: rest)
              ⟨state.decoded.contents, processedNum, state.insideOfPacket, state.escActive⟩ =
            continued cap rest turn := by
  rw [decodeByte_taken]
  cases read : taken state.insideOfPacket state.escActive byte with
  | goesOn inside esc pushed =>
      obtain ⟨after, called, counted, listed⟩ :=
        @pushAll_ok config { state with insideOfPacket := inside, escActive := esc } pushed
          (length_pushed read) room
      have contents := congrArg DecodeState.decoded listed
      dsimp only
      rw [called]
      refine ⟨(none, after), rfl, counted, ?_, ?_⟩
      · have few := length_pushed read
        have size := congrArg List.length contents
        rw [List.length_append] at size
        exact size.trans_le (Nat.add_le_add_left few _)
      · intro cap processedNum next below rest
        rw [decodeLoop_cons below, read, continued, listed, next]
  | cut =>
      refine ⟨_, rfl, rfl, Nat.le_succ _, ?_⟩
      intro cap processedNum next below rest
      rw [decodeLoop_cons below, read, next]
      rfl
  | ended =>
      refine ⟨_, rfl, rfl, Nat.le_succ _, ?_⟩
      intro cap processedNum next below rest
      rw [decodeLoop_cons below, read, next]
      rfl
  | broken err =>
      refine ⟨_, rfl, rfl, Nat.le_succ _, ?_⟩
      intro cap processedNum next below rest
      rw [decodeLoop_cons below, read, next]
      rfl

/-! ### The loop of `decode` -/

/-- The bytes that `decode` has not processed yet. -/
def Progress.left (encoded : Buffer config.encodedCap) (state : Progress config) : Nat :=
  encoded.len.toNat - state.processedNum.toNat

/-- How far `decode` has come when it returns. -/
structure Advances (encoded : Buffer config.encodedCap) (before : Progress config)
    (err : SlipErr) (after : Progress config) : Prop where
  forward : before.processedNum.toNat ≤ after.processedNum.toNat
  inside : after.processedNum.toNat ≤ encoded.len.toNat
  room : after.decoded.contents.length + after.left encoded ≤
    before.decoded.contents.length + before.left encoded
  ended : err = .none → before.processedNum.toNat < after.processedNum.toNat

/-- With room for the bytes that are left the loop ends inside the buffers, where the decoder on
lists ends. -/
theorem decodeLoop_returns {encoded : Buffer config.encodedCap} {turns : Nat}
    {state : Progress config} (inside : state.processedNum.toNat ≤ encoded.len.toNat)
    (room : state.decoded.contents.length + state.left encoded ≤ config.encodedCap)
    (enough : state.left encoded < turns) :
    ∃ err after, decodeLoop encoded turns state = pure (err, after) ∧
      Advances encoded state err after ∧
      Slip.decodeLoop config.decodedCap (encoded.contents.drop state.processedNum.toNat)
        state.listed = (err, after.listed) := by
  induction turns generalizing state with
  | zero => exact absurd enough (Nat.not_lt_zero _)
  | succ turns ih =>
      rw [Progress.left] at room enough
      have caps := config.encoded_le
      have fits := encoded.fits
      rw [decodeLoop]
      by_cases more : state.processedNum < encoded.len
      · have below := UInt16.lt_iff_toNat_lt.mp more
        rw [dif_pos more, if_neg (by omega), Buffer.drop_contents encoded more]
        generalize encoded.byteAt state.processedNum more = byte
        have next : (state.processedNum + 1).toNat = state.processedNum.toNat + 1 := by
          have small := config.small
          rw [UInt16.toNat_add]
          exact Nat.mod_eq_of_lt (by simp; omega)
        obtain ⟨⟨returned, after⟩, called, counted, size, listed⟩ :=
          @decodeByte_ok config { state with processedNum := state.processedNum + 1 }
            (by dsimp only; omega) byte
        dsimp only at counted size ⊢
        rw [called, Run.ofExcept_ok, pure_bind]
        have onLists := listed next.symm (by omega : state.processedNum.toNat < config.decodedCap)
          (encoded.contents.drop (state.processedNum.toNat + 1))
        have afterNum : after.processedNum.toNat = state.processedNum.toNat + 1 := by
          rw [counted, next]
        cases returned with
        | some err =>
            refine ⟨err, after, rfl, ?_, onLists⟩
            constructor
            · omega
            · omega
            · rw [Progress.left, Progress.left]
              omega
            · omega
        | none =>
            obtain ⟨err, final, looped, advances, agrees⟩ := @ih after (by omega)
              (by rw [Progress.left]; omega) (by rw [Progress.left]; omega)
            refine ⟨err, final, looped, ?_, ?_⟩
            · have forward := advances.forward
              have shrunk := advances.room
              constructor
              · omega
              · exact advances.inside
              · rw [Progress.left, Progress.left] at shrunk
                rw [Progress.left, Progress.left]
                omega
              · omega
            · rw [← agrees, afterNum]
              exact onLists
      · have whole : encoded.contents.length ≤ state.processedNum.toNat := by
          rw [Buffer.length_contents]
          exact Nat.not_lt.mp (mt UInt16.lt_iff_toNat_lt.mpr more)
        rw [dif_neg more, List.drop_of_length_le whole]
        refine ⟨_, state, rfl, ⟨Nat.le_refl _, inside, Nat.le_refl _, ?_⟩, rfl⟩
        split <;> rintro ⟨⟩

/-! ### The calls of `decode` -/

/-- The codec without the arrays behind its buffers. -/
def Codec.listed (codec : Codec config) : SlipCodec :=
  ⟨codec.decoded.contents, codec.encoded.contents, codec.insideOfPacket, codec.escActive⟩

/-- The bytes of a codec: those decoded, and those to be decoded. -/
def Codec.bytes (codec : Codec config) : Nat :=
  codec.decoded.contents.length + codec.encoded.contents.length

/-- Every encoded byte becomes one decoded byte at most, and a packet takes one to end. -/
structure Keeps (before : Codec config) (err : SlipErr) (after : Codec config) : Prop where
  bytes : after.bytes ≤ before.bytes
  encoded : after.encoded.contents.length ≤ before.encoded.contents.length
  ended : err = .none → after.encoded.contents.length < before.encoded.contents.length

theorem Keeps.clean {before after : Codec config} {err : SlipErr} (keeps : Keeps before err after)
    {failed : SlipErr} (other : failed ≠ .none) : Keeps before failed after.clean where
  bytes := by
    have shorter := keeps.encoded
    rw [Codec.bytes, Codec.bytes, Codec.clean, Buffer.contents_bufferClean, List.length_nil]
    dsimp only
    omega
  encoded := keeps.encoded
  ended := fun same => absurd same other

theorem Keeps.settle {before after : Codec config} {err : SlipErr}
    (keeps : Keeps before err after) : Keeps before (after.settle err).1 (after.settle err).2 := by
  cases err with
  | none => exact keeps
  | incompletePacket => exact keeps
  | incompleteEscSequence | invalidEscSequence | packetStartNotFound | packetCut | invalidArg
  | noMemory | unknown => exact keeps.clean (by rintro ⟨⟩)

/-- The `switch` of the decoder on lists. -/
theorem slipDecodeRounds_settle {codec next : Codec config} {err : SlipErr}
    (called : Slip.decode codec.listed = (err, next.listed)) (other : err ≠ .packetCut)
    (rounds : Nat) :
    Slip.slipDecodeRounds (rounds + 1) codec.listed =
      ((next.settle err).1, (next.settle err).2.listed) := by
  rw [Slip.slipDecodeRounds, called]
  cases err with
  | packetCut => exact absurd rfl other
  | none | incompletePacket | incompleteEscSequence | invalidEscSequence | packetStartNotFound
  | invalidArg | noMemory | unknown => rfl

theorem decode_returns {turns : Nat} (enough : config.encodedCap < turns) {codec : Codec config}
    (room : codec.bytes ≤ config.encodedCap) :
    ∃ err state, decode turns codec = pure (err, state) ∧ Keeps codec err (codec.discard state) ∧
      (config.decodedCap = decodedDataBufSize →
        Slip.decode codec.listed = (err, (codec.discard state).listed)) := by
  have encoded (num : UInt16) : (codec.encoded.bufferPopFront num).contents =
      codec.encoded.contents.drop num.toNat :=
    Buffer.contents_bufferPopFront (config.encoded_le.trans_lt config.small) codec.encoded num
  rw [decode]
  by_cases empty : codec.encoded.len = 0
  · have none_ := Buffer.contents_of_empty empty
    have kept : ((codec.discard ⟨codec.decoded, 0, codec.insideOfPacket, codec.escActive⟩).encoded
        ).contents = [] := by
      rw [Codec.discard]
      dsimp only
      rw [encoded, none_, List.drop_nil]
    rw [if_pos empty]
    refine ⟨_, _, rfl, ⟨?_, ?_, ?_⟩, ?_⟩
    · rw [Codec.bytes, Codec.bytes, kept, none_]
      exact Nat.le_refl _
    · rw [kept]
      exact Nat.zero_le _
    · rintro ⟨⟩
    · intro _
      rw [Slip.decode, if_pos (by rw [Codec.listed, none_]; rfl), Codec.listed, Codec.listed, kept,
        none_]
      rfl
  · rw [if_neg empty]
    rw [Codec.bytes, Buffer.length_contents codec.encoded] at room
    obtain ⟨err, state, looped, advances, agrees⟩ := @decodeLoop_returns config codec.encoded turns
      ⟨codec.decoded, 0, codec.insideOfPacket, codec.escActive⟩ (Nat.zero_le _) room
      (lt_of_le_of_lt ((Nat.sub_le _ _).trans codec.encoded.fits) enough)
    have left : (codec.discard state).encoded.contents.length = state.left codec.encoded := by
      rw [Codec.discard]
      dsimp only
      rw [encoded, List.length_drop, Buffer.length_contents, Progress.left]
    have inside := advances.inside
    refine ⟨err, state, looped, ⟨?_, ?_, ?_⟩, ?_⟩
    · rw [Codec.bytes, Codec.bytes, left, Buffer.length_contents codec.encoded]
      exact advances.room
    · rw [left, Buffer.length_contents]
      exact Nat.sub_le _ _
    · intro same
      have forward : 0 < state.processedNum.toNat := advances.ended same
      rw [left, Buffer.length_contents, Progress.left]
      omega
    · intro sizes
      have filled : ¬ codec.listed.encoded.length = 0 := by
        rw [Codec.listed, Buffer.length_contents]
        exact fun zero => empty (UInt16.toNat_inj.mp zero)
      have agrees : Slip.decodeLoop decodedDataBufSize codec.listed.encoded
          ⟨codec.listed.decoded, 0, codec.listed.insideOfPacket, codec.listed.escActive⟩ =
            (err, state.listed) := by
        rw [← sizes]
        exact agrees
      rw [Slip.decode, if_neg filled, agrees, Codec.listed, Codec.listed, Codec.discard]
      dsimp only
      rw [encoded]
      rfl

/-- Behind the rounds of `slip_decode` there is room again for the bytes that are left. -/
theorem slipDecodeRounds_returns {turns : Nat} (enough : config.encodedCap < turns) (rounds : Nat)
    {codec : Codec config} (room : codec.bytes ≤ config.encodedCap) :
    ∃ err after, slipDecodeRounds turns rounds codec = pure (err, after) ∧
      Keeps codec err after ∧
      (config.decodedCap = decodedDataBufSize →
        Slip.slipDecodeRounds rounds codec.listed = (err, after.listed)) := by
  induction rounds generalizing codec with
  | zero =>
      refine ⟨_, codec, rfl, ⟨Nat.le_refl _, Nat.le_refl _, ?_⟩, fun _ => rfl⟩
      rintro ⟨⟩
  | succ rounds ih =>
      obtain ⟨err, state, called, keeps, agrees⟩ := decode_returns enough room
      rw [slipDecodeRounds, called, pure_bind]
      dsimp only
      generalize codec.discard state = next at keeps agrees
      by_cases cut : err = .packetCut
      · obtain ⟨final, after, later, further, same⟩ := ih (keeps.bytes.trans room)
        rw [if_pos cut]
        refine ⟨final, after, later, ⟨further.bytes.trans keeps.bytes,
          further.encoded.trans keeps.encoded, ?_⟩, ?_⟩
        · exact fun ended => (further.ended ended).trans_le keeps.encoded
        · intro sizes
          rw [Slip.slipDecodeRounds, agrees sizes, cut]
          exact same sizes
      · rw [if_neg cut]
        exact ⟨_, _, rfl, keeps.settle,
          fun sizes => slipDecodeRounds_settle (agrees sizes) cut rounds⟩

/-- Every packet takes an encoded byte, so that the loop over the packets ends. -/
theorem decoderLoop_returns {turns : Nat} (enough : config.encodedCap < turns) {packets : Nat}
    {codec : Codec config} (room : codec.bytes ≤ config.encodedCap)
    (ends : codec.encoded.contents.length < packets) (dataOut : Option (List UInt8)) :
    ∃ err after out, decoderLoop turns packets codec dataOut = pure (err, after, out) ∧
      (config.decodedCap = decodedDataBufSize → ∀ fuel, codec.encoded.contents.length < fuel →
        Slip.decoderLoop fuel codec.listed dataOut = (err, after.listed, out)) := by
  induction packets generalizing codec dataOut with
  | zero => exact absurd ends (Nat.not_lt_zero _)
  | succ packets ih =>
      obtain ⟨err, after, called, keeps, agrees⟩ := slipDecodeRounds_returns enough 16 room
      rw [decoderLoop, slipDecode, called, pure_bind]
      dsimp only
      by_cases ended : err = .none
      · subst ended
        rw [if_pos rfl]
        have shorter := keeps.ended rfl
        obtain ⟨err, final, out, later, same⟩ := ih (keeps.bytes.trans room) (by omega)
          (some after.decoded.contents)
        refine ⟨err, final, out, later, ?_⟩
        intro sizes fuel more
        obtain ⟨fuel, rfl⟩ := Nat.exists_eq_succ_of_ne_zero (Nat.ne_of_gt (Nat.zero_lt_of_lt more))
        rw [Slip.decoderLoop, Slip.slipDecode, agrees sizes]
        exact same sizes fuel (by omega)
      · rw [if_neg ended]
        refine ⟨err, after, dataOut, rfl, ?_⟩
        intro sizes fuel more
        obtain ⟨fuel, rfl⟩ := Nat.exists_eq_succ_of_ne_zero (Nat.ne_of_gt (Nat.zero_lt_of_lt more))
        rw [Slip.decoderLoop, Slip.slipDecode, agrees sizes]
        cases err with
        | none => exact absurd rfl ended
        | packetCut | incompletePacket | incompleteEscSequence | invalidEscSequence
        | packetStartNotFound | invalidArg | noMemory | unknown => rfl

/-- Between two calls there is nothing to decode. -/
theorem slipAddData_returns {codec : Codec config} (empty : codec.encoded.contents = [])
    {dataIn : List UInt8} (short : dataIn.length ≤ config.decodedCap) :
    ∃ ret next, slipAddData codec dataIn = .ok (ret, next) ∧
      next.decoded = codec.decoded ∧
      (ret ≠ .ok → next = codec) ∧
      (ret = .ok → next.encoded.contents = dataIn ∧ dataIn.length ≤ config.encodedCap) ∧
      (config.encodedCap = encodedDataBufSize →
        Slip.slipAddData codec.listed dataIn =
          if ret = .ok then .ok next.listed else .error ret) := by
  have caps := config.encoded_le
  have small := config.small
  have unused : codec.encoded.len.toNat = 0 := by
    rw [← Buffer.length_contents, empty]
    rfl
  have needed : (codec.encoded.len.toUInt32 + UInt32.ofNat dataIn.length).toNat =
      dataIn.length := by
    rw [UInt32.toNat_add, UInt16.toNat_toUInt32, unused, UInt32.toNat_ofNat', Nat.zero_add,
      Nat.mod_mod]
    exact Nat.mod_eq_of_lt (by omega)
  have listed : codec.listed.encoded.length + dataIn.length = dataIn.length := by
    rw [Codec.listed, empty]
    exact Nat.zero_add _
  rw [slipAddData, Slip.slipAddData]
  by_cases none_ : dataIn.length = 0
  · rw [if_pos none_, if_pos none_]
    exact ⟨.invalidArg, codec, rfl, rfl, fun _ => rfl, fun same => absurd same (by decide),
      fun _ => rfl⟩
  · rw [if_neg none_, if_neg none_, listed]
    dsimp only
    rw [needed]
    by_cases large : config.encodedCap < dataIn.length
    · rw [if_pos large]
      refine ⟨.noMem, codec, rfl, rfl, fun _ => rfl, fun same => absurd same (by decide), ?_⟩
      intro sizes
      rw [← sizes, if_pos large]
      rfl
    · obtain ⟨encoded, called, contents⟩ := @Buffer.append_ok _ (caps.trans_lt small)
        codec.encoded dataIn (by rw [empty, List.length_nil]; omega)
      rw [if_neg large, called]
      refine ⟨.ok, _, rfl, rfl, fun other => absurd rfl other, fun _ => ⟨?_, by omega⟩, ?_⟩
      · rw [contents, empty, List.nil_append]
      · intro sizes
        rw [← sizes, if_neg large, if_pos rfl, Codec.listed, Codec.listed, contents]

theorem listed_started {codec : Codec config} (empty : codec.encoded.len = 0) :
    codec.started.listed = ⟨[], [], codec.insideOfPacket, codec.escActive⟩ := by
  have decoded : codec.started.decoded.contents = [] := by
    rw [Codec.started, Buffer.bufferPopFront, dif_pos (Nat.le_refl _)]
    rfl
  have encoded : codec.started.encoded.contents = [] := Buffer.contents_of_empty empty
  rw [Codec.listed, decoded, encoded]
  rfl

/-- A call ends inside the buffers and leaves nothing to decode. -/
theorem slipStaticDataDecoder_returns {turns : Nat} (enough : config.encodedCap < turns)
    {codec : Codec config} (empty : codec.encoded.len = 0) {dataIn : List UInt8}
    (short : dataIn.length ≤ config.decodedCap) :
    ∃ returned, slipStaticDataDecoder turns codec dataIn = pure returned ∧
      returned.codec.encoded.len = 0 ∧
      (config = .committed → Slip.slipStaticDataDecoder codec.listed dataIn =
        .ok ⟨returned.ret, returned.dataOut, returned.codec.listed⟩) := by
  have started := listed_started empty
  have decoded : codec.started.decoded.contents = [] := congrArg SlipCodec.decoded started
  have encoded : codec.started.encoded.contents = [] := congrArg SlipCodec.encoded started
  have cleaned : { codec.listed with decoded := [] } = codec.started.listed := by
    rw [started, Codec.listed, Buffer.contents_of_empty empty]
  obtain ⟨ret, next, called, kept, failed, added, agrees⟩ := slipAddData_returns encoded short
  rw [slipStaticDataDecoder, if_pos short, called, Run.ofExcept_ok, pure_bind]
  dsimp only
  by_cases accepted : ret = .ok
  · obtain ⟨filled, fits⟩ := added accepted
    have room : next.bytes ≤ config.encodedCap := by
      rw [Codec.bytes, kept, decoded, filled, List.length_nil, Nat.zero_add]
      exact fits
    have ends : next.encoded.contents.length < turns := by
      rw [filled]
      exact fits.trans_lt enough
    obtain ⟨err, after, out, looped, same⟩ := decoderLoop_returns enough room ends none
    rw [if_neg (not_not.mpr accepted), looped, pure_bind]
    refine ⟨_, rfl, rfl, ?_⟩
    intro committed
    have sizes : config.decodedCap = decodedDataBufSize := by rw [committed]; rfl
    have caps : config.encodedCap = encodedDataBufSize := by rw [committed]; rfl
    rw [sizes] at short
    rw [Slip.slipStaticDataDecoder, if_pos short]
    dsimp only
    rw [cleaned, agrees caps, if_pos accepted]
    dsimp only
    rw [same sizes (next.listed.encoded.length + 1) (Nat.lt_succ_self _)]
    rfl
  · have unchanged := failed accepted
    rw [if_pos accepted]
    refine ⟨_, rfl, ?_, ?_⟩
    · rw [unchanged]
      exact empty
    · intro committed
      have sizes : config.decodedCap = decodedDataBufSize := by rw [committed]; rfl
      have caps : config.encodedCap = encodedDataBufSize := by rw [committed]; rfl
      rw [sizes] at short
      rw [Slip.slipStaticDataDecoder, if_pos short]
      dsimp only
      rw [cleaned, agrees caps, if_neg accepted, unchanged]

/-- From a decoder without bytes to decode. -/
theorem calls_return {turns : Nat} (enough : config.encodedCap < turns) {codec : Codec config}
    (empty : codec.encoded.len = 0) {reads : List (List UInt8)}
    (short : ∀ dataIn ∈ reads, dataIn.length ≤ config.decodedCap) :
    ∃ last, calls turns codec reads = pure last ∧ last.encoded.len = 0 := by
  induction reads generalizing codec with
  | nil => exact ⟨codec, rfl, empty⟩
  | cons dataIn later ih =>
      rw [List.forall_mem_cons] at short
      obtain ⟨returned, called, cleared, -⟩ := slipStaticDataDecoder_returns enough empty short.1
      rw [calls, called, pure_bind]
      exact ih cleared short.2

end

/-- Any calls of the decoder, in any configuration, end with every byte inside its buffer. -/
theorem decoder_stays_inside (config : Config) {turns : Nat} (enough : config.encodedCap < turns)
    {reads : List (List UInt8)} (short : ∀ dataIn ∈ reads, dataIn.length ≤ config.decodedCap) :
    ∃ last, calls turns (.initial config) reads = pure last ∧ last.encoded.len = 0 :=
  calls_return enough rfl short

theorem decoder_stays_inside_committed :
    ∃ last, calls 1537 (.initial .committed) [[slipBegin, 1, slipEnd], [slipEsc]] = pure last ∧
      last.encoded.len = 0 :=
  decoder_stays_inside .committed (by decide) (by decide)

end EsInverter.Slip.Bounded
