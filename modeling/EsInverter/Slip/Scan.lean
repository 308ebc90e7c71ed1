import EsInverter.Lib.Transducer
import EsInverter.Slip.Codec

/-!
# The decoder on well-formed bytes

A transducer over three phases says what a byte of a well-formed stream means.
One call of the decoder on bytes the transducer accepts is a run of it: the
packets that end in the call are returned together, and a call that ends inside
a packet returns nothing.
-/

set_option autoImplicit false

namespace EsInverter.Slip

inductive Phase
  | outside
  | inside (escActive : Bool)
  deriving DecidableEq, Repr

inductive Token
  | data (byte : UInt8)
  | stop
  deriving DecidableEq, Repr

/-- The byte that an escape sequence stands for. -/
def unescape (byte : UInt8) : Option UInt8 :=
  if byte = slipEscBegin then some slipBegin
  else if byte = slipEscEnd then some slipEnd
  else if byte = slipEscEsc then some slipEsc
  else none

def Phase.step : Phase → UInt8 → Option (Phase × List Token)
  | .outside, byte => if byte = slipBegin then some (.inside false, []) else none
  | .inside false, byte =>
      if byte = slipBegin then none
      else if byte = slipEsc then some (.inside true, [])
      else if byte = slipEnd then some (.outside, [.stop])
      else some (.inside false, [.data byte])
  | .inside true, byte => (unescape byte).map fun value => (.inside false, [.data value])

def scanner : Lib.Transducer Phase UInt8 Token := ⟨Phase.step⟩

/-- What one accepted byte does. -/
inductive Reads : Phase → UInt8 → Phase → List Token → Prop
  | start : Reads .outside slipBegin (.inside false) []
  | esc : Reads (.inside false) slipEsc (.inside true) []
  | stop : Reads (.inside false) slipEnd .outside [.stop]
  | plain {byte : UInt8} (notBegin : byte ≠ slipBegin) (notEsc : byte ≠ slipEsc)
      (notEnd : byte ≠ slipEnd) : Reads (.inside false) byte (.inside false) [.data byte]
  | escaped {byte value : UInt8} (unescapes : unescape byte = some value) :
      Reads (.inside true) byte (.inside false) [.data value]

theorem reads_of_step {phase next : Phase} {byte : UInt8} {emitted : List Token}
    (stepped : scanner.step phase byte = some (next, emitted)) : Reads phase byte next emitted := by
  cases phase with
  | outside =>
      simp only [scanner, Phase.step, Option.ite_none_right_eq_some, Option.some.injEq,
        Prod.mk.injEq] at stepped
      obtain ⟨rfl, rfl, rfl⟩ := stepped
      exact .start
  | inside escActive =>
      cases escActive with
      | true =>
          simp only [scanner, Phase.step, Option.map_eq_some_iff, Prod.mk.injEq] at stepped
          obtain ⟨value, unescapes, rfl, rfl⟩ := stepped
          exact .escaped unescapes
      | false =>
          simp only [scanner, Phase.step] at stepped
          split at stepped
          · cases stepped
          next notBegin =>
          split at stepped
          next isEsc =>
            cases stepped
            exact isEsc ▸ .esc
          next notEsc =>
          split at stepped
          next isEnd =>
            cases stepped
            exact isEnd ▸ .stop
          next notEnd =>
            cases stepped
            exact .plain notBegin notEsc notEnd

/-- The bytes of all packets among the tokens. -/
def dataOf : List Token → List UInt8
  | [] => []
  | .data byte :: rest => byte :: dataOf rest
  | .stop :: rest => dataOf rest

def stopCount (tokens : List Token) : Nat := tokens.count .stop

@[simp] theorem dataOf_nil : dataOf [] = [] := rfl
@[simp] theorem dataOf_stop (rest : List Token) : dataOf (.stop :: rest) = dataOf rest := rfl
@[simp] theorem dataOf_data (byte : UInt8) (rest : List Token) :
    dataOf (.data byte :: rest) = byte :: dataOf rest := rfl

@[simp]
theorem dataOf_append (first second : List Token) :
    dataOf (first ++ second) = dataOf first ++ dataOf second := by
  induction first with
  | nil => rfl
  | cons token rest ih =>
      cases token with
      | data byte => rw [List.cons_append, dataOf_data, dataOf_data, ih, List.cons_append]
      | stop => rw [List.cons_append, dataOf_stop, dataOf_stop, ih]

/-- The tokens of one payload. -/
def tokensOf (payload : List UInt8) : List Token := payload.map .data ++ [.stop]

@[simp]
theorem dataOf_map_data (payload : List UInt8) : dataOf (payload.map .data) = payload := by
  induction payload with
  | nil => rfl
  | cons byte rest ih => rw [List.map_cons, dataOf_data, ih]

@[simp]
theorem dataOf_tokensOf (payload : List UInt8) : dataOf (tokensOf payload) = payload := by
  rw [tokensOf, dataOf_append, dataOf_map_data]
  exact List.append_nil payload

@[simp]
theorem stopCount_append (first second : List Token) :
    stopCount (first ++ second) = stopCount first + stopCount second :=
  List.count_append

@[simp]
theorem stopCount_map_data (payload : List UInt8) : stopCount (payload.map .data) = 0 := by
  induction payload with
  | nil => rfl
  | cons byte rest ih => simpa [stopCount] using ih

@[simp]
theorem stopCount_tokensOf (payload : List UInt8) : stopCount (tokensOf payload) = 1 := by
  rw [tokensOf, stopCount_append, stopCount_map_data]
  rfl

/-! ### The encoder's bytes -/

/-- The bytes `slip_encode` writes for a payload. -/
def frame (payload : List UInt8) : List UInt8 :=
  slipBegin :: (payload.flatMap escape ++ [slipEnd])

theorem slipEncodeLoop_ok {limit : Nat} {written payload encoded : List UInt8}
    (ran : slipEncodeLoop limit written payload = .ok encoded) :
    encoded = written ++ payload.flatMap escape ++ [slipEnd] := by
  induction payload generalizing written with
  | nil =>
      rw [slipEncodeLoop] at ran
      split at ran
      · cases ran
      · cases ran
        simp
  | cons byte rest ih =>
      rw [slipEncodeLoop] at ran
      split at ran
      · cases ran
      · rw [ih ran, List.flatMap_cons, List.append_assoc written]

/-- A successful encoding is the frame of a non-empty payload. -/
theorem slipEncode_ok {limit : Nat} {payload encoded : List UInt8}
    (ran : slipEncode limit payload = .ok encoded) : payload ≠ [] ∧ encoded = frame payload := by
  rw [slipEncode] at ran
  split at ran
  · cases ran
  next nonempty =>
    refine ⟨fun empty => nonempty (by rw [empty]; rfl), ?_⟩
    rw [slipEncodeLoop_ok ran]
    rfl

theorem scan_escape (byte : UInt8) :
    scanner.run (.inside false) (escape byte) = some (.inside false, [.data byte]) := by
  rw [escape]
  by_cases isBegin : byte = slipBegin
  · subst isBegin
    rfl
  by_cases isEnd : byte = slipEnd
  · subst isEnd
    rfl
  by_cases isEsc : byte = slipEsc
  · subst isEsc
    rfl
  rw [if_neg isBegin, if_neg isEnd, if_neg isEsc]
  simp [Lib.Transducer.run, scanner, Phase.step, isBegin, isEnd, isEsc]

theorem scan_frame (payload : List UInt8) :
    scanner.run .outside (frame payload) = some (.outside, tokensOf payload) := by
  have body : scanner.run (.inside false) (payload.flatMap escape) =
      some (.inside false, payload.flatMap fun byte => [.data byte]) :=
    Lib.Transducer.run_flatMap scan_escape payload
  have closing : scanner.run (.inside false) [slipEnd] = some (.outside, [.stop]) := rfl
  have opened := Lib.Transducer.run_append body closing
  rw [← List.map_eq_flatMap] at opened
  have whole : scanner.run .outside (slipBegin :: (payload.flatMap escape ++ [slipEnd])) =
      some (.outside, [] ++ (payload.map .data ++ [.stop])) :=
    Lib.Transducer.run_cons rfl opened
  exact whole

theorem scan_stream (payloads : List (List UInt8)) :
    scanner.run .outside (payloads.flatMap frame) = some (.outside, payloads.flatMap tokensOf) :=
  Lib.Transducer.run_flatMap scan_frame payloads

/-- A run back to the outside has just closed a packet. -/
theorem scan_closed {phase : Phase} {bytes : List UInt8} {tokens : List Token}
    (ran : scanner.run phase bytes = some (.outside, tokens)) (nonempty : bytes ≠ []) :
    ∃ earlier, tokens = earlier ++ [.stop] := by
  induction bytes generalizing phase tokens with
  | nil => exact absurd rfl nonempty
  | cons byte rest ih =>
      obtain ⟨next, emitted, later, stepped, ranRest, rfl⟩ := Lib.Transducer.run_cons_iff.mp ran
      cases rest with
      | nil =>
          cases ranRest
          cases reads_of_step stepped with
          | stop => exact ⟨[], rfl⟩
      | cons second rest =>
          obtain ⟨earlier, rfl⟩ := ih ranRest (by simp)
          exact ⟨emitted ++ earlier, by simp⟩

/-! ### One call of `decode` -/

def Phase.insideOfPacket : Phase → Bool
  | .outside => false
  | .inside _ => true

def Phase.escActive : Phase → Bool
  | .outside => false
  | .inside escActive => escActive

/-- The loop state in a phase of the stream. -/
def stateAt (phase : Phase) (decoded : List UInt8) (processedNum : Nat) : DecodeState :=
  ⟨decoded, processedNum, phase.insideOfPacket, phase.escActive⟩

/-- An accepted byte that closes no packet is one turn of the loop. -/
theorem decodeLoop_continue {cap processedNum : Nat} {phase next : Phase} {byte : UInt8}
    {emitted : List Token} (reads : Reads phase byte next emitted) (open_ : next ≠ .outside)
    (room : processedNum < cap) (rest decoded : List UInt8) :
    decodeLoop cap (byte :: rest) (stateAt phase decoded processedNum) =
      decodeLoop cap rest (stateAt next (decoded ++ dataOf emitted) (processedNum + 1)) := by
  rw [decodeLoop, if_neg (by exact Nat.not_le_of_lt room)]
  cases reads with
  | start => simp [stateAt, Phase.insideOfPacket, Phase.escActive]
  | esc => simp [stateAt, Phase.insideOfPacket, Phase.escActive, slipEsc, slipBegin]
  | stop => exact absurd rfl open_
  | plain notBegin notEsc notEnd =>
      simp [stateAt, Phase.insideOfPacket, Phase.escActive, DecodeState.bufferPush, notBegin,
        notEsc, notEnd]
  | escaped unescapes =>
      rw [unescape] at unescapes
      split at unescapes
      next isBegin =>
        cases unescapes
        simp [stateAt, Phase.insideOfPacket, Phase.escActive, DecodeState.bufferPush, isBegin,
          slipBegin, slipEsc, slipEscBegin]
      split at unescapes
      next isEnd =>
        cases unescapes
        simp [stateAt, Phase.insideOfPacket, Phase.escActive, DecodeState.bufferPush, isEnd,
          slipBegin, slipEsc, slipEscBegin, slipEscEnd]
      split at unescapes
      next isEsc =>
        cases unescapes
        simp [stateAt, Phase.insideOfPacket, Phase.escActive, DecodeState.bufferPush, isEsc,
          slipBegin, slipEsc, slipEscBegin, slipEscEnd, slipEscEsc]
      cases unescapes

theorem decodeLoop_stop {cap processedNum : Nat} (room : processedNum < cap)
    (rest decoded : List UInt8) :
    decodeLoop cap (slipEnd :: rest) (stateAt (.inside false) decoded processedNum) =
      (.none, stateAt .outside decoded (processedNum + 1)) := by
  rw [decodeLoop, if_neg (by exact Nat.not_le_of_lt room)]
  rfl

/-- `decode` runs to the end of the bytes or to the first end of a packet. -/
theorem decodeLoop_scan {cap processedNum : Nat} {phase next : Phase}
    {bytes : List UInt8} {tokens : List Token}
    (ran : scanner.run phase bytes = some (next, tokens))
    (room : processedNum + bytes.length ≤ cap) (decoded : List UInt8) :
    (∃ payload, tokens = payload.map .data ∧
      decodeLoop cap bytes (stateAt phase decoded processedNum) =
        (if next.insideOfPacket then .incompletePacket else .packetStartNotFound,
          stateAt next (decoded ++ payload) (processedNum + bytes.length))) ∨
    ∃ first rest payload later, bytes = first ++ rest ∧ first ≠ [] ∧
      scanner.run .outside rest = some (next, later) ∧
      tokens = payload.map .data ++ .stop :: later ∧
      decodeLoop cap bytes (stateAt phase decoded processedNum) =
        (.none, stateAt .outside (decoded ++ payload) (processedNum + first.length)) := by
  induction bytes generalizing phase tokens decoded processedNum with
  | nil =>
      cases ran
      exact .inl ⟨[], rfl, by rw [List.append_nil]; rfl⟩
  | cons byte rest ih =>
      obtain ⟨middle, emitted, later, stepped, ranRest, rfl⟩ := Lib.Transducer.run_cons_iff.mp ran
      have room' : processedNum + 1 + rest.length ≤ cap := by
        simp only [List.length_cons] at room
        omega
      have reads := reads_of_step stepped
      by_cases closed : middle = .outside
      · subst closed
        cases reads with
        | stop =>
            refine .inr ⟨[slipEnd], rest, [], later, rfl, by simp, ranRest, rfl, ?_⟩
            rw [decodeLoop_stop (by omega)]
            simp
      · obtain ⟨emittedData, rfl⟩ : ∃ emittedData, emitted = List.map Token.data emittedData := by
          cases reads with
          | start => exact ⟨[], rfl⟩
          | esc => exact ⟨[], rfl⟩
          | stop => exact absurd rfl closed
          | plain => exact ⟨[_], rfl⟩
          | escaped => exact ⟨[_], rfl⟩
        rw [decodeLoop_continue reads closed (by omega), dataOf_map_data]
        rcases ih ranRest room' (decoded ++ emittedData) with
          ⟨payload, rfl, result⟩ | ⟨first, last, payload, after, rfl, _, ranLast, rfl, result⟩
        · refine .inl ⟨emittedData ++ payload, by simp, ?_⟩
          rw [result]
          simp [Nat.add_assoc, Nat.add_comm 1]
        · refine .inr ⟨byte :: first, last, emittedData ++ payload, after, rfl, by simp, ranLast,
            by simp, ?_⟩
          rw [result]
          simp [Nat.add_assoc, Nat.add_comm 1]

/-! ### One call of the decoder -/

/-- The decoder in a phase of the stream. -/
def codecAt (phase : Phase) (decoded encoded : List UInt8) : SlipCodec :=
  ⟨decoded, encoded, phase.insideOfPacket, phase.escActive⟩

theorem slipDecode_nil (decoded : List UInt8) :
    slipDecode (codecAt .outside decoded []) =
      (.packetStartNotFound, codecAt .outside [] []) := rfl

/-- `slip_decode` takes one round: to the end of a packet or of the bytes. -/
theorem slipDecode_scan {phase next : Phase} {bytes : List UInt8} {tokens : List Token}
    (ran : scanner.run phase bytes = some (next, tokens)) (nonempty : bytes ≠ [])
    (room : bytes.length ≤ decodedDataBufSize) (decoded : List UInt8) :
    (∃ payload, tokens = payload.map .data ∧ next ≠ .outside ∧
      slipDecode (codecAt phase decoded bytes) =
        (.incompletePacket, codecAt next (decoded ++ payload) [])) ∨
    ∃ first rest payload later, bytes = first ++ rest ∧ first ≠ [] ∧
      scanner.run .outside rest = some (next, later) ∧
      tokens = payload.map .data ++ .stop :: later ∧
      slipDecode (codecAt phase decoded bytes) =
        (.none, codecAt .outside (decoded ++ payload) rest) := by
  have some_ : ¬ (codecAt phase decoded bytes).encoded.length = 0 := by
    simpa [codecAt] using nonempty
  have loop : decode (codecAt phase decoded bytes) =
      ((decodeLoop decodedDataBufSize bytes (stateAt phase decoded 0)).1,
        ⟨(decodeLoop decodedDataBufSize bytes (stateAt phase decoded 0)).2.decoded,
          bytes.drop (decodeLoop decodedDataBufSize bytes (stateAt phase decoded 0)).2.processedNum,
          (decodeLoop decodedDataBufSize bytes (stateAt phase decoded 0)).2.insideOfPacket,
          (decodeLoop decodedDataBufSize bytes (stateAt phase decoded 0)).2.escActive⟩) := by
    rw [decode, if_neg some_]
    rfl
  have room0 : 0 + bytes.length ≤ decodedDataBufSize := by simpa using room
  rcases decodeLoop_scan ran room0 decoded with
    ⟨payload, rfl, result⟩ | ⟨first, rest, payload, later, rfl, started, ranRest, rfl, result⟩
  · have inside : next ≠ .outside := by
      rintro rfl
      obtain ⟨earlier, same⟩ := scan_closed ran nonempty
      have counted := congrArg stopCount same
      rw [stopCount_map_data, stopCount_append] at counted
      simp [stopCount] at counted
    refine .inl ⟨payload, rfl, inside, ?_⟩
    cases next with
    | outside => exact absurd rfl inside
    | inside escActive =>
        rw [slipDecode, slipDecodeRounds, loop, result]
        simp [codecAt, stateAt, Phase.insideOfPacket]
  · refine .inr ⟨first, rest, payload, later, rfl, started, ranRest, rfl, ?_⟩
    rw [slipDecode, slipDecodeRounds, loop, result]
    simp [codecAt, stateAt]

/-- The outer loop collects every packet that ends among the bytes, and fails when the bytes end
inside one. -/
theorem decoderLoop_scan {fuel : Nat} {phase next : Phase} {bytes : List UInt8}
    {tokens : List Token} (enough : bytes.length < fuel)
    (ran : scanner.run phase bytes = some (next, tokens))
    (started : bytes = [] → phase = .outside) (room : bytes.length ≤ decodedDataBufSize)
    (decoded : List UInt8) (dataOut : Option (List UInt8)) :
    (next = .outside → decoderLoop fuel (codecAt phase decoded bytes) dataOut =
      (.packetStartNotFound, codecAt .outside [] [],
        if tokens = [] then dataOut else some (decoded ++ dataOf tokens))) ∧
    (next ≠ .outside → ∃ left out, decoderLoop fuel (codecAt phase decoded bytes) dataOut =
      (.incompletePacket, codecAt next left [], out)) := by
  induction fuel generalizing phase bytes tokens decoded dataOut with
  | zero => exact absurd enough (Nat.not_lt_zero _)
  | succ fuel ih =>
      by_cases empty : bytes = []
      · subst empty
        obtain rfl := started rfl
        cases ran
        refine ⟨fun _ => ?_, fun inside => absurd rfl inside⟩
        rw [decoderLoop, slipDecode_nil]
        rfl
      rcases slipDecode_scan ran empty room decoded with
        ⟨payload, rfl, inside, result⟩ |
          ⟨first, rest, payload, later, rfl, nonempty, ranRest, rfl, result⟩
      · refine ⟨fun outside => absurd outside inside, fun _ => ⟨decoded ++ payload, dataOut, ?_⟩⟩
        rw [decoderLoop, result]
      · have shorter : rest.length < fuel := by
          have := List.length_pos_of_ne_nil nonempty
          simp only [List.length_append] at enough
          omega
        have fits : rest.length ≤ decodedDataBufSize := by
          simp only [List.length_append] at room
          omega
        obtain ⟨closed, open_⟩ := ih shorter ranRest (fun _ => rfl) fits (decoded ++ payload)
          (some (decoded ++ payload))
        have next_ : decoderLoop (fuel + 1) (codecAt phase decoded (first ++ rest)) dataOut =
            decoderLoop fuel (codecAt .outside (decoded ++ payload) rest)
              (some (decoded ++ payload)) := by
          rw [decoderLoop, result]
          rfl
        rw [next_]
        refine ⟨fun outside => ?_, open_⟩
        rw [closed outside]
        by_cases last : later = []
        · subst last
          simp
        · simp [last]

theorem slipStaticDataDecoder_scan {phase next : Phase} {chunk : List UInt8}
    {tokens : List Token} (ran : scanner.run phase chunk = some (next, tokens))
    (nonempty : chunk ≠ []) (fits : chunk.length ≤ encodedDataBufSize) (decoded : List UInt8) :
    ∃ ret dataOut, slipStaticDataDecoder (codecAt phase decoded []) chunk =
        .ok ⟨ret, dataOut, codecAt next [] []⟩ ∧
      (next = .outside → ret = .ok ∧ dataOut = some (dataOf tokens)) ∧
      (next ≠ .outside → ret = .fail) := by
  have room : chunk.length ≤ decodedDataBufSize := Nat.le_trans fits (by decide)
  have added : slipAddData (codecAt phase [] []) chunk = .ok (codecAt phase [] chunk) := by
    have some_ : ¬ chunk.length = 0 := by simpa using nonempty
    have within : ¬ encodedDataBufSize < (codecAt phase [] []).encoded.length + chunk.length := by
      simpa [codecAt] using fits
    rw [slipAddData, if_neg some_, if_neg within]
    rfl
  have call : slipStaticDataDecoder (codecAt phase decoded []) chunk =
      .ok ⟨if (decoderLoop (chunk.length + 1) (codecAt phase [] chunk) none).1 =
            .packetStartNotFound then .ok else .fail,
        (decoderLoop (chunk.length + 1) (codecAt phase [] chunk) none).2.2,
        { (decoderLoop (chunk.length + 1) (codecAt phase [] chunk) none).2.1 with
          decoded := [], encoded := [] }⟩ := by
    have cleared : ({ codecAt phase decoded [] with decoded := [] } : SlipCodec) =
        codecAt phase [] [] := rfl
    simp only [slipStaticDataDecoder, if_pos room, cleared, added]
    rfl
  obtain ⟨closed, open_⟩ := decoderLoop_scan (Nat.lt_succ_self _) ran
    (fun empty => absurd empty nonempty) room [] none
  rw [call]
  by_cases outside : next = .outside
  · obtain ⟨earlier, rfl⟩ := scan_closed (outside ▸ ran) nonempty
    rw [closed outside, outside]
    exact ⟨_, _, rfl, fun _ => ⟨rfl, by simp⟩, fun inside => absurd rfl inside⟩
  · obtain ⟨left, out, result⟩ := open_ outside
    rw [result]
    exact ⟨_, _, rfl, fun closed => absurd closed outside, fun _ => rfl⟩

end EsInverter.Slip
