import EsInverter.Slip.Inverse

/-!
# The decoder after other bytes

A call leaves only the two flags of the codec.  The next frame is returned if the
decoder is outside of a packet, without an escape byte that waits for its code:
inside of a packet the BEGIN of the frame only ends the packet, and the frame
behind it is skipped.
-/

set_option autoImplicit false

namespace EsInverter.Slip

/-! ### A history of calls -/

/-- The codec after calls with the given reads, whatever they return. -/
def afterReads : SlipCodec → List (List UInt8) → Except Fault SlipCodec
  | codec, [] => .ok codec
  | codec, read :: rest => do
      let result ← slipStaticDataDecoder codec read
      afterReads result.codec rest

theorem sweep_codec (cuts : Nat) (insideOfPacket escActive : Bool) (decoded : List UInt8)
    (dataOut : Option (List UInt8)) (bytes : List UInt8) :
    ∃ inside esc, (sweep cuts insideOfPacket escActive decoded dataOut bytes).codec =
      ⟨[], [], inside, esc⟩ := by
  induction bytes generalizing cuts insideOfPacket escActive decoded dataOut with
  | nil => exact ⟨insideOfPacket, escActive, rfl⟩
  | cons byte rest ih =>
      unfold sweep
      cases taken insideOfPacket escActive byte with
      | goesOn inside esc pushed => exact ih cuts inside esc (decoded ++ pushed) dataOut
      | cut =>
          cases cuts with
          | zero => exact ⟨false, escActive, rfl⟩
          | succ cuts => exact ih cuts false escActive decoded dataOut
      | ended => exact ih 15 false false decoded (some decoded)
      | broken err => exact ⟨false, false, rfl⟩

/-- Every call that fits the buffer returns and leaves only the flags. -/
theorem afterReads_flags {history : List (List UInt8)}
    (within : ∀ read ∈ history, read.length ≤ encodedDataBufSize) (insideOfPacket escActive : Bool) :
    ∃ inside esc, afterReads ⟨[], [], insideOfPacket, escActive⟩ history =
      .ok ⟨[], [], inside, esc⟩ := by
  induction history generalizing insideOfPacket escActive with
  | nil => exact ⟨insideOfPacket, escActive, rfl⟩
  | cons read rest ih =>
      obtain ⟨fits, later⟩ := List.forall_mem_cons.mp within
      by_cases empty : read = []
      · subst empty
        exact ih later insideOfPacket escActive
      · obtain ⟨inside, esc, left⟩ := sweep_codec 15 insideOfPacket escActive [] none read
        obtain ⟨last, waiting, done⟩ := ih later inside esc
        refine ⟨last, waiting, ?_⟩
        rw [afterReads, slipStaticDataDecoder_sweep empty fits]
        dsimp only [bind, Except.bind]
        rw [left, done]

/-! ### Steps of the pass -/

section Steps

variable {cuts : Nat} {escActive : Bool} {decoded : List UInt8} {dataOut : Option (List UInt8)}

theorem sweep_goesOn {insideOfPacket inside esc : Bool} {byte : UInt8} {pushed : List UInt8}
    (reads : taken insideOfPacket escActive byte = .goesOn inside esc pushed) (rest : List UInt8) :
    sweep cuts insideOfPacket escActive decoded dataOut (byte :: rest) =
      sweep cuts inside esc (decoded ++ pushed) dataOut rest := by
  conv_lhs => unfold sweep
  rw [reads]

theorem sweep_cut (rest : List UInt8) :
    sweep (cuts + 1) true escActive decoded dataOut (slipBegin :: rest) =
      sweep cuts false escActive decoded dataOut rest := rfl

theorem sweep_begin (rest : List UInt8) :
    sweep cuts false escActive decoded dataOut (slipBegin :: rest) =
      sweep cuts true escActive decoded dataOut rest := by
  have reads : taken false escActive slipBegin = .goesOn true escActive [] := rfl
  rw [sweep_goesOn reads, List.append_nil]

theorem sweep_end (rest : List UInt8) :
    sweep cuts true false decoded dataOut (slipEnd :: rest) =
      sweep 15 false false decoded (some decoded) rest := rfl

/-- Outside of a packet everything up to the next BEGIN is skipped. -/
theorem sweep_skip {skipped : List UInt8} (noBegin : ∀ byte ∈ skipped, byte ≠ slipBegin)
    (rest : List UInt8) :
    sweep cuts false escActive decoded dataOut (skipped ++ rest) =
      sweep cuts false escActive decoded dataOut rest := by
  induction skipped with
  | nil => rfl
  | cons byte skipped ih =>
      obtain ⟨other, later⟩ := List.forall_mem_cons.mp noBegin
      have reads : taken false escActive byte = .goesOn false escActive [] := by
        simp [taken, other]
      rw [List.cons_append, sweep_goesOn reads, List.append_nil, ih later]

theorem sweep_escape (byte : UInt8) (rest : List UInt8) :
    sweep cuts true false decoded dataOut (escape byte ++ rest) =
      sweep cuts true false (decoded ++ [byte]) dataOut rest := by
  rcases escape_taken byte with ⟨plain, reads⟩ | ⟨code, escaped, reads⟩
  · rw [plain, List.singleton_append, sweep_goesOn reads]
  · rw [escaped, List.cons_append, List.singleton_append, sweep_goesOn (taken_slipEsc false),
      sweep_goesOn reads, List.append_nil]

theorem sweep_flatMap_escape (data rest : List UInt8) :
    sweep cuts true false decoded dataOut (data.flatMap escape ++ rest) =
      sweep cuts true false (decoded ++ data) dataOut rest := by
  induction data generalizing decoded with
  | nil => rw [List.append_nil]; rfl
  | cons byte data ih =>
      rw [List.flatMap_cons, List.append_assoc, sweep_escape, ih, List.append_assoc,
        List.singleton_append]

theorem sweep_body (data : List UInt8) :
    sweep cuts true false decoded dataOut (data.flatMap escape ++ [slipEnd]) =
      ⟨.ok, some (decoded ++ data), ⟨[], [], false, false⟩⟩ := by
  rw [sweep_flatMap_escape, sweep_end]
  rfl

end Steps

/-! ### The next frame -/

/-- No escape byte waits for its code, or the payload begins with an escape byte of its own. -/
def Untouched (escActive : Bool) (payload : List UInt8) : Prop :=
  escActive = false ∨ ∃ first rest, payload = first :: rest ∧
    (first = slipBegin ∨ first = slipEnd ∨ first = slipEsc)

/-- The bytes are those of a call's return value `ESP_OK` with one payload. -/
def DecoderResult.Returns (result : DecoderResult) (payload : List UInt8) : Prop :=
  result.ret = .ok ∧ result.dataOut = some payload

/-- A code behind a waiting escape byte is another byte, and no other byte may follow it. -/
theorem taken_waiting {byte : UInt8}
    (plain : ¬ (byte = slipBegin ∨ byte = slipEnd ∨ byte = slipEsc)) :
    taken true true byte = .broken .invalidEscSequence ∨
      ∃ other, other ≠ byte ∧ taken true true byte = .goesOn true false [other] := by
  simp only [not_or] at plain
  obtain ⟨notBegin, notEnd, notEsc⟩ := plain
  rw [taken, if_neg (by simp), if_neg notBegin, if_neg notEsc, if_neg notEnd, if_neg (by simp)]
  cases read : unescape byte with
  | none => exact .inl rfl
  | some original =>
      refine .inr ⟨original, ?_, rfl⟩
      rintro rfl
      rw [unescape] at read
      split_ifs at read with isBegin isEnd isEsc
      · exact notBegin (Option.some.inj read).symm
      · exact notEnd (Option.some.inj read).symm
      · exact notEsc (Option.some.inj read).symm

/-- From outside of a packet, a frame is returned unless a waiting escape byte spoils it. -/
theorem sweep_frame_iff (cuts : Nat) (escActive : Bool) {payload : List UInt8}
    (some_ : payload ≠ []) :
    (sweep cuts false escActive [] none (frame payload)).Returns payload ↔
      Untouched escActive payload := by
  rw [frame, sweep_begin]
  cases escActive with
  | false =>
      rw [sweep_body]
      exact ⟨fun _ => .inl rfl, fun _ => ⟨rfl, rfl⟩⟩
  | true =>
      obtain ⟨first, rest, rfl⟩ := List.exists_cons_of_ne_nil some_
      rw [List.flatMap_cons, List.append_assoc]
      by_cases special : first = slipBegin ∨ first = slipEnd ∨ first = slipEsc
      · refine iff_of_true ?_ (.inr ⟨first, rest, rfl, special⟩)
        obtain ⟨code, escaped, reads⟩ : ∃ code, escape first = [slipEsc, code] ∧
            taken true true code = .goesOn true false [first] := by
          rcases special with rfl | rfl | rfl
          · exact ⟨slipEscBegin, rfl, rfl⟩
          · exact ⟨slipEscEnd, rfl, rfl⟩
          · exact ⟨slipEscEsc, rfl, rfl⟩
        rw [escaped, List.cons_append, List.singleton_append, sweep_goesOn (taken_slipEsc true),
          sweep_goesOn reads, sweep_body]
        exact ⟨rfl, rfl⟩
      · have spoiled : ¬ Untouched true (first :: rest) := by
          rintro (quiet | ⟨head, tail, same, begins⟩)
          · cases quiet
          · cases same
            exact special begins
        refine iff_of_false ?_ spoiled
        have plain : escape first = [first] := by
          simp only [not_or] at special
          simp [escape, special]
        rw [plain, List.singleton_append]
        rcases taken_waiting special with broken | ⟨other, different, reads⟩
        · rintro ⟨_, returned⟩
          unfold sweep at returned
          rw [broken] at returned
          cases returned
        · rw [sweep_goesOn reads, sweep_body]
          rintro ⟨_, returned⟩
          exact different (List.cons.inj (Option.some.inj returned)).1

/-- Inside of a packet, a frame ends that packet and is lost. -/
theorem sweep_frame_lost (cuts : Nat) (escActive : Bool) (decoded payload : List UInt8) :
    (sweep (cuts + 1) true escActive decoded none (frame payload)).dataOut = none := by
  have noBegin : ∀ byte ∈ payload.flatMap escape ++ [slipEnd], byte ≠ slipBegin := by
    intro byte inside
    rcases List.mem_append.mp inside with body | last
    · exact (mem_flatMap_escape body).1
    · rw [List.mem_singleton.mp last]
      decide
  rw [frame, sweep_cut, ← List.append_nil (payload.flatMap escape ++ [slipEnd]),
    sweep_skip noBegin]
  rfl

/-- The first bytes of a packet, of which at least the END is missing. -/
def CutOff (cut : List UInt8) : Prop :=
  ∃ dropped tail, cut ++ tail = frame dropped ∧ cut ≠ [] ∧ tail ≠ []

theorem CutOff.body {cut : List UInt8} (cutOff : CutOff cut) :
    ∃ body, cut = slipBegin :: body ∧ ∀ byte ∈ body, byte ≠ slipBegin ∧ byte ≠ slipEnd := by
  obtain ⟨dropped, tail, whole, begun, missing⟩ := cutOff
  obtain ⟨first, body, rfl⟩ := List.exists_cons_of_ne_nil begun
  obtain ⟨rfl, rest⟩ := List.cons.inj whole
  refine ⟨body, rfl, fun byte inside => ?_⟩
  have init : body ++ tail.dropLast = dropped.flatMap escape := by
    have shorter := congrArg List.dropLast rest
    rw [List.append_eq, List.dropLast_append_of_ne_nil missing, List.dropLast_concat] at shorter
    exact shorter
  have among : byte ∈ dropped.flatMap escape := by
    rw [← init]
    exact List.mem_append_left _ inside
  exact mem_flatMap_escape among

theorem taken_inside {escActive : Bool} {byte : UInt8} (notBegin : byte ≠ slipBegin)
    (notEnd : byte ≠ slipEnd) :
    (∃ esc pushed, taken true escActive byte = .goesOn true esc pushed) ∨
      ∃ err, taken true escActive byte = .broken err := by
  rw [taken, if_neg (by simp), if_neg notBegin]
  by_cases esc : byte = slipEsc
  · rw [if_pos esc]
    exact .inl ⟨_, _, rfl⟩
  rw [if_neg esc, if_neg notEnd]
  split
  · exact .inl ⟨_, _, rfl⟩
  split
  · exact .inl ⟨_, _, rfl⟩
  · exact .inr ⟨_, rfl⟩

/-- Nothing is returned for a frame behind the beginning of a packet. -/
theorem sweep_cutOff_lost {body : List UInt8}
    (plain : ∀ byte ∈ body, byte ≠ slipBegin ∧ byte ≠ slipEnd) (cuts : Nat) (escActive : Bool)
    (decoded payload : List UInt8) :
    (sweep (cuts + 1) true escActive decoded none (body ++ frame payload)).dataOut = none := by
  induction body generalizing escActive decoded with
  | nil => exact sweep_frame_lost cuts escActive decoded payload
  | cons byte body ih =>
      obtain ⟨⟨notBegin, notEnd⟩, later⟩ := List.forall_mem_cons.mp plain
      rcases taken_inside notBegin notEnd with ⟨esc, pushed, reads⟩ | ⟨err, broken⟩
      · rw [List.cons_append, sweep_goesOn reads]
        exact ih later esc (decoded ++ pushed)
      · rw [List.cons_append]
        unfold sweep
        rw [broken]

/-- The call returns `ESP_OK` and exactly one payload. -/
def Delivers (codec : SlipCodec) (read payload : List UInt8) : Prop :=
  ∃ result, slipStaticDataDecoder codec read = .ok result ∧ result.Returns payload

theorem delivers_iff {read payload : List UInt8} (some_ : read ≠ [])
    (fits : read.length ≤ encodedDataBufSize) (insideOfPacket escActive : Bool) :
    Delivers ⟨[], [], insideOfPacket, escActive⟩ read payload ↔
      (sweep 15 insideOfPacket escActive [] none read).Returns payload := by
  rw [Delivers, slipStaticDataDecoder_sweep some_ fits]
  constructor
  · rintro ⟨result, same, returns⟩
    cases same
    exact returns
  · intro returns
    exact ⟨_, rfl, returns⟩

theorem frame_ne_nil (payload : List UInt8) : frame payload ≠ [] := List.cons_ne_nil _ _

theorem delivers_frame_iff {payload : List UInt8} (some_ : payload ≠ [])
    (fits : (frame payload).length ≤ encodedDataBufSize) (insideOfPacket escActive : Bool) :
    Delivers ⟨[], [], insideOfPacket, escActive⟩ (frame payload) payload ↔
      insideOfPacket = false ∧ Untouched escActive payload := by
  rw [delivers_iff (frame_ne_nil payload) fits]
  cases insideOfPacket with
  | false => rw [sweep_frame_iff 15 escActive some_, eq_self_iff_true, true_and]
  | true =>
      refine iff_of_false ?_ fun outside => absurd outside.1 (by decide)
      rintro ⟨_, returned⟩
      rw [sweep_frame_lost 14 escActive [] payload] at returned
      cases returned

theorem delivers_cutOff_iff {cut payload : List UInt8} (cutOff : CutOff cut)
    (some_ : payload ≠ []) (fits : (cut ++ frame payload).length ≤ encodedDataBufSize)
    (insideOfPacket escActive : Bool) :
    Delivers ⟨[], [], insideOfPacket, escActive⟩ (cut ++ frame payload) payload ↔
      insideOfPacket = true ∧ Untouched escActive payload := by
  obtain ⟨body, rfl, plain⟩ := cutOff.body
  rw [List.cons_append] at fits ⊢
  rw [delivers_iff (List.cons_ne_nil slipBegin _) fits]
  cases insideOfPacket with
  | false =>
      refine iff_of_false ?_ fun inside => absurd inside.1 (by decide)
      rintro ⟨_, returned⟩
      rw [sweep_begin, sweep_cutOff_lost plain 14 escActive [] payload] at returned
      cases returned
  | true =>
      rw [sweep_cut, sweep_skip fun byte inside => (plain byte inside).1,
        sweep_frame_iff 14 escActive some_, eq_self_iff_true, true_and]

/-- After any history the next frame is returned exactly when the decoder is outside of a packet
and nothing spoils the first byte; behind a cut packet in its own read it is returned exactly
when the BEGIN of the cut packet already ended another one. -/
theorem resynchronises_iff {history : List (List UInt8)}
    (within : ∀ read ∈ history, read.length ≤ encodedDataBufSize) :
    ∃ codec, afterReads .initial history = .ok codec ∧
      (∀ payload, payload ≠ [] → (frame payload).length ≤ encodedDataBufSize →
        (Delivers codec (frame payload) payload ↔
          codec.insideOfPacket = false ∧ Untouched codec.escActive payload)) ∧
      ∀ cut payload, CutOff cut → payload ≠ [] →
        (cut ++ frame payload).length ≤ encodedDataBufSize →
        (Delivers codec (cut ++ frame payload) payload ↔
          codec.insideOfPacket = true ∧ Untouched codec.escActive payload) := by
  obtain ⟨inside, esc, after⟩ := afterReads_flags within false false
  refine ⟨⟨[], [], inside, esc⟩, after, ?_, ?_⟩
  · intro payload some_ fits
    exact delivers_frame_iff some_ fits inside esc
  · intro cut payload cutOff some_ fits
    exact delivers_cutOff_iff cutOff some_ fits inside esc

/-- Behind an unfinished packet the next frame is lost, and the one behind a cut packet is not. -/
theorem resynchronises_iff_unfinished :
    ∃ codec, afterReads .initial [[slipBegin, 5]] = .ok codec ∧
      ¬ Delivers codec (frame [1, 2]) [1, 2] ∧
      Delivers codec ([slipBegin, 3] ++ frame [1, 2]) [1, 2] := by
  have within : ∀ read ∈ [[slipBegin, 5]], read.length ≤ encodedDataBufSize := by decide
  have cutOff : CutOff [slipBegin, 3] := ⟨[3], [slipEnd], rfl, by decide, by decide⟩
  obtain ⟨codec, after, next, cut⟩ := resynchronises_iff within
  have left : afterReads .initial [[slipBegin, 5]] = .ok ⟨[], [], true, false⟩ := by decide +kernel
  cases after.symm.trans left
  refine ⟨_, left, fun delivers => ?_, ?_⟩
  · cases ((next [1, 2] (by decide) (by decide)).mp delivers).1
  · exact (cut _ [1, 2] cutOff (by decide) (by decide)).mpr ⟨rfl, .inl rfl⟩

/-- An unfinished packet swallows the whole packet that follows it in the next read. -/
theorem unfinished_swallows_next :
    ¬∀ (history : List (List UInt8)) (codec : SlipCodec) (payload : List UInt8),
      (∀ read ∈ history, read.length ≤ encodedDataBufSize) →
      afterReads .initial history = .ok codec → payload ≠ [] →
      (frame payload).length ≤ encodedDataBufSize → Delivers codec (frame payload) payload := by
  intro always
  have left : afterReads .initial [[slipBegin, 5]] = .ok ⟨[], [], true, false⟩ := by decide +kernel
  obtain ⟨result, decoded, returns⟩ :=
    always [[slipBegin, 5]] _ [1, 2] (by decide) left (by decide) (by decide)
  have lost : slipStaticDataDecoder ⟨[], [], true, false⟩ (frame [1, 2]) =
      .ok ⟨.ok, none, ⟨[], [], false, false⟩⟩ := by decide +kernel
  cases decoded.symm.trans lost
  cases returns.2

end EsInverter.Slip
