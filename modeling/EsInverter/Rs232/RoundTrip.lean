import EsInverter.Rs232.Frame

/-!
# The round trip of a frame

A frame comes back as its body exactly when no byte of its checksum is a
delimiter.  With a delimiter in the checksum the parser judges another part of
the frame, and no such part can have a checksum that fits.
-/

set_option autoImplicit false

namespace EsInverter.Rs232

/-! ### Frames with a delimiter in the checksum -/

/-- The parser found no packet, or a checksum that does not fit. -/
def Lost (result : Except Fault Parsed) : Prop :=
  ∃ parsed, result = .ok parsed ∧
    (parsed.err = ParseStatus.noPacket ∨ parsed.err = ParseStatus.invalidCrc)

theorem lost_judgeFrame_short {start finish : Nat} (short : finish ≤ start + 2) (rqId : UInt16)
    (dataIn : List UInt8) (output : Payload) :
    Lost (judgeFrame rqId dataIn output start finish) :=
  ⟨_, judgeFrame_short short rqId dataIn output, .inl rfl⟩

theorem lost_judgeFrame_long {text : List UInt8} {high low : UInt8} (nonempty : text ≠ [])
    (other : crc16Xmodem text ≠ joinCrc high low) (front rest : List UInt8) (rqId : UInt16)
    (output : Payload) :
    Lost (judgeFrame rqId (front ++ text ++ [high, low] ++ rest) output front.length
      (front.length + text.length + 2)) := by
  rw [judgeFrame_long nonempty, if_pos other]
  exact ⟨_, rfl, .inr rfl⟩

section Delimiters

variable {body : List UInt8} {high low : UInt8} (rqId : UInt16) (output : Payload)

/-- The frame of a body with the two bytes of its checksum. -/
def frameWith (body : List UInt8) (high low : UInt8) : List UInt8 :=
  openingParenthesis :: body ++ [high, low, carriageReturn]

/-- An opening parenthesis in the checksum is taken for the start of a frame. -/
theorem lost_of_parenthesis (nonempty : body ≠ [])
    (inside : high = openingParenthesis ∨ low = openingParenthesis) :
    Lost (rs232RspParse rqId (frameWith body high low) output) := by
  have positive : 0 < body.length := List.length_pos_of_ne_nil nonempty
  by_cases lowIs : low = openingParenthesis
  · subst lowIs
    have shape : frameWith body high openingParenthesis =
        (openingParenthesis :: body ++ [high]) ++ openingParenthesis :: [] ++
          carriageReturn :: [] := by simp [frameWith]
    rw [shape, rs232RspParse_found (openingParenthesis :: body ++ [high]) [] [] (by decide)
      (by decide) (by simp; omega)]
    exact lost_judgeFrame_short (by simp) _ _ _
  · obtain rfl : high = openingParenthesis := inside.resolve_right lowIs
    by_cases lowReturn : low = carriageReturn
    · subst lowReturn
      have shape : frameWith body openingParenthesis carriageReturn =
          (openingParenthesis :: body) ++ openingParenthesis :: [] ++
            carriageReturn :: [carriageReturn] := by simp [frameWith]
      rw [shape, rs232RspParse_found (openingParenthesis :: body) [] [carriageReturn] (by decide)
        (by decide) (by simp; omega)]
      exact lost_judgeFrame_short (by simp) _ _ _
    · have shape : frameWith body openingParenthesis low =
          (openingParenthesis :: body) ++ openingParenthesis :: [low] ++
            carriageReturn :: [] := by simp [frameWith]
      have last : openingParenthesis ∉ [low] ++ carriageReturn :: [] := by
        simp only [List.cons_append, List.nil_append, List.mem_cons, List.not_mem_nil, or_false]
        rintro (same | same)
        · exact lowIs same.symm
        · revert same
          decide
      have plain : carriageReturn ∉ [low] := by
        rw [List.mem_singleton]
        exact Ne.symm lowReturn
      rw [shape, rs232RspParse_found (openingParenthesis :: body) [low] [] last plain
        (by simp; omega)]
      exact lost_judgeFrame_short (by simp) _ _ _

/-- A carriage return as the high byte ends the frame before the checksum: were the last two bytes
before it a checksum, the high byte would be zero. -/
theorem lost_of_high_return (nonempty : body ≠ []) (bodyPlain : openingParenthesis ∉ body)
    (bodyLine : carriageReturn ∉ body) (lowPlain : low ≠ openingParenthesis)
    (checksum : crc16Xmodem (openingParenthesis :: body) = joinCrc carriageReturn low) :
    Lost (rs232RspParse rqId (frameWith body carriageReturn low) output) := by
  have positive : 0 < body.length := List.length_pos_of_ne_nil nonempty
  have shape : frameWith body carriageReturn low =
      [] ++ openingParenthesis :: body ++ carriageReturn :: [low, carriageReturn] := by
    simp [frameWith]
  have last : openingParenthesis ∉ body ++ carriageReturn :: [low, carriageReturn] := by
    simp only [List.mem_append, List.mem_cons, List.not_mem_nil, or_false]
    rintro (same | same | same | same)
    · exact bodyPlain same
    · revert same
      decide
    · exact lowPlain same.symm
    · revert same
      decide
  rw [shape, rs232RspParse_found [] body [low, carriageReturn] last bodyLine (by simp; omega)]
  rcases List.eq_nil_or_concat' body with rfl | ⟨front, second, rfl⟩
  · exact absurd rfl nonempty
  rcases List.eq_nil_or_concat' front with rfl | ⟨front, first, rfl⟩
  · exact lost_judgeFrame_short (by simp) _ _ _
  · have other : crc16Xmodem (openingParenthesis :: front) ≠ joinCrc first second := by
      intro same
      have zero := crc_appended same
      have text : openingParenthesis :: (front ++ [first] ++ [second]) =
          openingParenthesis :: front ++ [first, second] := by simp
      rw [text, zero] at checksum
      have bytes := congrArg crcBytes checksum
      rw [crcBytes_joinCrc, crcBytes_joinCrc] at bytes
      have heads := (List.cons.inj bytes).1
      revert heads
      decide
    have long := lost_judgeFrame_long (List.cons_ne_nil _ _) other []
      (carriageReturn :: [low, carriageReturn]) rqId output
    simpa [Nat.add_assoc] using long

/-- A carriage return as the low byte ends the frame inside the checksum: were the last byte before
it and the high byte a checksum, the low byte would be zero. -/
theorem lost_of_low_return (nonempty : body ≠ []) (bodyPlain : openingParenthesis ∉ body)
    (bodyLine : carriageReturn ∉ body) (highPlain : high ≠ openingParenthesis)
    (highLine : high ≠ carriageReturn)
    (checksum : crc16Xmodem (openingParenthesis :: body) = joinCrc high carriageReturn) :
    Lost (rs232RspParse rqId (frameWith body high carriageReturn) output) := by
  have positive : 0 < body.length := List.length_pos_of_ne_nil nonempty
  have shape : frameWith body high carriageReturn =
      [] ++ openingParenthesis :: (body ++ [high]) ++ carriageReturn :: [carriageReturn] := by
    simp [frameWith]
  have last : openingParenthesis ∉ body ++ [high] ++ carriageReturn :: [carriageReturn] := by
    simp only [List.mem_append, List.mem_cons, List.not_mem_nil, or_false]
    rintro ((same | same) | same | same)
    · exact bodyPlain same
    · exact highPlain same.symm
    · revert same
      decide
    · revert same
      decide
  have plain : carriageReturn ∉ body ++ [high] := by
    simp only [List.mem_append, List.mem_singleton]
    rintro (same | same)
    · exact bodyLine same
    · exact highLine same.symm
  rw [shape, rs232RspParse_found [] (body ++ [high]) [carriageReturn] last plain (by simp; omega)]
  rcases List.eq_nil_or_concat' body with rfl | ⟨front, byte, rfl⟩
  · exact absurd rfl nonempty
  · have other : crc16Xmodem (openingParenthesis :: front) ≠ joinCrc byte high := by
      intro same
      have zero := crc_high_appended same
      rw [List.cons_append, checksum] at zero
      have bytes := congrArg crcBytes zero
      rw [crcBytes_joinCrc, crcBytes_joinCrc] at bytes
      have lows := (List.cons.inj (List.cons.inj bytes).2).1
      revert lows
      decide
    have long := lost_judgeFrame_long (List.cons_ne_nil _ _) other []
      (carriageReturn :: [carriageReturn]) rqId output
    simpa [Nat.add_assoc] using long

end Delimiters

/-! ### Frames without one -/

/-- Whether no byte of a text's checksum is a delimiter. -/
def CrcPlain (body : List UInt8) : Prop :=
  ∀ byte ∈ crcBytes (crc16Xmodem (openingParenthesis :: body)),
    byte ≠ openingParenthesis ∧ byte ≠ carriageReturn

theorem crcPlain_iff {body : List UInt8} {high low : UInt8}
    (checksum : crc16Xmodem (openingParenthesis :: body) = joinCrc high low) :
    CrcPlain body ↔ (high ≠ openingParenthesis ∧ high ≠ carriageReturn) ∧
      low ≠ openingParenthesis ∧ low ≠ carriageReturn := by
  rw [CrcPlain, checksum, crcBytes_joinCrc]
  simp

theorem exists_checksum (text : List UInt8) :
    ∃ high low, crc16Xmodem text = joinCrc high low :=
  ⟨_, _, (joinCrc_crcBytes _).symm⟩

theorem replyFrame_eq {body : List UInt8} {high low : UInt8}
    (checksum : crc16Xmodem (openingParenthesis :: body) = joinCrc high low) :
    replyFrame body = frameWith body high low := by
  rw [replyFrame, checksum, crcBytes_joinCrc]
  simp [frameWith]

/-- A frame behind anything is judged by its packet. -/
theorem rs232RspParse_framed {body : List UInt8} (bodyPlain : openingParenthesis ∉ body)
    (bodyLine : carriageReturn ∉ body) (crcPlain : CrcPlain body) (front : List UInt8)
    (long : 5 ≤ front.length + (replyFrame body).length) (rqId : UInt16) (output : Payload) :
    ∃ zeroed, rs232RspParse rqId (front ++ replyFrame body) output =
      judgePacket rqId body zeroed output (front ++ replyFrame body).length := by
  obtain ⟨high, low, checksum⟩ := exists_checksum (openingParenthesis :: body)
  obtain ⟨⟨highPlain, highLine⟩, lowPlain, lowLine⟩ := (crcPlain_iff checksum).mp crcPlain
  rw [replyFrame_eq checksum] at long ⊢
  have shape : front ++ frameWith body high low =
      front ++ openingParenthesis :: (body ++ [high, low]) ++ carriageReturn :: [] := by
    simp [frameWith]
  have last : openingParenthesis ∉ body ++ [high, low] ++ carriageReturn :: [] := by
    simp only [List.mem_append, List.mem_cons, List.not_mem_nil, or_false]
    rintro ((same | same | same) | same)
    · exact bodyPlain same
    · exact highPlain same.symm
    · exact lowPlain same.symm
    · revert same
      decide
  have plain : carriageReturn ∉ body ++ [high, low] := by
    simp only [List.mem_append, List.mem_cons, List.not_mem_nil, or_false]
    rintro (same | same | same)
    · exact bodyLine same
    · exact highLine same.symm
    · exact lowLine same.symm
  have size : 5 ≤ front.length + (body ++ [high, low]).length + ([] : List UInt8).length + 2 := by
    simp [frameWith] at long ⊢
    omega
  have judged := judgeFrame_long (List.cons_ne_nil openingParenthesis body) front
    (carriageReturn :: []) high low rqId output
  dsimp only at judged
  rw [if_neg (not_not_intro checksum)] at judged
  rw [shape, rs232RspParse_found front (body ++ [high, low]) [] last plain size]
  refine ⟨front ++ openingParenthesis :: body ++ [0, 0] ++ carriageReturn :: [], ?_⟩
  simpa [Nat.add_assoc] using judged

/-! ### The round trip -/

/-- What a call leaves behind a sub-parser that returned. -/
def Parsed.ofCall (processed : Nat) (dataIn : List UInt8) (returned : Int × Payload) : Parsed :=
  { processed, dataIn, output := returned.2, err := UInt16.ofInt returned.1 }

/-- The part behind the checksum, for a request with a sub-parser. -/
theorem judgePacket_code (cmd : Cmd) (packet dataIn : List UInt8) (output : Payload)
    (processed : Nat) :
    judgePacket cmd.code packet dataIn output processed =
      if parseRspIsNak packet then
        .ok { processed, dataIn, output := .rejection packet, err := ParseStatus.rqRejected }
      else (cmd.subParser packet output).map (Parsed.ofCall processed dataIn) := by
  rw [judgePacket, Cmd.ofCode?_code]
  split
  · rfl
  · dsimp only
    cases cmd.subParser packet output <;> rfl

/-- The statuses of a frame that was lost are none of the codes of a sub-parser. -/
theorem ofInt_code_ne_lost {code : Int} (low : -4 ≤ code) (high : code ≤ 0) :
    UInt16.ofInt code ≠ ParseStatus.noPacket ∧ UInt16.ofInt code ≠ ParseStatus.invalidCrc := by
  interval_cases code <;> decide

theorem judgePacket_found {cmd : Cmd} {packet dataIn : List UInt8} {output : Payload}
    {processed : Nat} {parsed : Parsed}
    (returned : judgePacket cmd.code packet dataIn output processed = .ok parsed) :
    parsed.processed = processed ∧ parsed.err ≠ ParseStatus.noPacket ∧
      parsed.err ≠ ParseStatus.invalidCrc := by
  rw [judgePacket_code] at returned
  split at returned
  · cases returned
    exact ⟨rfl, (by decide : ParseStatus.rqRejected ≠ ParseStatus.noPacket),
      (by decide : ParseStatus.rqRejected ≠ ParseStatus.invalidCrc)⟩
  · cases called : cmd.subParser packet output with
    | error fault =>
        rw [called] at returned
        cases returned
    | ok result =>
        obtain ⟨code, response⟩ := result
        rw [called] at returned
        cases returned
        obtain ⟨low, high⟩ := cmd.returnsCode_subParser packet output code response called
        exact ⟨rfl, ofInt_code_ne_lost low high⟩

/-- A call on the frame of a body consumes it and reports it, only the sub-parser can leave the
language, and unless the body is a rejection it is what the sub-parser was called on. -/
structure RoundTrips (cmd : Cmd) (body : List UInt8) (output : Payload) (frame : List UInt8) :
    Prop where
  returns : ∀ parsed, rs232RspParse cmd.code frame output = .ok parsed →
    parsed.processed = frame.length ∧ parsed.err ≠ ParseStatus.noPacket ∧
      parsed.err ≠ ParseStatus.invalidCrc
  stops : ∀ fault, rs232RspParse cmd.code frame output = .error fault →
    parseRspIsNak body = false ∧ cmd.subParser body output = .error fault
  handed : parseRspIsNak body = false → ∃ zeroed, rs232RspParse cmd.code frame output =
    (cmd.subParser body output).map (Parsed.ofCall frame.length zeroed)

theorem roundTrips_of_judged {cmd : Cmd} {body frame zeroed : List UInt8} {output : Payload}
    (judged : rs232RspParse cmd.code frame output =
      judgePacket cmd.code body zeroed output frame.length) :
    RoundTrips cmd body output frame where
  returns parsed returned := judgePacket_found (judged.symm.trans returned)
  stops fault stopped := by
    rw [judged, judgePacket_code] at stopped
    cases rejected : parseRspIsNak body with
    | true =>
        rw [rejected] at stopped
        cases stopped
    | false =>
        rw [rejected, if_neg (by decide)] at stopped
        cases called : cmd.subParser body output with
        | error other =>
            rw [called] at stopped
            cases stopped
            exact ⟨rfl, rfl⟩
        | ok result =>
            rw [called] at stopped
            cases stopped
  handed accepted := by
    refine ⟨zeroed, ?_⟩
    rw [judged, judgePacket_code, accepted, if_neg (by decide)]

theorem not_roundTrips_of_lost {cmd : Cmd} {body frame : List UInt8} {output : Payload}
    (lost : Lost (rs232RspParse cmd.code frame output)) : ¬ RoundTrips cmd body output frame := by
  intro whole
  obtain ⟨parsed, returned, missing⟩ := lost
  obtain ⟨_, noPacket, invalidCrc⟩ := whole.returns parsed returned
  exact missing.elim noPacket invalidCrc

/-- The frame that `rs232_2400_serialize` writes for a body comes back exactly when no byte of its
checksum is a delimiter. -/
theorem roundTrips_iff {cmd : Cmd} {body frame : List UInt8} {output : Payload} {allocated : Bool}
    (nonempty : body ≠ []) (bodyPlain : openingParenthesis ∉ body)
    (bodyLine : carriageReturn ∉ body)
    (serialized : rs232Serialize allocated (openingParenthesis :: body) = .ok frame) :
    RoundTrips cmd body output frame ↔ CrcPlain body := by
  have written : replyFrame body = frame := by
    cases allocated with
    | false => cases serialized
    | true => exact Except.ok.inj serialized
  subst written
  obtain ⟨high, low, checksum⟩ := exists_checksum (openingParenthesis :: body)
  constructor
  · intro whole
    rw [crcPlain_iff checksum]
    rw [replyFrame_eq checksum] at whole
    by_contra delimiter
    by_cases parenthesis : high = openingParenthesis ∨ low = openingParenthesis
    · exact not_roundTrips_of_lost (lost_of_parenthesis cmd.code output nonempty parenthesis) whole
    · rw [not_or] at parenthesis
      obtain ⟨highPlain, lowPlain⟩ := parenthesis
      by_cases highLine : high = carriageReturn
      · subst highLine
        exact not_roundTrips_of_lost
          (lost_of_high_return cmd.code output nonempty bodyPlain bodyLine lowPlain checksum) whole
      · have lowLine : low = carriageReturn := by
          by_contra other
          exact delimiter ⟨⟨highPlain, highLine⟩, lowPlain, other⟩
        subst lowLine
        exact not_roundTrips_of_lost
          (lost_of_low_return cmd.code output nonempty bodyPlain bodyLine highPlain highLine
            checksum) whole
  · intro crcPlain
    have long : 5 ≤ ([] : List UInt8).length + (replyFrame body).length := by
      have positive : 0 < body.length := List.length_pos_of_ne_nil nonempty
      simp [replyFrame, crcBytes]
      omega
    obtain ⟨zeroed, judged⟩ :=
      rs232RspParse_framed bodyPlain bodyLine crcPlain [] long cmd.code output
    exact roundTrips_of_judged judged

/-- The reply `"0153"` to `QPICF`. -/
theorem roundTrips_iff_fault52 :
    RoundTrips .qpicf [48, 49, 53, 50] .zero (replyFrame [48, 49, 53, 50]) ↔
      CrcPlain [48, 49, 53, 50] :=
  roundTrips_iff (by decide) (by decide) (by decide)
    (rfl : rs232Serialize true [40, 48, 49, 53, 50] = .ok (replyFrame [48, 49, 53, 50]))

/-- The checksum of `"(0153"` starts with an opening parenthesis. -/
theorem fault53_lost :
    ¬ ∀ frame, rs232Serialize true (openingParenthesis :: [48, 49, 53, 51]) = .ok frame →
      RoundTrips .qpicf [48, 49, 53, 51] .zero frame := by
  intro always
  have whole := always (replyFrame [48, 49, 53, 51]) rfl
  have checksum : crc16Xmodem (openingParenthesis :: [48, 49, 53, 51]) =
      joinCrc openingParenthesis 181 := by decide +kernel
  rw [replyFrame_eq checksum] at whole
  exact not_roundTrips_of_lost
    (lost_of_parenthesis Cmd.qpicf.code .zero (by decide) (.inl rfl)) whole

end EsInverter.Rs232
