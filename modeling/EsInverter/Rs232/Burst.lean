import EsInverter.Rs232.Checksum

/-!
# Frames that were changed on the line

A frame whose changes stay within sixteen consecutive bits has another remainder, so that the
parser rejects it, provided that the parser finds the whole frame.
-/

set_option autoImplicit false

namespace EsInverter.Rs232

open Lib.Remainder

/-! ### Changed texts -/

/-- The text that is received instead of the one that was sent: its changes stand between the
first and the last byte and within sixteen consecutive bits. -/
structure Burst (sent received : List UInt8) : Prop where
  aligned : received.length = sent.length
  differs : received ≠ sent
  first : received.head? = sent.head?
  last : received.getLast? = sent.getLast?
  near : ∃ start, ∀ place, (textBits sent)[place]? ≠ (textBits received)[place]? →
    start ≤ place ∧ place < start + 16

/-- The last opening parenthesis and the first carriage return behind it stay where they were. -/
structure SameDelimiters (sent received : List UInt8) : Prop where
  opened : packetStart received 0 none = packetStart sent 0 none
  closed : ∀ start, packetStart sent 0 none = some start →
    packetEnd received start = packetEnd sent start

/-- The parser finds the frame from its first to its last byte. -/
structure Whole (frame : List UInt8) : Prop where
  opened : packetStart frame 0 none = some 0
  closed : packetEnd frame 0 = some (frame.length - 1)

/-- The changed frame is consumed with an error and nothing is decoded. -/
def Rejected (sent received : List UInt8) (rqId : UInt16) (output : Payload) : Prop :=
  rs232RspParse rqId received output =
    .ok { processed := sent.length, dataIn := received, output, err := ParseStatus.invalidCrc }

/-! ### Texts with the same remainder -/

theorem byteBits_injective {byte other : UInt8} (same : byteBits byte = byteBits other) :
    byte = other := by
  apply UInt8.toBitVec_inj.mp
  apply BitVec.eq_of_getMsbD_eq
  intro place inside
  have read := congrArg (fun bits => bits[place]?) same
  simpa [byteBits, inside] using read

theorem textBits_append (front back : List UInt8) :
    textBits (front ++ back) = textBits front ++ textBits back :=
  List.flatMap_append

theorem textBits_injective {text other : List UInt8} (same : textBits text = textBits other) :
    text = other := by
  induction text generalizing other with
  | nil =>
      cases other with
      | nil => rfl
      | cons byte other => simpa using congrArg List.length same
  | cons byte text ih =>
      cases other with
      | nil => simpa using congrArg List.length same
      | cons second other =>
          obtain ⟨head, rest⟩ := List.append_inj same (by simp)
          rw [byteBits_injective head, ih rest]

/-- Texts of one checksum that differ within sixteen bits are the same. -/
theorem eq_of_crc16Xmodem_eq {text other : List UInt8} (aligned : text.length = other.length)
    {start : Nat}
    (near : ∀ place, (textBits text)[place]? ≠ (textBits other)[place]? →
      start ≤ place ∧ place < start + 16)
    (same : crc16Xmodem text = crc16Xmodem other) : text = other := by
  rw [crc16Xmodem_remainder, crc16Xmodem_remainder] at same
  have registers := congrArg UInt16.toBitVec same
  exact textBits_injective
    (eq_of_near xmodemPolynomial_odd (by simp [aligned]) near registers)

/-- A byte at the end of both texts does not count. -/
theorem near_dropLast {text other : List UInt8} (aligned : text.length = other.length) {byte : UInt8}
    {start : Nat}
    (near : ∀ place, (textBits (text ++ [byte]))[place]? ≠ (textBits (other ++ [byte]))[place]? →
      start ≤ place ∧ place < start + 16) (place : Nat)
    (differ : (textBits text)[place]? ≠ (textBits other)[place]?) :
    start ≤ place ∧ place < start + 16 := by
  apply near place
  rw [textBits_append, textBits_append]
  by_cases inside : place < (textBits text).length
  · rw [List.getElem?_append_left inside, List.getElem?_append_left (by simpa [aligned] using inside)]
    exact differ
  · refine absurd ?_ differ
    rw [List.getElem?_eq_none (by omega), List.getElem?_eq_none (by simp_all)]

/-- Only the bits of the texts are looked at. -/
theorem burst_of_checked {sent received : List UInt8} (start : Nat)
    (aligned : received.length = sent.length) (differs : received ≠ sent)
    (first : received.head? = sent.head?) (last : received.getLast? = sent.getLast?)
    (checked : ∀ place < sent.length * 8, (textBits sent)[place]? ≠ (textBits received)[place]? →
      start ≤ place ∧ place < start + 16) : Burst sent received := by
  refine ⟨aligned, differs, first, last, start, ?_⟩
  intro place differ
  apply checked place _ differ
  by_contra outside
  apply differ
  rw [List.getElem?_eq_none (by simpa using outside),
    List.getElem?_eq_none (by simpa [aligned] using outside)]

/-! ### A changed frame -/

theorem replyFrame_split (body : List UInt8) :
    replyFrame body =
      (openingParenthesis :: body) ++ crcBytes (crc16Xmodem (openingParenthesis :: body)) ++
        [carriageReturn] := rfl

/-- The parts of a received frame, whose carriage return is the one that was sent. -/
theorem Burst.parts {body received : List UInt8} (burst : Burst (replyFrame body) received) :
    ∃ text high low, received = text ++ [high, low] ++ [carriageReturn] ∧
      text.length = body.length + 1 := by
  have size : received.length = body.length + 4 := by rw [burst.aligned, length_replyFrame]
  obtain ⟨high, low, last, tail⟩ : ∃ high low last,
      received.drop (body.length + 1) = [high, low, last] := by
    apply List.length_eq_three.mp
    rw [List.length_drop, size]
    omega
  have joined : received = received.take (body.length + 1) ++ [high, low, last] := by
    rw [← tail, List.take_append_drop]
  have ended : last = carriageReturn := by
    have same := burst.last
    have concat : [high, low, last] = [high, low] ++ [last] := rfl
    rw [joined, concat, ← List.append_assoc, List.getLast?_concat, replyFrame_split,
      List.getLast?_concat] at same
    exact Option.some.inj same
  rw [ended] at joined
  refine ⟨received.take (body.length + 1), high, low, by rw [List.append_assoc]; exact joined, ?_⟩
  rw [List.length_take, size]
  omega

/-- The checksum that is received is not the one of the text that is received. -/
theorem Burst.crc_ne {body text : List UInt8} {high low : UInt8}
    (burst : Burst (replyFrame body) (text ++ [high, low] ++ [carriageReturn])) :
    crc16Xmodem text ≠ joinCrc high low := by
  intro accepted
  let sent := (openingParenthesis :: body) ++ crcBytes (crc16Xmodem (openingParenthesis :: body))
  have aligned : sent.length = (text ++ [high, low]).length := by
    have whole : (text ++ [high, low] ++ [carriageReturn]).length =
        (sent ++ [carriageReturn]).length := burst.aligned
    simp only [List.length_append, List.length_cons, List.length_nil] at whole ⊢
    omega
  have zero : crc16Xmodem (text ++ [high, low]) = 0 := crc_appended accepted
  obtain ⟨start, near⟩ := burst.near
  have same : sent = text ++ [high, low] :=
    eq_of_crc16Xmodem_eq aligned (near_dropLast aligned near)
      ((crc16Xmodem_appended _).trans zero.symm)
  apply burst.differs
  rw [replyFrame_split, ← same]

/-- Every burst of up to sixteen bits in a frame that the parser finds whole is noticed. -/
theorem rs232RspParse_burst {body received : List UInt8} (nonempty : body ≠ [])
    (whole : Whole (replyFrame body)) (burst : Burst (replyFrame body) received)
    (same : SameDelimiters (replyFrame body) received) (rqId : UInt16) (output : Payload) :
    Rejected (replyFrame body) received rqId output := by
  have size := length_replyFrame body
  have opened : packetStart received 0 none = some 0 := same.opened.trans whole.opened
  have closed : packetEnd received 0 = some ((replyFrame body).length - 1) :=
    (same.closed 0 whole.opened).trans whole.closed
  have long : ¬ received.length < 5 := by
    have positive := List.length_pos_of_ne_nil nonempty
    rw [burst.aligned]
    omega
  obtain ⟨text, high, low, rfl, covered⟩ := burst.parts
  have judged := judgeFrame_long (List.ne_nil_of_length_eq_add_one covered) [] [carriageReturn] high
    low rqId output
  dsimp only [List.nil_append, List.length_nil] at judged
  rw [if_pos burst.crc_ne, Nat.zero_add] at judged
  have finish : (replyFrame body).length - 1 = text.length + 2 := by omega
  have consumed : text.length + 2 + 1 = (replyFrame body).length := by omega
  rw [Rejected, rs232RspParse, if_neg long, opened]
  dsimp only
  rw [closed]
  dsimp only
  rw [finish, judged, consumed]

/-- Two bits of a reply to `QMOD`. -/
theorem burst_mode : Burst (replyFrame [66]) [40, 67, 0xef, 0xc9, 13] :=
  burst_of_checked 8 (by decide +kernel) (by decide +kernel) (by decide +kernel)
    (by decide +kernel) (by decide +kernel)

theorem rs232RspParse_burst_mode :
    Rejected (replyFrame [66]) [40, 67, 0xef, 0xc9, 13] 10 .zero :=
  rs232RspParse_burst (by decide) ⟨by decide +kernel, by decide +kernel⟩ burst_mode
    ⟨by decide +kernel, by decide +kernel⟩ 10 .zero

/-- A frame of four bytes is too short to be looked at, and of a frame with an opening parenthesis
inside only the part from there on is checked. -/
theorem rs232RspParse_burst_unnoticed :
    (Burst (replyFrame []) [40, 0xa4, 0x6a, 13] ∧
        SameDelimiters (replyFrame []) [40, 0xa4, 0x6a, 13] ∧
        ¬ Rejected (replyFrame []) [40, 0xa4, 0x6a, 13] 10 .zero) ∧
      Burst (replyFrame [40, 97]) [40, 40, 97, 0xf3, 0xc8, 13] ∧
        SameDelimiters (replyFrame [40, 97]) [40, 40, 97, 0xf3, 0xc8, 13] ∧
        ¬ Rejected (replyFrame [40, 97]) [40, 40, 97, 0xf3, 0xc8, 13] 10 .zero := by
  refine ⟨⟨?_, ⟨by decide +kernel, by decide +kernel⟩, ?_⟩, ?_,
    ⟨by decide +kernel, by decide +kernel⟩, ?_⟩
  · exact burst_of_checked 8 (by decide +kernel) (by decide +kernel) (by decide +kernel)
      (by decide +kernel) (by decide +kernel)
  · rw [Rejected]
    decide +kernel
  · exact burst_of_checked 24 (by decide +kernel) (by decide +kernel) (by decide +kernel)
      (by decide +kernel) (by decide +kernel)
  · rw [Rejected]
    decide +kernel

end EsInverter.Rs232
