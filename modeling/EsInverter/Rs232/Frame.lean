import EsInverter.Lib.Wire
import EsInverter.Lib.Words
import EsInverter.Rs232.Protocol

/-!
# Frames

What `rs232_2400_rsp_parse` makes of the frames that `rs232_2400_serialize`
writes.  The checksum is sent as two raw bytes, so that it can hold the
delimiters that the parser searches for.
-/

set_option autoImplicit false

namespace EsInverter.Rs232

/-- `'(' b crc '\r'` -/
def replyFrame (body : List UInt8) : List UInt8 :=
  let text := openingParenthesis :: body
  text ++ crcBytes (crc16Xmodem text) ++ [carriageReturn]

theorem length_replyFrame (body : List UInt8) : (replyFrame body).length = body.length + 4 := by
  simp [replyFrame, crcBytes]

/-! ### The two bytes of a checksum -/

/-- Two bytes as the parser joins them. -/
def joinCrc (high low : UInt8) : UInt16 := high.toUInt16 <<< 8 ||| low.toUInt16

theorem toUInt8_and (crc : UInt16) : (crc &&& 0xFF).toUInt8 = crc.toUInt8 := by
  apply UInt8.toNat_inj.mp
  have masked : crc.toNat % 256 &&& 255 = crc.toNat % 256 % 256 :=
    Nat.and_two_pow_sub_one_eq_mod _ 8
  rw [Nat.mod_mod] at masked
  simpa using masked

theorem joinCrc_crcBytes (crc : UInt16) :
    joinCrc (crc >>> 8).toUInt8 (crc &&& 0xFF).toUInt8 = crc := by
  rw [joinCrc, toUInt8_and, UInt16.or_comm]
  exact Lib.Wire.le16_join crc

theorem crcBytes_joinCrc (high low : UInt8) : crcBytes (joinCrc high low) = [high, low] := by
  have first : (joinCrc high low >>> 8).toUInt8 = high := by
    apply Lib.byte_of_bits
    intro bit inside
    simp [joinCrc]
    grind
  have second : (joinCrc high low &&& 0xFF).toUInt8 = low := by
    rw [toUInt8_and]
    apply Lib.byte_of_bits
    intro bit inside
    simp [joinCrc]
  rw [crcBytes, first, second]

/-! ### The checksum of a text that ends with bytes of its checksum -/

theorem crc16Xmodem_concat (text : List UInt8) (byte : UInt8) :
    crc16Xmodem (text ++ [byte]) = crcStep (crc16Xmodem text) byte := by
  simp [crc16Xmodem]

/-- The high byte of a checksum only shifts it: the table starts with zero. -/
theorem crcStep_joinCrc (high low : UInt8) :
    crcStep (joinCrc high low) high = joinCrc low 0 := by
  have index : ((joinCrc high low >>> 8) ^^^ high.toUInt16) &&& 0x00FF = 0 := by
    apply UInt16.toBitVec_inj.mp
    apply BitVec.eq_of_getLsbD_eq
    intro bit inside
    simp [joinCrc]
    grind
  have first : crc16tab.getD (0 : UInt16).toNat 0 = 0 := by decide +kernel
  rw [crcStep, index, first, UInt16.xor_zero]
  apply UInt16.toBitVec_inj.mp
  apply BitVec.eq_of_getLsbD_eq
  intro bit inside
  simp [joinCrc]
  grind

/-- A text that ends with the high byte of the checksum before it. -/
theorem crc_high_appended {text : List UInt8} {high low : UInt8}
    (checksum : crc16Xmodem text = joinCrc high low) :
    crc16Xmodem (text ++ [high]) = joinCrc low 0 := by
  rw [crc16Xmodem_concat, checksum]
  exact crcStep_joinCrc high low

/-- A text that ends with its whole checksum. -/
theorem crc_appended {text : List UInt8} {high low : UInt8}
    (checksum : crc16Xmodem text = joinCrc high low) :
    crc16Xmodem (text ++ [high, low]) = joinCrc 0 0 := by
  have shifted := crc_high_appended (crc_high_appended checksum)
  rwa [List.append_assoc] at shifted

/-! ### The search -/

theorem packetStart_append (front rest : List UInt8) (position : Nat) (found : Option Nat) :
    packetStart (front ++ rest) position found =
      packetStart rest (position + front.length) (packetStart front position found) := by
  induction front generalizing position found with
  | nil => rfl
  | cons byte front ih =>
      rw [List.cons_append, packetStart, ih, packetStart, List.length_cons]
      congr 1
      omega

theorem packetStart_of_notMem {bytes : List UInt8} (none_ : openingParenthesis ∉ bytes)
    (position : Nat) (found : Option Nat) : packetStart bytes position found = found := by
  induction bytes generalizing position with
  | nil => rfl
  | cons byte rest ih =>
      rw [List.mem_cons, not_or] at none_
      obtain ⟨other, later⟩ := none_
      rw [packetStart, if_neg (Ne.symm other)]
      exact ih later _

/-- The last opening parenthesis, with what stands before and behind it. -/
theorem packetStart_last {front rest : List UInt8} (last : openingParenthesis ∉ rest) :
    packetStart (front ++ openingParenthesis :: rest) 0 none = some front.length := by
  rw [packetStart_append, packetStart, if_pos rfl, packetStart_of_notMem last, Nat.zero_add]

theorem packetEnd_first {text : List UInt8} (plain : carriageReturn ∉ text)
    (front rest : List UInt8) :
    packetEnd (front ++ text ++ carriageReturn :: rest) front.length =
      some (front.length + text.length) := by
  have found : (text ++ carriageReturn :: rest).findIdx? (· == carriageReturn) =
      some text.length := by
    rw [List.findIdx?_append]
    have none_ : text.findIdx? (· == carriageReturn) = none := by
      rw [List.findIdx?_eq_none_iff]
      intro byte inside
      rw [beq_eq_false_iff_ne]
      rintro rfl
      exact plain inside
    rw [none_]
    simp [List.findIdx?_cons]
  rw [packetEnd, List.append_assoc, List.drop_left, found]
  rfl

/-- The frame that the search finds: the last opening parenthesis up to the next carriage return. -/
theorem rs232RspParse_found (front inner rest : List UInt8)
    (last : openingParenthesis ∉ inner ++ carriageReturn :: rest) (plain : carriageReturn ∉ inner)
    (long : 5 ≤ front.length + inner.length + rest.length + 2) (rqId : UInt16)
    (output : Payload) :
    let text := openingParenthesis :: inner
    let dataIn := front ++ text ++ carriageReturn :: rest
    rs232RspParse rqId dataIn output =
      judgeFrame rqId dataIn output front.length (front.length + text.length) := by
  intro text dataIn
  have size : ¬ dataIn.length < 5 := by
    simp only [dataIn, text, List.length_append, List.length_cons]
    omega
  have started : packetStart dataIn 0 none = some front.length := by
    have split : dataIn = front ++ openingParenthesis :: (inner ++ carriageReturn :: rest) := by
      simp [dataIn, text]
    rw [split]
    exact packetStart_last last
  have clear : carriageReturn ∉ text := by
    rw [List.mem_cons, not_or]
    exact ⟨by decide, plain⟩
  have ended : packetEnd dataIn front.length = some (front.length + text.length) :=
    packetEnd_first clear front rest
  rw [rs232RspParse, if_neg size, started]
  dsimp only
  rw [ended]

/-! ### The checksum of a frame -/

theorem judgeFrame_short {start finish : Nat} (short : finish ≤ start + 2) (rqId : UInt16)
    (dataIn : List UInt8) (output : Payload) :
    judgeFrame rqId dataIn output start finish =
      .ok { processed := start, dataIn, output, err := ParseStatus.noPacket } := by
  rw [judgeFrame, if_pos (by omega)]

/-- The part of the frame before its checksum, the checksum and what follows. -/
theorem judgeFrame_long {text : List UInt8} (nonempty : text ≠ []) (front rest : List UInt8)
    (high low : UInt8) (rqId : UInt16) (output : Payload) :
    let dataIn := front ++ text ++ [high, low] ++ rest
    let finish := front.length + text.length + 2
    judgeFrame rqId dataIn output front.length finish =
      if crc16Xmodem text ≠ joinCrc high low then
        .ok { processed := finish + 1, dataIn, output, err := ParseStatus.invalidCrc }
      else
        judgePacket rqId text.tail (front ++ text ++ [0, 0] ++ rest) output (finish + 1) := by
  intro dataIn finish
  have positive : 0 < text.length := List.length_pos_of_ne_nil nonempty
  have joined : dataIn = (front ++ text) ++ high :: low :: rest := by simp [dataIn]
  have before : finish - 2 = (front ++ text).length := by simp [finish]
  have behind : finish - 1 = (front ++ text).length + 1 := by simp [finish]
  have highAt : dataIn.getD (finish - 2) 0 = high := by
    rw [before, joined, List.getD, List.getElem?_append_right (Nat.le_refl _)]
    simp
  have lowAt : dataIn.getD (finish - 1) 0 = low := by
    rw [behind, joined, List.getD, List.getElem?_append_right (Nat.le_add_right _ _)]
    simp
  have covered : (dataIn.drop front.length).take (finish - front.length - 2) = text := by
    have count : finish - front.length - 2 = text.length := by omega
    rw [count]
    simp [dataIn]
  have packet : (dataIn.drop (front.length + 1)).take (finish - front.length - 3) = text.tail := by
    obtain ⟨byte, inner, rfl⟩ := List.exists_cons_of_ne_nil nonempty
    have count : finish - front.length - 3 = inner.length := by
      simp only [finish, List.length_cons]
      omega
    have split : dataIn = (front ++ [byte]) ++ (inner ++ high :: low :: rest) := by simp [dataIn]
    have size : front.length + 1 = (front ++ [byte]).length := by simp
    rw [count, split, size, List.drop_left]
    simp
  have zeroed : (dataIn.set (finish - 2) 0).set (finish - 1) 0 =
      front ++ text ++ [0, 0] ++ rest := by
    rw [before, behind, joined, List.set_append_right _ _ (Nat.le_refl _),
      List.set_append_right _ _ (Nat.le_add_right _ _)]
    simp
  rw [judgeFrame, if_neg (by omega)]
  dsimp only
  rw [highAt, lowAt, covered, packet, zeroed]
  rfl

end EsInverter.Rs232
