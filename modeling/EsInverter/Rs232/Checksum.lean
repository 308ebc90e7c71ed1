import EsInverter.Lib.Remainder
import EsInverter.Rs232.Frame

/-!
# The table of the checksum

`crc16_xmodem` goes through its text a byte at a time, with one entry of a table for eight bits of
the division that defines the checksum.  The division is linear, so that an entry is needed for
each byte only and not for each byte at each checksum.
-/

set_option autoImplicit false

namespace EsInverter.Rs232

open Lib.Remainder

/-! ### The division -/

/-- The bits of a byte, the most significant one first. -/
def byteBits (byte : UInt8) : List Bool := (List.range 8).map byte.toBitVec.getMsbD

def textBits (text : List UInt8) : List Bool := text.flatMap byteBits

/-- `x^16 + x^12 + x^5 + 1` without its leading term. -/
def xmodemPolynomial : BitVec 16 := 0x1021

/-- CRC-16/XMODEM, a bit at a time. -/
def xmodemRemainder (text : List UInt8) : UInt16 :=
  ⟨remainder xmodemPolynomial 0 (textBits text)⟩

theorem xmodemPolynomial_odd : xmodemPolynomial.getLsbD 0 = true := rfl

@[simp]
theorem length_byteBits (byte : UInt8) : (byteBits byte).length = 8 := by simp [byteBits]

@[simp]
theorem length_textBits (text : List UInt8) : (textBits text).length = text.length * 8 := by
  simp [textBits, List.length_flatMap]

/-! ### The function as it is computed -/

/-- `*(char *)buf` as an `int`; the compiler decides whether `char` is signed. -/
def charValue (signed : Bool) (byte : UInt8) : UInt32 :=
  if signed then byte.toInt8.toInt32.toUInt32 else byte.toUInt32

/-- One iteration in `int` and the assignment to the sixteen bits of `crc`. -/
def crcStepInt (signed : Bool) (crc : UInt16) (byte : UInt8) : UInt16 :=
  let index := ((crc >>> 8).toUInt32 ^^^ charValue signed byte) &&& 0x00FF
  (crc.toUInt32 <<< 8 ^^^ (crc16tab.getD index.toNat 0).toUInt32).toUInt16

def crc16XmodemInt (signed : Bool) (buf : List UInt8) : UInt16 := buf.foldl (crcStepInt signed) 0

/-- A check of all bytes. -/
theorem forall_byte (holds : UInt8 → Prop) (checked : ∀ value < 256, holds (UInt8.ofNat value))
    (byte : UInt8) : holds byte := by
  rw [← UInt8.ofNat_toNat (x := byte)]
  exact checked byte.toNat byte.toNat_lt

theorem charValue_low (signed : Bool) (byte : UInt8) :
    (charValue signed byte).toNat % 2 ^ 8 = byte.toNat := by
  have checked := forall_byte (fun byte =>
    ∀ signed, (charValue signed byte).toNat % 2 ^ 8 = byte.toNat) (by decide +kernel) byte
  exact checked signed

/-- The mask drops what the sign extension adds. -/
theorem crcStepInt_eq (signed : Bool) (crc : UInt16) (byte : UInt8) :
    crcStepInt signed crc byte = crcStep crc byte := by
  have index : (((crc >>> 8).toUInt32 ^^^ charValue signed byte) &&& 0x00FF).toNat =
      (((crc >>> 8) ^^^ byte.toUInt16) &&& 0x00FF).toNat := by
    rw [UInt32.toNat_and, UInt16.toNat_and, UInt32.toNat_xor, UInt16.toNat_xor,
      UInt16.toNat_toUInt32, UInt8.toNat_toUInt16]
    change _ &&& (2 ^ 8 - 1) = _ &&& (2 ^ 8 - 1)
    rw [Nat.and_two_pow_sub_one_eq_mod, Nat.and_two_pow_sub_one_eq_mod, Nat.xor_mod_two_pow,
      Nat.xor_mod_two_pow, charValue_low, Nat.mod_eq_of_lt byte.toNat_lt]
  rw [crcStepInt, crcStep, index]
  simp

theorem crc16XmodemInt_eq (signed : Bool) (buf : List UInt8) :
    crc16XmodemInt signed buf = crc16Xmodem buf := by
  have steps : crcStepInt signed = crcStep := by
    funext crc byte
    exact crcStepInt_eq signed crc byte
  rw [crc16XmodemInt, crc16Xmodem, steps]

/-! ### One byte -/

/-- The register that holds two bytes. -/
def register (high low : UInt8) : BitVec 16 := (joinCrc high low).toBitVec

theorem register_xor (high other low lower : UInt8) :
    register (high ^^^ other) (low ^^^ lower) = register high low ^^^ register other lower := by
  apply BitVec.eq_of_getLsbD_eq
  intro place inside
  simp only [register, joinCrc, UInt16.toBitVec_or, UInt16.toBitVec_shiftLeft]
  simp
  grind

/-- Eight zeros. -/
def zeroBits : List Bool := List.replicate 8 false

theorem register_entry (index : UInt8) :
    (crc16tab.getD index.toNat 0).toBitVec =
      remainder xmodemPolynomial (register index 0) zeroBits :=
  forall_byte (fun index => (crc16tab.getD index.toNat 0).toBitVec =
    remainder xmodemPolynomial (register index 0) zeroBits) (by decide +kernel) index

/-- A byte that is in the register already divides without a remainder. -/
theorem register_byte (byte : UInt8) :
    remainder xmodemPolynomial (register byte 0) (byteBits byte) = 0 :=
  forall_byte (fun byte =>
    remainder xmodemPolynomial (register byte 0) (byteBits byte) = 0) (by decide +kernel) byte

/-- The low byte only moves up. -/
theorem register_low (low : UInt8) :
    remainder xmodemPolynomial (register 0 low) zeroBits = register low 0 :=
  forall_byte (fun low =>
    remainder xmodemPolynomial (register 0 low) zeroBits = register low 0) (by decide +kernel) low

theorem zipWith_zeroBits (byte : UInt8) :
    List.zipWith xor zeroBits (byteBits byte) = byteBits byte := by
  simp [zeroBits, byteBits, List.range_succ]

/-- The division of one byte: the register is taken apart into a part for the table, the byte that
leaves no remainder, and the low byte. -/
theorem remainder_byteBits (high low byte : UInt8) :
    remainder xmodemPolynomial (register high low) (byteBits byte) =
      register low 0 ^^^ (crc16tab.getD (high ^^^ byte).toNat 0).toBitVec := by
  have parts : register high low =
      register (high ^^^ byte) 0 ^^^ (register byte 0 ^^^ register 0 low) := by
    rw [← register_xor, ← register_xor]
    congr 1
    · rw [UInt8.xor_zero, UInt8.xor_assoc, UInt8.xor_self, UInt8.xor_zero]
    · rw [UInt8.zero_xor, UInt8.zero_xor]
  have aligned : (byteBits byte).length = zeroBits.length := by simp [zeroBits]
  have inner : remainder xmodemPolynomial (register byte 0 ^^^ register 0 low) (byteBits byte) =
      register low 0 := by
    have split := remainder_xor xmodemPolynomial aligned (register byte 0) (register 0 low)
    rw [List.zipWith_comm_of_comm Bool.xor_comm, zipWith_zeroBits] at split
    rw [split, register_byte, register_low]
    exact BitVec.zero_xor
  have outer := remainder_xor xmodemPolynomial aligned.symm (register (high ^^^ byte) 0)
    (register byte 0 ^^^ register 0 low)
  rw [zipWith_zeroBits] at outer
  rw [parts, outer, inner, ← register_entry, BitVec.xor_comm]

theorem crcStep_parts (high low byte : UInt8) :
    crcStep (joinCrc high low) byte =
      joinCrc low 0 ^^^ crc16tab.getD (high ^^^ byte).toNat 0 := by
  have top : joinCrc high low >>> 8 = high.toUInt16 := by
    apply UInt16.toBitVec_inj.mp
    apply BitVec.eq_of_getLsbD_eq
    intro place inside
    simp [joinCrc]
    grind
  have index : (((joinCrc high low >>> 8) ^^^ byte.toUInt16) &&& 0x00FF).toNat =
      (high ^^^ byte).toNat := by
    rw [top, UInt16.toNat_and, UInt16.toNat_xor, UInt8.toNat_toUInt16, UInt8.toNat_toUInt16,
      UInt8.toNat_xor]
    change _ &&& (2 ^ 8 - 1) = _
    rw [Nat.and_two_pow_sub_one_eq_mod, Nat.xor_mod_two_pow, Nat.mod_eq_of_lt high.toNat_lt,
      Nat.mod_eq_of_lt byte.toNat_lt]
  have moved : joinCrc high low <<< 8 = joinCrc low 0 := by
    apply UInt16.toBitVec_inj.mp
    apply BitVec.eq_of_getLsbD_eq
    intro place inside
    simp [joinCrc]
    grind
  rw [crcStep, index, moved]

/-- One step of the function divides one byte. -/
theorem crcStep_remainder (crc : UInt16) (byte : UInt8) :
    (crcStep crc byte).toBitVec =
      remainder xmodemPolynomial crc.toBitVec (byteBits byte) := by
  obtain ⟨high, low, rfl⟩ : ∃ high low, crc = joinCrc high low :=
    ⟨_, _, (joinCrc_crcBytes crc).symm⟩
  rw [crcStep_parts, UInt16.toBitVec_xor]
  exact (remainder_byteBits high low byte).symm

/-- The table computes the division. -/
theorem crc16Xmodem_remainder (text : List UInt8) : crc16Xmodem text = xmodemRemainder text := by
  have run : ∀ (text : List UInt8) (crc : UInt16), (text.foldl crcStep crc).toBitVec =
      remainder xmodemPolynomial crc.toBitVec (textBits text) := by
    intro text
    induction text with
    | nil =>
        intro crc
        rfl
    | cons byte text ih =>
        intro crc
        rw [List.foldl_cons, ih, crcStep_remainder, ← remainder_append]
        rfl
  apply UInt16.toBitVec_inj.mp
  exact run text 0

/-- A text that ends with its checksum divides without a remainder. -/
theorem crc16Xmodem_appended (text : List UInt8) :
    crc16Xmodem (text ++ crcBytes (crc16Xmodem text)) = 0 :=
  crc_appended (joinCrc_crcBytes (crc16Xmodem text)).symm

/-- The function computes CRC-16/XMODEM, whether or not `char` is signed. -/
theorem crc16Xmodem_divides (signed : Bool) (text : List UInt8) :
    crc16XmodemInt signed text = xmodemRemainder text ∧
      crc16XmodemInt signed (text ++ crcBytes (crc16XmodemInt signed text)) = 0 := by
  rw [crc16XmodemInt_eq, crc16XmodemInt_eq]
  exact ⟨crc16Xmodem_remainder text, crc16Xmodem_appended text⟩

end EsInverter.Rs232
