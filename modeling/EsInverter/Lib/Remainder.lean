import Mathlib

/-!
# Remainders of bit strings

A register of `w` bits divides a string of bits by a polynomial over the field of two elements,
one bit at a time and the most significant one first.  The polynomial is given without its
leading term.  A polynomial with a constant term loses nothing: no register is reached from two
others, and two strings that differ within `w` places have different remainders.
-/

set_option autoImplicit false

namespace EsInverter.Lib.Remainder

variable {w : Nat} {polynomial : BitVec w}

/-- The register moves up by one place, and the polynomial is subtracted when the bit that
leaves it and the bit that arrives differ. -/
def shiftIn (polynomial register : BitVec w) (bit : Bool) : BitVec w :=
  if register.msb ^^ bit then register <<< 1 ^^^ polynomial else register <<< 1

def remainder (polynomial register : BitVec w) (bits : List Bool) : BitVec w :=
  bits.foldl (shiftIn polynomial) register

@[simp]
theorem remainder_nil (polynomial register : BitVec w) :
    remainder polynomial register [] = register := rfl

@[simp]
theorem remainder_cons (polynomial register : BitVec w) (bit : Bool) (bits : List Bool) :
    remainder polynomial register (bit :: bits) =
      remainder polynomial (shiftIn polynomial register bit) bits := rfl

theorem remainder_append (polynomial register : BitVec w) (front back : List Bool) :
    remainder polynomial register (front ++ back) =
      remainder polynomial (remainder polynomial register front) back :=
  List.foldl_append

/-! ### Linearity -/

/-- The polynomial as often as it is subtracted, which is once or not at all. -/
def multiple (polynomial : BitVec w) (times : Bool) : BitVec w := if times then polynomial else 0

theorem multiple_xor (polynomial : BitVec w) (times other : Bool) :
    multiple polynomial (times ^^ other) =
      multiple polynomial times ^^^ multiple polynomial other := by
  cases times <;> cases other <;> simp [multiple]

theorem shiftIn_eq (polynomial register : BitVec w) (bit : Bool) :
    shiftIn polynomial register bit =
      register <<< 1 ^^^ multiple polynomial (register.msb ^^ bit) := by
  rw [shiftIn, multiple]
  split
  · rfl
  · exact BitVec.xor_zero.symm

theorem shiftIn_xor (polynomial first second : BitVec w) (bit other : Bool) :
    shiftIn polynomial (first ^^^ second) (bit ^^ other) =
      shiftIn polynomial first bit ^^^ shiftIn polynomial second other := by
  have crossed : ((first.msb ^^ second.msb) ^^ (bit ^^ other)) =
      ((first.msb ^^ bit) ^^ (second.msb ^^ other)) := by
    rw [Bool.xor_assoc, Bool.xor_assoc, Bool.xor_left_comm second.msb]
  rw [shiftIn_eq, shiftIn_eq, shiftIn_eq, BitVec.msb_xor, crossed, multiple_xor,
    BitVec.shiftLeft_xor_distrib]
  ac_rfl

/-- The remainder of a difference is the difference of the remainders. -/
theorem remainder_xor (polynomial : BitVec w) {bits others : List Bool}
    (aligned : bits.length = others.length) (first second : BitVec w) :
    remainder polynomial (first ^^^ second) (List.zipWith xor bits others) =
      remainder polynomial first bits ^^^ remainder polynomial second others := by
  induction bits generalizing others first second with
  | nil =>
      obtain rfl := List.length_eq_zero_iff.mp aligned.symm
      rfl
  | cons bit bits ih =>
      cases others with
      | nil => cases aligned
      | cons other others =>
          have rest : bits.length = others.length := Nat.succ.inj aligned
          rw [List.zipWith_cons_cons, remainder_cons, shiftIn_xor, ih rest]
          rfl

/-! ### Polynomials with a constant term -/

/-- The constant term arrives in the lowest place as often as the polynomial is subtracted. -/
theorem shiftIn_lowest (odd : polynomial.getLsbD 0 = true) (register : BitVec w) (bit : Bool) :
    (shiftIn polynomial register bit).getLsbD 0 = (register.msb ^^ bit) := by
  rw [shiftIn_eq, multiple, BitVec.getLsbD_xor]
  cases register.msb ^^ bit <;> simp [odd]

/-- The lowest place is clear when the polynomial was not subtracted. -/
theorem shiftIn_of_lowest (odd : polynomial.getLsbD 0 = true) {register : BitVec w} {bit : Bool}
    (clear : (shiftIn polynomial register bit).getLsbD 0 = false) :
    register.msb = bit ∧ shiftIn polynomial register bit = register <<< 1 := by
  rw [shiftIn_lowest odd] at clear
  refine ⟨by simpa using clear, ?_⟩
  rw [shiftIn_eq, clear, multiple]
  exact BitVec.xor_zero

/-- A register that vanishes over a string of at most `w` bits held just these bits, the first
one in its highest place. -/
theorem getMsbD_of_remainder_eq_zero (odd : polynomial.getLsbD 0 = true) {bits : List Bool}
    (short : bits.length ≤ w) {register : BitVec w} (vanishes : remainder polynomial register bits = 0)
    (place : Nat) : register.getMsbD place = bits.getD place false := by
  induction bits generalizing register place with
  | nil =>
      rw [remainder_nil] at vanishes
      rw [vanishes]
      simp
  | cons bit bits ih =>
      rw [List.length_cons] at short
      have shifted := ih (by omega) vanishes
      have lowest := shifted (w - 1)
      rw [List.getD_eq_default _ _ (by omega), BitVec.getMsbD_eq_getLsbD, Nat.sub_self,
        decide_eq_true (by omega), Bool.true_and] at lowest
      obtain ⟨highest, moved⟩ := shiftIn_of_lowest odd lowest
      cases place with
      | zero =>
          rw [← BitVec.msb_eq_getMsbD_zero]
          exact highest
      | succ place =>
          have next := shifted place
          rw [moved, BitVec.getMsbD_shiftLeft] at next
          exact next

/-- A register is not reached from two others. -/
theorem shiftIn_injective (odd : polynomial.getLsbD 0 = true) {first second : BitVec w} {bit : Bool}
    (same : shiftIn polynomial first bit = shiftIn polynomial second bit) : first = second := by
  have difference : shiftIn polynomial (first ^^^ second) false = 0 := by
    rw [← Bool.xor_self bit, shiftIn_xor, same, BitVec.xor_self]
    rfl
  have clear : (shiftIn polynomial (first ^^^ second) false).getLsbD 0 = false := by
    rw [difference]
    exact BitVec.getLsbD_zero
  obtain ⟨highest, moved⟩ := shiftIn_of_lowest odd clear
  rw [difference] at moved
  apply BitVec.xor_eq_zero_iff.mp
  apply BitVec.eq_of_getMsbD_eq
  intro place inside
  cases place with
  | zero =>
      rw [← BitVec.msb_eq_getMsbD_zero, highest]
      simp
  | succ place =>
      rw [← BitVec.getMsbD_shiftLeft, ← moved]
      simp

theorem remainder_injective (odd : polynomial.getLsbD 0 = true) {first second : BitVec w}
    {bits : List Bool}
    (same : remainder polynomial first bits = remainder polynomial second bits) :
    first = second := by
  induction bits generalizing first second with
  | nil => exact same
  | cons bit bits ih => exact shiftIn_injective odd (ih same)

/-- Strings of at most `w` bits have different remainders. -/
theorem eq_of_remainder_eq (odd : polynomial.getLsbD 0 = true) {bits others : List Bool}
    (aligned : bits.length = others.length) (short : bits.length ≤ w) {register : BitVec w}
    (same : remainder polynomial register bits = remainder polynomial register others) :
    bits = others := by
  have vanishes : remainder polynomial (register ^^^ register) (List.zipWith xor bits others) = 0 := by
    rw [remainder_xor polynomial aligned, same, BitVec.xor_self]
    rfl
  have read := getMsbD_of_remainder_eq_zero odd (by simp; omega) vanishes
  apply List.ext_getElem aligned
  intro place inside other
  have clear := read place
  rw [BitVec.xor_self, BitVec.getMsbD_zero, List.getD_eq_getElem _ _ (by simp; omega),
    List.getElem_zipWith] at clear
  simpa using clear.symm

/-- Strings that differ within `w` places have different remainders. -/
theorem eq_of_burst (odd : polynomial.getLsbD 0 = true) {front bits others back : List Bool}
    (aligned : bits.length = others.length) (short : bits.length ≤ w) {register : BitVec w}
    (same : remainder polynomial register (front ++ bits ++ back) =
      remainder polynomial register (front ++ others ++ back)) : bits = others := by
  rw [remainder_append, remainder_append, remainder_append, remainder_append] at same
  exact eq_of_remainder_eq odd aligned short (remainder_injective odd same)

theorem split_burst (bits : List Bool) (start length : Nat) :
    bits.take start ++ (bits.drop start).take length ++ bits.drop (start + length) = bits := by
  rw [List.append_assoc, ← List.drop_drop, List.take_append_drop, List.take_append_drop]

/-- The same, with the places where the strings differ. -/
theorem eq_of_near (odd : polynomial.getLsbD 0 = true) {bits others : List Bool}
    (aligned : bits.length = others.length) {start : Nat}
    (near : ∀ place, bits[place]? ≠ others[place]? → start ≤ place ∧ place < start + w)
    {register : BitVec w}
    (same : remainder polynomial register bits = remainder polynomial register others) :
    bits = others := by
  have before : bits.take start = others.take start := by
    apply List.ext_getElem?
    intro place
    rw [List.getElem?_take, List.getElem?_take]
    split
    · exact Decidable.byContradiction fun differ => absurd (near place differ).1 (by omega)
    · rfl
  have behind : bits.drop (start + w) = others.drop (start + w) := by
    apply List.ext_getElem?
    intro place
    rw [List.getElem?_drop, List.getElem?_drop]
    exact Decidable.byContradiction fun differ => absurd (near _ differ).2 (by omega)
  rw [← split_burst bits start w, ← split_burst others start w, before, behind] at same
  have within := eq_of_burst odd (by simp [aligned]) (by simp) same
  rw [← split_burst bits start w, ← split_burst others start w, before, behind, within]

end EsInverter.Lib.Remainder
