import Mathlib

/-!
# A flag that alternates while a counter runs down

Each step shows the flag and turns it around.  A flag that is set exactly when
the number of steps left is even is shown as often set as not, and not set at
last.
-/

set_option autoImplicit false

namespace EsInverter.Lib

/-- What a number of steps show. -/
def alternating : Bool → Nat → List Bool
  | _, 0 => []
  | flag, count + 1 => flag :: alternating (!flag) count

@[simp]
theorem length_alternating (flag : Bool) (count : Nat) :
    (alternating flag count).length = count := by
  induction count generalizing flag with
  | zero => rfl
  | succ count ih => rw [alternating, List.length_cons, ih]

/-- The flag is set exactly when the number of steps left is even. -/
def InStep (flag : Bool) (left : Nat) : Prop := flag = true ↔ left % 2 = 0

instance (flag : Bool) (left : Nat) : Decidable (InStep flag left) :=
  inferInstanceAs (Decidable (_ ↔ _))

variable {flag : Bool} {left : Nat}

theorem inStep_true : InStep true left ↔ left % 2 = 0 := by
  rw [InStep, iff_true_left rfl]

theorem inStep_false : InStep false left ↔ left % 2 = 1 := by
  rw [InStep, iff_false_left Bool.false_ne_true]
  omega

theorem InStep.turn (inStep : InStep flag (left + 1)) : InStep (!flag) left := by
  cases flag with
  | true =>
      rw [inStep_true] at inStep
      rw [Bool.not_true, inStep_false]
      omega
  | false =>
      rw [inStep_false] at inStep
      rw [Bool.not_false, inStep_true]
      omega

theorem count_alternating (inStep : InStep flag left) :
    (alternating flag left).count true = left / 2 := by
  induction left generalizing flag with
  | zero => rfl
  | succ left ih =>
      rw [alternating, List.count_cons, ih inStep.turn]
      cases flag with
      | true =>
          rw [inStep_true] at inStep
          simp only [beq_self_eq_true, if_true]
          omega
      | false =>
          rw [inStep_false] at inStep
          simp only [Bool.false_beq, Bool.not_true, Bool.false_eq_true, if_false]
          omega

theorem getLast_alternating (inStep : InStep flag (left + 1)) :
    (alternating flag (left + 1)).getLast? = some false := by
  induction left generalizing flag with
  | zero =>
      cases flag with
      | true => exact absurd (inStep_true.mp inStep) (by decide)
      | false => rfl
  | succ left ih =>
      rw [alternating, alternating, List.getLast?_cons_cons]
      exact ih inStep.turn

end EsInverter.Lib
