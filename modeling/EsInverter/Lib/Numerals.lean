import EsInverter.Lib.Scanf

/-!
# Reading decimal digits

A run of decimal digits that ends where no digit follows is read whole, by itself
and in front of a point and a second run.
-/

set_option autoImplicit false

namespace EsInverter.Lib

/-- A nonempty run of decimal digits. -/
structure Numeral where
  digits : List UInt8
  nonempty : digits ≠ []
  decimal : ∀ byte ∈ digits, isDigit 10 byte = true

namespace Numeral

/-- The number that the digits stand for. -/
def value (numeral : Numeral) : Nat := ofDigits 10 numeral.digits

def length (numeral : Numeral) : Nat := numeral.digits.length

end Numeral

/-- No digit follows. -/
def NoDigit (rest : List UInt8) : Prop := ∀ byte ∈ rest.head?, isDigit 10 byte = false

theorem noDigit_nil : NoDigit [] := by
  intro byte head
  cases head

theorem noDigit_cons {byte : UInt8} (other : isDigit 10 byte = false) (rest : List UInt8) :
    NoDigit (byte :: rest) := by
  intro head found
  cases found
  exact other

theorem isSpace_of_isDigit {byte : UInt8} (digit : isDigit 10 byte = true) :
    isSpace byte = false := by
  revert byte
  decide +kernel

theorem readSign_of_isDigit {byte : UInt8} (digit : isDigit 10 byte = true) (rest : List UInt8) :
    readSign (byte :: rest) = (false, byte :: rest) := by
  have unsigned : byte ≠ 45 ∧ byte ≠ 43 := by
    constructor <;>
    · rintro rfl
      revert digit
      decide
  rw [readSign, if_neg unsigned.1, if_neg unsigned.2]

theorem takeWhile_of_noDigit {rest : List UInt8} (stops : NoDigit rest) :
    rest.takeWhile (isDigit 10) = [] := by
  cases rest with
  | nil => rfl
  | cons byte rest => simp [stops byte rfl]

namespace Numeral

variable (numeral : Numeral)

theorem exists_cons : ∃ first more, numeral.digits = first :: more ∧ isDigit 10 first = true := by
  obtain ⟨first, more, shape⟩ := List.exists_cons_of_ne_nil numeral.nonempty
  exact ⟨first, more, shape, numeral.decimal first (by simp [shape])⟩

variable {numeral} {rest : List UInt8}

theorem takeWhile_append (stops : NoDigit rest) :
    (numeral.digits ++ rest).takeWhile (isDigit 10) = numeral.digits := by
  rw [List.takeWhile_append_of_pos numeral.decimal, takeWhile_of_noDigit stops, List.append_nil]

variable (numeral rest)

theorem readSign_append :
    readSign (numeral.digits ++ rest) = (false, numeral.digits ++ rest) := by
  obtain ⟨first, more, shape, digit⟩ := numeral.exists_cons
  rw [shape, List.cons_append, readSign_of_isDigit digit]

/-- Space in front of a numeral is skipped up to it. -/
theorem dropWhile_isSpace :
    (numeral.digits ++ rest).dropWhile isSpace = numeral.digits ++ rest := by
  obtain ⟨first, more, shape, digit⟩ := numeral.exists_cons
  rw [shape, List.cons_append, List.dropWhile_cons_of_neg (by simp [isSpace_of_isDigit digit])]

variable {rest}

/-- A numeral is read whole. -/
theorem readInteger_append (stops : NoDigit rest) :
    readInteger 10 (numeral.digits ++ rest) = some (⟨false, numeral.value⟩, numeral.length) := by
  obtain ⟨first, more, shape, -⟩ := numeral.exists_cons
  rw [readInteger, readSign_append]
  simp only [Nat.reduceEqDiff, if_false, takeWhile_append stops, Nat.sub_self, Nat.zero_add]
  rw [shape]
  simp [value, length, shape]

end Numeral

/-! ### Values that fit the type they are read into -/

theorem toUnsigned_of_lt {value bits : Nat} (small : value < 2 ^ bits) :
    (⟨false, value⟩ : Integer).toUnsigned bits = value := by
  rw [Integer.toUnsigned, if_pos small]
  simp only [Integer.toInt, Bool.false_eq_true, if_false]
  rw [Int.emod_eq_of_lt (Int.natCast_nonneg value) (by exact_mod_cast small), Int.toNat_natCast]

theorem toLong_of_lt {value : Nat} (small : value < 2 ^ 31) :
    (⟨false, value⟩ : Integer).toLong = Int32.ofNat value := by
  have middle : max (-2 ^ 31 : Int) (min (2 ^ 31 - 1) value) = value := by omega
  simp only [Integer.toLong, Integer.toInt, Bool.false_eq_true, if_false]
  rw [middle, Int32.ofInt_eq_ofNat]

theorem ofDigits_lt {digits : List UInt8} (decimal : ∀ byte ∈ digits, isDigit 10 byte = true) :
    ofDigits 10 digits < 10 ^ digits.length := by
  induction digits using List.reverseRecOn with
  | nil => decide
  | append_singleton digits last ih =>
      have lastDigit : digitValue last < 10 :=
        of_decide_eq_true (decimal last (by simp))
      have front := ih fun byte inside => decimal byte (by simp [inside])
      rw [ofDigits, List.foldl_append, ← ofDigits, List.length_append, List.length_singleton,
        Nat.pow_succ, List.foldl_cons, List.foldl_nil]
      omega

/-- A numeral of some digits is below that power of ten. -/
theorem Numeral.value_lt (numeral : Numeral) : numeral.value < 10 ^ numeral.length :=
  ofDigits_lt numeral.decimal

end EsInverter.Lib
