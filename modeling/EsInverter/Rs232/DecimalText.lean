import EsInverter.Lib.Numerals
import EsInverter.Rs232.SubParsers

/-!
# Numbers that `strdec2int` reads

The loop takes a minus sign wherever it stands, as a digit of value -3.  It reads the numerals
that fit an `int`, and it stops at a character that is no digit; every other text is read as a
number that was not written.
-/

set_option autoImplicit false

namespace EsInverter.Rs232

open Lib

/-! ### What a text stands for -/

def FitsInt (value : Int) : Prop := -2 ^ 31 ≤ value ∧ value < 2 ^ 31

/-- An optional minus sign and one or more decimal digits. -/
inductive Denotes : List UInt8 → Int → Prop
  | positive (numeral : Numeral) : Denotes numeral.digits numeral.value
  | negative (numeral : Numeral) : Denotes (45 :: numeral.digits) (-numeral.value)

/-! ### The loop in exact arithmetic -/

/-- The characters that the loop goes on with. -/
def Accepted (byte : UInt8) : Prop := ¬ ((byte < 48 ∨ byte > 57) ∧ byte ≠ 45)

instance (byte : UInt8) : Decidable (Accepted byte) := inferInstanceAs (Decidable (¬ _))

/-- `data[i] - '0'` -/
def charDigit (byte : UInt8) : Int := byte.toNat - 48

def valueFrom (out : Int) (text : List UInt8) : Int :=
  text.foldl (fun value byte => value * 10 + charDigit byte) out

/-- The number that is read when nothing overflows. -/
def signedValue (text : List UInt8) : Int := valueFrom 0 text

/-- No product and no sum leaves the range of `int`. -/
def ExactFrom : List UInt8 → Int → Prop
  | [], _ => True
  | byte :: rest, out =>
      if (byte < 48 ∨ byte > 57) ∧ byte ≠ 45 then True
      else FitsInt (out * 10) ∧ FitsInt (out * 10 + charDigit byte) ∧
        ExactFrom rest (out * 10 + charDigit byte)

def Exact (text : List UInt8) : Prop := ExactFrom text 0

/-- `strdec2int` reads the texts that stand for an `int`, and only these. -/
structure ReadsDecimal (text : List UInt8) : Prop where
  value : ∀ value, Denotes text value → FitsInt value → strdec2int text = (0, Int32.ofInt value)
  rejects : (¬ ∃ value, Denotes text value ∧ FitsInt value) → (strdec2int text).1 = -1
  exact_ : Exact text

/-! ### Accepted texts -/

theorem valueFrom_concat (out : Int) (text : List UInt8) (byte : UInt8) :
    valueFrom out (text ++ [byte]) = valueFrom out text * 10 + charDigit byte := by
  simp [valueFrom]

/-- The loop computes modulo 2 ^ 32. -/
theorem strdec2intFrom_accepted {text : List UInt8} (accepted : ∀ byte ∈ text, Accepted byte)
    (out : Int) :
    strdec2intFrom text (Int32.ofInt out) = (0, Int32.ofInt (valueFrom out text)) := by
  induction text generalizing out with
  | nil => rfl
  | cons byte text ih =>
      obtain ⟨head, rest⟩ := List.forall_mem_cons.mp accepted
      have step : Int32.ofInt out * 10 + (Int32.ofNat byte.toNat - 48) =
          Int32.ofInt (out * 10 + charDigit byte) := by
        rw [charDigit, Int32.ofInt_add, Int32.ofInt_mul, Int32.ofInt_sub, Int32.ofInt_eq_ofNat]
        rfl
      rw [strdec2intFrom, if_neg head, step, ih rest]
      rfl

/-- The loop ends at the first character that it does not accept. -/
theorem strdec2intFrom_rejected {front : List UInt8} (accepted : ∀ byte ∈ front, Accepted byte)
    {bad : UInt8} (rejected : ¬ Accepted bad) (rest : List UInt8) (out : Int32) :
    (strdec2intFrom (front ++ bad :: rest) out).1 = -1 := by
  induction front generalizing out with
  | nil =>
      rw [List.nil_append, strdec2intFrom, if_pos (not_not.mp rejected)]
  | cons byte front ih =>
      obtain ⟨head, later⟩ := List.forall_mem_cons.mp accepted
      rw [List.cons_append, strdec2intFrom, if_neg head]
      exact ih later _

theorem exactFrom_cons {byte : UInt8} (taken : Accepted byte) (rest : List UInt8) (out : Int) :
    ExactFrom (byte :: rest) out ↔
      FitsInt (out * 10) ∧ FitsInt (out * 10 + charDigit byte) ∧
        ExactFrom rest (out * 10 + charDigit byte) := by
  rw [ExactFrom, if_neg taken]

theorem exactFrom_stop {bad : UInt8} (rejected : ¬ Accepted bad) (rest : List UInt8) (out : Int) :
    ExactFrom (bad :: rest) out := by
  rw [ExactFrom, if_pos (not_not.mp rejected)]
  trivial

theorem exactFrom_rejected {front : List UInt8} (accepted : ∀ byte ∈ front, Accepted byte)
    {bad : UInt8} (rejected : ¬ Accepted bad) (rest : List UInt8) (out : Int) :
    ExactFrom (front ++ bad :: rest) out ↔ ExactFrom front out := by
  induction front generalizing out with
  | nil => exact iff_of_true (exactFrom_stop rejected rest out) trivial
  | cons byte front ih =>
      obtain ⟨head, later⟩ := List.forall_mem_cons.mp accepted
      rw [List.cons_append, exactFrom_cons head, exactFrom_cons head, ih later]

theorem exactFrom_concat {front : List UInt8} (accepted : ∀ byte ∈ front, Accepted byte)
    {last : UInt8} (taken : Accepted last) (out : Int) :
    ExactFrom (front ++ [last]) out ↔
      ExactFrom front out ∧ FitsInt (valueFrom out front * 10) ∧
        FitsInt (valueFrom out (front ++ [last])) := by
  induction front generalizing out with
  | nil =>
      rw [List.nil_append, exactFrom_cons taken]
      simp [valueFrom, ExactFrom]
  | cons byte front ih =>
      obtain ⟨head, later⟩ := List.forall_mem_cons.mp accepted
      rw [List.cons_append, exactFrom_cons head, exactFrom_cons head, ih later]
      simp only [valueFrom, List.foldl_cons, and_assoc]

theorem charDigit_bounds {byte : UInt8} (taken : Accepted byte) :
    -3 ≤ charDigit byte ∧ charDigit byte ≤ 9 := by
  have low : 45 ≤ byte.toNat ∧ byte.toNat ≤ 57 := by
    rw [Accepted, not_and_or, not_or, not_not, UInt8.not_lt, gt_iff_lt, UInt8.not_lt,
      UInt8.le_iff_toNat_le, UInt8.le_iff_toNat_le] at taken
    rcases taken with ⟨first, second⟩ | rfl
    · have least : 48 ≤ byte.toNat := first
      have most : byte.toNat ≤ 57 := second
      omega
    · decide
  rw [charDigit]
  omega

/-- The last product and the last sum are the largest ones. -/
theorem exact_iff {text : List UInt8} (accepted : ∀ byte ∈ text, Accepted byte)
    (nonempty : text ≠ []) :
    Exact text ↔ FitsInt (signedValue text.dropLast * 10) ∧ FitsInt (signedValue text) := by
  induction text using List.reverseRecOn with
  | nil => exact absurd rfl nonempty
  | append_singleton front last ih =>
      have taken : Accepted last := accepted last (by simp)
      have before : ∀ byte ∈ front, Accepted byte :=
        fun byte inside => accepted byte (by simp [inside])
      rw [Exact, exactFrom_concat before taken, List.dropLast_concat, signedValue, signedValue]
      refine and_iff_right_of_imp ?_
      rintro ⟨product, -⟩
      by_cases empty : front = []
      · rw [empty]
        trivial
      · rw [← Exact, ih before empty]
        have split := valueFrom_concat 0 front.dropLast (front.getLast empty)
        rw [List.dropLast_append_getLast] at split
        obtain ⟨least, most⟩ := charDigit_bounds (before _ (List.getLast_mem empty))
        simp only [signedValue, FitsInt] at product ⊢
        omega

/-! ### Numerals -/

theorem accepted_iff (byte : UInt8) : Accepted byte ↔ isDigit 10 byte = true ∨ byte = 45 := by
  revert byte
  decide +kernel

theorem charDigit_of_isDigit {byte : UInt8} (digit : isDigit 10 byte = true) :
    charDigit byte = digitValue byte := by
  revert byte
  decide +kernel

theorem valueFrom_digits {digits : List UInt8} (decimal : ∀ byte ∈ digits, isDigit 10 byte = true)
    (out : Int) : valueFrom out digits = out * 10 ^ digits.length + ofDigits 10 digits := by
  induction digits using List.reverseRecOn with
  | nil => simp [valueFrom, ofDigits]
  | append_singleton digits last ih =>
      rw [valueFrom_concat, ih fun byte inside => decimal byte (by simp [inside]),
        charDigit_of_isDigit (decimal last (by simp)), ofDigits, ofDigits, List.foldl_append,
        List.length_append, List.length_singleton, pow_succ]
      push_cast [List.foldl_cons, List.foldl_nil]
      ring

section

variable (numeral : Numeral)

theorem accepted_digits : ∀ byte ∈ numeral.digits, Accepted byte :=
  fun byte inside => (accepted_iff byte).mpr (.inl (numeral.decimal byte inside))

theorem signedValue_digits : signedValue numeral.digits = numeral.value := by
  rw [signedValue, valueFrom_digits numeral.decimal, zero_mul, zero_add]
  rfl

/-- The sign counts as a digit in front of the others. -/
theorem signedValue_negative :
    signedValue (45 :: numeral.digits) = -3 * 10 ^ numeral.length + numeral.value := by
  have first : valueFrom 0 (45 :: numeral.digits) = valueFrom (-3) numeral.digits := rfl
  rw [signedValue, first, valueFrom_digits numeral.decimal]
  rfl

theorem exact_digits (fits : FitsInt numeral.value) : Exact numeral.digits := by
  rw [exact_iff (accepted_digits numeral) numeral.nonempty, signedValue_digits]
  refine ⟨?_, fits⟩
  have split := valueFrom_concat 0 numeral.digits.dropLast (numeral.digits.getLast numeral.nonempty)
  have front := valueFrom_digits
    (fun byte inside => numeral.decimal byte (List.mem_of_mem_dropLast inside)) 0
  have last := charDigit_of_isDigit (numeral.decimal _ (List.getLast_mem numeral.nonempty))
  rw [List.dropLast_append_getLast, ← signedValue, signedValue_digits, last, front] at split
  rw [signedValue, front]
  simp only [FitsInt] at fits ⊢
  omega

end

theorem not_isDigit_minus : isDigit 10 45 = false := by decide

/-- The sign is no digit. -/
theorem digits_ne_minus (numeral : Numeral) (rest : List UInt8) : numeral.digits ≠ 45 :: rest := by
  intro same
  have digit := numeral.decimal 45 (by simp [same])
  rw [not_isDigit_minus] at digit
  cases digit

theorem denotes_unique {text : List UInt8} {first second : Int} (one : Denotes text first)
    (other : Denotes text second) : first = second := by
  cases one with
  | positive numeral =>
      generalize shape : numeral.digits = text at other
      cases other with
      | positive again => rw [Numeral.value, Numeral.value, shape]
      | negative again => exact absurd shape (digits_ne_minus numeral _)
  | negative numeral =>
      generalize shape : 45 :: numeral.digits = text at other
      cases other with
      | positive again => exact absurd shape.symm (digits_ne_minus again _)
      | negative again =>
          have same : numeral.digits = again.digits := (List.cons.inj shape).2
          rw [Numeral.value, Numeral.value, same]

theorem accepted_of_denotes {text : List UInt8} {value : Int} (denotes : Denotes text value) :
    ∀ byte ∈ text, Accepted byte := by
  cases denotes with
  | positive numeral => exact accepted_digits numeral
  | negative numeral =>
      intro byte inside
      rcases List.mem_cons.mp inside with sign | digit
      · exact (accepted_iff byte).mpr (.inr sign)
      · exact accepted_digits numeral byte digit

/-! ### The texts that are read as they should be -/

/-- Digits only, for a number that fits. -/
def SmallNumeral (text : List UInt8) : Prop :=
  ∃ numeral : Numeral, text = numeral.digits ∧ numeral.value < 2 ^ 31

/-- A character ends the loop, and with each sign as a digit of value -3 nothing overflows in front
of it. -/
def Refused (text : List UInt8) : Prop :=
  ∃ front bad rest, text = front ++ bad :: rest ∧ (∀ byte ∈ front, Accepted byte) ∧ ¬ Accepted bad ∧
    (front = [] ∨ FitsInt (signedValue front.dropLast * 10) ∧ FitsInt (signedValue front))

theorem strdec2int_accepted {text : List UInt8} (accepted : ∀ byte ∈ text, Accepted byte) :
    strdec2int text = (0, Int32.ofInt (signedValue text)) :=
  strdec2intFrom_accepted accepted 0

theorem readsDecimal_smallNumeral {text : List UInt8} (small : SmallNumeral text) :
    ReadsDecimal text := by
  obtain ⟨numeral, rfl, bounded⟩ := small
  have fits : FitsInt numeral.value := by
    rw [FitsInt]
    omega
  have denotes := Denotes.positive numeral
  refine ⟨?_, fun none_ => absurd ⟨_, denotes, fits⟩ none_, exact_digits numeral fits⟩
  intro value other _
  rw [denotes_unique other denotes, strdec2int_accepted (accepted_digits numeral),
    signedValue_digits]

theorem exact_refused {front : List UInt8} (accepted : ∀ byte ∈ front, Accepted byte)
    {bad : UInt8} (rejected : ¬ Accepted bad) (rest : List UInt8) :
    Exact (front ++ bad :: rest) ↔
      front = [] ∨ FitsInt (signedValue front.dropLast * 10) ∧ FitsInt (signedValue front) := by
  rw [Exact, exactFrom_rejected accepted rejected]
  by_cases empty : front = []
  · rw [empty]
    exact iff_of_true trivial (.inl rfl)
  · rw [← Exact, exact_iff accepted empty]
    exact (or_iff_right empty).symm

theorem readsDecimal_refused {text : List UInt8} (refused : Refused text) : ReadsDecimal text := by
  obtain ⟨front, bad, rest, rfl, accepted, rejected, fits⟩ := refused
  refine ⟨?_, fun _ => strdec2intFrom_rejected accepted rejected rest 0,
    (exact_refused accepted rejected rest).mpr fits⟩
  intro value denotes _
  exact absurd (accepted_of_denotes denotes bad (by simp)) rejected

/-- A text with a rejected character, cut at the first one. -/
theorem split_rejected {text : List UInt8} (rejected : ¬ ∀ byte ∈ text, Accepted byte) :
    ∃ front bad rest, text = front ++ bad :: rest ∧ (∀ byte ∈ front, Accepted byte) ∧
      ¬ Accepted bad := by
  induction text with
  | nil => exact absurd (List.forall_mem_nil _) rejected
  | cons byte text ih =>
      by_cases head : Accepted byte
      · have later : ¬ ∀ byte ∈ text, Accepted byte :=
          fun all => rejected (List.forall_mem_cons.mpr ⟨head, all⟩)
        obtain ⟨front, bad, rest, shape, taken, refused⟩ := ih later
        exact ⟨byte :: front, bad, rest, by rw [shape, List.cons_append],
          List.forall_mem_cons.mpr ⟨head, taken⟩, refused⟩
      · exact ⟨[], byte, text, rfl, List.forall_mem_nil _, head⟩

/-- A number with a sign is never read as it should be. -/
theorem not_readsDecimal_negative (numeral : Numeral) (fits : FitsInt (-(numeral.value : Int))) :
    ¬ ReadsDecimal (45 :: numeral.digits) := by
  intro reads
  have denotes := Denotes.negative numeral
  have accepted := accepted_of_denotes denotes
  have returned := reads.value _ denotes fits
  rw [strdec2int_accepted accepted, Prod.mk.injEq] at returned
  obtain ⟨-, inside⟩ := (exact_iff accepted (by simp)).mp reads.exact_
  have same := congrArg Int32.toInt returned.2
  rw [Int32.toInt_ofInt_of_le inside.1 inside.2, Int32.toInt_ofInt_of_le fits.1 fits.2,
    signedValue_negative] at same
  have small : (numeral.value : Int) < 10 ^ numeral.length := by exact_mod_cast numeral.value_lt
  omega

theorem smallNumeral_or_refused {text : List UInt8} (reads : ReadsDecimal text) :
    SmallNumeral text ∨ Refused text := by
  by_cases accepted : ∀ byte ∈ text, Accepted byte
  · have zero : (strdec2int text).1 = 0 := by rw [strdec2int_accepted accepted]
    have readable : ∃ value, Denotes text value ∧ FitsInt value := by
      by_contra none_
      rw [reads.rejects none_] at zero
      exact absurd zero (by decide)
    obtain ⟨value, denotes, fits⟩ := readable
    cases denotes with
    | positive numeral =>
        have bounded : numeral.value < 2 ^ 31 := by
          have most := fits.2
          omega
        exact .inl ⟨numeral, rfl, bounded⟩
    | negative numeral => exact absurd reads (not_readsDecimal_negative numeral fits)
  · obtain ⟨front, bad, rest, rfl, taken, rejected⟩ := split_rejected accepted
    exact .inr ⟨front, bad, rest, rfl, taken, rejected,
      (exact_refused taken rejected rest).mp reads.exact_⟩

/-- The texts that `strdec2int` reads as it should; `QOPMP` hands every longer reply to it. -/
theorem strdec2int_iff (text : List UInt8) :
    (ReadsDecimal text ↔ SmallNumeral text ∨ Refused text) ∧
      ∀ before, parseRspQopmp text before =
        if text.length < 5 then .ok (-1, before) else .ok (strdec2int text) := by
  refine ⟨⟨smallNumeral_or_refused, ?_⟩, fun _ => rfl⟩
  rintro (small | refused)
  · exact readsDecimal_smallNumeral small
  · exact readsDecimal_refused refused

/-- `-0100` is read as -29900. -/
theorem strdec2int_negative : ¬ ReadsDecimal [45, 48, 49, 48, 48] := by
  intro reads
  have negative : Denotes [45, 48, 49, 48, 48] (-100) :=
    .negative ⟨[48, 49, 48, 48], by decide, by decide +kernel⟩
  have fits : FitsInt (-100) := by
    rw [FitsInt]
    omega
  have returned := reads.value _ negative fits
  exact absurd returned (by decide +kernel)

end EsInverter.Rs232
