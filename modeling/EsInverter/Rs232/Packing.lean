import EsInverter.Lib.Words
import EsInverter.Rs232.SubParsers
import Mathlib

/-!
# Packed replies

The warning flags and the fault code are packed into a word by a loop that stores and then shifts.
The shift behind the last character is one too many, so that a full word loses what it holds in
its highest place.
-/

set_option autoImplicit false

namespace EsInverter.Rs232

/-! ### Warning flags -/

/-- A text of the characters `0` and `1`. -/
structure FlagText (length : Nat) (text : List UInt8) : Prop where
  length : text.length = length
  flags : ∀ byte ∈ text, byte = 48 ∨ byte = 49

/-- The warning word of a reply, whatever the output object held. -/
def warningWord (text : List UInt8) : UInt64 := (text.take 64).foldl warningStep 0

theorem parseRspQpiws_eq (text : List UInt8) (before : UInt64) :
    parseRspQpiws text before = .ok (0, warningWord text) := rfl

theorem warningStep_bit (flags : UInt64) (byte : UInt8) (place : Nat) :
    (warningStep flags byte).toBitVec.getLsbD (place + 1) =
      (decide (place + 1 < 64) &&
        (flags.toBitVec.getLsbD place || (decide (place = 0) && byte == 49))) := by
  rw [warningStep]
  split
  · next one =>
    simp [one]
  · next other =>
    have differ : (byte == 49) = false := beq_eq_false_iff_ne.mpr other
    simp [differ]

/-- The shift behind the last character leaves the lowest place empty. -/
theorem warningFold_lowest (text : List UInt8) :
    (text.foldl warningStep 0).toBitVec.getLsbD 0 = false := by
  induction text using List.reverseRecOn with
  | nil => rfl
  | append_singleton text byte ih =>
      rw [List.foldl_append, List.foldl_cons, List.foldl_nil, warningStep]
      simp

/-- The characters behind the last 63 are lost, and each of the others has its bit. -/
theorem warningFold_bit (text : List UInt8) (place : Nat) :
    (text.foldl warningStep 0).toBitVec.getLsbD (place + 1) =
      (decide (place + 1 < 64) && text.reverse[place]? == some 49) := by
  induction text using List.reverseRecOn generalizing place with
  | nil => simp
  | append_singleton text byte ih =>
      rw [List.foldl_append, List.foldl_cons, List.foldl_nil, warningStep_bit,
        List.reverse_append, List.reverse_singleton, List.singleton_append]
      cases place with
      | zero =>
          rw [warningFold_lowest]
          simp
      | succ place =>
          rw [ih]
          simp
          grind

/-- The bit of a character, counted from the end of the text. -/
theorem warningWord_bit {text : List UInt8} (fits : text.length ≤ 64) {position : Nat}
    (inside : position < text.length) :
    (warningWord text).toBitVec.getLsbD (text.length - position) =
      (decide (text.length - position < 64) && text[position]? == some 49) := by
  have place : text.length - position = text.length - position - 1 + 1 := by omega
  have mirrored : text.length - 1 - (text.length - position - 1) = position := by omega
  rw [warningWord, List.take_of_length_le fits, place, warningFold_bit,
    List.getElem?_reverse (by omega), mirrored]

/-- The warnings lose nothing: different texts have different words, and each character has a bit
of its own. -/
structure WarningsKept (length : Nat) : Prop where
  injective : ∀ first second before other word, FlagText length first → FlagText length second →
    parseRspQpiws first before = .ok (0, word) → parseRspQpiws second other = .ok (0, word) →
    first = second
  fixed : ∀ position < length, ∃ bit, ∀ text before word, FlagText length text →
    parseRspQpiws text before = .ok (0, word) →
    (word.toBitVec.getLsbD bit = true ↔ text[position]? = some 49)

theorem warningWord_of_parsed {text : List UInt8} {before word : UInt64}
    (parsed : parseRspQpiws text before = .ok (0, word)) : word = warningWord text := by
  rw [parseRspQpiws_eq] at parsed
  cases parsed
  rfl

/-- In a word that is not full, the bit of a character tells it. -/
theorem warningWord_tells {length : Nat} (fits : length ≤ 63) {text : List UInt8}
    (flagText : FlagText length text) {position : Nat} (inside : position < length) :
    (warningWord text).toBitVec.getLsbD (length - position) = true ↔ text[position]? = some 49 := by
  have size := flagText.length
  have full : text.length ≤ 64 := by omega
  have bit := warningWord_bit full (by rw [size]; exact inside)
  rw [size, decide_eq_true (by omega), Bool.true_and] at bit
  rw [bit, beq_iff_eq]

theorem warningsKept_of_le {length : Nat} (fits : length ≤ 63) : WarningsKept length where
  injective := by
    intro first second before other word firstText secondText firstParsed secondParsed
    have same : warningWord first = warningWord second :=
      (warningWord_of_parsed firstParsed).symm.trans (warningWord_of_parsed secondParsed)
    apply List.ext_getElem (firstText.length.trans secondText.length.symm)
    intro position firstInside secondInside
    have inside : position < length := by rw [← firstText.length]; exact firstInside
    have told : first[position]? = some 49 ↔ second[position]? = some 49 := by
      rw [← warningWord_tells fits firstText inside, same]
      exact warningWord_tells fits secondText inside
    rw [List.getElem?_eq_getElem firstInside, List.getElem?_eq_getElem secondInside,
      Option.some_inj, Option.some_inj] at told
    rcases firstText.flags _ (List.getElem_mem firstInside) with zero | one
    · rcases secondText.flags _ (List.getElem_mem secondInside) with other | other
      · rw [zero, other]
      · exact told.mpr other ▸ other.symm
    · rw [one, told.mp one]
  fixed := by
    intro position inside
    refine ⟨length - position, ?_⟩
    intro text before word flagText parsed
    rw [warningWord_of_parsed parsed]
    exact warningWord_tells fits flagText inside

/-- The first of 64 characters is lost. -/
theorem not_warningsKept_full : ¬ WarningsKept 64 := by
  intro kept
  have zeros : FlagText 64 (List.replicate 64 48) :=
    ⟨by decide, fun byte inside => .inl (List.eq_of_mem_replicate inside)⟩
  have warned : FlagText 64 (49 :: List.replicate 63 48) := by
    refine ⟨by decide, ?_⟩
    intro byte inside
    rcases List.mem_cons.mp inside with one | zero
    · exact .inr one
    · exact .inl (List.eq_of_mem_replicate zero)
  have same : warningWord (49 :: List.replicate 63 48) = warningWord (List.replicate 64 48) := by
    decide +kernel
  have equal := kept.injective _ _ 0 0 _ zeros warned (parseRspQpiws_eq _ _)
    ((parseRspQpiws_eq _ _).trans (by rw [same]))
  exact absurd equal (by decide)

theorem warningsKept_iff {length : Nat} (fits : length ≤ 64) :
    WarningsKept length ↔ length ≤ 63 := by
  constructor
  · intro kept
    by_contra full
    obtain rfl : length = 64 := by omega
    exact not_warningsKept_full kept
  · exact warningsKept_of_le

/-! ### Fault codes -/

/-- Four bytes as a word, the first one in the most significant place. -/
def bigEndian (first second third fourth : UInt8) : UInt32 :=
  first.toUInt32 <<< 24 ||| second.toUInt32 <<< 16 ||| third.toUInt32 <<< 8 ||| fourth.toUInt32

/-- The bytes that `inv_set_fault` takes out of a word again. -/
def bytesOf (word : UInt32) : List UInt8 :=
  [(word >>> 24).toUInt8, (word >>> 16).toUInt8, (word >>> 8).toUInt8, word.toUInt8]

theorem bytesOf_bigEndian (first second third fourth : UInt8) :
    bytesOf (bigEndian first second third fourth) = [first, second, third, fourth] := by
  have a : (bigEndian first second third fourth >>> 24).toUInt8 = first := by
    apply Lib.byte_of_bits
    intro place inside
    simp [bigEndian]
    grind
  have b : (bigEndian first second third fourth >>> 16).toUInt8 = second := by
    apply Lib.byte_of_bits
    intro place inside
    simp [bigEndian]
    grind
  have c : (bigEndian first second third fourth >>> 8).toUInt8 = third := by
    apply Lib.byte_of_bits
    intro place inside
    simp [bigEndian]
    grind
  have d : (bigEndian first second third fourth).toUInt8 = fourth := by
    apply Lib.byte_of_bits
    intro place inside
    simp [bigEndian]
  rw [bytesOf, a, b, c, d]

/-- The first byte leaves the word with the last shift. -/
theorem parseRspQpicf_eq (first second third fourth : UInt8) (before : UInt32) :
    parseRspQpicf [first, second, third, fourth] before =
      .ok (0, bigEndian second third fourth 0) := by
  rw [parseRspQpicf, ofLength, if_neg (by simp)]
  congr 2
  apply UInt32.toBitVec_inj.mp
  apply BitVec.eq_of_getLsbD_eq
  intro place inside
  simp [faultStep, bigEndian]
  grind

theorem four_bytes {reply : List UInt8} (size : reply.length = 4) :
    ∃ first second third fourth, reply = [first, second, third, fourth] := by
  match reply, size with
  | [first, second, third, fourth], _ => exact ⟨first, second, third, fourth, rfl⟩

theorem bigEndian_injective {second third fourth other two three four last : UInt8}
    (same : bigEndian second third fourth other = bigEndian two three four last) :
    [second, third, fourth, other] = [two, three, four, last] := by
  rw [← bytesOf_bigEndian, same, bytesOf_bigEndian]

/-- Two replies with one word are one reply. -/
def FaultsTold (first second : List UInt8) : Prop :=
  ∀ before other word, parseRspQpicf first before = .ok (0, word) →
    parseRspQpicf second other = .ok (0, word) → first = second

/-- `inv_set_fault` prints the bytes of the reply. -/
def FaultOrdered (reply : List UInt8) : Prop :=
  ∀ before word, parseRspQpicf reply before = .ok (0, word) → bytesOf word = reply

/-- The first byte does not count. -/
theorem faultsTold_iff {first second : List UInt8} (firstSize : first.length = 4)
    (secondSize : second.length = 4) :
    FaultsTold first second ↔ (first.tail = second.tail → first = second) := by
  obtain ⟨a, b, c, d, rfl⟩ := four_bytes firstSize
  obtain ⟨p, q, r, s, rfl⟩ := four_bytes secondSize
  constructor
  · intro told tails
    apply told 0 0 (bigEndian b c d 0) (parseRspQpicf_eq a b c d 0)
    rw [parseRspQpicf_eq]
    rw [List.tail_cons, List.tail_cons, List.cons.injEq, List.cons.injEq, List.cons.injEq] at tails
    obtain ⟨rfl, rfl, rfl, -⟩ := tails
    rfl
  · intro tails before other word firstParsed secondParsed
    rw [parseRspQpicf_eq, Except.ok.injEq, Prod.mk.injEq] at firstParsed secondParsed
    have same := bigEndian_injective (firstParsed.2.trans secondParsed.2.symm)
    rw [List.cons.injEq, List.cons.injEq, List.cons.injEq] at same
    obtain ⟨rfl, rfl, rfl, -⟩ := same
    exact tails rfl

/-- Every byte is printed in the place of the one in front of it. -/
theorem faultOrdered_iff {reply : List UInt8} (size : reply.length = 4) :
    FaultOrdered reply ↔ reply = [0, 0, 0, 0] := by
  obtain ⟨a, b, c, d, rfl⟩ := four_bytes size
  constructor
  · intro ordered
    have printed := ordered 0 (bigEndian b c d 0) (parseRspQpicf_eq a b c d 0)
    rw [bytesOf_bigEndian, List.cons.injEq, List.cons.injEq, List.cons.injEq,
      List.cons.injEq] at printed
    obtain ⟨rfl, rfl, rfl, rfl, -⟩ := printed
    rfl
  · intro zeros before word parsed
    rw [parseRspQpicf_eq, Except.ok.injEq, Prod.mk.injEq] at parsed
    rw [List.cons.injEq, List.cons.injEq, List.cons.injEq, List.cons.injEq] at zeros
    obtain ⟨rfl, rfl, rfl, rfl, -⟩ := zeros
    rw [← parsed.2, bytesOf_bigEndian]

/-- What the two words keep of a reply. -/
theorem words_kept_iff {length : Nat} (fits : length ≤ 64) {first second : List UInt8}
    (firstSize : first.length = 4) (secondSize : second.length = 4) :
    (WarningsKept length ↔ length ≤ 63) ∧
      (FaultsTold first second ↔ (first.tail = second.tail → first = second)) ∧
      (FaultOrdered first ↔ first = [0, 0, 0, 0]) :=
  ⟨warningsKept_iff fits, faultsTold_iff firstSize secondSize, faultOrdered_iff firstSize⟩

theorem words_kept_full :
    (WarningsKept 64 ↔ 64 ≤ 63) ∧
      (FaultsTold [48, 49, 0, 0] [49, 49, 0, 0] ↔
        (([48, 49, 0, 0] : List UInt8).tail = [49, 49, 0, 0].tail →
          ([48, 49, 0, 0] : List UInt8) = [49, 49, 0, 0])) ∧
      (FaultOrdered [48, 49, 0, 0] ↔ ([48, 49, 0, 0] : List UInt8) = [0, 0, 0, 0]) :=
  words_kept_iff (Nat.le_refl 64) rfl rfl

/-- The first of 64 warnings and the first byte of a fault code are lost, and the others of the
code are printed one place too high. -/
theorem words_lost :
    ¬ WarningsKept 64 ∧ ¬ FaultsTold [48, 49, 0, 0] [49, 49, 0, 0] ∧
      ¬ FaultOrdered [48, 49, 0, 0] := by
  refine ⟨not_warningsKept_full, ?_, ?_⟩
  · intro told
    have same := told 0 0 _ (parseRspQpicf_eq 48 49 0 0 0) (parseRspQpicf_eq 49 49 0 0 0)
    exact absurd same (by decide)
  · intro ordered
    have printed := ordered 0 _ (parseRspQpicf_eq 48 49 0 0 0)
    rw [bytesOf_bigEndian] at printed
    exact absurd printed (by decide)

end EsInverter.Rs232
