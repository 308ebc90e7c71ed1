import EsInverter.Lib.Numerals
import EsInverter.Lib.Words
import EsInverter.Update.State

/-!
# The numeric firmware version

A version is written as three numerals with points between them.  Three calls of
`strtoul` read it, each from behind the byte that ended the one before; the
results are cut to a byte each.
-/

set_option autoImplicit false

namespace EsInverter.Update

open Lib

/-- The layout that the header documents: one byte, one byte, two bytes. -/
def documentedFwVer (major minor fix : Nat) : Nat := major * 2 ^ 24 + minor * 2 ^ 16 + fix

/-- The array starts with a version that something other than a digit ends. -/
structure VersionText (array : List UInt8) (major minor fix : Nat) : Prop where
  text : ∃ (first second third : Numeral) (ending : UInt8) (rest : List UInt8),
    array = first.digits ++ 46 :: (second.digits ++ 46 :: (third.digits ++ ending :: rest)) ∧
      isDigit 10 ending = false ∧
      first.value = major ∧ second.value = minor ∧ third.value = fix
  major_le : major ≤ 255
  minor_le : minor ≤ 255
  fix_le : fix ≤ 65535

/-- What is left of an array behind its space, sign and digits. -/
def behindNumeral (array : List UInt8) : List UInt8 :=
  (readSign (array.dropWhile isSpace)).2.dropWhile (isDigit 10)

/-- The array has a number in front. -/
def HasNumeral (array : List UInt8) : Prop :=
  (readSign (array.dropWhile isSpace)).2.takeWhile (isDigit 10) ≠ []

instance (array : List UInt8) : Decidable (HasNumeral array) :=
  inferInstanceAs (Decidable (_ ≠ _))

/-- Where the next call starts: one byte behind the numeral, or behind the start without one. -/
def nextStart (array : List UInt8) : List UInt8 :=
  if HasNumeral array then (behindNumeral array).drop 1 else array.drop 1

/-- The end of each of three numerals is a byte of the array. -/
def Terminated (array : List UInt8) : Prop :=
  behindNumeral array ≠ [] ∧ behindNumeral (nextStart array) ≠ [] ∧
    behindNumeral (nextStart (nextStart array)) ≠ []

instance (array : List UInt8) : Decidable (Terminated array) :=
  inferInstanceAs (Decidable (_ ∧ _ ∧ _))

theorem strtoul_numeral (numeral : Numeral) (small : numeral.value < 2 ^ 32) {ending : UInt8}
    (other : isDigit 10 ending = false) (rest : List UInt8) :
    strtoul (numeral.digits ++ ending :: rest) =
      .ok (UInt32.ofNat numeral.value, ending :: rest) := by
  have ends := noDigit_cons other rest
  rw [strtoul, numeral.dropWhile_isSpace, numeral.readInteger_append ends]
  dsimp only
  rw [if_pos (by simp [Numeral.length]), Numeral.length, List.drop_left,
    toUnsigned_of_lt small]

/-- What follows a sign is the end of the text. -/
theorem readSign_suffix (text : List UInt8) : ∃ sign, text = sign ++ (readSign text).2 := by
  cases text with
  | nil => exact ⟨[], rfl⟩
  | cons byte rest =>
      rw [readSign]
      split_ifs
      · exact ⟨[byte], rfl⟩
      · exact ⟨[byte], rfl⟩
      · exact ⟨[], rfl⟩

/-- A number takes the sign and the digits in front of the text. -/
theorem readInteger_cases (text : List UInt8) :
    (readSign text).2.takeWhile (isDigit 10) = [] ∧ readInteger 10 text = none ∨
      (readSign text).2.takeWhile (isDigit 10) ≠ [] ∧
        ∃ number length, readInteger 10 text = some (number, length) ∧
          text.drop length = (readSign text).2.dropWhile (isDigit 10) := by
  obtain ⟨sign, whole⟩ := readSign_suffix text
  rw [readInteger]
  simp only [Nat.reduceEqDiff, if_false]
  generalize (readSign text).2 = body at whole
  have parts : body.takeWhile (isDigit 10) ++ body.dropWhile (isDigit 10) = body :=
    List.takeWhile_append_dropWhile
  cases digits : body.takeWhile (isDigit 10) with
  | nil => exact .inl ⟨rfl, rfl⟩
  | cons first more =>
      refine .inr ⟨by simp, _, _, rfl, ?_⟩
      rw [digits] at parts
      have width : text.length - body.length = sign.length := by simp [whole]
      rw [width, whole]
      nth_rewrite 1 [← parts]
      rw [← List.append_assoc, ← List.length_append, List.drop_left]

/-- A call stays inside the array exactly if the end of its numeral does. -/
theorem strtoul_cases (array : List UInt8) :
    behindNumeral array = [] ∧ strtoul array = .error .outOfBounds ∨
      behindNumeral array ≠ [] ∧
        ∃ value, strtoul array =
          .ok (value, if HasNumeral array then behindNumeral array else array) := by
  unfold strtoul
  dsimp only
  rcases readInteger_cases (array.dropWhile isSpace) with
    ⟨none_, unread⟩ | ⟨digits, number, length, read, behind⟩
  · have parts : behindNumeral array = (readSign (array.dropWhile isSpace)).2 := by
      have all := List.takeWhile_append_dropWhile (p := isDigit 10)
        (l := (readSign (array.dropWhile isSpace)).2)
      rwa [none_, List.nil_append] at all
    rw [unread, parts]
    by_cases ended : (readSign (array.dropWhile isSpace)).2 = []
    · exact .inl ⟨ended, if_pos ended⟩
    · have without : ¬ HasNumeral array := not_not.mpr none_
      exact .inr ⟨ended, 0, by rw [if_neg without]; exact if_neg ended⟩
  · have present : HasNumeral array := digits
    rw [read, if_pos present, show behindNumeral array = _ from behind.symm]
    by_cases inside : length < (array.dropWhile isSpace).length
    · exact .inr ⟨by simpa using inside, _, if_pos inside⟩
    · exact .inl ⟨List.drop_eq_nil_of_le (by omega), if_neg inside⟩

/-- The three bytes lie behind one another. -/
theorem toNat_packed (prod feat fix : UInt8) :
    (prod.toUInt32 <<< 16 ||| feat.toUInt32 <<< 8 ||| fix.toUInt32).toNat =
      prod.toNat * 2 ^ 16 + feat.toNat * 2 ^ 8 + fix.toNat := by
  have prodBound := prod.toNat_lt
  have featBound := feat.toNat_lt
  have fixBound := fix.toNat_lt
  have high : prod.toNat <<< 16 ||| feat.toNat <<< 8 =
      (prod.toNat * 2 ^ 8 + feat.toNat) <<< 8 := by
    rw [← Nat.shiftLeft_add_eq_or_of_lt (by rw [Nat.shiftLeft_eq]; omega), Nat.shiftLeft_eq,
      Nat.shiftLeft_eq, Nat.shiftLeft_eq]
    omega
  have whole : (prod.toNat * 2 ^ 8 + feat.toNat) <<< 8 ||| fix.toNat =
      prod.toNat * 2 ^ 16 + feat.toNat * 2 ^ 8 + fix.toNat := by
    rw [← Nat.shiftLeft_add_eq_or_of_lt (by omega), Nat.shiftLeft_eq]
    omega
  rw [UInt32.toNat_or, UInt32.toNat_or, UInt32.toNat_shiftLeft, UInt32.toNat_shiftLeft]
  simp only [UInt8.toNat_toUInt32, UInt32.reduceToNat, Nat.reduceMod]
  rw [Nat.mod_eq_of_lt (by rw [Nat.shiftLeft_eq]; omega),
    Nat.mod_eq_of_lt (by rw [Nat.shiftLeft_eq]; omega), high, whole]

theorem getFwVersionString_text {array : List UInt8} {major minor fix : Nat}
    (version : VersionText array major minor fix) :
    getFwVersionString array =
      .ok (UInt32.ofNat (major * 2 ^ 16 + minor * 2 ^ 8 + fix % 2 ^ 8)) := by
  obtain ⟨first, second, third, ending, rest, rfl, other, rfl, rfl, rfl⟩ := version.text
  have majorBound := version.major_le
  have minorBound := version.minor_le
  have fixBound := version.fix_le
  have point : isDigit 10 46 = false := by decide
  rw [getFwVersionString, strtoul_numeral first (by omega) point]
  dsimp only [bind, Except.bind]
  rw [List.drop_one, List.tail_cons, strtoul_numeral second (by omega) point]
  dsimp only
  rw [List.drop_one, List.tail_cons, strtoul_numeral third (by omega) other]
  dsimp only [pure, Except.pure]
  refine congrArg Except.ok (UInt32.toNat_inj.mp ?_)
  rw [toNat_packed]
  simp
  omega

/-- Two versions get one number exactly if they differ in the upper byte of the last part only. -/
theorem getFwVersionString_eq_iff {array other : List UInt8} {major minor fix : Nat}
    {otherMajor otherMinor otherFix : Nat} (version : VersionText array major minor fix)
    (otherVersion : VersionText other otherMajor otherMinor otherFix) :
    getFwVersionString array = getFwVersionString other ↔
      major = otherMajor ∧ minor = otherMinor ∧ fix % 2 ^ 8 = otherFix % 2 ^ 8 := by
  have bounds := And.intro version.major_le version.minor_le
  have otherBounds := And.intro otherVersion.major_le otherVersion.minor_le
  rw [getFwVersionString_text version, getFwVersionString_text otherVersion, Except.ok.injEq,
    ofNat_eq_ofNat_iff (by omega) (by omega)]
  omega

/-- The bytes read are bytes of the array exactly if each numeral ends inside it. -/
theorem getFwVersionString_inside_iff (array : List UInt8) :
    getFwVersionString array ≠ .error .outOfBounds ↔ Terminated array := by
  have next (array : List UInt8) :
      (if HasNumeral array then behindNumeral array else array).drop 1 = nextStart array := by
    rw [nextStart]
    split <;> rfl
  rw [getFwVersionString, Terminated]
  rcases strtoul_cases array with ⟨ended, run⟩ | ⟨inside, prod, run⟩
  · simp [run, ended, bind, Except.bind]
  rw [run]
  dsimp only [bind, Except.bind]
  rw [next]
  rcases strtoul_cases (nextStart array) with ⟨ended, run⟩ | ⟨insideSecond, feat, run⟩
  · simp [run, ended]
  rw [run]
  dsimp only
  rw [next]
  rcases strtoul_cases (nextStart (nextStart array)) with ⟨ended, run⟩ | ⟨insideThird, fix, run⟩
  · simp [run, ended]
  · simp [run, inside, insideSecond, insideThird, pure, Except.pure]

/-- A version reads as its documented number, and nothing outside the array is read. -/
structure VersionLaw (array : List UInt8) : Prop where
  number : ∀ major minor fix, VersionText array major minor fix →
    getFwVersionString array = .ok (UInt32.ofNat (documentedFwVer major minor fix))
  inside : getFwVersionString array ≠ .error .outOfBounds

/-- One byte is enough for the version. -/
theorem getFwVersionString_documented_iff {array : List UInt8} {major minor fix : Nat}
    (version : VersionText array major minor fix) :
    getFwVersionString array = .ok (UInt32.ofNat (documentedFwVer major minor fix)) ↔
      major = 0 ∧ minor = 0 ∧ fix ≤ 255 := by
  have majorBound := version.major_le
  have minorBound := version.minor_le
  have fixBound := version.fix_le
  rw [getFwVersionString_text version, Except.ok.injEq, documentedFwVer,
    ofNat_eq_ofNat_iff (by omega) (by omega)]
  omega

/-- The law holds exactly where one byte is enough for the version and the numerals end. -/
theorem versionLaw_iff (array : List UInt8) :
    VersionLaw array ↔
      (∀ major minor fix, VersionText array major minor fix →
        major = 0 ∧ minor = 0 ∧ fix ≤ 255) ∧ Terminated array := by
  rw [← getFwVersionString_inside_iff]
  constructor
  · intro law
    refine ⟨fun major minor fix version => ?_, law.inside⟩
    exact (getFwVersionString_documented_iff version).mp (law.number major minor fix version)
  · rintro ⟨small, inside⟩
    refine ⟨fun major minor fix version => ?_, inside⟩
    exact (getFwVersionString_documented_iff version).mpr (small _ _ _ version)

/-- "1.2.3" -/
def shortVersion : List UInt8 := [49, 46, 50, 46, 51] ++ List.replicate 27 0

theorem shortVersion_text : VersionText shortVersion 1 2 3 where
  text := by
    have one (byte : UInt8) (digit : isDigit 10 byte = true) :
        ∀ inside ∈ [byte], isDigit 10 inside = true := List.forall_mem_singleton.mpr digit
    exact ⟨⟨[49], List.cons_ne_nil _ _, one 49 rfl⟩, ⟨[50], List.cons_ne_nil _ _, one 50 rfl⟩,
      ⟨[51], List.cons_ne_nil _ _, one 51 rfl⟩, 0, List.replicate 26 0, rfl, rfl, rfl, rfl, rfl⟩
  major_le := by decide
  minor_le := by decide
  fix_le := by decide

theorem shortVersion_not_versionLaw : ¬ VersionLaw shortVersion := by
  intro law
  have small := (getFwVersionString_documented_iff shortVersion_text).mp
    (law.number 1 2 3 shortVersion_text)
  exact absurd small.1 one_ne_zero

end EsInverter.Update
