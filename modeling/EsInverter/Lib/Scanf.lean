import Mathlib

/-!
# Reading numbers from text

`sscanf`, `strtoull` and `atoi` of the C library, as newlib implements them: a
number is the longest prefix that can be read as one, it is clamped to the type
it is read into, and a directive without a number ends the call.  `long` has 32
bits.  A floating number is kept as the exact decimal that was written.
-/

set_option autoImplicit false

namespace EsInverter.Lib

/-- A C string: the bytes before the first `NUL`. -/
def cString (bytes : List UInt8) : List UInt8 := bytes.takeWhile (· ≠ 0)

def isSpace (byte : UInt8) : Bool := byte == 32 || (9 ≤ byte && byte ≤ 13)

/-- The value of a digit in bases up to 16. -/
def digitValue (byte : UInt8) : Nat :=
  if 48 ≤ byte ∧ byte ≤ 57 then byte.toNat - 48
  else if 97 ≤ byte ∧ byte ≤ 102 then byte.toNat - 87
  else if 65 ≤ byte ∧ byte ≤ 70 then byte.toNat - 55
  else 16

def isDigit (base : Nat) (byte : UInt8) : Bool := digitValue byte < base

def ofDigits (base : Nat) (digits : List UInt8) : Nat :=
  digits.foldl (fun value byte => value * base + digitValue byte) 0

/-- Whether there is a minus sign, and what follows a sign. -/
def readSign : List UInt8 → Bool × List UInt8
  | [] => (false, [])
  | byte :: rest =>
      if byte = 45 then (true, rest) else if byte = 43 then (false, rest) else (false, byte :: rest)

structure Integer where
  negative : Bool
  magnitude : Nat
  deriving DecidableEq, Repr

namespace Integer

def toInt (number : Integer) : Int :=
  if number.negative then -number.magnitude else number.magnitude

/-- `strtol` -/
def toLong (number : Integer) : Int32 :=
  Int32.ofInt (max (-2 ^ 31) (min (2 ^ 31 - 1) number.toInt))

/-- `strtoul` and `strtoull`: a minus sign negates the unsigned number. -/
def toUnsigned (bits : Nat) (number : Integer) : Nat :=
  if number.magnitude < 2 ^ bits then (number.toInt % (2 ^ bits : Nat)).toNat else 2 ^ bits - 1

end Integer

/-- `0x` is skipped where a digit follows it. -/
def dropHexPrefix : List UInt8 → List UInt8
  | zero :: x :: digit :: rest =>
      if zero = 48 ∧ (x = 120 ∨ x = 88) ∧ isDigit 16 digit then digit :: rest
      else zero :: x :: digit :: rest
  | bytes => bytes

/-- The number that the bytes start with, and how many bytes it takes. -/
def readInteger (base : Nat) (bytes : List UInt8) : Option (Integer × Nat) :=
  match readSign bytes with
  | (negative, unsigned) =>
      let body := if base = 16 then dropHexPrefix unsigned else unsigned
      match body.takeWhile (isDigit base) with
      | [] => none
      | digits@(_ :: _) =>
          some (⟨negative, ofDigits base digits⟩, bytes.length - body.length + digits.length)

/-- `strtoull` of a terminated string; text that is no number reads as zero. -/
def strtoull (text : List UInt8) : UInt64 :=
  match readInteger 10 ((cString text).dropWhile isSpace) with
  | none => 0
  | some (number, _) => UInt64.ofNat (number.toUnsigned 64)

/-- `atoi` of an array that need not be terminated: `none` when every byte of it is read without
finding the end of the number. -/
def atoi (array : List UInt8) : Option Int32 :=
  let text := array.dropWhile isSpace
  match readInteger 10 text with
  | some (number, length) => if length < text.length then some number.toLong else none
  | none => if (readSign text).2 = [] then none else some 0

/-! ### Floating numbers -/

inductive Decimal
  /-- `digits * 10 ^ exponent` -/
  | finite (negative : Bool) (digits : Nat) (exponent : Int)
  | infinite (negative : Bool)
  | nan
  deriving DecidableEq, Repr

def Decimal.zero : Decimal := .finite false 0 0

def lowerCase (byte : UInt8) : UInt8 := if 65 ≤ byte ∧ byte ≤ 90 then byte + 32 else byte

def startsWith (word bytes : List UInt8) : Bool := (bytes.take word.length).map lowerCase == word

/-- The exponent that the bytes start with, and how many bytes it takes. -/
def readExponent : List UInt8 → Int × Nat
  | [] => (0, 0)
  | byte :: rest =>
      if lowerCase byte = 101 then
        match readInteger 10 rest with
        | none => (0, 0)
        | some (exponent, length) => (exponent.toInt, length + 1)
      else (0, 0)

/-- The digits behind a point, and how many bytes they take with the point. -/
def readFraction : List UInt8 → List UInt8 × Nat
  | [] => ([], 0)
  | byte :: rest =>
      if byte = 46 then
        let digits := rest.takeWhile (isDigit 10)
        (digits, digits.length + 1)
      else ([], 0)

/-- The number that the bytes start with, and how many bytes it takes. -/
def readDecimal (bytes : List UInt8) : Option (Decimal × Nat) :=
  match readSign bytes with
  | (negative, unsigned) =>
      let signed := bytes.length - unsigned.length
      -- "infinity", "inf" and "nan"
      if startsWith [105, 110, 102, 105, 110, 105, 116, 121] unsigned then
        some (.infinite negative, signed + 8)
      else if startsWith [105, 110, 102] unsigned then some (.infinite negative, signed + 3)
      else if startsWith [110, 97, 110] unsigned then some (.nan, signed + 3)
      else
        let whole := unsigned.takeWhile (isDigit 10)
        let afterWhole := unsigned.drop whole.length
        let fraction := readFraction afterWhole
        match whole ++ fraction.1 with
        | [] => none
        | digits@(_ :: _) =>
            let exponent := readExponent (afterWhole.drop fraction.2)
            some (.finite negative (ofDigits 10 digits) (exponent.1 - fraction.1.length),
              signed + whole.length + fraction.2 + exponent.2)

/-- A directive of the format together with the member that its argument points to: how many bytes
it takes and what it stores. -/
abbrev Directive (ρ : Type) := List UInt8 → Option (Nat × (ρ → ρ))

section Directives

variable {ρ : Type}

def limited : Option Nat → List UInt8 → List UInt8
  | none, bytes => bytes
  | some width, bytes => bytes.take width

/-- `%f` -/
def scanFloat (width : Option Nat) (store : Decimal → ρ → ρ) : Directive ρ := fun bytes =>
  (readDecimal (limited width bytes)).map fun (number, length) => (length, store number)

/-- `%d` and `%ld` -/
def scanLong (width : Option Nat) (store : Int32 → ρ → ρ) : Directive ρ := fun bytes =>
  (readInteger 10 (limited width bytes)).map fun (number, length) => (length, store number.toLong)

/-- `%hhd` -/
def scanChar (store : UInt8 → ρ → ρ) : Directive ρ := fun bytes =>
  (readInteger 10 bytes).map fun (number, length) =>
    (length, store number.toLong.toUInt32.toUInt8)

/-- `%lu` and `%lx` -/
def scanUnsigned (base : Nat) (store : UInt32 → ρ → ρ) : Directive ρ := fun bytes =>
  (readInteger base bytes).map fun (number, length) =>
    (length, store (UInt32.ofNat (number.toUnsigned 32)))

/-- The number of assigned directives, with what they stored.  Every directive skips the space
before it. -/
def sscanfFrom : List (Directive ρ) → List UInt8 → ρ → Nat × ρ
  | [], _, stored => (0, stored)
  | directive :: rest, bytes, stored =>
      let text := bytes.dropWhile isSpace
      match directive text with
      | none => (0, stored)
      | some (length, store) =>
          let (assigned, stored) := sscanfFrom rest (text.drop length) (store stored)
          (assigned + 1, stored)

def sscanf (format : List (Directive ρ)) (text : List UInt8) (stored : ρ) : Nat × ρ :=
  sscanfFrom format (cString text) stored

end Directives

/-- `"49.9 x"` -/
example : readDecimal [52, 57, 46, 57, 32, 120] = some (.finite false 499 (-1), 4) := by decide

end EsInverter.Lib
