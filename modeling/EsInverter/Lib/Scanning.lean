import EsInverter.Lib.Numerals

/-!
# Scanning groups that a space separates

A format whose directives each read their own group reads all groups, whatever
was stored before.  A group of digits is read as an integer, one with a point as
a floating number.
-/

set_option autoImplicit false

namespace EsInverter.Lib

/-! ### Numbers with a point -/

/-- Two numerals with a point between them. -/
structure PointNumber where
  whole : Numeral
  fraction : Numeral

namespace PointNumber

def text (number : PointNumber) : List UInt8 :=
  number.whole.digits ++ 46 :: number.fraction.digits

/-- The exact decimal. -/
def decimal (number : PointNumber) : Decimal :=
  .finite false (ofDigits 10 (number.whole.digits ++ number.fraction.digits))
    (-(number.fraction.length : Int))

end PointNumber

/-- What follows a group: nothing, or a space. -/
def Separated (rest : List UInt8) : Prop := ∀ byte ∈ rest.head?, byte = 32

theorem separated_nil : Separated [] := by
  intro byte head
  cases head

theorem separated_cons (rest : List UInt8) : Separated (32 :: rest) := by
  intro byte head
  cases head
  rfl

theorem Separated.noDigit {rest : List UInt8} (separated : Separated rest) : NoDigit rest := by
  intro byte head
  rw [separated byte head]
  decide

theorem readExponent_of_separated {rest : List UInt8} (separated : Separated rest) :
    readExponent rest = (0, 0) := by
  cases rest with
  | nil => rfl
  | cons byte rest =>
      rw [separated byte rfl, readExponent]
      exact if_neg (by decide)

/-- No word starts with a digit. -/
theorem startsWith_of_isDigit {letter byte : UInt8} (digit : isDigit 10 byte = true)
    (later : 97 ≤ letter) (word rest : List UInt8) :
    startsWith (letter :: word) (byte :: rest) = false := by
  have low : lowerCase byte < 97 := by
    revert digit byte
    decide +kernel
  have other : lowerCase byte ≠ letter := by
    rintro rfl
    exact absurd later (UInt8.not_le.mpr low)
  simp [startsWith, other]

/-- A number with a point is read whole and exactly. -/
theorem PointNumber.readDecimal_append (number : PointNumber) {rest : List UInt8}
    (separated : Separated rest) :
    readDecimal (number.text ++ rest) = some (number.decimal, number.text.length) := by
  have point : isDigit 10 46 = false := by decide
  obtain ⟨first, more, shape, digit⟩ := number.whole.exists_cons
  have sign := number.whole.readSign_append (46 :: (number.fraction.digits ++ rest))
  have whole := number.whole.takeWhile_append
    (noDigit_cons point (number.fraction.digits ++ rest))
  have fraction : readFraction (46 :: (number.fraction.digits ++ rest)) =
      (number.fraction.digits, number.fraction.length + 1) := by
    rw [readFraction, if_pos rfl, number.fraction.takeWhile_append separated.noDigit]
    rfl
  have word (letter : UInt8) (later : 97 ≤ letter) (word : List UInt8) :
      startsWith (letter :: word)
        (number.whole.digits ++ 46 :: (number.fraction.digits ++ rest)) = false := by
    rw [shape, List.cons_append]
    exact startsWith_of_isDigit digit later word _
  have behind : (46 :: (number.fraction.digits ++ rest)).drop (number.fraction.length + 1) =
      rest := List.drop_left
  rw [text, List.append_assoc, List.cons_append, readDecimal, sign]
  simp only [word 105 (by decide), word 110 (by decide), Bool.false_eq_true, if_false, whole,
    List.drop_left, fraction, behind, readExponent_of_separated separated, Nat.sub_self]
  rw [show number.whole.digits ++ number.fraction.digits =
    first :: (more ++ number.fraction.digits) from by rw [shape]; rfl]
  simp only [decimal, shape, Numeral.length, List.length_append, List.length_cons,
    List.cons_append, zero_sub, Option.some.injEq, Prod.mk.injEq, true_and, add_zero, zero_add]
  omega

/-- Groups with a space between them. -/
def spaced : List (List UInt8) → List UInt8
  | [] => []
  | [text] => text
  | text :: next :: rest => text ++ 32 :: spaced (next :: rest)

/-! ### Directives and their groups -/

section

variable {ρ : Type}

/-- The directive reads the text and stores its value, whatever follows. -/
def Reads (directive : Directive ρ) (text : List UInt8) (store : ρ → ρ) : Prop :=
  ∀ rest, Separated rest → directive (text ++ rest) = some (text.length, store)

/-- A group of the text, and the directive that reads it. -/
structure ScanField (ρ : Type) where
  text : List UInt8
  directive : Directive ρ
  store : ρ → ρ
  reads : Reads directive text store
  visible : ∀ byte ∈ text.head?, isSpace byte = false
  nonempty : text ≠ []
  terminated : 0 ∉ text

theorem ScanField.dropWhile_isSpace (field : ScanField ρ) (rest : List UInt8) :
    (field.text ++ rest).dropWhile isSpace = field.text ++ rest := by
  obtain ⟨first, more, shape⟩ := List.exists_cons_of_ne_nil field.nonempty
  have visible := field.visible first (by simp [shape])
  rw [shape, List.cons_append, List.dropWhile_cons_of_neg (by simp [visible])]

theorem zero_not_mem_spaced (fields : List (ScanField ρ)) : 0 ∉ spaced (fields.map ScanField.text) := by
  induction fields with
  | nil => simp [spaced]
  | cons field rest ih =>
      cases rest with
      | nil => exact field.terminated
      | cons next rest =>
          rw [List.map_cons, List.map_cons, spaced, ← List.map_cons, List.mem_append,
            List.mem_cons, not_or, not_or]
          exact ⟨field.terminated, by decide, ih⟩

theorem cString_eq_self {text : List UInt8} (terminated : 0 ∉ text) : cString text = text := by
  apply List.takeWhile_eq_self_iff.mpr
  intro byte inside
  rw [decide_eq_true_eq]
  rintro rfl
  exact terminated inside

/-- Space in front of the groups is skipped, and each directive reads its own. -/
theorem sscanfFrom_spaced (fields : List (ScanField ρ)) (space : List UInt8)
    (blank : ∀ byte ∈ space, isSpace byte = true) (stored : ρ) :
    sscanfFrom (fields.map ScanField.directive) (space ++ spaced (fields.map ScanField.text)) stored =
      (fields.length, fields.foldl (fun stored field => field.store stored) stored) := by
  induction fields generalizing space stored with
  | nil => rfl
  | cons field rest ih =>
      rw [List.map_cons, sscanfFrom, List.dropWhile_append_of_pos blank]
      dsimp only
      cases rest with
      | nil =>
          have read := field.reads [] separated_nil
          have shown := field.dropWhile_isSpace []
          rw [List.append_nil] at read shown
          rw [List.map_singleton, spaced, shown, read]
          rfl
      | cons next rest =>
          have later := ih [32] (List.forall_mem_singleton.mpr rfl) (field.store stored)
          rw [List.singleton_append] at later
          rw [List.map_cons, List.map_cons, spaced, ← List.map_cons, field.dropWhile_isSpace,
            field.reads _ (separated_cons _)]
          dsimp only
          rw [List.drop_left, later]
          rfl

/-- A format reads the groups that its directives are for. -/
theorem sscanf_spaced (fields : List (ScanField ρ)) (stored : ρ) :
    sscanf (fields.map ScanField.directive) (spaced (fields.map ScanField.text)) stored =
      (fields.length, fields.foldl (fun stored field => field.store stored) stored) := by
  rw [sscanf, cString_eq_self (zero_not_mem_spaced fields)]
  exact sscanfFrom_spaced fields [] (List.forall_mem_nil _) stored

/-! ### The directives for numbers -/

theorem limited_append {width : Option Nat} {text : List UInt8}
    (fits : ∀ count ∈ width, count = text.length) (rest : List UInt8) :
    limited width (text ++ rest) = text ∨ limited width (text ++ rest) = text ++ rest := by
  cases width with
  | none => exact .inr rfl
  | some count =>
      rw [limited, fits count rfl, List.take_left]
      exact .inl rfl

theorem scanFloat_reads {width : Option Nat} (number : PointNumber) (store : Decimal → ρ → ρ)
    (fits : ∀ count ∈ width, count = number.text.length) :
    Reads (scanFloat width store) number.text (store number.decimal) := by
  intro rest separated
  rw [scanFloat]
  rcases limited_append fits rest with cut | whole
  · have read := number.readDecimal_append separated_nil
    rw [List.append_nil] at read
    rw [cut, read]
    rfl
  · rw [whole, number.readDecimal_append separated]
    rfl

theorem scanLong_reads {width : Option Nat} (numeral : Numeral) (store : Int32 → ρ → ρ)
    (fits : ∀ count ∈ width, count = numeral.digits.length) (small : numeral.value < 2 ^ 31) :
    Reads (scanLong width store) numeral.digits (store (Int32.ofNat numeral.value)) := by
  have long := toLong_of_lt small
  intro rest separated
  rw [scanLong]
  rcases limited_append fits rest with cut | whole
  · have read := numeral.readInteger_append noDigit_nil
    rw [List.append_nil] at read
    rw [cut, read, Option.map_some]
    dsimp only
    rw [long]
    rfl
  · rw [whole, numeral.readInteger_append separated.noDigit, Option.map_some]
    dsimp only
    rw [long]
    rfl

theorem scanUnsigned_reads (numeral : Numeral) (store : UInt32 → ρ → ρ)
    (small : numeral.value < 2 ^ 32) :
    Reads (scanUnsigned 10 store) numeral.digits (store (UInt32.ofNat numeral.value)) := by
  intro rest separated
  rw [scanUnsigned, numeral.readInteger_append separated.noDigit, Option.map_some]
  dsimp only
  rw [toUnsigned_of_lt small]
  rfl

/-! ### Fields of numbers -/

theorem Numeral.zero_not_mem (numeral : Numeral) : 0 ∉ numeral.digits := by
  intro inside
  exact absurd (numeral.decimal 0 inside) (by decide)

theorem Numeral.visible (numeral : Numeral) :
    ∀ byte ∈ numeral.digits.head?, isSpace byte = false := by
  intro byte head
  exact isSpace_of_isDigit (numeral.decimal byte (List.mem_of_mem_head? head))

theorem PointNumber.zero_not_mem (number : PointNumber) : 0 ∉ number.text := by
  rw [text, List.mem_append, List.mem_cons, not_or, not_or]
  exact ⟨number.whole.zero_not_mem, by decide, number.fraction.zero_not_mem⟩

theorem PointNumber.visible (number : PointNumber) :
    ∀ byte ∈ number.text.head?, isSpace byte = false := by
  obtain ⟨first, more, shape, digit⟩ := number.whole.exists_cons
  intro byte head
  rw [text, shape] at head
  cases head
  exact isSpace_of_isDigit digit

theorem PointNumber.nonempty (number : PointNumber) : number.text ≠ [] :=
  List.append_ne_nil_of_left_ne_nil number.whole.nonempty _

/-- `strtoull` of a numeral. -/
theorem strtoull_numeral (numeral : Numeral) (small : numeral.value < 2 ^ 64) :
    strtoull numeral.digits = UInt64.ofNat numeral.value := by
  have shown := numeral.dropWhile_isSpace []
  have read := numeral.readInteger_append noDigit_nil
  rw [List.append_nil] at shown read
  rw [strtoull, cString_eq_self numeral.zero_not_mem, shown, read]
  dsimp only
  rw [toUnsigned_of_lt small]

/-- `atoi` of a numeral that something else ends. -/
theorem atoi_numeral (numeral : Numeral) (small : numeral.value < 2 ^ 31) {ending : UInt8}
    (other : isDigit 10 ending = false) (rest : List UInt8) :
    atoi (numeral.digits ++ ending :: rest) = some (Int32.ofNat numeral.value) := by
  rw [atoi, numeral.dropWhile_isSpace, numeral.readInteger_append (noDigit_cons other rest)]
  dsimp only
  rw [if_pos (by simp [Numeral.length]), toLong_of_lt small]

/-- `atoi` reads behind an array that a numeral fills. -/
theorem atoi_full (numeral : Numeral) : atoi numeral.digits = none := by
  have shown := numeral.dropWhile_isSpace []
  have read := numeral.readInteger_append noDigit_nil
  rw [List.append_nil] at shown read
  rw [atoi, shown, read]
  dsimp only
  rw [if_neg (by simp [Numeral.length])]

/-- A numeral with the directive that reads it. -/
def Numeral.field (numeral : Numeral) (directive : Directive ρ) (store : ρ → ρ)
    (reads : Reads directive numeral.digits store) : ScanField ρ :=
  { text := numeral.digits, directive, store, reads, visible := numeral.visible
    nonempty := numeral.nonempty, terminated := numeral.zero_not_mem }

def PointNumber.field (number : PointNumber) (directive : Directive ρ) (store : ρ → ρ)
    (reads : Reads directive number.text store) : ScanField ρ :=
  { text := number.text, directive, store, reads, visible := number.visible
    nonempty := number.nonempty, terminated := number.zero_not_mem }

end

/-! ### What a format leaves alone -/

section

variable {ρ τ : Type} {part : ρ → τ}

/-- No store of the directive changes a part of what is scanned into. -/
def Keeps (part : ρ → τ) (directive : Directive ρ) : Prop :=
  ∀ text length store, directive text = some (length, store) →
    ∀ stored, part (store stored) = part stored

theorem scanFloat_keeps {store : Decimal → ρ → ρ} (width : Option Nat)
    (kept : ∀ value stored, part (store value stored) = part stored) :
    Keeps part (scanFloat width store) := by
  intro text length stored scanned
  obtain ⟨number, -, same⟩ := Option.map_eq_some_iff.mp scanned
  cases same
  exact kept number.1

theorem scanLong_keeps {store : Int32 → ρ → ρ} (width : Option Nat)
    (kept : ∀ value stored, part (store value stored) = part stored) :
    Keeps part (scanLong width store) := by
  intro text length stored scanned
  obtain ⟨number, -, same⟩ := Option.map_eq_some_iff.mp scanned
  cases same
  exact kept number.1.toLong

theorem scanChar_keeps {store : UInt8 → ρ → ρ}
    (kept : ∀ value stored, part (store value stored) = part stored) :
    Keeps part (scanChar store) := by
  intro text length stored scanned
  obtain ⟨number, -, same⟩ := Option.map_eq_some_iff.mp scanned
  cases same
  exact kept number.1.toLong.toUInt32.toUInt8

theorem scanUnsigned_keeps {store : UInt32 → ρ → ρ} (base : Nat)
    (kept : ∀ value stored, part (store value stored) = part stored) :
    Keeps part (scanUnsigned base store) := by
  intro text length stored scanned
  obtain ⟨number, -, same⟩ := Option.map_eq_some_iff.mp scanned
  cases same
  exact kept (UInt32.ofNat (number.1.toUnsigned 32))

theorem sscanfFrom_keeps {format : List (Directive ρ)}
    (kept : ∀ directive ∈ format, Keeps part directive) (text : List UInt8) (stored : ρ) :
    part (sscanfFrom format text stored).2 = part stored := by
  induction format generalizing text stored with
  | nil => rfl
  | cons directive rest ih =>
      obtain ⟨head, later⟩ := List.forall_mem_cons.mp kept
      rw [sscanfFrom]
      dsimp only
      split
      · rfl
      · next length store read => rw [ih later, head _ _ _ read]

/-- A part that no directive stores to survives the whole format. -/
theorem sscanf_keeps {format : List (Directive ρ)}
    (kept : ∀ directive ∈ format, Keeps part directive) (text : List UInt8) (stored : ρ) :
    part (sscanf format text stored).2 = part stored :=
  sscanfFrom_keeps kept (cString text) stored

end

end EsInverter.Lib
