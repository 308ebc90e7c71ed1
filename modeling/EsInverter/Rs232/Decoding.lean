import EsInverter.Lib.Scanning
import EsInverter.Lib.Words
import EsInverter.Rs232.SubParsers

/-!
# What the sub-parsers make of the documented replies

Every reply whose format a sub-parser documents, with arbitrary digits and
characters in its groups, against the response that the groups stand for.
-/

set_option autoImplicit false

namespace EsInverter.Rs232

open Lib

/-- As many digits as the group has letters in the format. -/
structure Group (size : Nat) where
  numeral : Numeral
  sized : numeral.digits.length = size

/-- A group with a point. -/
structure Fixed (whole fraction : Nat) where
  whole : Group whole
  fraction : Group fraction

/-- A byte that is shown: a letter, a digit or another sign. -/
structure Character where
  byte : UInt8
  shown : isSpace byte = false
  nonzero : byte ≠ 0

section

variable {size whole fraction : Nat} {ρ : Type}

def Group.text (group : Group size) : List UInt8 := group.numeral.digits

def Group.value (group : Group size) : Nat := group.numeral.value

def Fixed.number (fixed : Fixed whole fraction) : PointNumber :=
  ⟨fixed.whole.numeral, fixed.fraction.numeral⟩

def Fixed.text (fixed : Fixed whole fraction) : List UInt8 := fixed.number.text

def Fixed.decimal (fixed : Fixed whole fraction) : Decimal := fixed.number.decimal

end

/-- The replies by their documented formats. -/
inductive Reply
  /-- `PI<NN>` -/
  | qpi (id : Group 2)
  /-- `ABCDEEFFGXXXXX` -/
  | qid (a b c d e₁ e₂ f₁ f₂ g x₁ x₂ x₃ x₄ x₅ : Character)
  /-- `VERFW:NNNNN.NN` -/
  | qvfw (major : Group 5) (minor : Group 2)
  /-- `TTTTTTTTTTTTTTT` and what follows behind a space. -/
  | qmd (model : Vector Character 15) (rest : List UInt8)
  /-- `BBB.B FF.F III.I EEE.E DDD.D AA.A GGG.G R MM T` -/
  | qpiri (gridVoltage : Fixed 3 1) (gridFrequency : Fixed 2 1) (gridCurrent : Fixed 3 1)
      (outputVoltage outputCurrent : Fixed 3 1) (mpptCurrent : Fixed 2 1)
      (batteryVoltage : Fixed 3 1) (tracks : Group 1) (machine : Group 2) (topology : Group 1)
  /-- `HHH.H LLL.L` -/
  | qgov (high low : Fixed 3 1)
  /-- `FF.F GG.G` -/
  | qgof (high low : Fixed 2 1)
  /-- `HHH LLL` -/
  | qmpptv (high low : Group 3)
  /-- `HHH LLL` -/
  | qpvipv (high low : Group 3)
  /-- `HHH LLL` -/
  | qgltv (high low : Group 3)
  /-- `LL` -/
  | qlst (sleepTime : Group 2)
  /-- `LLL.L SSS.S TTT.T` -/
  | qtpr (boost inverter inner : Fixed 3 1)
  /-- `HH.H LL.L NNN` -/
  | qdi2 (current voltage : Fixed 2 1) (waitTime : Group 3)
  /-- `VVV` -/
  | qdm (model : Group 3)
  /-- `AA.A BB.B CC.C DD.D` -/
  | qchgs (charging floating maximum bulk : Fixed 2 1)

namespace Reply

/-- The packet, as `rs232_2400_rsp_parse` passes it. -/
def text : Reply → List UInt8
  | qpi id => [80, 73] ++ id.text
  | qid a b c d e₁ e₂ f₁ f₂ g x₁ x₂ x₃ x₄ x₅ =>
      [a, b, c, d, e₁, e₂, f₁, f₂, g, x₁, x₂, x₃, x₄, x₅].map Character.byte
  | qvfw major minor => [86, 69, 82, 70, 87, 58] ++ (major.text ++ 46 :: minor.text)
  | qmd model rest => model.toList.map Character.byte ++ 32 :: rest
  | qpiri gridVoltage gridFrequency gridCurrent outputVoltage outputCurrent mpptCurrent
      batteryVoltage tracks machine topology =>
      spaced [gridVoltage.text, gridFrequency.text, gridCurrent.text, outputVoltage.text,
        outputCurrent.text, mpptCurrent.text, batteryVoltage.text, tracks.text, machine.text,
        topology.text]
  | qgov high low => spaced [high.text, low.text]
  | qgof high low => spaced [high.text, low.text]
  | qmpptv high low | qpvipv high low | qgltv high low => spaced [high.text, low.text]
  | qlst sleepTime => sleepTime.text
  | qtpr boost inverter inner => spaced [boost.text, inverter.text, inner.text]
  | qdi2 current voltage waitTime => spaced [current.text, voltage.text, waitTime.text]
  | qdm model => model.text
  | qchgs charging floating maximum bulk =>
      spaced [charging.text, floating.text, maximum.text, bulk.text]

end Reply

/-- The sub-parser accepts the reply, and each member of the response is its group. -/
def Decoded : Reply → Prop
  | .qpi id => ∀ before, parseRspQpi (Reply.qpi id).text before = .ok (0, UInt32.ofNat id.value)
  | .qid a b c d e₁ e₂ f₁ f₂ g x₁ x₂ x₃ x₄ x₅ => ∀ before, ∃ after,
      parseRspQid (Reply.qid a b c d e₁ e₂ f₁ f₂ g x₁ x₂ x₃ x₄ x₅).text before = .ok (0, after) ∧
        after.mainProductionType = a.byte ∧ after.subProductionType = b.byte ∧
        after.vaType = c.byte ∧ after.hlvType = d.byte ∧
        cString after.year = [e₁.byte, e₂.byte] ∧ cString after.month = [f₁.byte, f₂.byte] ∧
        cString after.manufacturerId = [x₁.byte, x₂.byte, x₃.byte, x₄.byte, x₅.byte]
  | .qvfw major minor => ∀ before, ∃ after,
      parseRspQvfw (Reply.qvfw major minor).text before = .ok (0, after) ∧
        after.toNat / 2 ^ 8 = major.value ∧ after.toNat % 2 ^ 8 = minor.value
  | .qmd model rest => ∀ before, ∃ after,
      parseRspQmd (Reply.qmd model rest).text before = .ok (0, after) ∧
        cString after = model.toList.map Character.byte
  | .qpiri gridVoltage gridFrequency gridCurrent outputVoltage outputCurrent mpptCurrent
      batteryVoltage tracks machine topology => ∀ before,
      parseRspQpiri (Reply.qpiri gridVoltage gridFrequency gridCurrent outputVoltage
        outputCurrent mpptCurrent batteryVoltage tracks machine topology).text before =
          .ok (0, {
            gridRatingVoltage := gridVoltage.decimal
            gridRatingFrequency := gridFrequency.decimal
            gridRatingCurrent := gridCurrent.decimal
            acOutputRatingVoltage := outputVoltage.decimal
            acOutputRatingCurrent := outputCurrent.decimal
            perMpptRatingCurrent := mpptCurrent.decimal
            batteryRatingVoltage := batteryVoltage.decimal
            mpptTrackNumber := Int32.ofNat tracks.value
            machineType := Int32.ofNat machine.value
            topology := Int32.ofNat topology.value })
  | .qgov high low => ∀ before, parseRspQgov (Reply.qgov high low).text before =
      .ok (0, ⟨Int32.ofNat high.whole.value, Int32.ofNat low.whole.value⟩)
  | .qgof high low => ∀ before, parseRspQgof (Reply.qgof high low).text before =
      .ok (0, ⟨high.decimal, low.decimal⟩)
  | .qmpptv high low => ∀ before, parseRspQmpptv (Reply.qmpptv high low).text before =
      .ok (0, ⟨Int32.ofNat high.value, Int32.ofNat low.value⟩)
  | .qpvipv high low => ∀ before, parseRspQpvipv (Reply.qpvipv high low).text before =
      .ok (0, ⟨Int32.ofNat high.value, Int32.ofNat low.value⟩)
  | .qgltv high low => ∀ before, parseRspQgltv (Reply.qgltv high low).text before =
      .ok (0, ⟨Int32.ofNat high.value, Int32.ofNat low.value⟩)
  | .qlst sleepTime => ∀ before, parseRspQlst (Reply.qlst sleepTime).text before =
      .ok (0, UInt32.ofNat sleepTime.value)
  | .qtpr boost inverter inner => ∀ before,
      parseRspQtpr (Reply.qtpr boost inverter inner).text before =
        .ok (0, ⟨boost.decimal, inverter.decimal, inner.decimal⟩)
  | .qdi2 current voltage waitTime => ∀ before,
      parseRspQdi2 (Reply.qdi2 current voltage waitTime).text before =
        .ok (0, ⟨current.decimal, voltage.decimal, UInt32.ofNat waitTime.value⟩)
  | .qdm model => ∀ before, parseRspQdm (Reply.qdm model).text before =
      .ok (0, UInt32.ofNat model.value)
  | .qchgs charging floating maximum bulk => ∀ before,
      parseRspQchgs (Reply.qchgs charging floating maximum bulk).text before =
        .ok (0, ⟨charging.decimal, floating.decimal, maximum.decimal, bulk.decimal⟩)

/-- The replies that are decoded as documented. -/
def Readable : Reply → Prop
  | .qpi _ | .qmd _ _ | .qgov _ _ | .qchgs _ _ _ _ => False
  | .qid a b c d e₁ e₂ f₁ f₂ g _ _ _ _ _ =>
      ∀ other ∈ [b, c, d, e₁, e₂, f₁, f₂, g], other.byte = a.byte
  | .qlst sleepTime => sleepTime.value = 0
  | _ => True

/-! ### Fields of a format -/

section

variable {size whole fraction : Nat} {ρ : Type}

theorem Group.value_lt (group : Group size) (short : size ≤ 9) : group.value < 2 ^ 31 := by
  have bound := group.numeral.value_lt
  rw [Numeral.length, group.sized] at bound
  calc group.value < 10 ^ size := bound
    _ ≤ 10 ^ 9 := Nat.pow_le_pow_right (by norm_num) short
    _ < 2 ^ 31 := by norm_num

theorem Fixed.length_text (fixed : Fixed whole fraction) :
    fixed.text.length = whole + 1 + fraction := by
  rw [Fixed.text, PointNumber.text, List.length_append, List.length_cons, Fixed.number,
    fixed.whole.sized, fixed.fraction.sized]
  omega

theorem none_fits (length : Nat) : ∀ count ∈ (none : Option Nat), count = length := by
  intro count inside
  cases inside

theorem some_fits {count length : Nat} (same : count = length) :
    ∀ width ∈ some count, width = length := by
  rintro width ⟨⟩
  exact same

def Fixed.float (fixed : Fixed whole fraction) (store : Decimal → ρ → ρ) : ScanField ρ :=
  fixed.number.field (scanFloat none store) (store fixed.decimal)
    (scanFloat_reads fixed.number store (none_fits _))

/-- A directive with the width of its group. -/
def Fixed.floatOf (fixed : Fixed whole fraction) (store : Decimal → ρ → ρ) : ScanField ρ :=
  fixed.number.field (scanFloat (some (whole + 1 + fraction)) store) (store fixed.decimal)
    (scanFloat_reads fixed.number store (some_fits fixed.length_text.symm))

def Group.long (group : Group size) (short : size ≤ 9) (store : Int32 → ρ → ρ) : ScanField ρ :=
  group.numeral.field (scanLong none store) (store (Int32.ofNat group.value))
    (scanLong_reads group.numeral store (none_fits _) (group.value_lt short))

def Group.longOf (group : Group size) (short : size ≤ 9) (store : Int32 → ρ → ρ) : ScanField ρ :=
  group.numeral.field (scanLong (some size) store) (store (Int32.ofNat group.value))
    (scanLong_reads group.numeral store (some_fits group.sized.symm) (group.value_lt short))

theorem Group.value_lt_unsigned (group : Group size) (short : size ≤ 9) :
    group.numeral.value < 2 ^ 32 := by
  have bound := group.value_lt short
  rw [Group.value] at bound
  omega

def Group.unsigned (group : Group size) (short : size ≤ 9) (store : UInt32 → ρ → ρ) : ScanField ρ :=
  group.numeral.field (scanUnsigned 10 store) (store (UInt32.ofNat group.value))
    (scanUnsigned_reads group.numeral store (group.value_lt_unsigned short))

/-- A format that reads its groups accepts them and stores all of them. -/
theorem scanned_spaced (fields : List (ScanField ρ)) (before : ρ) :
    scanned (fields.map ScanField.directive) (spaced (fields.map ScanField.text)) before =
      .ok (0, fields.foldl (fun stored field => field.store stored) before) := by
  unfold scanned
  rw [sscanf_spaced]
  simp

theorem ofLength_of_eq {msgLen : Nat} {packet : List UInt8} (same : packet.length = msgLen)
    (parse : SubParser ρ) (before : ρ) :
    ofLength msgLen parse packet before = parse packet before :=
  if_neg (not_not.mpr same)

theorem ofMinLength_of_le {minMsgLen : Nat} {packet : List UInt8}
    (long : minMsgLen ≤ packet.length) (parse : SubParser ρ) (before : ρ) :
    ofMinLength minMsgLen parse packet before = parse packet before :=
  if_neg (Nat.not_lt.mpr long)

theorem Group.length_text (group : Group size) : group.text.length = size := group.sized

end

/-! ### Formats that are read as documented -/

theorem decoded_qpiri (gridVoltage : Fixed 3 1) (gridFrequency : Fixed 2 1)
    (gridCurrent outputVoltage outputCurrent : Fixed 3 1) (mpptCurrent : Fixed 2 1)
    (batteryVoltage : Fixed 3 1) (tracks : Group 1) (machine : Group 2) (topology : Group 1) :
    Decoded (.qpiri gridVoltage gridFrequency gridCurrent outputVoltage outputCurrent
      mpptCurrent batteryVoltage tracks machine topology) := by
  intro before
  rw [parseRspQpiri, ofLength_of_eq (by
    simp [Reply.text, spaced, Fixed.length_text, Group.length_text])]
  have read := scanned_spaced
    [gridVoltage.floatOf fun v (r : QpiriResponse) => { r with gridRatingVoltage := v },
      gridFrequency.floatOf fun v r => { r with gridRatingFrequency := v },
      gridCurrent.floatOf fun v r => { r with gridRatingCurrent := v },
      outputVoltage.floatOf fun v r => { r with acOutputRatingVoltage := v },
      outputCurrent.floatOf fun v r => { r with acOutputRatingCurrent := v },
      mpptCurrent.floatOf fun v r => { r with perMpptRatingCurrent := v },
      batteryVoltage.floatOf fun v r => { r with batteryRatingVoltage := v },
      tracks.longOf (by decide) fun v r => { r with mpptTrackNumber := v },
      machine.longOf (by decide) fun v r => { r with machineType := v },
      topology.longOf (by decide) fun v r => { r with topology := v }] before
  exact read

theorem scanned_hiloVoltage (high low : Group 3) (before : HiloVoltageResponse) :
    scanned hiloVoltage (spaced [high.text, low.text]) before =
      .ok (0, ⟨Int32.ofNat high.value, Int32.ofNat low.value⟩) := by
  rw [hiloVoltage]
  have read := scanned_spaced
    [high.long (by decide) fun v (r : HiloVoltageResponse) => { r with highVoltage := v },
      low.long (by decide) fun v r => { r with lowVoltage := v }] before
  exact read

theorem length_hiloVoltage (high low : Group 3) :
    (spaced [high.text, low.text]).length = 7 := by
  simp [spaced, Group.length_text]

theorem decoded_qmpptv (high low : Group 3) : Decoded (.qmpptv high low) := by
  intro before
  exact (ofMinLength_of_le (length_hiloVoltage high low).ge _ before).trans
    (scanned_hiloVoltage high low before)

theorem decoded_qpvipv (high low : Group 3) : Decoded (.qpvipv high low) := by
  intro before
  exact (ofMinLength_of_le (length_hiloVoltage high low).ge _ before).trans
    (scanned_hiloVoltage high low before)

theorem decoded_qgltv (high low : Group 3) : Decoded (.qgltv high low) := by
  intro before
  exact (ofLength_of_eq (length_hiloVoltage high low) _ before).trans
    (scanned_hiloVoltage high low before)

theorem decoded_qgof (high low : Fixed 2 1) : Decoded (.qgof high low) := by
  intro before
  rw [parseRspQgof, ofMinLength_of_le (by simp [Reply.text, spaced, Fixed.length_text])]
  have read := scanned_spaced
    [high.float fun v (r : QgofResponse) => { r with highFrequency := v },
      low.float fun v r => { r with lowFrequency := v }] before
  exact read

theorem decoded_qtpr (boost inverter inner : Fixed 3 1) :
    Decoded (.qtpr boost inverter inner) := by
  intro before
  rw [parseRspQtpr, ofMinLength_of_le (by simp [Reply.text, spaced, Fixed.length_text])]
  have read := scanned_spaced
    [boost.float fun v (r : QtprResponse) => { r with boostTemp := v },
      inverter.float fun v r => { r with inverterTemp := v },
      inner.float fun v r => { r with innerTemp := v }] before
  exact read

theorem decoded_qdi2 (current voltage : Fixed 2 1) (waitTime : Group 3) :
    Decoded (.qdi2 current voltage waitTime) := by
  intro before
  rw [parseRspQdi2, ofMinLength_of_le (by
    simp [Reply.text, spaced, Fixed.length_text, Group.length_text])]
  have read := scanned_spaced
    [current.float fun v (r : Qdi2Response) => { r with maxCurrent := v },
      voltage.float fun v r => { r with maxVoltage := v },
      waitTime.unsigned (by decide) fun v r => { r with waitTime := v }] before
  exact read

theorem decoded_qdm (model : Group 3) : Decoded (.qdm model) := by
  intro before
  rw [parseRspQdm, ofLength_of_eq (by simp [Reply.text, Group.length_text])]
  refine (scanned_spaced
    [model.long (by decide) fun v (_ : UInt32) => v.toUInt32] before).trans ?_
  rfl

/-- A version of five and two digits keeps both. -/
theorem version_parts {major minor : Nat} (majorFits : major < 10 ^ 5) (minorFits : minor < 10 ^ 2) :
    (UInt64.ofNat major <<< 8 ||| (UInt64.ofNat minor).toUInt8.toUInt64).toNat =
      major * 2 ^ 8 + minor := by
  have shifted : (UInt64.ofNat major <<< 8).toNat = major <<< 8 := by
    rw [UInt64.toNat_shiftLeft, UInt64.toNat_ofNat_of_lt' (by rw [UInt64.size]; omega),
      Nat.shiftLeft_eq, Nat.shiftLeft_eq]
    simp
    omega
  have low : (UInt64.ofNat minor).toUInt8.toUInt64.toNat = minor := by
    simp
    omega
  rw [UInt64.toNat_or, shifted, low, ← Nat.shiftLeft_add_eq_or_of_lt (by omega), Nat.shiftLeft_eq]

theorem decoded_qvfw (major : Group 5) (minor : Group 2) : Decoded (.qvfw major minor) := by
  intro before
  have majorFits := major.numeral.value_lt
  have minorFits := minor.numeral.value_lt
  rw [Numeral.length, major.sized] at majorFits
  rw [Numeral.length, minor.sized] at minorFits
  have behind : (Reply.qvfw major minor).text.drop 6 = major.text ++ 46 :: minor.text := rfl
  have majorText : ((Reply.qvfw major minor).text.drop 6).take 5 = major.text := by
    rw [behind, List.take_left' major.length_text]
  have minorText : ((Reply.qvfw major minor).text.drop 12).take 2 = minor.text := by
    have pieces : major.text ++ 46 :: minor.text = (major.text ++ [46]) ++ minor.text := by simp
    have twice : (Reply.qvfw major minor).text.drop 12 =
        ((Reply.qvfw major minor).text.drop 6).drop 6 := by rw [List.drop_drop]
    rw [twice, behind, pieces, List.drop_left' (by simp [Group.length_text]),
      List.take_of_length_le minor.length_text.le]
  have parts := version_parts majorFits minorFits
  refine ⟨UInt64.ofNat major.value <<< 8 ||| (UInt64.ofNat minor.value).toUInt8.toUInt64, ?_, ?_, ?_⟩
  · unfold parseRspQvfw
    rw [ofLength_of_eq (by simp [Reply.text, Group.length_text])]
    dsimp only
    rw [majorText, minorText, Group.text, Group.text, strtoull_numeral _ (by omega),
      strtoull_numeral _ (by omega)]
    rfl
  · rw [Group.value, Group.value, parts]
    omega
  · rw [Group.value, Group.value, parts]
    omega

/-! ### Formats that are not -/

/-- The copied digits fill their array, so that `atoi` reads behind it. -/
theorem not_decoded_qpi (id : Group 2) : ¬ Decoded (.qpi id) := by
  intro decoded
  have ran := decoded 0
  have behind : ((Reply.qpi id).text.drop 2).take 2 = id.text :=
    List.take_of_length_le id.length_text.le
  have start : (Reply.qpi id).text.take 2 = [80, 73] := rfl
  rw [parseRspQpi, ofMinLength_of_le (by simp [Reply.text, Group.length_text]), behind,
    Group.text, atoi_full, start] at ran
  cases ran

/-- The first directive stops at the point, where the second finds no number. -/
theorem not_decoded_qgov (high low : Fixed 3 1) : ¬ Decoded (.qgov high low) := by
  intro decoded
  have ran := decoded ⟨0, 0⟩
  have point : isDigit 10 46 = false := by decide
  have terminated : 0 ∉ spaced [high.text, low.text] :=
    zero_not_mem_spaced [high.float fun _ (r : QgofResponse) => r, low.float fun _ r => r]
  have whole : spaced [high.text, low.text] = high.whole.numeral.digits ++
      46 :: (high.fraction.numeral.digits ++ 32 :: low.text) := by
    simp [spaced, Fixed.text, PointNumber.text, Fixed.number]
  have first : sscanf hiloVoltage (spaced [high.text, low.text]) ⟨0, 0⟩ =
      (1, ⟨Int32.ofNat high.whole.value, 0⟩) := by
    have stops := noDigit_cons point (high.fraction.numeral.digits ++ 32 :: low.text)
    have long : (⟨false, high.whole.numeral.value⟩ : Integer).toLong =
        Int32.ofNat high.whole.value := toLong_of_lt (high.whole.value_lt (by decide))
    rw [sscanf, cString_eq_self terminated, whole, hiloVoltage, sscanfFrom,
      Numeral.dropWhile_isSpace, scanLong, limited, Numeral.readInteger_append _ stops]
    dsimp only [Option.map]
    rw [long, Numeral.length, List.drop_left]
    rfl
  rw [parseRspQgov, ofMinLength_of_le (by simp [Reply.text, spaced, Fixed.length_text])] at ran
  unfold scanned at ran
  rw [Reply.text, first] at ran
  cases ran

/-- The length that is checked counts the carriage return. -/
theorem not_decoded_qchgs (charging floating maximum bulk : Fixed 2 1) :
    ¬ Decoded (.qchgs charging floating maximum bulk) := by
  intro decoded
  have ran := decoded ⟨.zero, .zero, .zero, .zero⟩
  have short : (Reply.qchgs charging floating maximum bulk).text.length = 19 := by
    simp [Reply.text, spaced, Fixed.length_text]
  rw [parseRspQchgs, ofLength, if_pos (by rw [short]; decide)] at ran
  cases ran

/-- All digits but the last are copied. -/
theorem decoded_qlst_iff (sleepTime : Group 2) :
    Decoded (.qlst sleepTime) ↔ sleepTime.value = 0 := by
  obtain ⟨first, second, shape⟩ := List.length_eq_two.mp sleepTime.sized
  have digits := sleepTime.numeral.decimal
  rw [shape, List.forall_mem_cons, List.forall_mem_singleton] at digits
  have firstSmall : digitValue first < 10 := of_decide_eq_true digits.1
  have secondSmall : digitValue second < 10 := of_decide_eq_true digits.2
  have value : sleepTime.value = digitValue first * 10 + digitValue second := by
    rw [Group.value, Numeral.value, shape]
    simp [ofDigits]
  have read : atoi (printInto [0, 0, 0] (Reply.qlst sleepTime).text.dropLast) =
      some (Int32.ofNat (digitValue first)) := by
    have copied : printInto [0, 0, 0] (Reply.qlst sleepTime).text.dropLast = [first] ++ [0, 0] := by
      rw [Reply.text, Group.text, shape]
      rfl
    let numeral : Numeral := ⟨[first], List.cons_ne_nil _ _, List.forall_mem_singleton.mpr digits.1⟩
    have one : numeral.value = digitValue first := by simp [numeral, Numeral.value, ofDigits]
    rw [copied, ← one]
    exact atoi_numeral numeral (by omega) (by decide) [0]
  have ran (before : UInt32) : parseRspQlst (Reply.qlst sleepTime).text before =
      .ok (0, UInt32.ofNat (digitValue first)) := by
    have length : (Reply.qlst sleepTime).text.length = 2 := sleepTime.length_text
    rw [parseRspQlst, ofMinLength_of_le length.ge, if_neg (by omega), read]
    rfl
  have decoded : Decoded (.qlst sleepTime) ↔
      UInt32.ofNat (digitValue first) = UInt32.ofNat sleepTime.value := by
    constructor
    · intro decoded
      have same := (ran 0).symm.trans (decoded 0)
      exact (Prod.mk.inj (Except.ok.inj same)).2
    · intro same before
      rw [ran, same]
  rw [decoded, ofNat_eq_ofNat_iff (by omega) (by omega)]
  omega

/-- The copy starts one byte late, so that it ends with the space. -/
theorem not_decoded_qmd (model : Vector Character 15) (rest : List UInt8) :
    ¬ Decoded (.qmd model rest) := by
  intro decoded
  obtain ⟨after, ran, read⟩ := decoded []
  have space : byteAt (Reply.qmd model rest).text 15 = 32 := by
    rw [byteAt, Reply.text, List.getD_append_right _ _ _ _ (by simp)]
    simp
  rw [parseRspQmd, ofMinLength_of_le (by simp [Reply.text])] at ran
  have copied : after = (List.range 14).map (fun i => byteAt (Reply.qmd model rest).text (i + 1)) ++
      [32, 0] := by
    rw [← (Prod.mk.inj (Except.ok.inj ran)).2, printInto, List.drop_nil, List.append_nil,
      List.range_succ, List.map_append, List.map_singleton, space, List.append_assoc]
    rfl
  have lengths : (cString after).length = 15 := by rw [read]; simp
  have front : cString after = after.take 15 := by
    rw [← lengths]
    exact (List.prefix_iff_eq_take.mp (List.takeWhile_prefix _))
  have inside : (32 : UInt8) ∈ model.toList.map Character.byte := by
    rw [← read, front, copied, List.take_append, List.length_map, List.length_range]
    exact List.mem_append_right _ (List.mem_singleton.mpr rfl)
  obtain ⟨character, -, same⟩ := List.mem_map.mp inside
  have shown := character.shown
  rw [same] at shown
  cases shown

theorem cString_printInto (array : List UInt8) {text : List UInt8} (terminated : 0 ∉ text) :
    cString (printInto array (text ++ [0])) = text := by
  have ends (rest : List UInt8) : cString (0 :: rest) = [] := rfl
  rw [printInto, List.append_assoc, List.singleton_append, cString, List.takeWhile_append_of_pos,
    ← cString, ends, List.append_nil]
  intro byte inside
  rw [decide_eq_true_eq]
  rintro rfl
  exact terminated inside

theorem zero_not_mem_characters (characters : List Character) :
    0 ∉ characters.map Character.byte := by
  intro inside
  obtain ⟨character, -, zero⟩ := List.mem_map.mp inside
  exact character.nonzero zero

/-- Every member but the last is taken from one byte too late. -/
theorem decoded_qid_iff (a b c d e₁ e₂ f₁ f₂ g x₁ x₂ x₃ x₄ x₅ : Character) :
    Decoded (.qid a b c d e₁ e₂ f₁ f₂ g x₁ x₂ x₃ x₄ x₅) ↔
      Readable (.qid a b c d e₁ e₂ f₁ f₂ g x₁ x₂ x₃ x₄ x₅) := by
  have year (array : List UInt8) :
      cString (printInto array [e₂.byte, f₁.byte, 0]) = [e₂.byte, f₁.byte] :=
    cString_printInto array (zero_not_mem_characters [e₂, f₁])
  have month (array : List UInt8) :
      cString (printInto array [f₂.byte, g.byte, 0]) = [f₂.byte, g.byte] :=
    cString_printInto array (zero_not_mem_characters [f₂, g])
  have last := zero_not_mem_characters [x₁, x₂, x₃, x₄, x₅]
  have manufacturer (array : List UInt8) :
      cString (printInto array (cString ([x₁, x₂, x₃, x₄, x₅].map Character.byte) ++ [0])) =
        [x₁.byte, x₂.byte, x₃.byte, x₄.byte, x₅.byte] := by
    rw [cString_eq_self last, cString_printInto array last]
    rfl
  have ran (before : QidResponse) :
      parseRspQid (Reply.qid a b c d e₁ e₂ f₁ f₂ g x₁ x₂ x₃ x₄ x₅).text before = .ok (0, {
        mainProductionType := b.byte
        subProductionType := c.byte
        vaType := d.byte
        hlvType := e₁.byte
        year := printInto before.year [e₂.byte, f₁.byte, 0]
        month := printInto before.month [f₂.byte, g.byte, 0]
        manufacturerId := printInto before.manufacturerId
          (cString ([x₁, x₂, x₃, x₄, x₅].map Character.byte) ++ [0]) }) := by
    rw [parseRspQid, ofLength_of_eq (by simp [Reply.text])]
    rfl
  constructor
  · intro decoded
    obtain ⟨after, result, main, sub, va, hlv, yearRead, monthRead, -⟩ :=
      decoded ⟨0, 0, 0, 0, [], [], []⟩
    rw [ran] at result
    obtain rfl := (Prod.mk.inj (Except.ok.inj result)).2
    rw [year] at yearRead
    rw [month] at monthRead
    dsimp only at main sub va hlv
    simp only [List.cons.injEq, and_true] at yearRead monthRead
    simp [Readable, main, sub, va, hlv, yearRead, monthRead]
  · intro readable before
    simp only [Readable, List.forall_mem_cons] at readable
    obtain ⟨b', c', d', e₁', e₂', f₁', f₂', g', -⟩ := readable
    refine ⟨_, ran before, ?_, ?_, ?_, ?_, ?_, ?_, manufacturer _⟩
    · exact b'
    · exact c'.trans b'.symm
    · exact d'.trans c'.symm
    · exact e₁'.trans d'.symm
    · rw [year, e₂', f₁', e₁']
    · rw [month, f₂', g', f₁']

/-- The sub-parsers decode exactly these replies as documented. -/
theorem decoded_iff_readable (reply : Reply) : Decoded reply ↔ Readable reply := by
  cases reply with
  | qpi id => exact iff_of_false (not_decoded_qpi id) not_false
  | qid a b c d e₁ e₂ f₁ f₂ g x₁ x₂ x₃ x₄ x₅ =>
    exact decoded_qid_iff a b c d e₁ e₂ f₁ f₂ g x₁ x₂ x₃ x₄ x₅
  | qvfw major minor => exact iff_of_true (decoded_qvfw major minor) trivial
  | qmd model rest => exact iff_of_false (not_decoded_qmd model rest) not_false
  | qpiri gridVoltage gridFrequency gridCurrent outputVoltage outputCurrent mpptCurrent
      batteryVoltage tracks machine topology =>
    exact iff_of_true (decoded_qpiri gridVoltage gridFrequency gridCurrent outputVoltage
      outputCurrent mpptCurrent batteryVoltage tracks machine topology) trivial
  | qgov high low => exact iff_of_false (not_decoded_qgov high low) not_false
  | qgof high low => exact iff_of_true (decoded_qgof high low) trivial
  | qmpptv high low => exact iff_of_true (decoded_qmpptv high low) trivial
  | qpvipv high low => exact iff_of_true (decoded_qpvipv high low) trivial
  | qgltv high low => exact iff_of_true (decoded_qgltv high low) trivial
  | qlst sleepTime => exact decoded_qlst_iff sleepTime
  | qtpr boost inverter inner => exact iff_of_true (decoded_qtpr boost inverter inner) trivial
  | qdi2 current voltage waitTime =>
    exact iff_of_true (decoded_qdi2 current voltage waitTime) trivial
  | qdm model => exact iff_of_true (decoded_qdm model) trivial
  | qchgs charging floating maximum bulk =>
    exact iff_of_false (not_decoded_qchgs charging floating maximum bulk) not_false

theorem replicate_succ_ne_nil (size : Nat) (digit : UInt8) :
    List.replicate (size + 1) digit ≠ [] := List.cons_ne_nil _ _

theorem replicate_succ_decimal (size : Nat) {digit : UInt8} (decimal : isDigit 10 digit = true) :
    ∀ byte ∈ List.replicate (size + 1) digit, isDigit 10 byte = true :=
  List.forall_mem_replicate.mpr (.inr decimal)

theorem length_replicate_succ (size : Nat) (digit : UInt8) :
    (List.replicate (size + 1) digit).length = size + 1 := List.length_replicate

/-- A group of one digit again and again. -/
def repdigit (size : Nat) (digit : UInt8) (decimal : isDigit 10 digit = true) :
    Group (size + 1) where
  numeral :=
    { digits := List.replicate (size + 1) digit
      nonempty := replicate_succ_ne_nil size digit
      decimal := replicate_succ_decimal size decimal }
  sized := length_replicate_succ size digit

/-- `222.2 111.1` -/
theorem gridLimits_not_decoded : ¬ ∀ reply, Decoded reply := by
  intro decoded
  exact not_decoded_qgov ⟨repdigit 2 50 rfl, repdigit 0 50 rfl⟩
    ⟨repdigit 2 49 rfl, repdigit 0 49 rfl⟩ (decoded _)

end EsInverter.Rs232
