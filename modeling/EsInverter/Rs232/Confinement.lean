import EsInverter.Rs232.Footprint
import EsInverter.SerialClient.Credit

/-!
# The arrays of the sub-parsers

Which packets a sub-parser handles inside the packet, its local arrays and the
response.  Three of them leave a local array: one hands over an array without
terminator, one copies as much as it has received, and one writes the terminator
behind its array.
-/

set_option autoImplicit false

namespace EsInverter.Rs232

open Lib SerialClient

namespace Footprint

/-- The accesses of a call stay inside. -/
abbrev Confined {α : Type} (packet : List UInt8) (run : Footed Access α) : Prop :=
  run.Within (Access.Inside packet.length)

/-- The accesses stay inside for every packet. -/
def Confining {ρ : Type} (reader : Reader ρ) : Prop :=
  ∀ packet response, Confined packet (reader packet response)

/-! ### What the sub-parsers share -/

section

variable {ρ : Type} {packet : List UInt8}

@[simp]
theorem inside_read (packetLen position : Nat) :
    (Access.read position).Inside packetLen ↔ position < packetLen + 2 := Iff.rfl

@[simp]
theorem inside_write (packetLen : Nat) (region : Region) :
    (Access.write region).Inside packetLen ↔ region.Inside := Iff.rfl

@[simp]
theorem inside_text (packetLen : Nat) (array : List UInt8) :
    (Access.text array).Inside packetLen ↔ 0 ∈ array := Iff.rfl

@[simp]
theorem confined_write (capacity offset count : Nat) :
    Confined packet (write capacity offset count) ↔ offset + count ≤ capacity := by
  rw [Confined, write, Footed.within_touch]
  exact Iff.rfl

@[simp]
theorem confined_readByte (position : Nat) :
    Confined packet (readByte packet position) ↔ position < packet.length + 2 := by
  simp [Confined, readByte]

theorem confined_readRange {start count : Nat} (inside : start + count ≤ packet.length + 2) :
    Confined packet (readRange packet start count) := by
  rw [Confined, readRange, Footed.within_forEach]
  intro position within
  rw [List.mem_range'_1] at within
  exact (confined_readByte position).mpr (by omega)

/-- The `NUL` is found behind the packet at the latest. -/
theorem within_readString {packetLen : Nat} (rest : List UInt8) (position : Nat)
    (inside : position + rest.length ≤ packetLen) :
    (readString rest position).Within (Access.Inside packetLen) := by
  induction rest generalizing position with
  | nil =>
      rw [List.length_nil] at inside
      simp [readString]
      omega
  | cons byte rest ih =>
      rw [List.length_cons] at inside
      rw [readString, Footed.within_bind, Footed.within_touch]
      constructor
      · rw [inside_read]
        omega
      · split
        · exact Footed.within_pure _
        · rw [Footed.within_bind]
          exact ⟨ih (position + 1) (by omega), Footed.within_pure _⟩

theorem confining_ofLength {reader : Reader ρ} {msgLen : Nat}
    (inner : ∀ packet response, packet.length = msgLen → Confined packet (reader packet response)) :
    Confining (ofLength msgLen reader) := by
  intro packet response
  rw [ofLength]
  split
  · exact Footed.within_pure _
  · rename_i long
    exact inner packet response (not_not.mp long)

theorem confining_ofMinLength {reader : Reader ρ} {minMsgLen : Nat}
    (inner : ∀ packet response, minMsgLen ≤ packet.length →
      Confined packet (reader packet response)) :
    Confining (ofMinLength minMsgLen reader) := by
  intro packet response
  rw [ofMinLength]
  split
  · exact Footed.within_pure _
  · rename_i long
    exact inner packet response (not_lt.mp long)

theorem confined_scan {arguments : List Region}
    (fit : ∀ region ∈ arguments, region.Inside) (format : List (Directive ρ)) (stored : ρ) :
    Confined packet (scan arguments format packet stored) := by
  rw [Confined, scan, Footed.within_bind, Footed.within_bind, Footed.within_touchAll]
  refine ⟨within_readString packet 0 (by omega), ?_, Footed.within_pure _⟩
  intro access stores
  obtain ⟨region, taken, rfl⟩ := List.mem_map.mp stores
  exact fit region (List.mem_of_mem_take taken)

theorem confining_scanned {arguments : List Region}
    (fit : ∀ region ∈ arguments, region.Inside) (format : List (Directive ρ)) :
    Confining (scanned arguments format) := by
  intro packet response
  rw [scanned, Confined, Footed.within_bind]
  exact ⟨confined_scan fit format response, Footed.within_pure _⟩

theorem Confining.ofLength {reader : Reader ρ} (inner : Confining reader) (msgLen : Nat) :
    Confining (Footprint.ofLength msgLen reader) :=
  confining_ofLength fun packet response _ => inner packet response

theorem Confining.ofMinLength {reader : Reader ρ} (inner : Confining reader) (minMsgLen : Nat) :
    Confining (Footprint.ofMinLength minMsgLen reader) :=
  confining_ofMinLength fun packet response _ => inner packet response

theorem confined_castTo [DecidableEq ρ] {view : Payload → ρ} {wrap : ρ → Payload}
    {reader : Reader ρ} {output : Payload} :
    Confined packet (castTo view wrap reader packet output) ↔
      Confined packet (reader packet (view output)) := by
  rw [castTo, Confined, Footed.within_bind]
  exact and_iff_left (Footed.within_pure _)

theorem confining_castTo [DecidableEq ρ] {view : Payload → ρ} {wrap : ρ → Payload}
    {reader : Reader ρ} (inner : Confining reader) : Confining (castTo view wrap reader) :=
  fun packet output => confined_castTo.mpr (inner packet (view output))

end

/-! ### Sub-parsers that stay inside -/

theorem confining_parseRspQid : Confining parseRspQid := by
  apply confining_ofLength
  intro packet response long
  have text : (cString (readRange packet 9 5).result).length ≤ 5 := by
    rw [result_readRange (by omega)]
    calc (cString ((packet.drop 9).take 5)).length
        ≤ ((packet.drop 9).take 5).length := (List.takeWhile_sublist _).length_le
      _ ≤ 5 := List.length_take_le _ _
  have types : ∀ access ∈ (List.range 4).map fun index =>
      Access.write (member qidLayout index 1), access.Inside packet.length := by
    intro access stores
    obtain ⟨index, inside, rfl⟩ := List.mem_map.mp stores
    have small : ∀ index ∈ List.range 4, (member qidLayout index 1).Inside := by decide
    exact small index inside
  have digits (start : Nat) (inside : start + 2 ≤ packet.length) :
      (readRange packet start 2).result.length = 2 := by
    rw [result_readRange inside, List.length_take, List.length_drop]
    omega
  simp only [Confined, Footed.within_bind, Footed.within_touch, Footed.within_touchAll,
    Footed.within_pure, inside_write, List.length_append, List.length_singleton,
    digits 5 (by omega), digits 7 (by omega), and_true]
  refine ⟨confined_readRange (by omega), types, confined_readRange (by omega), by decide,
    confined_readRange (by omega), by decide, confined_readRange (by omega), ?_⟩
  have room : qidLayout.offsetOf 6 + 6 ≤ qidLayout.size := by decide
  exact (Nat.add_le_add_left (Nat.succ_le_succ text) _).trans room

theorem confining_parseRspQvfw : Confining parseRspQvfw := by
  intro packet response
  rw [parseRspQvfw, Confined, Footed.within_bind, Footed.within_touch, inside_write]
  refine ⟨by decide, confining_ofLength ?_ packet 0⟩
  intro packet response long
  have terminated (text : List UInt8) {count : Nat} (positive : count ≠ 0) :
      0 ∈ text ++ List.replicate count (0 : UInt8) :=
    List.mem_append_right _ (List.mem_replicate.mpr ⟨positive, rfl⟩)
  simp only [Confined, Footed.within_bind, Footed.within_touch, Footed.within_pure, inside_write,
    inside_text, and_true]
  exact ⟨confined_readRange (by omega), (confined_write _ _ _).mpr (by omega),
    terminated _ (by omega), confined_readRange (by omega), (confined_write _ _ _).mpr (by omega),
    terminated _ (by omega), by decide⟩

/-- A packet of fifteen bytes is read up to the first byte of its checksum. -/
theorem confining_parseRspQmd : Confining parseRspQmd := by
  apply confining_ofMinLength
  intro packet model long
  simp only [Confined, Footed.within_bind, Footed.within_pure, and_true]
  exact ⟨confined_readRange (by omega), (confined_write _ _ _).mpr (by decide),
    (confined_write _ _ _).mpr (by decide)⟩

theorem confining_parseRspQpigs : Confining parseRspQpigs := by
  apply confining_ofMinLength
  intro packet response long
  rw [Confined, Footed.within_bind]
  constructor
  · exact confined_scan (by decide) _ _
  · simp only [Footed.within_bind, Footed.within_touch, Footed.within_pure, inside_write, and_true]
    exact ⟨by decide, by decide⟩

/-- A letter that stands for a flag has a member. -/
theorem qflagLetter_inside {letter : UInt8} {enable : Bool} {response result : QflagResponse}
    (known : qflagLetter letter enable response = some result) :
    (member qflagLayout (flagLetters.idxOf letter + 1) 1).Inside := by
  have listed : letter ∈ flagLetters := by
    by_contra other
    simp only [flagLetters, List.mem_cons, List.not_mem_nil, or_false, not_or] at other
    simp [qflagLetter, other] at known
  have each : ∀ letter ∈ flagLetters,
      (member qflagLayout (flagLetters.idxOf letter + 1) 1).Inside := by decide +kernel
  exact each letter listed

theorem within_qflagLoop {packetLen : Nat} (rest : List UInt8) (position : Nat) (enable : Bool)
    (response : QflagResponse) (inside : position + rest.length ≤ packetLen) :
    (qflagLoop rest position enable response).Within (Access.Inside packetLen) := by
  induction rest generalizing position enable response with
  | nil => exact Footed.within_pure _
  | cons byte rest ih =>
      rw [List.length_cons] at inside
      have later (enable : Bool) (response : QflagResponse) :=
        ih (position + 1) enable response (by omega)
      rw [qflagLoop, Footed.within_bind, Footed.within_touch]
      constructor
      · rw [inside_read]
        omega
      · split
        · exact later true response
        · split
          · exact later false response
          · cases known : qflagLetter byte enable response with
            | none => exact Footed.within_pure _
            | some result =>
                simp only [Footed.within_bind, Footed.within_touch, inside_write]
                exact ⟨qflagLetter_inside known, by decide, later enable result⟩

theorem confining_parseRspQflag : Confining parseRspQflag := by
  apply confining_ofLength
  intro packet response long
  rw [Confined, Footed.within_bind]
  constructor
  · exact (confined_readByte 0).mpr (by omega)
  · split
    · exact Footed.within_pure _
    · rw [Footed.within_bind]
      exact ⟨within_qflagLoop packet 0 false response (by omega), Footed.within_pure _⟩

theorem confining_parseRspQmod : Confining parseRspQmod := by
  apply confining_ofLength
  intro packet response long
  simp only [Confined, Footed.within_bind, Footed.within_touch, Footed.within_pure, inside_write,
    and_true]
  exact ⟨(confined_readByte 0).mpr (by omega), by decide⟩

theorem confining_parseRspQpiws : Confining parseRspQpiws := by
  intro packet response
  simp only [parseRspQpiws, Confined, Footed.within_bind, Footed.within_touch, Footed.within_pure,
    inside_write, and_true]
  exact ⟨by decide, confined_readRange (by omega)⟩

theorem confining_parseRspQpicf : Confining parseRspQpicf := by
  apply confining_ofLength
  intro packet response long
  simp only [Confined, Footed.within_bind, Footed.within_touch, Footed.within_pure, inside_write,
    and_true]
  exact ⟨by decide, confined_readRange (by omega)⟩

theorem within_strdec2intFrom {packetLen : Nat} (rest : List UInt8) (position : Nat) (out : Int32)
    (inside : position + rest.length ≤ packetLen) :
    (strdec2intFrom rest position out).Within (Access.Inside packetLen) := by
  induction rest generalizing position out with
  | nil => exact Footed.within_pure _
  | cons byte rest ih =>
      rw [List.length_cons] at inside
      rw [strdec2intFrom, Footed.within_bind, Footed.within_touch]
      constructor
      · rw [inside_read]
        omega
      · split
        · exact Footed.within_pure _
        · rw [Footed.within_bind, Footed.within_touch, inside_write]
          exact ⟨by decide, ih (position + 1) _ (by omega)⟩

theorem confining_parseRspQopmp : Confining parseRspQopmp := by
  apply confining_ofMinLength
  intro packet response long
  simp only [Confined, Footed.within_bind, Footed.within_touch, Footed.within_pure, inside_write,
    and_true]
  exact ⟨by decide, within_strdec2intFrom packet 0 0 (by omega)⟩

/-! ### Sub-parsers that leave an array -/

/-- The two characters of the protocol fill their array. -/
theorem confined_parseRspQpi {packet : List UInt8} {protocolId : UInt32} :
    Confined packet (parseRspQpi packet protocolId) ↔
      packet.length < 4 ∨ packet.take 2 ≠ [80, 73] ∨ 0 ∈ (packet.drop 2).take 2 := by
  rw [parseRspQpi, ofMinLength]
  by_cases short : packet.length < 4
  · rw [if_pos short]
    exact iff_of_true (Footed.within_pure _) (.inl short)
  · rw [if_neg short, Confined, Footed.within_bind, result_readRange (by omega), List.drop_zero,
      or_iff_right short, and_iff_right (confined_readRange (by omega))]
    by_cases other : packet.take 2 ≠ [80, 73]
    · rw [if_pos other]
      exact iff_of_true (Footed.within_pure _) (.inl other)
    · rw [if_neg other, or_iff_right other]
      simp only [Footed.within_bind, Footed.within_touch, inside_text]
      rw [@result_readRange packet 2 2 (by omega),
        and_iff_right (@confined_readRange packet 2 2 (by omega)),
        and_iff_right ((confined_write _ _ _).mpr (by omega))]
      apply and_iff_left
      cases atoi ((packet.drop 2).take 2) with
      | none => exact Footed.within_pure _
      | some number =>
          rw [Footed.within_bind, Footed.within_touch, inside_write]
          exact ⟨by decide, Footed.within_pure _⟩

/-- The array has room for three of the copied bytes, and for their terminator only when there
are fewer. -/
theorem confined_parseRspQlst {packet : List UInt8} {sleepTime : UInt32} :
    Confined packet (parseRspQlst packet sleepTime) ↔
      packet.length < 4 ∨ packet.length = 4 ∧ 0 ∈ packet.take 3 := by
  rw [parseRspQlst, ofMinLength]
  by_cases short : packet.length < 2
  · rw [if_pos short]
    exact iff_of_true (Footed.within_pure _) (.inl (by omega))
  · rw [if_neg short, Confined, Footed.within_bind, result_readRange (by omega),
      Footed.within_bind, List.drop_zero, and_iff_right (confined_readRange (by omega))]
    by_cases long : packet.length - 1 > 3
    · apply iff_of_false
      · rintro ⟨copied, -⟩
        have fits := (@confined_write packet _ _ _).mp copied
        omega
      · omega
    · rw [if_neg long, and_iff_right ((confined_write _ _ _).mpr (by omega))]
      have terminated : 0 ∈ printInto [0, 0, 0] (packet.take (packet.length - 1)) ↔
          packet.length < 4 ∨ packet.length = 4 ∧ 0 ∈ packet.take 3 := by
        by_cases full : packet.length = 4
        · rw [full, printInto_full (by simp [full])]
          simp
        · have room : packet.length < 4 := by omega
          have copied : (packet.take (packet.length - 1)).length < 3 := by
            rw [List.length_take]
            omega
          exact iff_of_true (zero_mem_printInto copied) (.inl room)
      simp only [Footed.within_bind, Footed.within_touch, inside_text]
      rw [← terminated]
      apply and_iff_left
      cases atoi (printInto [0, 0, 0] (packet.take (packet.length - 1))) with
      | none => exact Footed.within_pure _
      | some number =>
          rw [Footed.within_bind, Footed.within_touch, inside_write]
          exact ⟨by decide, Footed.within_pure _⟩

/-- The terminator is written behind the array, whatever its length is. -/
theorem not_confined_parseRspQpihf (packet : List UInt8) (model : UInt32) :
    ¬ Confined packet (parseRspQpihf packet model) := by
  rw [parseRspQpihf, Confined, Footed.within_bind, Footed.within_bind, Footed.within_bind]
  rintro ⟨-, -, terminator, -⟩
  have fits := (@confined_write packet _ _ _).mp terminator
  omega

/-! ### The frames that are handled inside -/

/-- The packet of a reply that a sub-parser handles inside its arrays. -/
def Harmless : Cmd → List UInt8 → Prop
  | .qpi, packet =>
      packet.length < 4 ∨ packet.take 2 ≠ [80, 73] ∨ 0 ∈ (packet.drop 2).take 2
  | .qlst, packet => packet.length < 4 ∨ packet.length = 4 ∧ 0 ∈ packet.take 3
  | .qpihf, _ => False
  | _, _ => True

theorem confined_subParser (cmd : Cmd) {packet : List UInt8} {output : Payload} :
    Confined packet (subParser cmd packet output) ↔ Harmless cmd packet := by
  have always {cmd : Cmd} (confining : Confining (subParser cmd)) (harmless : Harmless cmd packet) :
      Confined packet (subParser cmd packet output) ↔ Harmless cmd packet :=
    iff_of_true (confining packet output) harmless
  cases cmd with
  | qpi => exact confined_castTo.trans confined_parseRspQpi
  | qid => exact always (confining_castTo confining_parseRspQid) trivial
  | qvfw => exact always (confining_castTo confining_parseRspQvfw) trivial
  | qvfw2 => exact always (confining_castTo confining_parseRspQvfw) trivial
  | qvfw3 => exact always (confining_castTo confining_parseRspQvfw) trivial
  | qpiri =>
      exact always (confining_castTo ((confining_scanned (by decide) _).ofLength 46)) trivial
  | qmd => exact always (confining_castTo confining_parseRspQmd) trivial
  | qflag => exact always (confining_castTo confining_parseRspQflag) trivial
  | qpigs => exact always (confining_castTo confining_parseRspQpigs) trivial
  | qmod => exact always (confining_castTo confining_parseRspQmod) trivial
  | qgov =>
      exact always (confining_castTo ((confining_scanned (by decide) _).ofMinLength 11)) trivial
  | qgof =>
      exact always (confining_castTo ((confining_scanned (by decide) _).ofMinLength 9)) trivial
  | qopmp => exact always (confining_castTo confining_parseRspQopmp) trivial
  | qmpptv =>
      exact always (confining_castTo ((confining_scanned (by decide) _).ofMinLength 7)) trivial
  | qpvipv =>
      exact always (confining_castTo ((confining_scanned (by decide) _).ofMinLength 7)) trivial
  | qlst => exact confined_castTo.trans confined_parseRspQlst
  | qtpr =>
      exact always (confining_castTo ((confining_scanned (by decide) _).ofMinLength 17)) trivial
  | qdi2 =>
      exact always (confining_castTo ((confining_scanned (by decide) _).ofMinLength 13)) trivial
  | qgltv =>
      exact always (confining_castTo ((confining_scanned (by decide) _).ofLength 7)) trivial
  | qdm => exact always (confining_castTo ((confining_scanned (by decide) _).ofLength 3)) trivial
  | qpihf =>
      exact confined_castTo.trans (iff_of_false (not_confined_parseRspQpihf packet _) id)
  | qchgs =>
      exact always (confining_castTo ((confining_scanned (by decide) _).ofLength 20)) trivial
  | qpicf => exact always (confining_castTo confining_parseRspQpicf) trivial
  | qpiws => exact always (confining_castTo confining_parseRspQpiws) trivial

theorem confined_parseRspIsNak (packet : List UInt8) : Confined packet (parseRspIsNak packet) := by
  rw [parseRspIsNak]
  split
  · exact Footed.within_pure _
  · rw [Confined, Footed.within_bind]
    exact ⟨confined_readRange (by omega), Footed.within_pure _⟩

/-- A rejection is only copied; any other reply goes to the sub-parser of the request, if there is
one. -/
def HarmlessReply (rqId : UInt16) (packet : List UInt8) : Prop :=
  Rs232.parseRspIsNak packet = true ∨ ∀ cmd, Cmd.ofCode? rqId = some cmd → Harmless cmd packet

theorem confined_judgePacket {packet : List UInt8} (fits : packet.length ≤ maxPacketLen)
    {rqId : UInt16} {dataIn : List UInt8} {output : Payload} {processed : Nat} :
    Confined packet (judgePacket rqId packet dataIn output processed) ↔
      HarmlessReply rqId packet := by
  rw [judgePacket, Confined, Footed.within_bind, result_parseRspIsNak,
    and_iff_right (confined_parseRspIsNak packet)]
  by_cases rejected : Rs232.parseRspIsNak packet = true
  · rw [if_pos rejected]
    apply iff_of_true _ (.inl rejected)
    simp only [Footed.within_bind, Footed.within_pure, and_true]
    exact ⟨confined_readRange (by omega), (confined_write _ _ _).mpr (by omega)⟩
  · rw [if_neg rejected, HarmlessReply, or_iff_right rejected]
    cases known : Cmd.ofCode? rqId with
    | none =>
        apply iff_of_true (Footed.within_pure _)
        rintro cmd ⟨⟩
    | some cmd =>
        dsimp only
        rw [Footed.within_bind, and_iff_left (Footed.within_pure _)]
        constructor
        · rintro confined _ ⟨⟩
          exact (confined_subParser cmd).mp confined
        · exact fun harmless => (confined_subParser cmd).mpr (harmless cmd rfl)

/-! ### The frames of the input -/

/-- What the frame holds between its opening parenthesis and its checksum. -/
def framePacket (dataIn : List UInt8) (start finish : Nat) : List UInt8 :=
  (dataIn.drop (start + 1)).take (finish - start - 3)

/-- The input with the checksum of the frame zeroed. -/
def zeroedCrc (dataIn : List UInt8) (finish : Nat) : List UInt8 :=
  (dataIn.set (finish - 2) 0).set (finish - 1) 0

/-- `rs232_2400_rsp_parse` behind the check of the checksum. -/
def judgeChecked (rqId : UInt16) (dataIn : List UInt8) (output : Payload) (start finish : Nat) :
    Footed Access (Except Fault Parsed) :=
  judgePacket rqId (framePacket dataIn start finish) (zeroedCrc dataIn finish) output (finish + 1)

section

variable {dataIn : List UInt8} {start finish : Nat}

theorem length_framePacket (found : checkedFrame dataIn = some (start, finish)) :
    (framePacket dataIn start finish).length = finish - start - 3 := by
  have inside := checkedFrame_inside found
  rw [framePacket, List.length_take, List.length_drop]
  omega

/-- The packet with the two zeroed bytes behind it is a part of the input. -/
theorem getD_zeroedCrc (found : checkedFrame dataIn = some (start, finish)) {position : Nat}
    (inside : position < (framePacket dataIn start finish).length + 2) :
    (zeroedCrc dataIn finish).getD (start + 1 + position) 0 =
      byteAt (framePacket dataIn start finish) position := by
  have ordered := checkedFrame_inside found
  obtain ⟨-, -, -, wide, -⟩ := checkedFrame_some found
  have size := length_framePacket found
  rw [byteAt]
  by_cases text : position < finish - start - 3
  · have first : finish - 1 ≠ start + 1 + position := by omega
    have second : finish - 2 ≠ start + 1 + position := by omega
    rw [zeroedCrc, List.getD, List.getElem?_set_ne first, List.getElem?_set_ne second,
      List.getD, framePacket, List.getElem?_take_of_lt text, List.getElem?_drop]
  · have behind : (framePacket dataIn start finish).getD position 0 = 0 :=
      List.getD_eq_default _ _ (by omega)
    rw [behind, zeroedCrc, List.getD]
    have last : start + 1 + position = finish - 2 ∨ start + 1 + position = finish - 1 := by omega
    rcases last with high | low
    · rw [high, List.getElem?_set_ne (by omega), List.getElem?_set_self (by omega)]
      rfl
    · rw [low, List.getElem?_set_self (by rw [List.length_set]; omega)]
      rfl

/-- The accesses leave the result of `rs232_2400_rsp_parse` as it is. -/
theorem result_judgeChecked (found : checkedFrame dataIn = some (start, finish))
    (rqId : UInt16) (output : Payload) :
    (judgeChecked rqId dataIn output start finish).result = rs232RspParse rqId dataIn output := by
  rw [judgeChecked, result_judgePacket, rs232RspParse_of_checked found, framePacket, zeroedCrc]

/-- The accesses made for a frame that fits into the window stay inside exactly when its reply is
harmless. -/
theorem judgeChecked_confined_iff (found : checkedFrame dataIn = some (start, finish))
    (fits : finish + 1 - start ≤ maxPacketLen) (rqId : UInt16) (output : Payload) :
    Confined (framePacket dataIn start finish) (judgeChecked rqId dataIn output start finish) ↔
      HarmlessReply rqId (framePacket dataIn start finish) := by
  apply confined_judgePacket
  rw [length_framePacket found]
  omega

end

/-- `(PI30`, the reply of an inverter to `QPI` -/
def protocolReply : List UInt8 := [40, 80, 73, 51, 48, 0x9A, 0x0B, 13]

theorem judgeChecked_confined_iff_protocolReply :
    Confined (framePacket protocolReply 0 7)
        (judgeChecked (Cmd.code .qpi) protocolReply .zero 0 7) ↔
      HarmlessReply (Cmd.code .qpi) (framePacket protocolReply 0 7) :=
  judgeChecked_confined_iff (by decide +kernel) (by decide) (Cmd.code .qpi) .zero

theorem protocolReply_not_confined :
    ¬ ∀ (rqId : UInt16) (dataIn : List UInt8) (output : Payload) (start finish : Nat),
      checkedFrame dataIn = some (start, finish) → finish + 1 - start ≤ maxPacketLen →
      Confined (framePacket dataIn start finish)
        (judgeChecked rqId dataIn output start finish) := by
  intro always
  have confined := always (Cmd.code .qpi) protocolReply .zero 0 7 (by decide +kernel) (by decide)
  exact absurd confined (by decide +kernel)

end Footprint

end EsInverter.Rs232
