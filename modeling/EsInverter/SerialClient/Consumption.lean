import EsInverter.Rs232.Confinement
import EsInverter.SerialClient.Resync

/-!
# What the parser consumes

The parser returns how many bytes it has processed, and its callers drop as many
from their window and from the ring.  The returned offset belongs to one of five
exits; on a frame with the right checksum it is returned by every sub-parser that
returns at all.
-/

set_option autoImplicit false

namespace EsInverter.SerialClient

open Lib Rs232

/-! ### The frame in an input -/

/-- The last opening parenthesis and the first carriage return behind it. -/
structure Framed (dataIn front inner rest : List UInt8) : Prop where
  split : dataIn = front ++ (openingParenthesis :: inner) ++ carriageReturn :: rest
  last : openingParenthesis ∉ inner ++ carriageReturn :: rest
  first : carriageReturn ∉ inner

/-- An input has no opening parenthesis, or its last one begins an unfinished frame or a frame. -/
theorem frame_cases (dataIn : List UInt8) :
    openingParenthesis ∉ dataIn ∨
      (∃ front rest, dataIn = front ++ openingParenthesis :: rest ∧
        openingParenthesis ∉ rest ∧ carriageReturn ∉ rest) ∨
      ∃ front inner rest, Framed dataIn front inner rest := by
  by_cases opened : openingParenthesis ∈ dataIn
  · right
    obtain ⟨back, before, split, last⟩ :=
      List.eq_append_cons_of_mem (List.mem_reverse.mpr opened)
    have split : dataIn = before.reverse ++ openingParenthesis :: back.reverse := by
      rw [← List.reverse_reverse dataIn, split]
      simp
    have last : openingParenthesis ∉ back.reverse := by rwa [List.mem_reverse]
    generalize before.reverse = front at split
    generalize back.reverse = behind at split last
    by_cases closed : carriageReturn ∈ behind
    · obtain ⟨inner, rest, rfl, first⟩ := List.eq_append_cons_of_mem closed
      exact .inr ⟨front, inner, rest, by simpa using split, last, first⟩
    · exact .inl ⟨front, behind, split, last, closed⟩
  · exact .inl opened

theorem last_unique {front rest front' rest' : List UInt8}
    (same : front ++ openingParenthesis :: rest = front' ++ openingParenthesis :: rest')
    (last : openingParenthesis ∉ rest) (last' : openingParenthesis ∉ rest') :
    front = front' ∧ rest = rest' := by
  have found : packetStart (front ++ openingParenthesis :: rest) 0 none = some front.length :=
    packetStart_last last
  rw [same, packetStart_last last'] at found
  obtain ⟨fronts, rests⟩ := List.append_inj same (Option.some.inj found).symm
  exact ⟨fronts, List.tail_eq_of_cons_eq rests⟩

theorem first_unique {text rest text' rest' : List UInt8}
    (same : text ++ carriageReturn :: rest = text' ++ carriageReturn :: rest')
    (first : carriageReturn ∉ text) (first' : carriageReturn ∉ text') : text = text' := by
  have found := packetEnd_first first [] rest
  rw [List.nil_append, same] at found
  have found' := packetEnd_first first' [] rest'
  rw [List.nil_append, found] at found'
  have lengths : text.length = text'.length := by simpa using found'
  exact (List.append_inj same lengths).1

namespace Framed

variable {dataIn front inner rest front' inner' rest' : List UInt8}

theorem split_last (framed : Framed dataIn front inner rest) :
    dataIn = front ++ openingParenthesis :: (inner ++ carriageReturn :: rest) := by
  simpa using framed.split

/-- An input has at most one frame. -/
theorem unique (framed : Framed dataIn front inner rest)
    (framed' : Framed dataIn front' inner' rest') : front = front' ∧ inner = inner' := by
  obtain ⟨fronts, behind⟩ := last_unique (framed.split_last.symm.trans framed'.split_last)
    framed.last framed'.last
  exact ⟨fronts, first_unique behind framed.first framed'.first⟩

theorem length_eq (framed : Framed dataIn front inner rest) :
    dataIn.length = front.length + inner.length + rest.length + 2 := by
  rw [framed.split]
  simp
  omega

end Framed

/-! ### The contract -/

/-- The two bytes of a checksum. -/
theorem exists_checksum_suffix {inner : List UInt8} (long : 2 ≤ inner.length) :
    ∃ body high low, inner = body ++ [high, low] := by
  have size : (inner.drop (inner.length - 2)).length = 2 := by
    rw [List.length_drop]
    omega
  obtain ⟨high, low, bytes⟩ := List.length_eq_two.mp size
  refine ⟨inner.take (inner.length - 2), high, low, ?_⟩
  rw [← bytes, List.take_append_drop]

/-- The position behind the carriage return of a frame. -/
def frameEnd (front inner : List UInt8) : Nat :=
  (front ++ (openingParenthesis :: inner) ++ [carriageReturn]).length

/-- What a call on an input may leave.  A frame has a checksum when two bytes stand before its
carriage return, and an input is searched when it has five bytes. -/
structure Consumes (dataIn : List UInt8) (output : Payload) (parsed : Parsed) : Prop where
  inside : parsed.processed ≤ dataIn.length
  pending : ∀ front rest, dataIn = front ++ openingParenthesis :: rest →
    openingParenthesis ∉ rest → carriageReturn ∉ rest → parsed.processed ≤ front.length
  judged : parsed.err ≠ ParseStatus.noPacket → ∃ front inner rest,
    Framed dataIn front inner rest ∧ 2 ≤ inner.length ∧ parsed.processed = frameEnd front inner
  mismatch : ∀ front body high low rest, Framed dataIn front (body ++ [high, low]) rest →
    5 ≤ dataIn.length → crc16Xmodem (openingParenthesis :: body) ≠ joinCrc high low →
      parsed.err = ParseStatus.invalidCrc ∧ parsed.dataIn = dataIn ∧ parsed.output = output

/-! ### The exits of the parser -/

section

variable {dataIn front inner body rest : List UInt8} {high low : UInt8}

theorem rs232RspParse_few (few : dataIn.length < 5) (rqId : UInt16) (output : Payload) :
    rs232RspParse rqId dataIn output =
      .ok { processed := 0, dataIn, output, err := ParseStatus.noPacket } := by
  rw [rs232RspParse, if_pos few]

theorem rs232RspParse_unopened (long : 5 ≤ dataIn.length) (unopened : openingParenthesis ∉ dataIn)
    (rqId : UInt16) (output : Payload) :
    rs232RspParse rqId dataIn output =
      .ok { processed := dataIn.length, dataIn, output, err := ParseStatus.noPacket } := by
  rw [rs232RspParse, if_neg (by omega), packetStart_of_notMem unopened]

theorem rs232RspParse_unfinished (long : 5 ≤ dataIn.length)
    (split : dataIn = front ++ openingParenthesis :: rest) (last : openingParenthesis ∉ rest)
    (unfinished : carriageReturn ∉ rest) (rqId : UInt16) (output : Payload) :
    rs232RspParse rqId dataIn output =
      .ok { processed := front.length, dataIn, output, err := ParseStatus.noPacket } := by
  have opened : packetStart dataIn 0 none = some front.length := by
    rw [split]
    exact packetStart_last last
  have notClosed : packetEnd dataIn front.length = none := by
    rw [packetEnd, split, List.drop_left, Option.map_eq_none_iff, List.findIdx?_eq_none_iff]
    intro byte member
    rw [beq_eq_false_iff_ne]
    rintro rfl
    rcases List.mem_cons.mp member with same | inside
    · exact absurd same (by decide)
    · exact unfinished inside
  rw [rs232RspParse, if_neg (by omega), opened]
  dsimp only
  rw [notClosed]

theorem rs232RspParse_of_framed (long : 5 ≤ dataIn.length)
    (framed : Framed dataIn front inner rest) (rqId : UInt16) (output : Payload) :
    rs232RspParse rqId dataIn output = judgeFrame rqId dataIn output front.length
      (front.length + (openingParenthesis :: inner).length) := by
  have count := framed.length_eq
  rw [framed.split]
  exact rs232RspParse_found front inner rest framed.last framed.first (by omega) rqId output

theorem rs232RspParse_short (long : 5 ≤ dataIn.length) (framed : Framed dataIn front inner rest)
    (short : inner.length < 2) (rqId : UInt16) (output : Payload) :
    rs232RspParse rqId dataIn output =
      .ok { processed := front.length, dataIn, output, err := ParseStatus.noPacket } := by
  rw [rs232RspParse_of_framed long framed]
  apply judgeFrame_short
  rw [List.length_cons]
  omega

/-- A frame with a checksum. -/
theorem rs232RspParse_checksum (long : 5 ≤ dataIn.length)
    (framed : Framed dataIn front (body ++ [high, low]) rest) (rqId : UInt16) (output : Payload) :
    ∃ zeroed, rs232RspParse rqId dataIn output =
      if crc16Xmodem (openingParenthesis :: body) ≠ joinCrc high low then
        .ok {
          processed := frameEnd front (body ++ [high, low]), dataIn, output,
          err := ParseStatus.invalidCrc }
      else judgePacket rqId body zeroed output (frameEnd front (body ++ [high, low])) := by
  have split : dataIn =
      front ++ (openingParenthesis :: body) ++ [high, low] ++ carriageReturn :: rest := by
    simpa using framed.split
  have finish : front.length + (openingParenthesis :: (body ++ [high, low])).length =
      front.length + (openingParenthesis :: body).length + 2 := by
    simp
    omega
  have processed : frameEnd front (body ++ [high, low]) =
      front.length + (openingParenthesis :: body).length + 2 + 1 := by
    simp [frameEnd]
    omega
  have judged := judgeFrame_long (List.cons_ne_nil openingParenthesis body) front
    (carriageReturn :: rest) high low rqId output
  rw [← split] at judged
  rw [rs232RspParse_of_framed long framed, finish, judged, processed]
  exact ⟨_, rfl⟩

end

/-! ### The sub-parsers that return -/

/-- Behind its white space and its sign an array holds digits only, so that a number runs out of
it. -/
def RunsOut (array : List UInt8) : Prop :=
  ∀ byte ∈ (readSign (array.dropWhile isSpace)).2, isDigit 10 byte = true

instance (array : List UInt8) : Decidable (RunsOut array) :=
  inferInstanceAs (Decidable (∀ byte ∈ _, _))

theorem length_readSign (text : List UInt8) : (readSign text).2.length ≤ text.length := by
  cases text with
  | nil => exact Nat.le_refl 0
  | cons byte rest =>
      rw [readSign]
      split
      · exact Nat.le_succ _
      · split
        · exact Nat.le_succ _
        · exact Nat.le_refl _

theorem atoi_eq_none_iff (array : List UInt8) : atoi array = none ↔ RunsOut array := by
  rw [atoi, RunsOut, readInteger]
  generalize array.dropWhile isSpace = text
  have shorter := length_readSign text
  generalize readSign text = signed at shorter
  obtain ⟨negative, unsigned⟩ := signed
  dsimp only at shorter ⊢
  rw [if_neg (by decide)]
  cases digits : unsigned.takeWhile (isDigit 10) with
  | nil =>
      cases unsigned with
      | nil => simp
      | cons byte rest =>
          have other : isDigit 10 byte = false := by
            by_contra digit
            rw [List.takeWhile_cons, if_pos (by simpa using digit)] at digits
            cases digits
          simp [other]
  | cons digit more =>
      have counted : (digit :: more).length ≤ unsigned.length := by
        rw [← digits]
        exact (List.takeWhile_sublist _).length_le
      have whole : (digit :: more).length = unsigned.length ↔
          ∀ byte ∈ unsigned, isDigit 10 byte = true := by
        rw [← digits, ← List.takeWhile_eq_self_iff]
        constructor
        · exact fun same => (List.takeWhile_prefix _).eq_of_length same
        · exact fun same => congrArg List.length same
      dsimp only
      rw [← whole]
      split
      · simp only [reduceCtorEq, false_iff]
        omega
      · simp only [true_iff]
        omega

/-- A sub-parser returns for every packet. -/
def Total {ρ : Type} (parse : SubParser ρ) : Prop :=
  ∀ packet response, ∃ returned, parse packet response = .ok returned

section

variable {ρ : Type} {parse : SubParser ρ}

theorem total_ofLength (msgLen : Nat) (inner : Total parse) : Total (ofLength msgLen parse) := by
  intro packet response
  rw [ofLength]
  split
  · exact ⟨_, rfl⟩
  · exact inner packet response

theorem total_ofMinLength (minMsgLen : Nat) (inner : Total parse) :
    Total (ofMinLength minMsgLen parse) := by
  intro packet response
  rw [ofMinLength]
  split
  · exact ⟨_, rfl⟩
  · exact inner packet response

theorem total_scanned (format : List (Directive ρ)) : Total (scanned format) := by
  intro packet response
  rw [scanned]
  split
  split
  · exact ⟨_, rfl⟩
  · exact ⟨_, rfl⟩

theorem castTo_returns_iff [DecidableEq ρ] {view : Payload → ρ} {wrap : ρ → Payload}
    {packet : List UInt8} {output : Payload} :
    (∃ returned, castTo view wrap parse packet output = .ok returned) ↔
      ∃ returned, parse packet (view output) = .ok returned := by
  rw [castTo]
  cases parse packet (view output) with
  | error fault => simp
  | ok returned => simp

end

theorem total_parseRspQflag : Total parseRspQflag := by
  apply total_ofLength
  intro packet response
  beta_reduce
  split
  · exact ⟨_, rfl⟩
  · exact ⟨_, rfl⟩

theorem parseRspQpi_returns_iff {packet : List UInt8} {protocolId : UInt32} :
    (∃ returned, parseRspQpi packet protocolId = .ok returned) ↔
      packet.length < 4 ∨ packet.take 2 ≠ [80, 73] ∨ ¬ RunsOut ((packet.drop 2).take 2) := by
  rw [parseRspQpi, ofMinLength, ← atoi_eq_none_iff]
  by_cases short : packet.length < 4
  · rw [if_pos short]
    exact iff_of_true ⟨_, rfl⟩ (.inl short)
  · rw [if_neg short, or_iff_right short]
    by_cases other : packet.take 2 ≠ [80, 73]
    · rw [if_pos other]
      exact iff_of_true ⟨_, rfl⟩ (.inl other)
    · rw [if_neg other, or_iff_right other]
      cases atoi ((packet.drop 2).take 2) with
      | none => simp
      | some number =>
          apply iff_of_true
          · dsimp only
            split
            · exact ⟨_, rfl⟩
            · exact ⟨_, rfl⟩
          · exact Option.some_ne_none number

/-- A zero behind the copied bytes ends the number. -/
theorem not_runsOut_of_zero {array : List UInt8} (zero : 0 ∈ array) : ¬ RunsOut array := by
  intro digits
  have kept : 0 ∈ array.dropWhile isSpace := by
    rw [← List.takeWhile_append_dropWhile (p := isSpace) (l := array)] at zero
    rcases List.mem_append.mp zero with space | kept
    · exact absurd (List.mem_takeWhile_imp space) (by decide)
    · exact kept
  have unsigned : (0 : UInt8) ∈ (readSign (array.dropWhile isSpace)).2 := by
    cases rest : array.dropWhile isSpace with
    | nil =>
        rw [rest] at kept
        cases kept
    | cons byte rest' =>
        rw [rest] at kept
        rw [readSign]
        by_cases minus : byte = 45
        · rw [if_pos minus]
          rcases List.mem_cons.mp kept with rfl | later
          · exact absurd minus (by decide)
          · exact later
        · rw [if_neg minus]
          by_cases plus : byte = 43
          · rw [if_pos plus]
            rcases List.mem_cons.mp kept with rfl | later
            · exact absurd plus (by decide)
            · exact later
          · rw [if_neg plus]
            exact kept
  exact absurd (digits 0 unsigned) (by decide)

theorem parseRspQlst_returns_iff {packet : List UInt8} {sleepTime : UInt32} :
    (∃ returned, parseRspQlst packet sleepTime = .ok returned) ↔
      packet.length < 4 ∨ packet.length = 4 ∧ ¬ RunsOut (packet.take 3) := by
  rw [parseRspQlst, ofMinLength]
  by_cases short : packet.length < 2
  · rw [if_pos short]
    exact iff_of_true ⟨_, rfl⟩ (.inl (by omega))
  · rw [if_neg short]
    by_cases long : packet.length - 1 > 3
    · rw [if_pos long]
      apply iff_of_false
      · rintro ⟨returned, ⟨⟩⟩
      · omega
    · rw [if_neg long]
      have ends : atoi (printInto [0, 0, 0] packet.dropLast) ≠ none ↔
          packet.length < 4 ∨ packet.length = 4 ∧ ¬ RunsOut (packet.take 3) := by
        rw [Ne, atoi_eq_none_iff]
        by_cases full : packet.length = 4
        · rw [List.dropLast_eq_take, full, printInto_full (by simp [full])]
          simp
        · have room : packet.dropLast.length < 3 := by
            rw [List.length_dropLast]
            omega
          exact iff_of_true (not_runsOut_of_zero (zero_mem_printInto room)) (.inl (by omega))
      rw [← ends]
      cases atoi (printInto [0, 0, 0] packet.dropLast) with
      | none => simp
      | some number => exact iff_of_true ⟨_, rfl⟩ (Option.some_ne_none number)

theorem parseRspQpihf_returns_iff {packet : List UInt8} {model : UInt32} :
    (∃ returned, parseRspQpihf packet model = .ok returned) ↔ False := by
  apply iff_of_false _ id
  rintro ⟨returned, ⟨⟩⟩

/-- The packets for which a sub-parser returns. -/
def Returns : Cmd → List UInt8 → Prop
  | .qpi, packet =>
      packet.length < 4 ∨ packet.take 2 ≠ [80, 73] ∨ ¬ RunsOut ((packet.drop 2).take 2)
  | .qlst, packet => packet.length < 4 ∨ packet.length = 4 ∧ ¬ RunsOut (packet.take 3)
  | .qpihf, _ => False
  | _, _ => True

theorem subParser_returns_iff (cmd : Cmd) {packet : List UInt8} {output : Payload} :
    (∃ returned, cmd.subParser packet output = .ok returned) ↔ Returns cmd packet := by
  have always {ρ : Type} [DecidableEq ρ] {view : Payload → ρ} {wrap : ρ → Payload}
      {parse : SubParser ρ} (total : Total parse) :
      (∃ returned, castTo view wrap parse packet output = .ok returned) ↔ True :=
    iff_of_true (castTo_returns_iff.mpr (total packet (view output))) trivial
  cases cmd with
  | qpi => exact castTo_returns_iff.trans parseRspQpi_returns_iff
  | qid => exact always (total_ofLength 14 fun packet response => ⟨_, rfl⟩)
  | qvfw => exact always fun packet response => total_ofLength 14 (fun _ _ => ⟨_, rfl⟩) packet 0
  | qvfw2 => exact always fun packet response => total_ofLength 14 (fun _ _ => ⟨_, rfl⟩) packet 0
  | qvfw3 => exact always fun packet response => total_ofLength 14 (fun _ _ => ⟨_, rfl⟩) packet 0
  | qpiri => exact always (total_ofLength 46 (total_scanned _))
  | qmd => exact always (total_ofMinLength 15 fun packet response => ⟨_, rfl⟩)
  | qflag => exact always total_parseRspQflag
  | qpigs => exact always (total_ofMinLength 106 fun packet response => ⟨_, rfl⟩)
  | qmod => exact always (total_ofLength 1 fun packet response => ⟨_, rfl⟩)
  | qgov => exact always (total_ofMinLength 11 (total_scanned _))
  | qgof => exact always (total_ofMinLength 9 (total_scanned _))
  | qopmp => exact always (total_ofMinLength 5 fun packet response => ⟨_, rfl⟩)
  | qmpptv => exact always (total_ofMinLength 7 (total_scanned _))
  | qpvipv => exact always (total_ofMinLength 7 (total_scanned _))
  | qlst => exact castTo_returns_iff.trans parseRspQlst_returns_iff
  | qtpr => exact always (total_ofMinLength 17 (total_scanned _))
  | qdi2 => exact always (total_ofMinLength 13 (total_scanned _))
  | qgltv => exact always (total_ofLength 7 (total_scanned _))
  | qdm => exact always (total_ofLength 3 (total_scanned _))
  | qpihf =>
      exact (@castTo_returns_iff UInt32 parseRspQpihf _ Payload.asWord .word packet output).trans
        parseRspQpihf_returns_iff
  | qchgs => exact always (total_ofLength 20 (total_scanned _))
  | qpicf => exact always (total_ofLength 4 fun packet response => ⟨_, rfl⟩)
  | qpiws =>
      have total : Total parseRspQpiws := fun packet response => ⟨_, rfl⟩
      exact always total

/-- A rejection is only copied. -/
def ReplyReturns (rqId : UInt16) (packet : List UInt8) : Prop :=
  parseRspIsNak packet = true ∨ ∀ cmd, Cmd.ofCode? rqId = some cmd → Returns cmd packet

/-- A sub-parser that stays inside its arrays returns. -/
theorem replyReturns_of_harmless {rqId : UInt16} {packet : List UInt8}
    (harmless : Footprint.HarmlessReply rqId packet) : ReplyReturns rqId packet := by
  apply harmless.imp_right
  intro inside cmd known
  have stays := inside cmd known
  cases cmd with
  | qpi => exact stays.imp_right (Or.imp_right not_runsOut_of_zero)
  | qlst => exact stays.imp_right (And.imp_right not_runsOut_of_zero)
  | qpihf => exact stays
  | _ => trivial

theorem judgePacket_returns_iff {rqId : UInt16} {packet dataIn : List UInt8} {output : Payload}
    {processed : Nat} :
    (∃ parsed, judgePacket rqId packet dataIn output processed = .ok parsed) ↔
      ReplyReturns rqId packet := by
  rw [judgePacket, ReplyReturns]
  by_cases rejected : parseRspIsNak packet = true
  · rw [if_pos rejected]
    exact iff_of_true ⟨_, rfl⟩ (.inl rejected)
  · rw [if_neg rejected, or_iff_right rejected]
    cases known : Cmd.ofCode? rqId with
    | none =>
        apply iff_of_true ⟨_, rfl⟩
        rintro cmd ⟨⟩
    | some cmd =>
        have returns := @subParser_returns_iff cmd packet output
        dsimp only
        cases called : cmd.subParser packet output with
        | error fault =>
            rw [called] at returns
            simpa using returns
        | ok returned =>
            rw [called] at returns
            simpa using returns

/-! ### Each exit keeps the contract -/

section

variable {dataIn front inner body rest : List UInt8} {high low : UInt8} {output : Payload}

/-- An exit that has not judged a frame: no frame with a checksum is in the input. -/
theorem consumes_of_noPacket {processed : Nat} (inside : processed ≤ dataIn.length)
    (pending : ∀ front rest, dataIn = front ++ openingParenthesis :: rest →
      openingParenthesis ∉ rest → carriageReturn ∉ rest → processed ≤ front.length)
    (unjudged : ∀ front inner rest, Framed dataIn front inner rest → 5 ≤ dataIn.length →
      inner.length < 2) :
    Consumes dataIn output ⟨processed, dataIn, output, ParseStatus.noPacket⟩ where
  inside := inside
  pending := pending
  judged := fun reported => absurd rfl reported
  mismatch := by
    intro front body high low rest framed long
    have short := unjudged front _ rest framed long
    rw [List.length_append] at short
    simp at short

theorem Framed.not_pending (framed : Framed dataIn front inner rest) {front' rest' : List UInt8}
    (split : dataIn = front' ++ openingParenthesis :: rest') (last : openingParenthesis ∉ rest') :
    carriageReturn ∈ rest' := by
  obtain ⟨-, behind⟩ := last_unique (framed.split_last.symm.trans split) framed.last last
  rw [← behind]
  simp

theorem Framed.frameEnd_le (framed : Framed dataIn front inner rest) :
    frameEnd front inner ≤ dataIn.length := by
  rw [framed.length_eq]
  simp [frameEnd]
  omega

/-- An exit that has judged the frame. -/
theorem consumes_of_framed (framed : Framed dataIn front inner rest) (checksum : 2 ≤ inner.length)
    {after : List UInt8} {result : Payload} {err : UInt16}
    (mismatch : ∀ body high low, inner = body ++ [high, low] →
      crc16Xmodem (openingParenthesis :: body) ≠ joinCrc high low →
      err = ParseStatus.invalidCrc ∧ after = dataIn ∧ result = output) :
    Consumes dataIn output ⟨frameEnd front inner, after, result, err⟩ where
  inside := framed.frameEnd_le
  pending := fun _ _ split last unfinished => absurd (framed.not_pending split last) unfinished
  judged := fun _ => ⟨front, inner, rest, framed, checksum, rfl⟩
  mismatch := by
    intro front' body high low rest' framed' _
    obtain ⟨-, inners⟩ := framed.unique framed'
    exact mismatch body high low inners

theorem processed_judgePacket {rqId : UInt16} {packet : List UInt8} {processed : Nat}
    {parsed : Parsed} (judged : judgePacket rqId packet dataIn output processed = .ok parsed) :
    parsed.processed = processed := by
  rw [judgePacket] at judged
  split at judged
  · cases judged
    rfl
  · split at judged
    · cases judged
      rfl
    · split at judged
      · cases judged
      · cases judged
        rfl

end

/-! ### The contract of the parser -/

/-- A call on an input returns and keeps the contract. -/
def Contract (rqId : UInt16) (dataIn : List UInt8) (output : Payload) : Prop :=
  ∃ parsed, rs232RspParse rqId dataIn output = .ok parsed ∧ Consumes dataIn output parsed

/-- The sub-parser returns on the packet of a frame with the right checksum. -/
def Handled (rqId : UInt16) (dataIn : List UInt8) : Prop :=
  ∀ front body high low rest, Framed dataIn front (body ++ [high, low]) rest →
    5 ≤ dataIn.length → crc16Xmodem (openingParenthesis :: body) = joinCrc high low →
      ReplyReturns rqId body

section

variable {rqId : UInt16} {dataIn front inner rest : List UInt8} {output : Payload}
  {parsed : Parsed}

/-- Whatever a call returns keeps the contract. -/
theorem consumes_of_returned (called : rs232RspParse rqId dataIn output = .ok parsed) :
    Consumes dataIn output parsed := by
  by_cases few : dataIn.length < 5
  · rw [rs232RspParse_few few] at called
    cases called
    apply consumes_of_noPacket (Nat.zero_le _)
    · exact fun front _ _ _ _ => Nat.zero_le _
    · intro front inner rest _ long
      omega
  have long : 5 ≤ dataIn.length := not_lt.mp few
  rcases frame_cases dataIn with unopened | ⟨front, rest, split, last, unfinished⟩ |
    ⟨front, inner, rest, framed⟩
  · rw [rs232RspParse_unopened long unopened] at called
    cases called
    apply consumes_of_noPacket (Nat.le_refl _)
    · rintro front rest rfl
      exact absurd (by simp) unopened
    · intro front inner rest framed _
      rw [framed.split] at unopened
      exact absurd (by simp) unopened
  · rw [rs232RspParse_unfinished long split last unfinished] at called
    cases called
    apply consumes_of_noPacket
    · rw [split, List.length_append]
      exact Nat.le_add_right _ _
    · intro front' rest' split' last' _
      obtain ⟨same, -⟩ := last_unique (split.symm.trans split') last last'
      rw [same]
    · intro front' inner rest' framed _
      exact absurd (framed.not_pending split last) unfinished
  by_cases short : inner.length < 2
  · rw [rs232RspParse_short long framed short] at called
    cases called
    apply consumes_of_noPacket
    · rw [framed.length_eq]
      omega
    · exact fun front' rest' split last unfinished =>
        absurd (framed.not_pending split last) unfinished
    · intro front' inner' rest' framed' _
      rwa [← (framed.unique framed').2]
  obtain ⟨body, high, low, rfl⟩ := exists_checksum_suffix (not_lt.mp short)
  obtain ⟨zeroed, returned⟩ := rs232RspParse_checksum long framed rqId output
  rw [returned] at called
  split at called
  · cases called
    exact consumes_of_framed framed (not_lt.mp short) fun _ _ _ _ _ => ⟨rfl, rfl, rfl⟩
  · rename_i correct
    have processed := processed_judgePacket called
    obtain ⟨processed, after, result, err⟩ := parsed
    cases processed
    apply consumes_of_framed framed (not_lt.mp short)
    intro body' high' low' same mismatch
    obtain ⟨rfl, bytes⟩ := List.append_inj' same rfl
    cases bytes
    exact absurd mismatch correct

/-- A call returns on every other input, and on a frame with the right checksum as its packet
does. -/
theorem rs232RspParse_returns (handled : Handled rqId dataIn) :
    ∃ parsed, rs232RspParse rqId dataIn output = .ok parsed := by
  by_cases few : dataIn.length < 5
  · exact ⟨_, rs232RspParse_few few rqId output⟩
  have long : 5 ≤ dataIn.length := not_lt.mp few
  rcases frame_cases dataIn with unopened | ⟨front, rest, split, last, unfinished⟩ |
    ⟨front, inner, rest, framed⟩
  · exact ⟨_, rs232RspParse_unopened long unopened rqId output⟩
  · exact ⟨_, rs232RspParse_unfinished long split last unfinished rqId output⟩
  by_cases short : inner.length < 2
  · exact ⟨_, rs232RspParse_short long framed short rqId output⟩
  obtain ⟨body, high, low, rfl⟩ := exists_checksum_suffix (not_lt.mp short)
  obtain ⟨zeroed, returned⟩ := rs232RspParse_checksum long framed rqId output
  rw [returned]
  split
  · exact ⟨_, rfl⟩
  · rename_i correct
    exact judgePacket_returns_iff.mpr
      (handled front body high low rest framed long (not_not.mp correct))

theorem handled_of_returned (called : rs232RspParse rqId dataIn output = .ok parsed) :
    Handled rqId dataIn := by
  intro front body high low rest framed long correct
  obtain ⟨zeroed, returned⟩ := rs232RspParse_checksum long framed rqId output
  rw [returned, if_neg (not_not.mpr correct)] at called
  exact judgePacket_returns_iff.mp ⟨parsed, called⟩

end

/-! ### The callers -/

section

variable {rounds : Nat} {client : Client} {data : List UInt8} {result : ParseResult}

theorem processed_parseLoop_le {returned : ParseReturn}
    (looped : parseLoop rounds client data result = .ok returned) :
    returned.processed ≤ data.length := by
  induction rounds generalizing data result returned with
  | zero =>
      cases looped
      exact Nat.zero_le _
  | succ rounds ih =>
      by_cases empty : data = []
      · rw [parseLoop, if_pos empty] at looped
        cases looped
        exact Nat.zero_le _
      cases called : callParser result data with
      | error fault =>
          rw [parseLoop_error empty called] at looped
          cases looped
      | ok parsed =>
          have parses := (callParser_ok called).1
          have inside := (consumes_of_returned parses).inside
          by_cases ends : Ends parsed.err
          · obtain ⟨next, after, done⟩ := parseLoop_ends rounds client empty called ends
            rw [done] at looped
            cases looped
            exact inside
          · rw [parseLoop_continues rounds client empty called ends] at looped
            split at looped
            · cases looped
            · rename_i later continued
              cases looped
              have further := ih continued
              rw [List.length_drop, length_dataIn parses] at further
              dsimp only
              omega

theorem processed_parse_le {returned : ParseReturn}
    (parsed : parse client data result = .ok returned) : returned.processed ≤ data.length := by
  rw [parse] at parsed
  split at parsed
  · cases parsed
    exact Nat.zero_le _
  · exact processed_parseLoop_le parsed

theorem processed_processRounds_le {after : Client × List Call × Nat}
    (processed : processRounds rounds client data result = .ok after) :
    after.2.2 ≤ data.length := by
  induction rounds generalizing client data result after with
  | zero =>
      cases processed
      exact Nat.zero_le _
  | succ rounds ih =>
      rw [processRounds] at processed
      split at processed
      · cases processed
        exact Nat.zero_le _
      · split at processed
        · cases processed
        · rename_i next status count rest parsed
          have inside : count ≤ data.length := processed_parse_le parsed
          dsimp only at processed
          split at processed
          · cases processed
          · rename_i final later more continued
            cases processed
            have further : more ≤ rest.length := ih continued
            have split := parse_rest parsed
            dsimp only at split ⊢
            rcases split with none_ | whole
            · rw [none_] at further
              exact Nat.add_le_add inside further
            · omega

end

/-- A call keeps the contract exactly when the sub-parser returns on the packet that it is handed,
and the loops of `parse` and `process_data` never process more than they have. -/
theorem contract_iff_handled (rqId : UInt16) (dataIn : List UInt8) (output : Payload)
    (rounds : Nat) (client : Client) (result : ParseResult) :
    (Contract rqId dataIn output ↔ Handled rqId dataIn) ∧
    (∀ returned, parse client dataIn result = .ok returned →
      returned.processed ≤ dataIn.length) ∧
    (∀ after, processRounds rounds client dataIn result = .ok after →
      after.2.2 ≤ dataIn.length) := by
  refine ⟨?_, ?_, ?_⟩
  · constructor
    · rintro ⟨parsed, called, -⟩
      exact handled_of_returned called
    · intro handled
      obtain ⟨parsed, called⟩ := rs232RspParse_returns handled
      exact ⟨parsed, called, consumes_of_returned called⟩
  · exact fun returned parsed => processed_parse_le parsed
  · exact fun after processed => processed_processRounds_le processed

theorem protocolReply_not_contract :
    ¬ ∀ rqId dataIn output, Contract rqId dataIn output := by
  intro always
  obtain ⟨parsed, called, -⟩ := always (Cmd.code .qpi) Footprint.protocolReply .zero
  have faults : rs232RspParse (Cmd.code .qpi) Footprint.protocolReply .zero =
      .error .outOfBounds := by decide +kernel
  rw [faults] at called
  cases called

end EsInverter.SerialClient
