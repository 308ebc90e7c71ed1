import EsInverter.Lib.Scanning
import EsInverter.Rs232.Flags

/-!
# What an earlier reply leaves behind

The sub-parsers write to an object that holds an earlier reply.  Two of them also read what they
find there, and a short text leaves the end of its array as it was.
-/

set_option autoImplicit false

namespace EsInverter.Rs232

open Lib

section

variable {ρ : Type}

/-- With any two objects the sub-parser returns one code, and with the code 0 one response. -/
def Fresh (parse : SubParser ρ) (packet : List UInt8) (Shaped : ρ → Prop) : Prop :=
  ∀ first second, Shaped first → Shaped second → ∃ code one other,
    parse packet first = .ok (code, one) ∧ parse packet second = .ok (code, other) ∧
      (code = 0 → one = other)

variable {Shaped : ρ → Prop} {packet : List UInt8}

/-- A packet that is refused whatever the object holds. -/
theorem fresh_of_refused {parse : SubParser ρ} {code : Int} (negative : code ≠ 0)
    (refused : ∀ response, ∃ after, parse packet response = .ok (code, after)) :
    Fresh parse packet Shaped := by
  intro first second _ _
  obtain ⟨one, refusedOne⟩ := refused first
  obtain ⟨other, refusedOther⟩ := refused second
  exact ⟨code, one, other, refusedOne, refusedOther, fun zero => absurd zero negative⟩

theorem fresh_ofLength {parse : SubParser ρ} {msgLen : Nat} :
    Fresh (ofLength msgLen parse) packet Shaped ↔
      (packet.length = msgLen → Fresh parse packet Shaped) := by
  by_cases size : packet.length = msgLen
  · have same : ∀ response, ofLength msgLen parse packet response = parse packet response :=
      fun _ => if_neg (not_not.mpr size)
    simp only [Fresh, same, size, true_imp_iff]
  · refine iff_of_true ?_ (fun right => absurd right size)
    exact fresh_of_refused (by decide : (-1 : Int) ≠ 0) fun response => ⟨response, if_pos size⟩

theorem fresh_ofMinLength {parse : SubParser ρ} {minMsgLen : Nat} :
    Fresh (ofMinLength minMsgLen parse) packet Shaped ↔
      (minMsgLen ≤ packet.length → Fresh parse packet Shaped) := by
  by_cases size : packet.length < minMsgLen
  · refine iff_of_true ?_ (fun long => absurd size (Nat.not_lt.mpr long))
    exact fresh_of_refused (by decide : (-1 : Int) ≠ 0) fun response => ⟨response, if_pos size⟩
  · have same : ∀ response, ofMinLength minMsgLen parse packet response = parse packet response :=
      fun _ => if_neg size
    simp only [Fresh, same, Nat.not_lt.mp size, true_imp_iff]

/-- A sub-parser that does not look at the object. -/
theorem fresh_of_overwritten {parse : SubParser ρ} (result : Int × ρ)
    (overwritten : ∀ response, Shaped response → parse packet response = .ok result) :
    Fresh parse packet Shaped := by
  intro first second firstShaped secondShaped
  exact ⟨result.1, result.2, result.2, overwritten first firstShaped,
    overwritten second secondShaped, fun _ => rfl⟩

end

/-! ### Replies that are overwritten whole -/

section

variable (packet : List UInt8)

theorem fresh_parseRspQvfw : Fresh parseRspQvfw packet fun _ => True := by
  by_cases size : packet.length = 14
  · exact fresh_of_overwritten _ fun _ _ => if_neg (not_not.mpr size)
  · exact fresh_of_refused (by decide : (-1 : Int) ≠ 0) fun _ => ⟨0, if_pos size⟩

theorem fresh_parseRspQmd : Fresh parseRspQmd packet fun model => model.length = 16 := by
  let text := (List.range 15).map (fun i => byteAt packet (i + 1)) ++ [0]
  have filled : ∀ model : List UInt8, model.length = 16 → printInto model text = text :=
    fun model size => printInto_full (by simp [text, size])
  refine fresh_ofMinLength.mpr fun _ => fresh_of_overwritten (0, text) fun model size => ?_
  exact congrArg (fun text => Except.ok ((0 : Int), text)) (filled model size)

theorem fresh_parseRspQmod : Fresh parseRspQmod packet fun _ => True :=
  fresh_ofLength.mpr fun _ => fresh_of_overwritten _ fun _ _ => rfl

theorem fresh_parseRspQopmp : Fresh parseRspQopmp packet fun _ => True :=
  fresh_ofMinLength.mpr fun _ => fresh_of_overwritten _ fun _ _ => rfl

theorem fresh_parseRspQpiws : Fresh parseRspQpiws packet fun _ => True :=
  fresh_of_overwritten _ fun _ _ => rfl

theorem fresh_parseRspQpicf : Fresh parseRspQpicf packet fun _ => True :=
  fresh_ofLength.mpr fun _ => fresh_of_overwritten _ fun _ _ => rfl

end

/-- `atoi` reads behind the array of the two digits. -/
def Unterminated (packet : List UInt8) : Prop :=
  4 ≤ packet.length ∧ packet.take 2 = [80, 73] ∧ atoi ((packet.drop 2).take 2) = none

theorem fresh_parseRspQpi_iff (packet : List UInt8) :
    Fresh parseRspQpi packet (fun _ => True) ↔ ¬ Unterminated packet := by
  constructor
  · rintro fresh ⟨long, started, unterminated⟩
    obtain ⟨code, one, other, parsed, -⟩ := fresh 0 0 trivial trivial
    rw [parseRspQpi, ofMinLength, if_neg (Nat.not_lt.mpr long), if_neg (not_not.mpr started),
      unterminated] at parsed
    cases parsed
  · intro terminated
    refine fresh_ofMinLength.mpr fun long => ?_
    by_cases started : packet.take 2 = [80, 73]
    · cases read : atoi ((packet.drop 2).take 2) with
      | none => exact absurd ⟨long, started, read⟩ terminated
      | some number =>
          let result : Int × UInt32 :=
            if number.toUInt32 > 99 then (-3, number.toUInt32) else (0, number.toUInt32)
          refine fresh_of_overwritten result fun response _ => ?_
          rw [if_neg (not_not.mpr started), read]
          exact (apply_ite Except.ok _ _ _).symm
    · exact fresh_of_refused (by decide : (-2 : Int) ≠ 0) fun response => ⟨response, if_pos started⟩

/-- The arrays of a response. -/
structure QidShaped (response : QidResponse) : Prop where
  year : response.year.length = 3
  month : response.month.length = 3
  manufacturerId : response.manufacturerId.length = 6

/-- What a text leaves of an array can be seen unless the text is as long. -/
theorem printInto_distinct {text : List UInt8} {size : Nat} (short : text.length < size) :
    printInto (List.replicate size 0) text ≠ printInto (List.replicate size 1) text := by
  intro same
  have tails := List.append_cancel_left same
  rw [List.drop_replicate, List.drop_replicate] at tails
  obtain ⟨rest, more⟩ := Nat.exists_eq_add_of_lt short
  have count : size - text.length = rest + 1 := by omega
  rw [count, List.replicate_succ, List.replicate_succ, List.cons.injEq] at tails
  exact absurd tails.1 (by decide)

theorem length_cString_lt {text : List UInt8} (terminated : 0 ∈ text) :
    (cString text).length < text.length := by
  obtain ⟨front, back, rfl⟩ := List.append_of_mem terminated
  rw [cString, List.takeWhile_append]
  have ended : (0 :: back).takeWhile (fun byte => decide (byte ≠ 0)) = [] := by simp
  split
  · rw [ended]
    simp
  · have most : (front.takeWhile fun byte => decide (byte ≠ 0)).length ≤ front.length :=
      (List.takeWhile_sublist _).length_le
    rw [List.length_append, List.length_cons]
    omega

theorem fresh_parseRspQid_iff (packet : List UInt8) :
    Fresh parseRspQid packet QidShaped ↔ (packet.length = 14 → 0 ∉ packet.drop 9) := by
  rw [parseRspQid, fresh_ofLength]
  refine forall_congr' fun size => ?_
  have tail : (packet.drop 9).length = 5 := by rw [List.length_drop, size]
  constructor
  · intro fresh terminated
    have short := length_cString_lt terminated
    have zeros : QidShaped
        ⟨0, 0, 0, 0, List.replicate 3 0, List.replicate 3 0, List.replicate 6 0⟩ := ⟨rfl, rfl, rfl⟩
    have ones : QidShaped
        ⟨0, 0, 0, 0, List.replicate 3 0, List.replicate 3 0, List.replicate 6 1⟩ := ⟨rfl, rfl, rfl⟩
    obtain ⟨code, one, other, first, second, same⟩ := fresh _ _ zeros ones
    cases first
    rw [Except.ok.injEq, Prod.mk.injEq] at second
    have members := congrArg QidResponse.manufacturerId ((same rfl).trans second.2.symm)
    refine printInto_distinct ?_ members
    rw [List.length_append, List.length_singleton]
    omega
  · intro plain
    have whole : cString (packet.drop 9) = packet.drop 9 := cString_eq_self plain
    refine fresh_of_overwritten
      (0, ⟨byteAt packet 1, byteAt packet 2, byteAt packet 3, byteAt packet 4,
        [byteAt packet 5, byteAt packet 6, 0], [byteAt packet 7, byteAt packet 8, 0],
        packet.drop 9 ++ [0]⟩) ?_
    rintro response ⟨year, month, manufacturerId⟩
    rw [printInto_full year, printInto_full month, whole, printInto_full]
    rw [manufacturerId, List.length_append, tail]
    rfl

/-- Every bit that is set already stays set. -/
theorem presence_of_full {packet : List UInt8} (read : AllRead packet) {response : QflagResponse}
    (full : response.presence = 0x1FF) :
    (flagRun packet (false, response)).2.presence = 0x1FF := by
  apply (presence_full_iff read.known _).mpr
  rw [full]
  constructor
  · intro letter member
    have inside : flagLetters.idxOf letter < 9 := List.idxOf_lt_length_of_mem member
    rw [full_place _ (by omega), decide_eq_true inside]
    exact .inl rfl
  · intro place high inside
    rw [full_place place inside, decide_eq_false (by omega)]

theorem fresh_parseRspQflag_iff (packet : List UInt8) :
    Fresh parseRspQflag packet (fun _ => True) ↔ ¬ AllRead packet := by
  constructor
  · intro fresh read
    obtain ⟨code, one, other, first, second, -⟩ :=
      fresh { zeroFlags with presence := 0x200 } { zeroFlags with presence := 0x1FF } trivial trivial
    rw [parseRspQflag_allRead read, Except.ok.injEq, Prod.mk.injEq] at first second
    rw [if_neg (not_not.mpr (presence_of_full read rfl))] at second
    have high := flagRun_presence_high read.known (Nat.le_refl 9) (by decide)
      (false, { zeroFlags with presence := 0x200 })
    have missing : (flagRun packet (false, { zeroFlags with presence := 0x200 })).2.presence ≠
        0x1FF := by
      intro complete
      rw [complete] at high
      exact absurd high (by decide)
    rw [if_pos missing, ← second.1] at first
    exact absurd first.1 (by decide)
  · intro unread
    obtain ⟨code, nonzero, refused⟩ := parseRspQflag_unread unread
    exact fresh_of_refused nonzero refused

theorem statusBits_high (status : UInt32) :
    (statusBits status).toUInt16.toBitVec.getLsbD 15 = false := by
  simp [statusBits, List.range_succ]

/-- No directive stores to the first status word. -/
theorem qpigsFormat_keeps (directive : Directive QpigsScan) (inside : directive ∈ qpigsFormat) :
    Keeps (fun scan => scan.response.deviceStatus1) directive := by
  rw [qpigsFormat] at inside
  simp only [List.mem_cons, List.not_mem_nil, or_false] at inside
  rcases inside with rfl | rfl | rfl | rfl | rfl | rfl | rfl | rfl | rfl | rfl | rfl | rfl | rfl |
    rfl | rfl | rfl | rfl | rfl | rfl | rfl | rfl
  all_goals
    first
    | exact scanFloat_keeps _ fun _ _ => rfl
    | exact scanLong_keeps _ fun _ _ => rfl
    | exact scanChar_keeps fun _ _ => rfl
    | exact scanUnsigned_keeps _ fun _ _ => rfl

theorem parseRspQpigs_deviceStatus1 {packet : List UInt8} (long : 106 ≤ packet.length)
    (response : QpigsResponse) :
    ∃ status after, parseRspQpigs packet response = .ok (0, after) ∧
      after.deviceStatus1 = response.deviceStatus1 ||| (statusBits status).toUInt16 := by
  have kept := sscanf_keeps qpigsFormat_keeps packet ⟨response, 0, 0⟩
  rw [parseRspQpigs, ofMinLength, if_neg (Nat.not_lt.mpr long)]
  generalize sscanf qpigsFormat packet ⟨response, 0, 0⟩ = scanned at kept ⊢
  refine ⟨scanned.2.status1, _, rfl, ?_⟩
  exact congrArg (· ||| (statusBits scanned.2.status1).toUInt16) kept

theorem fresh_parseRspQpigs_iff (packet : List UInt8) :
    Fresh parseRspQpigs packet (fun _ => True) ↔ packet.length < 106 := by
  constructor
  · intro fresh
    by_contra long
    obtain ⟨code, one, other, first, second, same⟩ :=
      fresh Payload.zero.asQpigs { Payload.zero.asQpigs with deviceStatus1 := 0x8000 } trivial trivial
    obtain ⟨status, after, parsed, low⟩ :=
      parseRspQpigs_deviceStatus1 (Nat.not_lt.mp long) Payload.zero.asQpigs
    obtain ⟨status', after', parsed', high⟩ :=
      parseRspQpigs_deviceStatus1 (Nat.not_lt.mp long)
        { Payload.zero.asQpigs with deviceStatus1 := 0x8000 }
    rw [first, Except.ok.injEq, Prod.mk.injEq] at parsed
    rw [second, Except.ok.injEq, Prod.mk.injEq] at parsed'
    obtain ⟨rfl, rfl⟩ := parsed
    obtain ⟨-, rfl⟩ := parsed'
    rw [same rfl, high] at low
    have bits := congrArg (fun word : UInt16 => word.toBitVec.getLsbD 15) low
    simp only [UInt16.toBitVec_or, BitVec.getLsbD_or, statusBits_high] at bits
    exact absurd bits (by decide)
  · intro short
    exact fresh_of_refused (by decide : (-1 : Int) ≠ 0) fun response => ⟨response, if_pos short⟩

inductive ReplyKind
  | qpi
  | qid
  | qvfw
  | qmd
  | qflag
  | qpigs
  | qmod
  | qopmp
  | qpiws
  | qpicf
  deriving DecidableEq, Repr

namespace ReplyKind

/-- The decoded reply depends only on the packet. -/
def Decided : ReplyKind → List UInt8 → Prop
  | qpi, packet => Fresh parseRspQpi packet fun _ => True
  | qid, packet => Fresh parseRspQid packet QidShaped
  | qvfw, packet => Fresh parseRspQvfw packet fun _ => True
  | qmd, packet => Fresh parseRspQmd packet fun model => model.length = 16
  | qflag, packet => Fresh parseRspQflag packet fun _ => True
  | qpigs, packet => Fresh parseRspQpigs packet fun _ => True
  | qmod, packet => Fresh parseRspQmod packet fun _ => True
  | qopmp, packet => Fresh parseRspQopmp packet fun _ => True
  | qpiws, packet => Fresh parseRspQpiws packet fun _ => True
  | qpicf, packet => Fresh parseRspQpicf packet fun _ => True

/-- The packets that leave nothing of an earlier reply. -/
def Overwrites : ReplyKind → List UInt8 → Prop
  | qpi, packet => ¬ Unterminated packet
  | qid, packet => packet.length = 14 → 0 ∉ packet.drop 9
  | qflag, packet => ¬ AllRead packet
  | qpigs, packet => packet.length < 106
  | qvfw, _ | qmd, _ | qmod, _ | qopmp, _ | qpiws, _ | qpicf, _ => True

theorem decided_iff (kind : ReplyKind) (packet : List UInt8) :
    kind.Decided packet ↔ kind.Overwrites packet := by
  cases kind with
  | qpi => exact fresh_parseRspQpi_iff packet
  | qid => exact fresh_parseRspQid_iff packet
  | qvfw => exact iff_of_true (fresh_parseRspQvfw packet) trivial
  | qmd => exact iff_of_true (fresh_parseRspQmd packet) trivial
  | qflag => exact fresh_parseRspQflag_iff packet
  | qpigs => exact fresh_parseRspQpigs_iff packet
  | qmod => exact iff_of_true (fresh_parseRspQmod packet) trivial
  | qopmp => exact iff_of_true (fresh_parseRspQopmp packet) trivial
  | qpiws => exact iff_of_true (fresh_parseRspQpiws packet) trivial
  | qpicf => exact iff_of_true (fresh_parseRspQpicf packet) trivial

/-- `EABJKUVXYZD` is accepted or not as `presence` was before. -/
theorem not_decided_qflag : ¬ Decided .qflag [69, 65, 66, 74, 75, 85, 86, 88, 89, 90, 68] := by
  intro decided
  exact (fresh_parseRspQflag_iff _).mp decided
    { length := rfl
      first := .inl rfl
      known := by decide +kernel }

end ReplyKind

end EsInverter.Rs232
