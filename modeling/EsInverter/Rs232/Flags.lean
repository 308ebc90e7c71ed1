import EsInverter.Rs232.Protocol

/-!
# Replies to `QFLAG`

The letters of a reply are read in one pass: `E` and `D` switch between enabled and disabled, and
every other letter takes the mode that is on for the member it stands for.
-/

set_option autoImplicit false

namespace EsInverter.Rs232

/-- The letters of the nine members, by their bits in `presence`. -/
def flagLetters : List UInt8 := [65, 66, 74, 75, 85, 86, 88, 89, 90]

/-- The members in the order of their letters. -/
def QflagResponse.members (r : QflagResponse) : List Bool :=
  [r.silenceBuzzer, r.overloadBypass, r.powerSaving, r.lcdDefaultPageTimeout, r.overloadRestart,
    r.overTemperatureRestart, r.backlightOn, r.alarmOnPrimaryInterrupt, r.faultCodeRecord]

/-- The bit of the letter at an index. -/
def presenceBit (index : Nat) : UInt16 := 1 <<< UInt16.ofNat index

theorem qflagLetter_some {letter : UInt8} (known : letter ∈ flagLetters) (enable : Bool)
    (r : QflagResponse) :
    ∃ next, qflagLetter letter enable r = some next ∧
      next.presence = r.presence ||| presenceBit (flagLetters.idxOf letter) ∧
      next.members = r.members.set (flagLetters.idxOf letter) enable := by
  simp only [flagLetters, List.mem_cons, List.not_mem_nil, or_false] at known
  rcases known with rfl | rfl | rfl | rfl | rfl | rfl | rfl | rfl | rfl
  all_goals exact ⟨_, rfl, rfl, rfl⟩

theorem qflagLetter_none {letter : UInt8} (unknown : letter ∉ flagLetters) (enable : Bool)
    (r : QflagResponse) : qflagLetter letter enable r = none := by
  simp only [flagLetters, List.mem_cons, List.not_mem_nil, or_false, not_or] at unknown
  simp [qflagLetter, unknown]

/-! ### One character -/

/-- The bytes that a reply may hold. -/
def FlagByte (byte : UInt8) : Prop := byte = 69 ∨ byte = 68 ∨ byte ∈ flagLetters

instance (byte : UInt8) : Decidable (FlagByte byte) := inferInstanceAs (Decidable (_ ∨ _ ∨ _))

/-- The mode and the response behind one character. -/
def flagStep (state : Bool × QflagResponse) (byte : UInt8) : Bool × QflagResponse :=
  if byte = 69 then (true, state.2)
  else if byte = 68 then (false, state.2)
  else (state.1, (qflagLetter byte state.1 state.2).getD state.2)

def flagRun (text : List UInt8) (state : Bool × QflagResponse) : Bool × QflagResponse :=
  text.foldl flagStep state

theorem flagRun_cons (byte : UInt8) (text : List UInt8) (state : Bool × QflagResponse) :
    flagRun (byte :: text) state = flagRun text (flagStep state byte) := rfl

/-- A character switches the mode or sets the member of its letter. -/
theorem flagStep_cases {byte : UInt8} (known : FlagByte byte) (state : Bool × QflagResponse) :
    (byte = 69 ∧ flagStep state byte = (true, state.2)) ∨
      (byte = 68 ∧ flagStep state byte = (false, state.2)) ∨
      (byte ≠ 69 ∧ byte ≠ 68 ∧ byte ∈ flagLetters ∧ ∃ next, flagStep state byte = (state.1, next) ∧
        qflagLetter byte state.1 state.2 = some next ∧
        next.presence = state.2.presence ||| presenceBit (flagLetters.idxOf byte) ∧
        next.members = state.2.members.set (flagLetters.idxOf byte) state.1) := by
  by_cases enabled : byte = 69
  · exact .inl ⟨enabled, by rw [flagStep, if_pos enabled]⟩
  by_cases disabled : byte = 68
  · exact .inr (.inl ⟨disabled, by rw [flagStep, if_neg enabled, if_pos disabled]⟩)
  have letter : byte ∈ flagLetters := (known.resolve_left enabled).resolve_left disabled
  obtain ⟨next, set, presence, members⟩ := qflagLetter_some letter state.1 state.2
  refine .inr (.inr ⟨enabled, disabled, letter, next, ?_, set, presence, members⟩)
  rw [flagStep, if_neg enabled, if_neg disabled, set, Option.getD_some]

/-! ### The loop -/

theorem qflagLoop_known {text : List UInt8} (known : ∀ byte ∈ text, FlagByte byte)
    (state : Bool × QflagResponse) :
    qflagLoop text state.1 state.2 =
      (if (flagRun text state).2.presence ≠ 0x1FF then -4 else 0, (flagRun text state).2) := by
  induction text generalizing state with
  | nil =>
      rw [qflagLoop]
      split <;> simp_all [flagRun]
  | cons byte text ih =>
      obtain ⟨head, rest⟩ := List.forall_mem_cons.mp known
      have inner := ih rest (flagStep state byte)
      rcases flagStep_cases head state with ⟨rfl, step⟩ | ⟨rfl, step⟩ |
          ⟨enabled, disabled, _, next, step, set, _⟩
      · rw [flagRun_cons, step]
        rw [step] at inner
        rw [qflagLoop, if_pos rfl, inner]
      · rw [flagRun_cons, step]
        rw [step] at inner
        rw [qflagLoop, if_neg (by decide), if_pos rfl, inner]
      · rw [flagRun_cons, step]
        rw [step] at inner
        rw [qflagLoop, if_neg enabled, if_neg disabled, set]
        exact inner

theorem qflagLoop_unknown {text : List UInt8} (unknown : ¬ ∀ byte ∈ text, FlagByte byte)
    (state : Bool × QflagResponse) : (qflagLoop text state.1 state.2).1 = -3 := by
  induction text generalizing state with
  | nil => exact absurd (List.forall_mem_nil _) unknown
  | cons byte text ih =>
      by_cases head : FlagByte byte
      · have rest : ¬ ∀ byte ∈ text, FlagByte byte :=
          fun all => unknown (List.forall_mem_cons.mpr ⟨head, all⟩)
        have inner := ih rest (flagStep state byte)
        rcases flagStep_cases head state with ⟨rfl, step⟩ | ⟨rfl, step⟩ |
            ⟨enabled, disabled, _, next, step, set, _⟩
        · rw [qflagLoop, if_pos rfl]
          rwa [step] at inner
        · rw [qflagLoop, if_neg (by decide), if_pos rfl]
          rwa [step] at inner
        · rw [qflagLoop, if_neg enabled, if_neg disabled, set]
          rwa [step] at inner
      · rw [FlagByte, not_or, not_or] at head
        rw [qflagLoop, if_neg head.1, if_neg head.2.1, qflagLetter_none head.2.2]

/-! ### The whole run -/

/-- The mode behind a text. -/
def modeAfter (mode : Bool) (text : List UInt8) : Bool :=
  text.foldl (fun mode byte => if byte = 69 then true else if byte = 68 then false else mode) mode

theorem flagRun_append (front back : List UInt8) (state : Bool × QflagResponse) :
    flagRun (front ++ back) state = flagRun back (flagRun front state) :=
  List.foldl_append

theorem flagRun_mode {text : List UInt8} (known : ∀ byte ∈ text, FlagByte byte)
    (state : Bool × QflagResponse) : (flagRun text state).1 = modeAfter state.1 text := by
  induction text generalizing state with
  | nil => rfl
  | cons byte text ih =>
      obtain ⟨head, rest⟩ := List.forall_mem_cons.mp known
      rw [flagRun_cons, ih rest]
      rcases flagStep_cases head state with ⟨rfl, step⟩ | ⟨rfl, step⟩ |
          ⟨enabled, disabled, _, next, step, _⟩
      · rw [step]
        rfl
      · rw [step]
        rfl
      · rw [step]
        simp [modeAfter, enabled, disabled]

/-- The member of a letter that does not come keeps its value. -/
theorem flagRun_members {text : List UInt8} (known : ∀ byte ∈ text, FlagByte byte)
    {letter : UInt8} (member : letter ∈ flagLetters) (absent : letter ∉ text)
    (state : Bool × QflagResponse) :
    (flagRun text state).2.members[flagLetters.idxOf letter]? =
      state.2.members[flagLetters.idxOf letter]? := by
  induction text generalizing state with
  | nil => rfl
  | cons byte text ih =>
      obtain ⟨head, rest⟩ := List.forall_mem_cons.mp known
      rw [List.mem_cons, not_or] at absent
      rw [flagRun_cons, ih rest absent.2]
      rcases flagStep_cases head state with ⟨rfl, step⟩ | ⟨rfl, step⟩ |
          ⟨_, _, _, next, step, _, _, members⟩
      · rw [step]
      · rw [step]
      · have other : flagLetters.idxOf byte ≠ flagLetters.idxOf letter :=
          fun same => absent.1 ((List.idxOf_inj member).mp same.symm)
        rw [step, members, List.getElem?_set_ne other]

/-- The last occurrence of a letter decides. -/
theorem flagRun_last {front back : List UInt8} {letter : UInt8}
    (known : ∀ byte ∈ front ++ letter :: back, FlagByte byte) (member : letter ∈ flagLetters)
    (last : letter ∉ back) (state : Bool × QflagResponse) :
    (flagRun (front ++ letter :: back) state).2.members[flagLetters.idxOf letter]? =
      some (modeAfter state.1 front) := by
  obtain ⟨frontKnown, restKnown⟩ := List.forall_mem_append.mp known
  obtain ⟨head, backKnown⟩ := List.forall_mem_cons.mp restKnown
  rw [flagRun_append, flagRun_cons, flagRun_members backKnown member last]
  rcases flagStep_cases head (flagRun front state) with ⟨rfl, _⟩ | ⟨rfl, _⟩ |
      ⟨_, _, _, next, step, _, _, members⟩
  · exact absurd member (by decide)
  · exact absurd member (by decide)
  · have inside : flagLetters.idxOf letter < (flagRun front state).2.members.length :=
      List.idxOf_lt_length_of_mem member
    rw [step, members, List.getElem?_set_self inside, flagRun_mode frontKnown]

theorem presenceBit_place : ∀ index < 9, ∀ place < 16,
    (presenceBit index).toBitVec.getLsbD place = decide (place = index) := by
  decide +kernel

theorem flagRun_presence {text : List UInt8} (known : ∀ byte ∈ text, FlagByte byte)
    {letter : UInt8} (member : letter ∈ flagLetters) (state : Bool × QflagResponse) :
    (flagRun text state).2.presence.toBitVec.getLsbD (flagLetters.idxOf letter) =
      (state.2.presence.toBitVec.getLsbD (flagLetters.idxOf letter) || decide (letter ∈ text)) := by
  have letterInside : flagLetters.idxOf letter < 9 := List.idxOf_lt_length_of_mem member
  induction text generalizing state with
  | nil => simp [flagRun]
  | cons byte text ih =>
      obtain ⟨head, rest⟩ := List.forall_mem_cons.mp known
      rw [flagRun_cons, ih rest]
      rcases flagStep_cases head state with ⟨rfl, step⟩ | ⟨rfl, step⟩ |
          ⟨_, _, byteMember, next, step, _, presence, _⟩
      · have other : letter ≠ 69 := by
          rintro rfl
          exact absurd member (by decide)
        rw [step]
        simp [other]
      · have other : letter ≠ 68 := by
          rintro rfl
          exact absurd member (by decide)
        rw [step]
        simp [other]
      · have inside : flagLetters.idxOf byte < 9 := List.idxOf_lt_length_of_mem byteMember
        rw [step, presence, UInt16.toBitVec_or, BitVec.getLsbD_or,
          presenceBit_place _ inside _ (by omega)]
        simp [List.idxOf_inj member, Bool.or_assoc]

/-- No other bit is ever set. -/
theorem flagRun_presence_high {text : List UInt8} (known : ∀ byte ∈ text, FlagByte byte)
    {place : Nat} (high : 9 ≤ place) (inside : place < 16) (state : Bool × QflagResponse) :
    (flagRun text state).2.presence.toBitVec.getLsbD place =
      state.2.presence.toBitVec.getLsbD place := by
  induction text generalizing state with
  | nil => rfl
  | cons byte text ih =>
      obtain ⟨head, rest⟩ := List.forall_mem_cons.mp known
      rw [flagRun_cons, ih rest]
      rcases flagStep_cases head state with ⟨rfl, step⟩ | ⟨rfl, step⟩ |
          ⟨_, _, member, next, step, _, presence, _⟩
      · rw [step]
      · rw [step]
      · have low : flagLetters.idxOf byte < 9 := List.idxOf_lt_length_of_mem member
        rw [step, presence, UInt16.toBitVec_or, BitVec.getLsbD_or, presenceBit_place _ low _ inside,
          decide_eq_false (by omega), Bool.or_false]

theorem full_place : ∀ place < 16, (0x1FF : UInt16).toBitVec.getLsbD place = decide (place < 9) := by
  decide +kernel

theorem letter_of_index : ∀ index < 9, ∃ letter ∈ flagLetters, flagLetters.idxOf letter = index := by
  decide +kernel

/-- `presence` is full when every letter came or had come before, and nothing else was set. -/
theorem presence_full_iff {text : List UInt8} (known : ∀ byte ∈ text, FlagByte byte)
    (state : Bool × QflagResponse) :
    (flagRun text state).2.presence = 0x1FF ↔
      (∀ letter ∈ flagLetters,
        state.2.presence.toBitVec.getLsbD (flagLetters.idxOf letter) = true ∨ letter ∈ text) ∧
      ∀ place, 9 ≤ place → place < 16 → state.2.presence.toBitVec.getLsbD place = false := by
  constructor
  · intro full
    constructor
    · intro letter member
      have inside : flagLetters.idxOf letter < 9 := List.idxOf_lt_length_of_mem member
      have bit := flagRun_presence known member state
      rw [full, full_place _ (by omega), decide_eq_true inside] at bit
      simpa using bit.symm
    · intro place high inside
      rw [← flagRun_presence_high known high inside, full, full_place place inside,
        decide_eq_false (by omega)]
  · rintro ⟨came, clear⟩
    apply UInt16.toBitVec_inj.mp
    apply BitVec.eq_of_getLsbD_eq
    intro place inside
    rw [full_place place inside]
    by_cases low : place < 9
    · obtain ⟨letter, member, rfl⟩ := letter_of_index place low
      rw [flagRun_presence known member, decide_eq_true low]
      simpa using came letter member
    · rw [flagRun_presence_high known (by omega) inside, clear place (by omega) inside,
        decide_eq_false low]

/-! ### The nearest mode -/

/-- A text without `E` and `D`. -/
def Modeless (text : List UInt8) : Prop := 69 ∉ text ∧ 68 ∉ text

theorem modeAfter_modeless {text : List UInt8} (modeless : Modeless text) (mode : Bool) :
    modeAfter mode text = mode := by
  induction text generalizing mode with
  | nil => rfl
  | cons byte text ih =>
      rw [Modeless, List.mem_cons, List.mem_cons, not_or, not_or] at modeless
      obtain ⟨⟨enabled, enabledLater⟩, disabled, disabledLater⟩ := modeless
      rw [modeAfter, List.foldl_cons, if_neg (Ne.symm enabled), if_neg (Ne.symm disabled)]
      exact ih ⟨enabledLater, disabledLater⟩ mode

theorem modeAfter_concat (mode : Bool) (text : List UInt8) (byte : UInt8) :
    modeAfter mode (text ++ [byte]) =
      if byte = 69 then true else if byte = 68 then false else modeAfter mode text := by
  simp [modeAfter]

/-- The mode is on behind a text whose last switch is an `E`. -/
theorem modeAfter_iff (text : List UInt8) :
    modeAfter false text = true ↔
      ∃ before middle, text = before ++ 69 :: middle ∧ Modeless middle := by
  constructor
  · intro on
    induction text using List.reverseRecOn with
    | nil => cases on
    | append_singleton text byte ih =>
        rw [modeAfter_concat] at on
        split at on
        · next enabled => exact ⟨text, [], by rw [enabled], by simp [Modeless]⟩
        · next enabled =>
          split at on
          · cases on
          · next disabled =>
            obtain ⟨before, middle, rfl, modeless⟩ := ih on
            refine ⟨before, middle ++ [byte], by simp, ?_⟩
            simpa [Modeless, Ne.symm enabled, Ne.symm disabled] using modeless
  · rintro ⟨before, middle, rfl, modeless⟩
    rw [modeAfter, List.foldl_append, List.foldl_cons, if_pos rfl]
    exact modeAfter_modeless modeless true

/-! ### The grammar -/

/-- A packet of which every letter is read. -/
structure AllRead (packet : List UInt8) : Prop where
  length : packet.length = 11
  first : packet.head? = some 69 ∨ packet.head? = some 68
  known : ∀ byte ∈ packet, FlagByte byte

/-- A reply with a mode in front and all nine letters. -/
structure FlagReply (packet : List UInt8) : Prop extends AllRead packet where
  complete : ∀ letter ∈ flagLetters, letter ∈ packet

/-- The nearest mode in front of the last occurrence of a letter is `E`. -/
def LastEnabled (packet : List UInt8) (letter : UInt8) : Prop :=
  ∃ before middle back, packet = before ++ 69 :: middle ++ letter :: back ∧ Modeless middle ∧
    letter ∉ back

def zeroFlags : QflagResponse := Payload.zero.asQflag

theorem exists_last {α : Type} {value : α} {text : List α} (inside : value ∈ text) :
    ∃ front back, text = front ++ value :: back ∧ value ∉ back := by
  obtain ⟨back, front, split, absent⟩ :=
    List.eq_append_cons_of_mem (List.mem_reverse.mpr inside)
  refine ⟨front.reverse, back.reverse, ?_, by simpa using absent⟩
  rw [← List.reverse_reverse text, split]
  simp

theorem byteAt_zero {packet : List UInt8} (nonempty : packet ≠ []) (byte : UInt8) :
    byteAt packet 0 = byte ↔ packet.head? = some byte := by
  obtain ⟨first, rest, rfl⟩ := List.exists_cons_of_ne_nil nonempty
  simp [byteAt]

theorem parseRspQflag_allRead {packet : List UInt8} (read : AllRead packet)
    (response : QflagResponse) :
    parseRspQflag packet response =
      .ok (if (flagRun packet (false, response)).2.presence ≠ 0x1FF then -4 else 0,
        (flagRun packet (false, response)).2) := by
  have nonempty : packet ≠ [] := List.ne_nil_of_length_eq_add_one read.length
  have first : ¬ (byteAt packet 0 ≠ 69 ∧ byteAt packet 0 ≠ 68) := by
    rw [ne_eq, ne_eq, byteAt_zero nonempty, byteAt_zero nonempty]
    exact Decidable.or_iff_not_not_and_not.mp read.first
  rw [parseRspQflag, ofLength, if_neg (not_not.mpr read.length), if_neg first,
    qflagLoop_known read.known (false, response)]

/-- Every other packet is refused, with a code of its own. -/
theorem parseRspQflag_unread {packet : List UInt8} (unread : ¬ AllRead packet) :
    ∃ code : Int, code ≠ 0 ∧ ∀ response, ∃ after,
      parseRspQflag packet response = .ok (code, after) := by
  by_cases size : packet.length = 11
  · have nonempty : packet ≠ [] := List.ne_nil_of_length_eq_add_one size
    by_cases first : byteAt packet 0 ≠ 69 ∧ byteAt packet 0 ≠ 68
    · refine ⟨-2, by decide, fun response => ⟨response, ?_⟩⟩
      rw [parseRspQflag, ofLength, if_neg (not_not.mpr size), if_pos first]
    · have started : packet.head? = some 69 ∨ packet.head? = some 68 := by
        rw [ne_eq, ne_eq, byteAt_zero nonempty, byteAt_zero nonempty] at first
        exact Decidable.or_iff_not_not_and_not.mpr first
      have unknown : ¬ ∀ byte ∈ packet, FlagByte byte := fun known => unread ⟨size, started, known⟩
      refine ⟨-3, by decide, fun response => ⟨(qflagLoop packet false response).2, ?_⟩⟩
      rw [parseRspQflag, ofLength, if_neg (not_not.mpr size), if_neg first,
        ← qflagLoop_unknown unknown (false, response)]
  · exact ⟨-1, by decide, fun response => ⟨response, if_pos size⟩⟩

theorem presence_of_zeros {packet : List UInt8} (read : AllRead packet) :
    (flagRun packet (false, zeroFlags)).2.presence = 0x1FF ↔
      ∀ letter ∈ flagLetters, letter ∈ packet := by
  have zero : zeroFlags.presence.toBitVec = 0 := rfl
  rw [presence_full_iff read.known, zero]
  simp

theorem parseRspQflag_code {packet : List UInt8} {response : QflagResponse}
    (parsed : parseRspQflag packet zeroFlags = .ok (0, response)) :
    FlagReply packet ∧ response = (flagRun packet (false, zeroFlags)).2 := by
  by_cases read : AllRead packet
  · rw [parseRspQflag_allRead read, Except.ok.injEq, Prod.mk.injEq] at parsed
    obtain ⟨code, rfl⟩ := parsed
    have full : (flagRun packet (false, zeroFlags)).2.presence = 0x1FF := by
      by_contra missing
      rw [if_pos missing] at code
      cases code
    exact ⟨⟨read, (presence_of_zeros read).mp full⟩, rfl⟩
  · obtain ⟨code, nonzero, refused⟩ := parseRspQflag_unread read
    obtain ⟨after, returned⟩ := refused zeroFlags
    rw [returned, Except.ok.injEq, Prod.mk.injEq] at parsed
    exact absurd parsed.1 nonzero

theorem parseRspQflag_accepts {packet : List UInt8} (reply : FlagReply packet) :
    parseRspQflag packet zeroFlags = .ok (0, (flagRun packet (false, zeroFlags)).2) := by
  have full := (presence_of_zeros reply.toAllRead).mpr reply.complete
  rw [parseRspQflag_allRead reply.toAllRead, if_neg (not_not.mpr full)]

/-- Each letter of a reply takes the mode nearest to its last occurrence. -/
theorem members_of_reply {packet : List UInt8} (reply : FlagReply packet) {letter : UInt8}
    (member : letter ∈ flagLetters) :
    (flagRun packet (false, zeroFlags)).2.members[flagLetters.idxOf letter]? = some true ↔
      LastEnabled packet letter := by
  constructor
  · intro on
    obtain ⟨front, back, rfl, last⟩ := exists_last (reply.complete letter member)
    rw [flagRun_last reply.known member last, Option.some_inj] at on
    obtain ⟨before, middle, rfl, modeless⟩ := (modeAfter_iff front).mp on
    exact ⟨before, middle, back, rfl, modeless, last⟩
  · rintro ⟨before, middle, back, rfl, modeless, last⟩
    rw [flagRun_last reply.known member last, Option.some_inj]
    exact (modeAfter_iff _).mpr ⟨before, middle, rfl, modeless⟩

/-- With a response of zeros, the replies of the grammar are accepted, and each member is what the
letters say. -/
theorem parseRspQflag_grammar (packet : List UInt8) :
    ((∃ response, parseRspQflag packet zeroFlags = .ok (0, response)) ↔ FlagReply packet) ∧
      ∀ response, parseRspQflag packet zeroFlags = .ok (0, response) →
        ∀ letter ∈ flagLetters,
          response.members[flagLetters.idxOf letter]? = some true ↔ LastEnabled packet letter := by
  refine ⟨⟨?_, fun reply => ⟨_, parseRspQflag_accepts reply⟩⟩, ?_⟩
  · rintro ⟨response, parsed⟩
    exact (parseRspQflag_code parsed).1
  · intro response parsed letter member
    obtain ⟨reply, rfl⟩ := parseRspQflag_code parsed
    exact members_of_reply reply member

/-- `EAKXYDBJUVZ` -/
example : (parseRspQflag [69, 65, 75, 88, 89, 68, 66, 74, 85, 86, 90] zeroFlags).map
    (·.1) = .ok 0 := by decide

end EsInverter.Rs232
