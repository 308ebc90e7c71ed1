import EsInverter.Rs232.RoundTrip

/-!
# Several frames in one buffer

The parser starts at the last opening parenthesis of all its input, so that of
several complete frames it judges the last one and drops the others with it.
-/

set_option autoImplicit false

namespace EsInverter.Rs232

/-- The status and the output object of a call, if it stays inside the language. -/
abbrev Verdict := Except Fault (UInt16 × Payload)

def verdictOf (result : Except Fault Parsed) : Verdict :=
  result.map fun parsed => (parsed.err, parsed.output)

/-- What the parser makes of a packet: the code of its sub-parser, or `RQ_REJECTED`. -/
def verdict (cmd : Cmd) (output : Payload) (body : List UInt8) : Verdict :=
  verdictOf (judgePacket cmd.code body [] output 0)

/-- The verdicts on packets that repeated calls give, until one returns zero, the input is empty or
one leaves the language. -/
def drain (cmd : Cmd) (output : Payload) (dataIn : List UInt8) : List Verdict :=
  if _ : dataIn = [] then []
  else
    match rs232RspParse cmd.code dataIn output with
    | .error fault => [.error fault]
    | .ok parsed =>
        let found := parsed.err ≠ ParseStatus.noPacket ∧ parsed.err ≠ ParseStatus.invalidCrc
        let later :=
          if _ : parsed.processed = 0 then []
          else drain cmd output (dataIn.drop parsed.processed)
        if found then .ok (parsed.err, parsed.output) :: later else later
termination_by dataIn.length
decreasing_by
  have positive : 0 < dataIn.length := List.length_pos_of_ne_nil ‹dataIn ≠ []›
  rw [List.length_drop]
  omega

/-- A verdict depends on nothing that only the caller gets back. -/
theorem verdictOf_judgePacket (cmd : Cmd) (output : Payload) (body dataIn : List UInt8)
    (processed : Nat) :
    verdictOf (judgePacket cmd.code body dataIn output processed) = verdict cmd output body := by
  rw [verdict, judgePacket_code, judgePacket_code]
  split
  · rfl
  · cases cmd.subParser body output <;> rfl

theorem drain_nil (cmd : Cmd) (output : Payload) : drain cmd output [] = [] := by
  rw [drain, dif_pos rfl]

/-- An input that one call judges as a packet and consumes. -/
theorem drain_judged {cmd : Cmd} {output : Payload} {dataIn body zeroed : List UInt8}
    (nonempty : dataIn ≠ [])
    (judged : rs232RspParse cmd.code dataIn output =
      judgePacket cmd.code body zeroed output dataIn.length) :
    drain cmd output dataIn = [verdict cmd output body] := by
  rw [drain, dif_neg nonempty, judged, ← verdictOf_judgePacket cmd output body zeroed dataIn.length]
  cases returned : judgePacket cmd.code body zeroed output dataIn.length with
  | error fault => rfl
  | ok parsed =>
      obtain ⟨whole, found⟩ := judgePacket_found returned
      have moved : ¬ parsed.processed = 0 := by
        rw [whole]
        exact Nat.ne_of_gt (List.length_pos_of_ne_nil nonempty)
      dsimp only
      rw [if_pos found, dif_neg moved, whole, List.drop_length, drain_nil]
      rfl

/-! ### Lists of frames -/

/-- A body and a checksum without delimiters. -/
structure Plain (body : List UInt8) : Prop where
  parenthesis : openingParenthesis ∉ body
  line : carriageReturn ∉ body
  crc : CrcPlain body

def frames (bodies : List (List UInt8)) : List UInt8 := (bodies.map replyFrame).flatten

theorem frames_concat (bodies : List (List UInt8)) (body : List UInt8) :
    frames (bodies ++ [body]) = frames bodies ++ replyFrame body := by
  simp [frames]

theorem length_frames (bodies : List (List UInt8)) : 4 * bodies.length ≤ (frames bodies).length := by
  induction bodies with
  | nil => exact Nat.le_refl 0
  | cons body rest ih =>
      have first : (frames (body :: rest)).length =
          (replyFrame body).length + (frames rest).length := by
        simp [frames]
      rw [first, length_replyFrame, List.length_cons]
      omega

/-- Only the last frame gets a verdict. -/
theorem drain_frames {cmd : Cmd} {output : Payload} {bodies : List (List UInt8)}
    {body : List UInt8} (plain : Plain body) (long : bodies ≠ [] ∨ body ≠ []) :
    drain cmd output (frames (bodies ++ [body])) = [verdict cmd output body] := by
  have size : 5 ≤ (frames bodies).length + (replyFrame body).length := by
    have front := length_frames bodies
    rw [length_replyFrame]
    rcases long with earlier | filled
    · have positive : 0 < bodies.length := List.length_pos_of_ne_nil earlier
      omega
    · have positive : 0 < body.length := List.length_pos_of_ne_nil filled
      omega
  obtain ⟨zeroed, judged⟩ := rs232RspParse_framed plain.parenthesis plain.line plain.crc
    (frames bodies) size cmd.code output
  rw [frames_concat]
  have nonempty : frames bodies ++ replyFrame body ≠ [] := by
    apply List.ne_nil_of_length_pos
    rw [List.length_append]
    omega
  exact drain_judged nonempty judged

/-- An empty frame alone is too short for the parser. -/
theorem verdictOf_emptyFrame (cmd : Cmd) (output : Payload) :
    verdictOf (rs232RspParse cmd.code (replyFrame []) output) =
      .ok (ParseStatus.noPacket, output) := by
  have short : (replyFrame []).length < 5 := by
    rw [length_replyFrame]
    decide
  rw [rs232RspParse, if_pos short]
  rfl

theorem verdict_ne_noPacket (cmd : Cmd) (output : Payload) (body : List UInt8) :
    verdict cmd output body ≠ .ok (ParseStatus.noPacket, output) := by
  intro same
  rw [verdict] at same
  cases returned : judgePacket cmd.code body [] output 0 with
  | error fault =>
      rw [returned] at same
      cases same
  | ok parsed =>
      rw [returned] at same
      have err : parsed.err = ParseStatus.noPacket := congrArg Prod.fst (Except.ok.inj same)
      exact (judgePacket_found returned).2.1 err

/-- Repeated calls give every frame's verdict once and in order, as calls on each frame alone do. -/
structure SkipsNothing (cmd : Cmd) (output : Payload) (bodies : List (List UInt8)) : Prop where
  drained : drain cmd output (frames bodies) = bodies.map (verdict cmd output)
  alone : ∀ body ∈ bodies,
    verdictOf (rs232RspParse cmd.code (replyFrame body) output) = verdict cmd output body

/-- Nothing is skipped exactly when there is at most one frame, and it is not empty. -/
theorem skipsNothing_iff {cmd : Cmd} {output : Payload} {bodies : List (List UInt8)}
    (plain : ∀ body ∈ bodies, Plain body) :
    SkipsNothing cmd output bodies ↔ bodies = [] ∨ ∃ body, body ≠ [] ∧ bodies = [body] := by
  rcases List.eq_nil_or_concat' bodies with rfl | ⟨earlier, body, rfl⟩
  · refine iff_of_true ⟨?_, by simp⟩ (.inl rfl)
    exact drain_nil cmd output
  have bodyPlain : Plain body := plain body (by simp)
  constructor
  · intro whole
    refine .inr ⟨body, ?_, ?_⟩
    · rintro rfl
      have single := whole.alone [] (by simp)
      rw [verdictOf_emptyFrame] at single
      exact verdict_ne_noPacket cmd output [] single.symm
    · by_cases first : earlier = []
      · rw [first, List.nil_append]
      · have counts := congrArg List.length whole.drained
        rw [drain_frames bodyPlain (.inl first)] at counts
        have positive : 0 < earlier.length := List.length_pos_of_ne_nil first
        rw [List.length_map, List.length_append, List.length_singleton,
          List.length_singleton] at counts
        omega
  · rintro (none_ | ⟨other, filled, single⟩)
    · simp at none_
    · have split : earlier ++ [body] = [] ++ [other] := single
      obtain ⟨rfl, same⟩ := List.append_inj' split rfl
      obtain rfl : body = other := List.singleton_injective same
      refine ⟨drain_frames bodyPlain (.inr filled), ?_⟩
      intro body' inside
      obtain rfl : body' = body := by simpa using inside
      have size : 5 ≤ ([] : List UInt8).length + (replyFrame body').length := by
        have positive : 0 < body'.length := List.length_pos_of_ne_nil filled
        rw [length_replyFrame, List.length_nil]
        omega
      obtain ⟨zeroed, judged⟩ := rs232RspParse_framed bodyPlain.parenthesis bodyPlain.line
        bodyPlain.crc [] size cmd.code output
      rw [List.nil_append] at judged
      rw [judged, verdictOf_judgePacket]

/-! ### The replies `"(L"` and `"(B"` to `QMOD` in one buffer -/

def modeReplies : List (List UInt8) := [[76], [66]]

theorem plain_modeReplies : ∀ body ∈ modeReplies, Plain body := by
  intro body inside
  rw [modeReplies, List.mem_cons, List.mem_singleton] at inside
  rcases inside with rfl | rfl
  · exact ⟨by decide, by decide, by rw [CrcPlain]; decide +kernel⟩
  · exact ⟨by decide, by decide, by rw [CrcPlain]; decide +kernel⟩

theorem skipsNothing_iff_modeReplies :
    SkipsNothing .qmod .zero modeReplies ↔
      modeReplies = [] ∨ ∃ body, body ≠ [] ∧ modeReplies = [body] :=
  skipsNothing_iff plain_modeReplies

/-- Only the second reply gets a verdict. -/
theorem modeReplies_skipped :
    drain .qmod .zero (frames modeReplies) = [.ok (0, .word 66)] ∧
      ¬ SkipsNothing .qmod .zero modeReplies := by
  have drained : drain .qmod .zero (frames ([[76]] ++ [[66]])) = [verdict .qmod .zero [66]] :=
    drain_frames (plain_modeReplies [66] (by decide)) (.inr (by decide))
  have last : verdict .qmod .zero [66] = .ok (0, .word 66) := rfl
  rw [last] at drained
  refine ⟨drained, fun whole => ?_⟩
  have counts := congrArg List.length (drained.symm.trans whole.drained)
  revert counts
  decide

end EsInverter.Rs232
