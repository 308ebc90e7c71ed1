import EsInverter.Slip.Scan

/-!
# A stream of packets cut into reads

`rx_task` gives every read to the decoder and, when the call succeeds, hands the
result to the dispatcher.  The payloads arrive as they were sent exactly when
no read holds more than the end of one packet.
-/

set_option autoImplicit false

namespace EsInverter.Slip

/-- `CONFIG_EM_TCP_RX_BUFFER_SIZE` -/
def tcpRxBufferSize : Nat := 256

/-- The arguments of `msg_disp_cb` over consecutive reads; `none` is the null pointer that stays
when no packet was complete. -/
def rxMessages : SlipCodec → List (List UInt8) → Except Fault (List (Option (List UInt8)))
  | _, [] => .ok []
  | codec, chunk :: rest =>
      match slipStaticDataDecoder codec chunk with
      | .error fault => .error fault
      | .ok result =>
          match rxMessages result.codec rest with
          | .error fault => .error fault
          | .ok later => .ok (if result.ret = .ok then result.dataOut :: later else later)

/-- The packets of the stream, each in reads of its own: the last one ends with the packet, and
those before it carry no byte of the payload. -/
inductive WellCut : List (List UInt8) → List (List UInt8) → Prop
  | done : WellCut [] []
  | packet {encoded last : List UInt8} {encodings lead rest : List (List UInt8)}
      (whole : lead.flatten ++ last = encoded)
      (early : lead.flatten = [] ∨ lead.flatten = [slipBegin] ∨
        lead.flatten = [slipBegin, slipEsc])
      (later : WellCut encodings rest) :
      WellCut (encoded :: encodings) (lead ++ last :: rest)

/-! ### The messages of a well-formed stream -/

/-- The messages by phases of the stream. -/
def messagesFrom : Phase → List (List UInt8) → List (List UInt8)
  | _, [] => []
  | phase, read :: rest =>
      match scanner.run phase read with
      | none => []
      | some (.outside, tokens) => dataOf tokens :: messagesFrom .outside rest
      | some (.inside escActive, _) => messagesFrom (.inside escActive) rest

theorem messagesFrom_closed {phase : Phase} {read : List UInt8} {tokens : List Token}
    (ran : scanner.run phase read = some (.outside, tokens)) (rest : List (List UInt8)) :
    messagesFrom phase (read :: rest) = dataOf tokens :: messagesFrom .outside rest := by
  rw [messagesFrom, ran]

theorem messagesFrom_open {phase next : Phase} {read : List UInt8} {tokens : List Token}
    (ran : scanner.run phase read = some (next, tokens)) (inside : next ≠ .outside)
    (rest : List (List UInt8)) :
    messagesFrom phase (read :: rest) = messagesFrom next rest := by
  rw [messagesFrom, ran]
  cases next with
  | outside => exact absurd rfl inside
  | inside escActive => rfl

/-- A run without the end of a packet stays inside it. -/
theorem inside_of_no_stop {phase next : Phase} {bytes : List UInt8} {tokens : List Token}
    (ran : scanner.run phase bytes = some (next, tokens)) (nonempty : bytes ≠ [])
    (none_ : stopCount tokens = 0) : next ≠ .outside := by
  rintro rfl
  obtain ⟨earlier, rfl⟩ := scan_closed ran nonempty
  rw [stopCount_append] at none_
  simp [stopCount] at none_

/-- On a well-formed stream `rx_task` delivers the messages of the phases. -/
theorem rxMessages_eq {phase last : Phase} {reads : List (List UInt8)} {tokens : List Token}
    (ran : scanner.run phase reads.flatten = some (last, tokens))
    (sizes : ∀ read ∈ reads, 1 ≤ read.length ∧ read.length ≤ tcpRxBufferSize)
    (decoded : List UInt8) :
    rxMessages (codecAt phase decoded []) reads = .ok ((messagesFrom phase reads).map some) := by
  induction reads generalizing phase tokens decoded with
  | nil => rfl
  | cons read rest ih =>
      obtain ⟨next, before, after, ranRead, ranRest, rfl⟩ :=
        Lib.Transducer.run_append_iff.mp (by simpa using ran)
      obtain ⟨some_, fits⟩ := sizes read List.mem_cons_self
      obtain ⟨ret, dataOut, call, closed, open_⟩ :=
        slipStaticDataDecoder_scan ranRead (List.ne_nil_of_length_pos some_)
          (Nat.le_trans fits (by decide)) decoded
      have later := ih ranRest (fun other inside => sizes other (List.mem_cons_of_mem _ inside)) []
      rw [rxMessages, call]
      by_cases outside : next = .outside
      · subst outside
        obtain ⟨rfl, rfl⟩ := closed rfl
        rw [messagesFrom_closed ranRead]
        simp [later]
      · obtain rfl := open_ outside
        rw [messagesFrom_open ranRead outside]
        simp [later]

/-- No more messages than packets end. -/
theorem length_messagesFrom_le {phase last : Phase} {reads : List (List UInt8)}
    {tokens : List Token} (ran : scanner.run phase reads.flatten = some (last, tokens))
    (nonempty : ∀ read ∈ reads, read ≠ []) :
    (messagesFrom phase reads).length ≤ stopCount tokens := by
  induction reads generalizing phase tokens with
  | nil => exact Nat.zero_le _
  | cons read rest ih =>
      obtain ⟨next, before, after, ranRead, ranRest, rfl⟩ :=
        Lib.Transducer.run_append_iff.mp (by simpa using ran)
      have later := ih ranRest fun other inside => nonempty other (List.mem_cons_of_mem _ inside)
      rw [stopCount_append]
      by_cases outside : next = .outside
      · subst outside
        obtain ⟨earlier, rfl⟩ := scan_closed ranRead (nonempty read List.mem_cons_self)
        rw [messagesFrom_closed ranRead, List.length_cons, stopCount_append]
        have one : stopCount [Token.stop] = 1 := rfl
        omega
      · rw [messagesFrom_open ranRead outside]
        omega

/-- Reads that end no packet deliver nothing. -/
theorem messagesFrom_lead {phase next : Phase} {lead : List (List UInt8)} {tokens : List Token}
    (ran : scanner.run phase lead.flatten = some (next, tokens))
    (nonempty : ∀ read ∈ lead, read ≠ []) (none_ : stopCount tokens = 0)
    (rest : List (List UInt8)) :
    messagesFrom phase (lead ++ rest) = messagesFrom next rest := by
  induction lead generalizing phase tokens with
  | nil =>
      cases ran
      rfl
  | cons read lead ih =>
      obtain ⟨middle, before, after, ranRead, ranLead, rfl⟩ :=
        Lib.Transducer.run_append_iff.mp (by simpa using ran)
      rw [stopCount_append] at none_
      have inside : middle ≠ .outside :=
        inside_of_no_stop ranRead (nonempty read List.mem_cons_self) (by omega)
      rw [List.cons_append, messagesFrom_open ranRead inside]
      exact ih ranLead (fun other mem => nonempty other (List.mem_cons_of_mem _ mem)) (by omega)

/-! ### Which cuts deliver the payloads -/

/-- The bytes of a packet that carry no byte of its payload. -/
theorem lead_of_no_tokens {next : Phase} {bytes : List UInt8}
    (ran : scanner.run .outside bytes = some (next, [])) :
    bytes = [] ∨ bytes = [slipBegin] ∨ bytes = [slipBegin, slipEsc] := by
  cases bytes with
  | nil => exact .inl rfl
  | cons first bytes =>
      obtain ⟨_, emitted, later, stepped, ran, empty⟩ := Lib.Transducer.run_cons_iff.mp ran
      obtain ⟨rfl, rfl⟩ := List.append_eq_nil_iff.mp empty.symm
      cases reads_of_step stepped
      cases bytes with
      | nil => exact .inr (.inl rfl)
      | cons second bytes =>
          obtain ⟨_, emitted, later, stepped, ran, empty⟩ := Lib.Transducer.run_cons_iff.mp ran
          obtain ⟨rfl, rfl⟩ := List.append_eq_nil_iff.mp empty.symm
          cases reads_of_step stepped
          cases bytes with
          | nil => exact .inr (.inr rfl)
          | cons third bytes =>
              -- Behind the escape byte every accepted byte is one of the payload.
              obtain ⟨_, emitted, later, stepped, _, empty⟩ := Lib.Transducer.run_cons_iff.mp ran
              obtain ⟨rfl, _⟩ := List.append_eq_nil_iff.mp empty.symm
              cases reads_of_step stepped

theorem scan_early {bytes : List UInt8}
    (early : bytes = [] ∨ bytes = [slipBegin] ∨ bytes = [slipBegin, slipEsc]) :
    ∃ next, scanner.run .outside bytes = some (next, []) := by
  rcases early with rfl | rfl | rfl
  · exact ⟨.outside, rfl⟩
  · exact ⟨.inside false, rfl⟩
  · exact ⟨.inside true, rfl⟩

/-- A packet cut in two gives its tokens in two parts. -/
theorem scan_frame_cut {payload first second : List UInt8}
    (whole : first ++ second = frame payload) :
    ∃ phase before after, scanner.run .outside first = some (phase, before) ∧
      scanner.run phase second = some (.outside, after) ∧ before ++ after = tokensOf payload := by
  have ran := scan_frame payload
  rw [← whole] at ran
  obtain ⟨phase, before, after, ranFirst, ranSecond, same⟩ := Lib.Transducer.run_append_iff.mp ran
  exact ⟨phase, before, after, ranFirst, ranSecond, same.symm⟩

theorem messagesFrom_of_wellCut {payloads reads : List (List UInt8)}
    (wellCut : WellCut (payloads.map frame) reads) (nonempty : ∀ read ∈ reads, read ≠ []) :
    messagesFrom .outside reads = payloads := by
  generalize same : payloads.map frame = encodings at wellCut
  induction wellCut generalizing payloads with
  | done => rw [List.map_eq_nil_iff.mp same]; rfl
  | @packet encoded last encodings lead rest whole early later ih =>
      cases payloads with
      | nil => cases same
      | cons payload payloads =>
          obtain ⟨rfl, rfl⟩ := List.cons.inj same
          obtain ⟨phase, before, after, ranLead, ranLast, tokens⟩ := scan_frame_cut whole
          obtain ⟨next, silent⟩ := scan_early early
          obtain ⟨rfl, rfl⟩ : phase = next ∧ before = [] := by
            rw [ranLead] at silent
            exact Prod.mk.inj (Option.some.inj silent)
          rw [messagesFrom_lead ranLead (fun read inside => nonempty read (by simp [inside])) rfl]
          rw [messagesFrom_closed ranLast,
            ih (fun read inside => nonempty read (by simp [inside])) rfl]
          rw [List.nil_append] at tokens
          rw [tokens, dataOf_tokensOf]

/-- A read that goes on behind the end of a packet delivers fewer messages than packets end. -/
theorem length_messagesFrom_lt {phase : Phase} {head tail : List UInt8}
    {rest : List (List UInt8)} {tokens : List Token} {payloads : List (List UInt8)}
    (ranHead : scanner.run phase head = some (.outside, tokens)) (tailed : tail ≠ [])
    (follows : tail ++ rest.flatten = payloads.flatMap frame)
    (nonempty : ∀ read ∈ rest, read ≠ []) :
    (messagesFrom phase ((head ++ tail) :: rest)).length ≤ payloads.length := by
  have ran := scan_stream payloads
  rw [← follows] at ran
  obtain ⟨next, before, after, ranTail, ranRest, same⟩ := Lib.Transducer.run_append_iff.mp ran
  have counted : stopCount before + stopCount after = payloads.length := by
    rw [← stopCount_append, ← same]
    clear same ran follows
    induction payloads with
    | nil => rfl
    | cons payload payloads ih =>
        rw [List.flatMap_cons, stopCount_append, ih, stopCount_tokensOf, List.length_cons,
          Nat.add_comm]
  have bounded := length_messagesFrom_le ranRest nonempty
  have ranBoth := Lib.Transducer.run_append ranHead ranTail
  by_cases outside : next = .outside
  · subst outside
    obtain ⟨earlier, rfl⟩ := scan_closed ranTail tailed
    rw [messagesFrom_closed ranBoth, List.length_cons]
    rw [stopCount_append] at counted
    have one : stopCount [Token.stop] = 1 := rfl
    omega
  · rw [messagesFrom_open ranBoth outside]
    omega

theorem wellCut_of_messagesFrom {payloads reads : List (List UInt8)}
    (cut : reads.flatten = payloads.flatMap frame) (nonempty : ∀ read ∈ reads, read ≠ [])
    (delivered : messagesFrom .outside reads = payloads) :
    WellCut (payloads.map frame) reads := by
  induction payloads generalizing reads with
  | nil =>
      cases reads with
      | nil => exact .done
      | cons read rest =>
          have empty : read = [] := (List.append_eq_nil_iff.mp cut).1
          exact absurd empty (nonempty read List.mem_cons_self)
  | cons payload payloads ih =>
      rw [List.flatMap_cons] at cut
      obtain ⟨lead, head, tail, rest, rfl, some_, whole, follows⟩ :=
        Lib.exists_cut cut (by simp [frame])
      obtain ⟨phase, before, after, ranLead, ranHead, tokens⟩ := scan_frame_cut whole
      obtain ⟨earlier, rfl⟩ := scan_closed ranHead some_
      have silent : stopCount before = 0 := by
        have counted := congrArg stopCount tokens
        rw [stopCount_tokensOf, stopCount_append, stopCount_append] at counted
        have one : stopCount [Token.stop] = 1 := rfl
        omega
      have restNonempty : ∀ read ∈ rest, read ≠ [] :=
        fun read inside => nonempty read (by simp [inside])
      rw [messagesFrom_lead ranLead (fun read inside => nonempty read (by simp [inside])) silent]
        at delivered
      by_cases tailed : tail = []
      · subst tailed
        rw [List.append_nil, messagesFrom_closed ranHead] at delivered
        obtain ⟨arrived, others⟩ := List.cons.inj delivered
        have parts := congrArg dataOf tokens
        rw [dataOf_append, dataOf_tokensOf, arrived] at parts
        have noData : dataOf before = [] := by
          have lengths := congrArg List.length parts
          rw [List.length_append] at lengths
          exact List.eq_nil_of_length_eq_zero (by omega)
        have noTokens : before = [] := by
          cases before with
          | nil => rfl
          | cons token before =>
              cases token with
              | data byte => cases noData
              | stop => simp [stopCount] at silent
        subst noTokens
        rw [List.append_nil, List.map_cons]
        exact .packet whole (lead_of_no_tokens ranLead)
          (ih (by simpa using follows) restNonempty others)
      · have fewer := length_messagesFrom_lt ranHead tailed follows restNonempty
        rw [delivered, List.length_cons] at fewer
        omega

/-! ### Encoded streams -/

/-- The encoder wrote each of the packets. -/
abbrev Encoded (payloads encodings : List (List UInt8)) : Prop :=
  List.Forall₂ (fun payload encoded => ∃ limit, slipEncode limit payload = .ok encoded)
    payloads encodings

theorem encoded_eq_frames {payloads encodings : List (List UInt8)}
    (encoded : Encoded payloads encodings) : encodings = payloads.map frame := by
  induction encoded with
  | nil => rfl
  | cons head tail ih =>
      obtain ⟨limit, ran⟩ := head
      rw [List.map_cons, ih, (slipEncode_ok ran).2]

/-- The dispatcher is given exactly the payloads, in order, if and only if the stream is cut so
that every packet ends its read and no read before that one carries a byte of the payload. -/
theorem rxMessages_eq_payloads_iff {payloads encodings reads : List (List UInt8)}
    (encoded : Encoded payloads encodings) (cut : reads.flatten = encodings.flatten)
    (sizes : ∀ read ∈ reads, 1 ≤ read.length ∧ read.length ≤ tcpRxBufferSize) :
    rxMessages .initial reads = .ok (payloads.map some) ↔ WellCut encodings reads := by
  obtain rfl := encoded_eq_frames encoded
  rw [← List.flatMap_def] at cut
  have nonempty : ∀ read ∈ reads, read ≠ [] :=
    fun read inside => List.ne_nil_of_length_pos (sizes read inside).1
  have ran := rxMessages_eq (cut ▸ scan_stream payloads) sizes []
  change rxMessages .initial reads = _ at ran
  rw [ran]
  constructor
  · intro same
    refine wellCut_of_messagesFrom cut nonempty ?_
    exact (List.map_inj_right fun _ _ => Option.some.inj).mp (Except.ok.inj same)
  · intro wellCut
    rw [messagesFrom_of_wellCut wellCut nonempty]

/-- Two packets, the first in two reads cut behind its escape byte. -/
theorem rxMessages_eq_payloads_iff_cut_escape :
    rxMessages .initial [[slipBegin, slipEsc], [slipEscEnd, slipEnd], [slipBegin, 5, slipEnd]] =
      .ok ([[slipEnd], [5]].map some) := by
  have encoded : Encoded [[slipEnd], [5]]
      [[slipBegin, slipEsc, slipEscEnd, slipEnd], [slipBegin, 5, slipEnd]] :=
    .cons ⟨10, rfl⟩ (.cons ⟨10, rfl⟩ .nil)
  have wellCut : WellCut [[slipBegin, slipEsc, slipEscEnd, slipEnd], [slipBegin, 5, slipEnd]]
      ([[slipBegin, slipEsc]] ++ [slipEscEnd, slipEnd] :: ([] ++ [slipBegin, 5, slipEnd] :: [])) :=
    .packet rfl (.inr (.inr rfl)) (.packet rfl (.inl rfl) .done)
  exact (rxMessages_eq_payloads_iff encoded (by rfl) (by decide)).mpr wellCut

/-- Two packets in one read arrive as one message. -/
theorem rxMessages_merges :
    rxMessages .initial [[slipBegin, 1, slipEnd, slipBegin, 2, slipEnd]] ≠
      .ok ([[1], [2]].map some) := by
  decide

end EsInverter.Slip
