import EsInverter.Rs232.Drain
import EsInverter.SerialClient.Credit

/-!
# The receiver after other bytes

What earlier calls of `process_data` could not use stays in the ring, and each call
shows only the oldest bytes of the ring to the parser.  A frame that arrives is seen
by the parser exactly when it and everything that is still in the ring fit the window.
-/

set_option autoImplicit false

namespace EsInverter.SerialClient

open Lib Rs232

/-- What calls of `process_data` leave in the ring, whatever the client does between them. -/
inductive LeftBehind : RingBuf (2 * maxPacketLen) → Prop
  | initial : LeftBehind (RingBuf.ringbufInit (2 * maxPacketLen) ringSize_pos)
  | processed {receiver next : Receiver} {newData : List UInt8} (before : LeftBehind receiver.ring)
      (done : processData newData receiver = .ok next) : LeftBehind next.ring

/-! ### The calls of the parser -/

/-- A call of `parse_func` in `process_data`: where in the ring its window starts, what the window
holds, and what the call leaves. -/
structure ParserCall where
  offset : Nat
  dataIn : List UInt8
  returned : Except Fault Parsed
  deriving DecidableEq

/-- `parse_func` with the payload of `result` as its output object. -/
def callParser (result : ParseResult) (data : List UInt8) : Except Fault Parsed :=
  match rs232RspParse result.rspId data result.payload with
  | .error fault => .error fault
  | .ok parsed => if parsed.output.size > maxPacketLen then .error .outOfBounds else .ok parsed

/-- The statuses on which `parse` returns. -/
def Ends (status : UInt16) : Prop :=
  status = ParseStatus.ok ∨ status = ParseStatus.rqRejected ∨ status = ParseStatus.invalidCrc ∨
    status = ParseStatus.packetMalformed

instance (status : UInt16) : Decidable (Ends status) :=
  inferInstanceAs (Decidable (_ ∨ _))

/-- The calls in the loop of `parse`. -/
def parseLoopCalls : Nat → List UInt8 → Nat → ParseResult → List ParserCall
  | 0, _, _, _ => []
  | rounds + 1, data, offset, result =>
      if data = [] then []
      else
        ⟨offset, data, callParser result data⟩ ::
          match callParser result data with
          | .error _ => []
          | .ok parsed =>
              if Ends parsed.err then []
              else
                parseLoopCalls rounds (parsed.dataIn.drop parsed.processed)
                  (offset + parsed.processed)
                  { result with payload := parsed.output, status := parsed.err }

/-- The result object that `parse` starts with. -/
def ParseResult.started (rqId : UInt16) (result : ParseResult) : ParseResult :=
  { result with status := ParseStatus.noPacket, payloadLen := 0, rspId := rqId }

def parseCalls (client : Client) (data : List UInt8) (offset : Nat) (result : ParseResult) :
    List ParserCall :=
  if client.lastRqId = expRspInvalid then []
  else parseLoopCalls 8 data offset (result.started client.lastRqId)

/-- The calls in the loop of `process_data`. -/
def processRoundsCalls : Nat → Client → List UInt8 → Nat → ParseResult → List ParserCall
  | 0, _, _, _, _ => []
  | rounds + 1, client, data, offset, result =>
      if data = [] then []
      else
        parseCalls client data offset result ++
          match parse client data result with
          | .error _ => []
          | .ok ⟨client, result, processed, rest⟩ =>
              let client :=
                if result.status = ParseStatus.ok then ackRsp client.lastRqId client else client
              processRoundsCalls rounds client rest (offset + processed) result

def processDataCalls (newData : List UInt8) (receiver : Receiver) : List ParserCall :=
  match receiver.ring.ringbufWrite newData with
  | .error _ => []
  | .ok ring =>
      match ring.ringbufRead maxPacketLen with
      | .error _ => []
      | .ok data => processRoundsCalls 8 receiver.client data 0 .zero

/-- The number of bytes that a call has processed. -/
def ParserCall.processed (call : ParserCall) : Nat :=
  match call.returned with
  | .error _ => 0
  | .ok parsed => parsed.processed

/-- The window holds the whole frame, which ends where the bytes in the ring end. -/
def ParserCall.Shows (frame : List UInt8) (stored : Nat) (call : ParserCall) : Prop :=
  ∃ before behind, call.dataIn = before ++ frame ++ behind ∧
    call.offset + before.length + frame.length = stored

/-- The call returns with a status other than `PARSE_STATUS_NO_PACKET`. -/
def ParserCall.Reports (call : ParserCall) : Prop :=
  ∃ parsed, call.returned = .ok parsed ∧ parsed.err ≠ ParseStatus.noPacket

/-- The number of bytes in the ring behind a write. -/
def Receiver.stored (newData : List UInt8) (receiver : Receiver) : Nat :=
  min (receiver.ring.ringbufLen + newData.length) (2 * maxPacketLen)

/-- A frame that arrives is shown to the parser, which has a status for it. -/
def Resynchronises (frame : List UInt8) (receiver : Receiver) : Prop :=
  ∃ call ∈ processDataCalls frame receiver,
    call.Shows frame (receiver.stored frame) ∧ call.Reports

/-- The request has a sub-parser that stays inside its arrays, or the frame rejects it. -/
def Answerable (rqId : UInt16) (body : List UInt8) : Prop :=
  parseRspIsNak body = true ∨
    ∃ cmd returned, Cmd.ofCode? rqId = some cmd ∧ cmd.subParser body .zero = .ok returned

section Loop

variable {rounds : Nat} {client : Client} {data : List UInt8} {result : ParseResult}
  {parsed : Parsed} {returned : ParseReturn}

/-- The result object behind a call. -/
def ParseResult.after (parsed : Parsed) (result : ParseResult) : ParseResult :=
  { result with payload := parsed.output, status := parsed.err }

theorem parseLoop_error {fault : Fault} (nonempty : data ≠ [])
    (called : callParser result data = .error fault) :
    parseLoop (rounds + 1) client data result = .error fault := by
  rw [callParser] at called
  rw [parseLoop, if_neg nonempty]
  cases parses : rs232RspParse result.rspId data result.payload with
  | error other =>
      rw [parses] at called
      exact congrArg Except.error (Except.error.inj called)
  | ok parsed =>
      rw [parses] at called
      dsimp only at called ⊢
      split at called
      · rename_i large
        rw [if_pos large]
        exact congrArg Except.error (Except.error.inj called)
      · cases called

theorem callParser_ok (called : callParser result data = .ok parsed) :
    rs232RspParse result.rspId data result.payload = .ok parsed ∧
      ¬parsed.output.size > maxPacketLen := by
  rw [callParser] at called
  cases parses : rs232RspParse result.rspId data result.payload with
  | error fault =>
      rw [parses] at called
      cases called
  | ok other =>
      rw [parses] at called
      dsimp only at called
      split at called
      · cases called
      · rename_i small
        cases called
        exact ⟨rfl, small⟩

variable (rounds client) in
theorem parseLoop_ends (nonempty : data ≠ []) (called : callParser result data = .ok parsed)
    (ends : Ends parsed.err) :
    ∃ next after, parseLoop (rounds + 1) client data result =
      .ok ⟨next, after, parsed.processed, parsed.dataIn.drop parsed.processed⟩ := by
  obtain ⟨parses, small⟩ := callParser_ok called
  rw [parseLoop, if_neg nonempty, parses]
  dsimp only
  rw [if_neg small]
  by_cases accepted : parsed.err = ParseStatus.ok
  · rw [if_pos accepted]
    split
    · exact ⟨_, _, rfl⟩
    · exact ⟨_, _, rfl⟩
  rw [if_neg accepted]
  by_cases rejected : parsed.err = ParseStatus.rqRejected
  · rw [if_pos rejected]
    exact ⟨_, _, rfl⟩
  rw [if_neg rejected]
  rcases ends with same | same | broken
  · exact absurd same accepted
  · exact absurd same rejected
  · rw [if_pos broken]
    exact ⟨_, _, rfl⟩

variable (rounds client) in
theorem parseLoop_continues (nonempty : data ≠ []) (called : callParser result data = .ok parsed)
    (continues : ¬Ends parsed.err) :
    parseLoop (rounds + 1) client data result =
      match parseLoop rounds client (parsed.dataIn.drop parsed.processed) (result.after parsed) with
      | .error fault => .error fault
      | .ok later => .ok { later with processed := parsed.processed + later.processed } := by
  obtain ⟨parses, small⟩ := callParser_ok called
  rw [Ends, not_or, not_or] at continues
  obtain ⟨notOk, notRejected, notBroken⟩ := continues
  rw [parseLoop, if_neg nonempty, parses]
  dsimp only
  rw [if_neg small, if_neg notOk, if_neg notRejected, if_neg notBroken]
  rfl

theorem parseLoop_nil : parseLoop rounds client [] result = .ok ⟨client, result, 0, []⟩ := by
  cases rounds with
  | zero => rfl
  | succ rounds => rw [parseLoop, if_pos rfl]

/-- What `parse` has not processed is the end of its input. -/
theorem parseLoop_rest (looped : parseLoop rounds client data result = .ok returned) :
    returned.rest = [] ∨ returned.processed + returned.rest.length = data.length := by
  induction rounds generalizing data result returned with
  | zero =>
      cases looped
      exact .inr (Nat.zero_add _)
  | succ rounds ih =>
      by_cases empty : data = []
      · rw [parseLoop, if_pos empty] at looped
        cases looped
        exact .inl empty
      cases called : callParser result data with
      | error fault =>
          rw [parseLoop_error empty called] at looped
          cases looped
      | ok parsed =>
          have length := length_dataIn (callParser_ok called).1
          by_cases ends : Ends parsed.err
          · obtain ⟨next, after, done⟩ := parseLoop_ends rounds client empty called ends
            rw [done] at looped
            cases looped
            dsimp only
            rw [← length, List.length_drop, List.drop_eq_nil_iff]
            omega
          · rw [parseLoop_continues rounds client empty called ends] at looped
            split at looped
            · cases looped
            · rename_i later continued
              cases looped
              rcases ih continued with none_ | split
              · exact .inl none_
              · dsimp only
                rw [List.length_drop, length] at split
                by_cases inside : parsed.processed ≤ data.length
                · exact .inr (by omega)
                · exact .inl (List.eq_nil_of_length_eq_zero (by omega))

theorem parseLoopCalls_nil (offset : Nat) : parseLoopCalls rounds [] offset result = [] := by
  cases rounds with
  | zero => rfl
  | succ rounds => rw [parseLoopCalls, if_pos rfl]

/-- Every window ends where the input ends. -/
theorem parseLoopCalls_spec {offset : Nat} {call : ParserCall}
    (inside : call ∈ parseLoopCalls rounds data offset result) :
    call.offset + call.dataIn.length = offset + data.length ∧
      ∃ result, call.returned = callParser result call.dataIn := by
  induction rounds generalizing data result offset with
  | zero => cases inside
  | succ rounds ih =>
      rw [parseLoopCalls] at inside
      split at inside
      · cases inside
      · rcases List.mem_cons.mp inside with rfl | later
        · exact ⟨rfl, result, rfl⟩
        · cases called : callParser result data with
          | error fault =>
              rw [called] at later
              cases later
          | ok parsed =>
              rw [called] at later
              dsimp only at later
              split at later
              · cases later
              · obtain ⟨ends, back⟩ := ih later
                have length := length_dataIn (callParser_ok called).1
                -- there is no call for an empty rest
                have filled : parsed.processed < data.length := by
                  by_contra whole
                  rw [List.drop_of_length_le (by omega), parseLoopCalls_nil] at later
                  cases later
                rw [List.length_drop, length] at ends
                exact ⟨by omega, back⟩

theorem parse_rest (done : parse client data result = .ok returned) :
    returned.rest = [] ∨ returned.processed + returned.rest.length = data.length := by
  rw [parse] at done
  split at done
  · cases done
    exact .inr (Nat.zero_add _)
  · exact parseLoop_rest done

theorem parseCalls_spec {offset : Nat} {call : ParserCall}
    (inside : call ∈ parseCalls client data offset result) :
    call.offset + call.dataIn.length = offset + data.length ∧
      ∃ result, call.returned = callParser result call.dataIn := by
  rw [parseCalls] at inside
  split at inside
  · cases inside
  · exact parseLoopCalls_spec inside

theorem processRoundsCalls_nil (offset : Nat) :
    processRoundsCalls rounds client [] offset result = [] := by
  cases rounds with
  | zero => rfl
  | succ rounds => rw [processRoundsCalls, if_pos rfl]

theorem processRoundsCalls_spec {offset : Nat} {call : ParserCall}
    (inside : call ∈ processRoundsCalls rounds client data offset result) :
    call.offset + call.dataIn.length = offset + data.length ∧
      ∃ result, call.returned = callParser result call.dataIn := by
  induction rounds generalizing client data result offset with
  | zero => cases inside
  | succ rounds ih =>
      rw [processRoundsCalls] at inside
      split at inside
      · cases inside
      · rcases List.mem_append.mp inside with now | later
        · exact parseCalls_spec now
        · cases done : parse client data result with
          | error fault =>
              rw [done] at later
              cases later
          | ok returned =>
              obtain ⟨next, after, processed, rest⟩ := returned
              rw [done] at later
              dsimp only at later
              obtain ⟨ends, back⟩ := ih later
              refine ⟨?_, back⟩
              rcases parse_rest done with none_ | split
              · dsimp only at none_
                rw [none_, processRoundsCalls_nil] at later
                cases later
              · dsimp only at split
                omega

end Loop

/-! ### The ring between the calls -/

theorem LeftBehind.consistent {ring : RingBuf (2 * maxPacketLen)} (left : LeftBehind ring) :
    ring.Consistent := by
  induction left with
  | initial => exact RingBuf.consistent_ringbufInit ringSize_pos
  | @processed receiver next newData before done ih =>
      rw [processData] at done
      cases written : receiver.ring.ringbufWrite newData with
      | error fault =>
          rw [written] at done
          cases done
      | ok ring =>
          have kept := RingBuf.consistent_ringbufWrite written
          rw [written] at done
          dsimp only at done
          split at done
          · cases done
          · cases done
            exact kept
          · split at done
            · cases done
            · split at done
              · split at done
                · cases done
                · rename_i cleared
                  cases done
                  exact (RingBuf.ringbufClear_eq kept cleared).1
              · cases done
                exact kept

/-! ### The window -/

section Window

variable {receiver : Receiver} {newData : List UInt8}

/-- The calls of `process_data` start with the oldest bytes of the ring. -/
theorem processDataCalls_eq (consistent : receiver.ring.Consistent) (filled : newData ≠ []) :
    processDataCalls newData receiver =
      processRoundsCalls 8 receiver.client
        ((lastOf (2 * maxPacketLen) (receiver.ring.contents ++ newData)).take maxPacketLen) 0
        .zero := by
  obtain ⟨ring, written⟩ : ∃ ring, receiver.ring.ringbufWrite newData = .ok ring :=
    ⟨_, if_neg filled⟩
  have kept := RingBuf.consistent_ringbufWrite written
  rw [processDataCalls, written]
  dsimp only
  rw [RingBuf.ringbufRead_eq kept (by decide), RingBuf.contents_ringbufWrite consistent written]

/-- What fits the window is in the first window as a whole. -/
theorem processDataCalls_fits (consistent : receiver.ring.Consistent) (filled : newData ≠ [])
    (fits : receiver.ring.ringbufLen + newData.length ≤ maxPacketLen) :
    processDataCalls newData receiver =
      processRoundsCalls 8 receiver.client (receiver.ring.contents ++ newData) 0 .zero := by
  rw [← RingBuf.length_contents, ← List.length_append] at fits
  rw [processDataCalls_eq consistent filled, lastOf_of_short (by omega),
    List.take_of_length_le fits]

theorem length_lastOf_contents (newData : List UInt8) (receiver : Receiver) :
    (lastOf (2 * maxPacketLen) (receiver.ring.contents ++ newData)).length =
      receiver.stored newData := by
  rw [length_lastOf, List.length_append, RingBuf.length_contents, Receiver.stored]

/-- Every window ends where the first one does. -/
theorem processDataCalls_spec (consistent : receiver.ring.Consistent) (filled : newData ≠ [])
    {call : ParserCall} (inside : call ∈ processDataCalls newData receiver) :
    call.offset + call.dataIn.length = min maxPacketLen (receiver.stored newData) ∧
      ∃ result, call.returned = callParser result call.dataIn := by
  rw [processDataCalls_eq consistent filled] at inside
  obtain ⟨ends, back⟩ := processRoundsCalls_spec inside
  rw [List.length_take, length_lastOf_contents, Nat.zero_add] at ends
  exact ⟨ends, back⟩

/-- A frame behind more bytes than the window holds is not shown. -/
theorem not_resynchronises_of_long (consistent : receiver.ring.Consistent) (filled : newData ≠ [])
    (long : maxPacketLen < receiver.ring.ringbufLen + newData.length) :
    ¬Resynchronises newData receiver := by
  rintro ⟨call, inside, ⟨before, behind, shown, place⟩, -⟩
  obtain ⟨ends, -⟩ := processDataCalls_spec consistent filled inside
  have stored : maxPacketLen < receiver.stored newData := by
    have window : 0 < maxPacketLen := by decide
    rw [Receiver.stored]
    omega
  rw [shown, List.length_append, List.length_append] at ends
  omega

/-- The parser has no status for less than five bytes. -/
theorem not_resynchronises_of_short (consistent : receiver.ring.Consistent) (filled : newData ≠ [])
    (short : receiver.ring.ringbufLen + newData.length < 5) :
    ¬Resynchronises newData receiver := by
  rintro ⟨call, inside, -, parsed, returned, found⟩
  obtain ⟨ends, result, back⟩ := processDataCalls_spec consistent filled inside
  have few : call.dataIn.length < 5 := by
    rw [Receiver.stored] at ends
    omega
  rw [back] at returned
  obtain ⟨parses, -⟩ := callParser_ok returned
  rw [rs232RspParse, if_pos few] at parses
  cases parses
  exact found rfl

end Window

/-! ### A frame in the first window -/

/-- A packet that fits the window leaves an output object that fits the result. -/
theorem size_subParser {cmd : Cmd} {body : List UInt8} {code : Int} {output : Payload}
    (short : body.length < 106) (parsed : cmd.subParser body .zero = .ok (code, output)) :
    output.size ≤ maxPacketLen := by
  cases cmd with
  | qpigs =>
      obtain ⟨response, called, rfl⟩ := castTo_ok parsed
      rw [parseRspQpigs, ofMinLength, if_pos short] at called
      cases called
      rw [if_pos rfl]
      decide
  | qmd =>
      obtain ⟨response, called, rfl⟩ := castTo_ok parsed
      rw [parseRspQmd, ofMinLength] at called
      split at called
      · cases called
        rw [if_pos rfl]
        decide
      · cases called
        split
        · decide
        · simp [Payload.size, printInto, maxPacketLen, Payload.asModel]
  | qpihf => cases parsed
  | qpiws =>
      have parsed : castTo Payload.asLong .long parseRspQpiws body .zero = .ok (code, output) :=
        parsed
      obtain ⟨response, _, rfl⟩ := castTo_ok parsed
      split <;> simp [Payload.size, maxPacketLen]
  | _ =>
      obtain ⟨response, _, rfl⟩ := castTo_ok parsed
      split <;> simp [Payload.size, maxPacketLen]

section First

variable {receiver : Receiver} {body front : List UInt8} {rqId : UInt16}

/-- A frame in the first window is found, whatever stands before it. -/
theorem callParser_frame (plain : Plain body)
    (long : 5 ≤ front.length + (replyFrame body).length) :
    ∃ zeroed, callParser (ParseResult.zero.started rqId) (front ++ replyFrame body) =
      match judgePacket rqId body zeroed .zero (front ++ replyFrame body).length with
      | .error fault => .error fault
      | .ok parsed =>
          if parsed.output.size > maxPacketLen then .error .outOfBounds else .ok parsed := by
  obtain ⟨zeroed, judged⟩ := rs232RspParse_framed plain.parenthesis plain.line plain.crc front long
    rqId .zero
  refine ⟨zeroed, ?_⟩
  rw [← judged]
  rfl

theorem callParser_answerable (plain : Plain body)
    (long : 5 ≤ front.length + (replyFrame body).length) (fits : body.length ≤ maxPacketLen)
    (answerable : Answerable rqId body) :
    ∃ parsed, callParser (ParseResult.zero.started rqId) (front ++ replyFrame body) = .ok parsed ∧
      parsed.err ≠ ParseStatus.noPacket := by
  obtain ⟨zeroed, called⟩ := callParser_frame plain long
  rw [called]
  by_cases rejects : parseRspIsNak body = true
  · have size : ¬(Payload.rejection body).size > maxPacketLen := Nat.not_lt.mpr fits
    rw [judgePacket, if_pos rejects]
    dsimp only
    rw [if_neg size]
    exact ⟨_, rfl, (by decide : ParseStatus.rqRejected ≠ ParseStatus.noPacket)⟩
  · obtain ⟨cmd, ⟨code, output⟩, known, parsed⟩ := answerable.resolve_left rejects
    have size := size_subParser (by rw [maxPacketLen] at fits; omega) parsed
    rw [judgePacket, if_neg rejects, known]
    dsimp only
    rw [parsed]
    dsimp only
    rw [if_neg (Nat.not_lt.mpr size)]
    obtain ⟨low, high⟩ := cmd.returnsCode_subParser _ _ _ _ parsed
    exact ⟨_, rfl, (ofInt_code_ne_lost low high).1⟩

/-- A frame without an answer is dropped with all of the window, or the call leaves the
language. -/
theorem callParser_unanswerable (plain : Plain body)
    (long : 5 ≤ front.length + (replyFrame body).length) (unanswerable : ¬Answerable rqId body) :
    (∃ fault, callParser (ParseResult.zero.started rqId) (front ++ replyFrame body) =
        .error fault) ∨
      ∃ parsed, callParser (ParseResult.zero.started rqId) (front ++ replyFrame body) =
          .ok parsed ∧ parsed.err = ParseStatus.noPacket ∧
        parsed.dataIn.drop parsed.processed = [] := by
  rw [Answerable, not_or] at unanswerable
  obtain ⟨plain', unknown⟩ := unanswerable
  obtain ⟨zeroed, called⟩ := callParser_frame plain long
  cases known : Cmd.ofCode? rqId with
  | none =>
      have dropped : callParser (ParseResult.zero.started rqId) (front ++ replyFrame body) =
          .ok { processed := (front ++ replyFrame body).length, dataIn := zeroed, output := .zero,
                err := ParseStatus.noPacket } := by
        rw [called, judgePacket, if_neg plain', known]
        rfl
      have length := length_dataIn (callParser_ok dropped).1
      exact .inr ⟨_, dropped, rfl, List.drop_of_length_le (Nat.le_of_eq length)⟩
  | some cmd =>
      cases parsed : cmd.subParser body .zero with
      | error fault =>
          refine .inl ⟨fault, ?_⟩
          rw [called, judgePacket, if_neg plain', known]
          dsimp only
          rw [parsed]
      | ok returned => exact absurd ⟨cmd, returned, known, parsed⟩ unknown

/-- An unanswerable frame gets no other call. -/
theorem not_resynchronises_of_unanswerable (consistent : receiver.ring.Consistent)
    (outstanding : receiver.client.lastRqId ≠ expRspInvalid) (plain : Plain body)
    (long : 5 ≤ receiver.ring.ringbufLen + (replyFrame body).length)
    (fits : receiver.ring.ringbufLen + (replyFrame body).length ≤ maxPacketLen)
    (unanswerable : ¬Answerable receiver.client.lastRqId body) :
    ¬Resynchronises (replyFrame body) receiver := by
  have nonempty : receiver.ring.contents ++ replyFrame body ≠ [] := by simp [replyFrame]
  rintro ⟨call, inside, -, parsed, returned, found⟩
  rw [processDataCalls_fits consistent (by simp [replyFrame]) fits, processRoundsCalls,
    if_neg nonempty, parseCalls, if_neg outstanding, parseLoopCalls, if_neg nonempty] at inside
  rw [← RingBuf.length_contents] at long
  rcases callParser_unanswerable plain long unanswerable with
    ⟨fault, called⟩ | ⟨dropped, called, err, rest⟩
  · have stopped : parse receiver.client (receiver.ring.contents ++ replyFrame body) .zero =
        .error fault := by
      rw [parse, if_neg outstanding]
      exact parseLoop_error nonempty called
    rw [called, stopped] at inside
    obtain rfl : call = _ := by simpa using inside
    cases returned
  · have continues : ¬Ends dropped.err := by
      rw [err]
      decide
    obtain ⟨next, after, finished⟩ : ∃ next after, parse receiver.client
        (receiver.ring.contents ++ replyFrame body) .zero =
          .ok ⟨next, after, dropped.processed, []⟩ := by
      have looped := parseLoop_continues 7 receiver.client nonempty called continues
      rw [rest, parseLoop_nil] at looped
      rw [parse, if_neg outstanding]
      exact ⟨_, _, looped⟩
    rw [called, finished] at inside
    dsimp only at inside
    rw [if_neg continues, rest, parseLoopCalls_nil, processRoundsCalls_nil] at inside
    obtain rfl : call = _ := by simpa using inside
    cases returned
    exact found err

/-- A frame that fits the window with everything in the ring is judged by the first call. -/
theorem resynchronises_of_fits (consistent : receiver.ring.Consistent)
    (outstanding : receiver.client.lastRqId ≠ expRspInvalid) (plain : Plain body)
    (long : 5 ≤ receiver.ring.ringbufLen + (replyFrame body).length)
    (fits : receiver.ring.ringbufLen + (replyFrame body).length ≤ maxPacketLen)
    (answerable : Answerable receiver.client.lastRqId body) :
    Resynchronises (replyFrame body) receiver := by
  have nonempty : receiver.ring.contents ++ replyFrame body ≠ [] := by simp [replyFrame]
  have stored : receiver.stored (replyFrame body) =
      receiver.ring.contents.length + (replyFrame body).length := by
    rw [Receiver.stored, RingBuf.length_contents]
    omega
  rw [Resynchronises, processDataCalls_fits consistent (by simp [replyFrame]) fits,
    processRoundsCalls, if_neg nonempty, parseCalls, if_neg outstanding, parseLoopCalls,
    if_neg nonempty, stored]
  have room : body.length ≤ maxPacketLen := by
    rw [length_replyFrame] at fits
    omega
  rw [← RingBuf.length_contents] at long
  obtain ⟨parsed, called, found⟩ := callParser_answerable plain long room answerable
  refine ⟨_, List.mem_append_left _ List.mem_cons_self, ⟨receiver.ring.contents, [], ?_, ?_⟩,
    parsed, called, found⟩
  · rw [List.append_nil]
  · rw [Nat.zero_add]

end First

/-- A frame that arrives is shown to the parser and gets a status exactly when it fits the window
with everything that is still in the ring, is not an empty frame alone, and has an answer. -/
theorem judged_iff_fits {receiver : Receiver} {body : List UInt8}
    (left : LeftBehind receiver.ring) (outstanding : receiver.client.lastRqId ≠ expRspInvalid)
    (plain : Plain body) :
    Resynchronises (replyFrame body) receiver ↔
      5 ≤ receiver.ring.ringbufLen + (replyFrame body).length ∧
        receiver.ring.ringbufLen + (replyFrame body).length ≤ maxPacketLen ∧
        Answerable receiver.client.lastRqId body := by
  have consistent := left.consistent
  have filled : replyFrame body ≠ [] := by simp [replyFrame]
  constructor
  · intro resynchronises
    have long : 5 ≤ receiver.ring.ringbufLen + (replyFrame body).length := by
      by_contra short
      exact not_resynchronises_of_short consistent filled (Nat.not_le.mp short) resynchronises
    have fits : receiver.ring.ringbufLen + (replyFrame body).length ≤ maxPacketLen := by
      by_contra long
      exact not_resynchronises_of_long consistent filled (Nat.not_le.mp long) resynchronises
    refine ⟨long, fits, ?_⟩
    by_contra unanswerable
    exact not_resynchronises_of_unanswerable consistent outstanding plain long fits unanswerable
      resynchronises
  · rintro ⟨long, fits, answerable⟩
    exact resynchronises_of_fits consistent outstanding plain long fits answerable

/-! ### The reply `"(B"` to `QMOD` -/

/-- A client that waits for the reply to `QMOD`. -/
def modeAsked : Client := { Client.initial with lastRqId := Cmd.qmod.code }

/-- Nothing has arrived before. -/
def fresh : Receiver :=
  { client := modeAsked, ring := RingBuf.ringbufInit (2 * maxPacketLen) ringSize_pos, calls := [] }

/-- The request is outstanding again behind bytes that were left in the ring. -/
theorem waiting_behind {newData : List UInt8} {count : Nat}
    (length : (processData newData fresh).toOption.map (fun next => next.ring.ringbufLen) =
      some count) :
    ∃ waiting : Receiver, LeftBehind waiting.ring ∧ waiting.client = modeAsked ∧
      waiting.ring.ringbufLen = count := by
  cases done : processData newData fresh with
  | error fault =>
      rw [done] at length
      cases length
  | ok next =>
      rw [done] at length
      have left : LeftBehind next.ring := .processed .initial done
      exact ⟨{ next with client := modeAsked }, left, rfl, Option.some.inj length⟩

/-- The start of a frame is left in the ring, and the reply behind it is judged. -/
theorem judged_iff_fits_behindStart : ∃ waiting : Receiver,
    waiting.ring.ringbufLen = 3 ∧ Resynchronises (replyFrame [66]) waiting := by
  obtain ⟨waiting, left, asked, stored⟩ :=
    @waiting_behind [openingParenthesis, 65, 65] 3 (by decide +kernel)
  have plain : Plain [66] := plain_modeReplies [66] (by decide)
  have answerable : Answerable waiting.client.lastRqId [66] := by
    rw [asked]
    exact .inr ⟨.qmod, (0, .word 66), rfl, rfl⟩
  have outstanding : waiting.client.lastRqId ≠ expRspInvalid := by
    rw [asked]
    decide
  refine ⟨waiting, stored, (judged_iff_fits left outstanding plain).mpr ?_⟩
  rw [stored]
  exact ⟨by decide, by decide, answerable⟩

/-- The start of a frame and bytes without an end. -/
def unfinished : List UInt8 := openingParenthesis :: List.replicate 63 65

/-- They stay in the ring and hide the reply. -/
theorem unfinished_hides_reply :
    ¬∀ receiver body, LeftBehind receiver.ring → receiver.client.lastRqId ≠ expRspInvalid →
      Plain body → (replyFrame body).length ≤ maxPacketLen →
      Resynchronises (replyFrame body) receiver := by
  intro always
  obtain ⟨waiting, left, same, stored⟩ := @waiting_behind unfinished 64 (by decide +kernel)
  have asked : waiting.client.lastRqId ≠ expRspInvalid := by
    rw [same]
    decide
  have filled : replyFrame [66] ≠ [] := by decide
  have long : maxPacketLen < waiting.ring.ringbufLen + (replyFrame [66]).length := by
    rw [stored]
    decide
  exact not_resynchronises_of_long left.consistent filled long
    (always waiting [66] left asked (plain_modeReplies [66] (by decide)) (by decide))

end EsInverter.SerialClient
