import EsInverter.SerialClient.Delivery
import EsInverter.SerialClient.Link
import EsInverter.SerialClient.Timing

/-!
# Credit for replies

A reply is credited to the request that was sent last.  As long as a request is
sent only while every reply that is still to come is a reply to that request, and
no two requests share an identifier, that is the request it answers.
-/

set_option autoImplicit false

namespace EsInverter.SerialClient

open Lib Rs232

/-- The frame is from replies to the credited request, and to the changed slot. -/
def Deed.Credited : Deed → Prop
  | applied rqId origins => origins ≠ [] ∧ ∀ origin ∈ origins, origin.rqId = rqId
  | acked rqId slot origins =>
      origins ≠ [] ∧ ∀ origin ∈ origins, origin.rqId = rqId ∧ ∀ idx, slot = some idx →
        origin.slot = idx

/-- The transmissions whose replies are not read yet, once for every byte on its way. -/
def Link.pending (link : Link) : List Transmission :=
  link.unanswered ++ link.wire.map Prod.snd ++ link.arrived

/-- The identifier is not in use. -/
def Fresh (rqId : UInt16) (link : Link) : Prop :=
  (∀ rq ∈ link.receiver.client.rq, rq.active = true → rq.rqId ≠ rqId) ∧
    ∀ source ∈ link.pending, source.rqId ≠ rqId

/-- A request is sent only while all pending replies are to it, and requests that are added have
fresh identifiers. -/
def Careful (link : Link) : LinkEvent → Prop
  | .addRq _ rqId _ _ _ => Fresh rqId link
  | .addPeriodicRq _ rqId _ _ => Fresh rqId link
  | .timer _ => ∀ found ∈ chosen link.receiver.client,
      ∀ source ∈ link.pending, source = ⟨found.1, found.2.rqId⟩
  | .removePeriodicRq _ | .answer _ | .arrive _ => True

instance (rqId : UInt16) (link : Link) : Decidable (Fresh rqId link) :=
  inferInstanceAs (Decidable (_ ∧ _))

instance (link : Link) (event : LinkEvent) : Decidable (Careful link event) :=
  match event with
  | .addRq _ rqId _ _ _ => inferInstanceAs (Decidable (Fresh rqId link))
  | .addPeriodicRq _ rqId _ _ => inferInstanceAs (Decidable (Fresh rqId link))
  | .timer _ => inferInstanceAs (Decidable (∀ found ∈ chosen link.receiver.client,
      ∀ source ∈ link.pending, source = ⟨found.1, found.2.rqId⟩))
  | .removePeriodicRq _ | .answer _ | .arrive _ => inferInstanceAs (Decidable True)

/-! ### The frame of a call -/

theorem checkedFrame_some {dataIn : List UInt8} {start finish : Nat}
    (found : checkedFrame dataIn = some (start, finish)) :
    ¬ dataIn.length < 5 ∧ packetStart dataIn 0 none = some start ∧
      packetEnd dataIn start = some finish ∧ ¬ finish - start ≤ 2 ∧
      ¬ crc16Xmodem ((dataIn.drop start).take (finish - start - 2)) ≠
        ((dataIn.getD (finish - 2) 0).toUInt16 <<< 8 |||
          (dataIn.getD (finish - 1) 0).toUInt16) := by
  rw [checkedFrame] at found
  split at found
  · cases found
  · rename_i long
    split at found
    · cases found
    · rename_i first opened
      split at found
      · cases found
      · rename_i last closed
        split at found
        · cases found
        · rename_i wide
          dsimp only at found
          split at found
          · cases found
          · rename_i checksum
            cases found
            exact ⟨long, opened, closed, wide, checksum⟩

theorem checkedFrame_inside {dataIn : List UInt8} {start finish : Nat}
    (found : checkedFrame dataIn = some (start, finish)) :
    start < finish ∧ finish < dataIn.length := by
  obtain ⟨-, -, closed, wide, -⟩ := checkedFrame_some found
  rw [packetEnd, Option.map_eq_some_iff] at closed
  obtain ⟨distance, at_, rfl⟩ := closed
  obtain ⟨inside, -⟩ := List.findIdx?_eq_some_iff_getElem.mp at_
  rw [List.length_drop] at inside
  omega

/-- A frame with the right checksum is judged by its packet. -/
theorem rs232RspParse_of_checked {dataIn : List UInt8} {start finish : Nat}
    (found : checkedFrame dataIn = some (start, finish)) (rqId : UInt16) (output : Payload) :
    rs232RspParse rqId dataIn output =
      judgePacket rqId ((dataIn.drop (start + 1)).take (finish - start - 3))
        ((dataIn.set (finish - 2) 0).set (finish - 1) 0) output (finish + 1) := by
  obtain ⟨long, opened, closed, wide, checksum⟩ := checkedFrame_some found
  rw [rs232RspParse, if_neg long, opened]
  dsimp only
  rw [closed]
  dsimp only
  rw [judgeFrame, if_neg wide]
  dsimp only
  rw [if_neg checksum]

/-- Without such a frame nothing is parsed and nothing is rejected. -/
theorem rs232RspParse_of_unchecked {dataIn : List UInt8} (missing : checkedFrame dataIn = none)
    (rqId : UInt16) (output : Payload) :
    ∃ processed err, rs232RspParse rqId dataIn output = .ok ⟨processed, dataIn, output, err⟩ ∧
      (err = ParseStatus.noPacket ∨ err = ParseStatus.invalidCrc) := by
  rw [checkedFrame] at missing
  rw [rs232RspParse]
  split at missing
  · rename_i short
    rw [if_pos short]
    exact ⟨0, _, rfl, .inl rfl⟩
  · rename_i long
    rw [if_neg long]
    cases opened : packetStart dataIn 0 none with
    | none => exact ⟨dataIn.length, _, rfl, .inl rfl⟩
    | some first =>
        rw [opened] at missing
        cases closed : packetEnd dataIn first with
        | none => simp only [closed]; exact ⟨first, _, rfl, .inl rfl⟩
        | some last =>
            simp only [closed] at missing
            simp only [closed]
            rw [judgeFrame]
            split at missing
            · rename_i narrow
              rw [if_pos narrow]
              exact ⟨first, _, rfl, .inl rfl⟩
            · rename_i wide
              rw [if_neg wide]
              split at missing
              · rename_i checksum
                simp only [if_pos checksum]
                exact ⟨last + 1, _, rfl, .inr rfl⟩
              · cases missing

theorem length_dataIn_judgePacket {rqId : UInt16} {packet dataIn : List UInt8} {output : Payload}
    {processed : Nat} {parsed : Parsed}
    (judged : judgePacket rqId packet dataIn output processed = .ok parsed) :
    parsed.dataIn = dataIn := by
  rw [judgePacket] at judged
  split at judged
  · cases judged
    rfl
  · split at judged
    · cases judged
      rfl
    · split at judged
      · cases judged
      · cases judged
        rfl

/-- A call does not change the length of its input. -/
theorem length_dataIn {rqId : UInt16} {dataIn : List UInt8} {output : Payload} {parsed : Parsed}
    (called : rs232RspParse rqId dataIn output = .ok parsed) :
    parsed.dataIn.length = dataIn.length := by
  cases found : checkedFrame dataIn with
  | none =>
      obtain ⟨processed, err, result, -⟩ := rs232RspParse_of_unchecked found rqId output
      rw [result] at called
      cases called
      rfl
  | some frame =>
      rw [rs232RspParse_of_checked found] at called
      rw [length_dataIn_judgePacket called, List.length_set, List.length_set]

/-- Only a frame with the right checksum is a rejection. -/
theorem checked_of_rejected {rqId : UInt16} {dataIn : List UInt8} {output : Payload}
    {parsed : Parsed} (called : rs232RspParse rqId dataIn output = .ok parsed)
    (rejected : parsed.err = ParseStatus.rqRejected) : checkedFrame dataIn ≠ none := by
  intro missing
  obtain ⟨processed, err, result, status⟩ := rs232RspParse_of_unchecked missing rqId output
  rw [result] at called
  cases called
  dsimp only at rejected
  rcases status with rfl | rfl
  · revert rejected
    decide
  · revert rejected
    decide

/-! ### Where the bytes of a frame are from -/

theorem mem_of_mem_frameOrigins {dataIn : List UInt8} {tags : List Transmission}
    {source : Transmission} (inside : source ∈ frameOrigins dataIn tags) : source ∈ tags := by
  rw [frameOrigins] at inside
  split at inside
  · cases inside
  · exact List.mem_of_mem_drop (List.mem_of_mem_take inside)

theorem frameOrigins_ne_nil {dataIn : List UInt8} {tags : List Transmission}
    (number : tags.length = dataIn.length) (found : checkedFrame dataIn ≠ none) :
    frameOrigins dataIn tags ≠ [] := by
  obtain ⟨⟨start, finish⟩, frame⟩ := Option.ne_none_iff_exists'.mp found
  obtain ⟨before, inside⟩ := checkedFrame_inside frame
  rw [frameOrigins, frame]
  apply List.ne_nil_of_length_pos
  rw [List.length_take, List.length_drop]
  omega

theorem activeAt_of_chosen {client : Client} {idx : Nat} {rq : Rq}
    (found : chosen client = some (idx, rq)) : ActiveAt client.rq idx rq :=
  (selected_of_chosen found).1.active

/-- `send_rq` up to the timer: slots are only switched off, and the identifier of the chosen
request is remembered. -/
theorem nextDelay_spec {sent : Bool} {client before : Client} {delayMs : Int32}
    (result : nextDelay sent client = .ok (before, delayMs)) :
    Fewer client.rq before.rq ∧
      before.lastRqId = ((chosen client).map fun found => found.2.rqId).getD client.lastRqId := by
  rcases nextDelay_cases result with ⟨none_, rfl⟩ | ⟨idx, rq, found, -, -, ⟨-, rfl⟩ | ⟨-, rfl⟩⟩
  · rw [none_]
    exact ⟨Fewer.refl _, rfl⟩
  · rw [found]
    exact ⟨Fewer.refl _, rfl⟩
  · rw [found]
    exact ⟨fewer_modify switchesOff_sent client.rq idx, rfl⟩

theorem sendRq_spec {sent : Bool} {client next : Client} (result : sendRq sent client = .ok next) :
    Fewer client.rq next.rq ∧
      next.lastRqId = ((chosen client).map fun found => found.2.rqId).getD client.lastRqId := by
  obtain ⟨before, delayMs, delayed, rfl⟩ := sendRq_cases result
  obtain ⟨fewer, last⟩ := nextDelay_spec delayed
  rw [scheduleNextTimerEvt]
  split
  · exact ⟨fewer.trans (fewer_map (switchesOff_waited delayMs) before.rq), last⟩
  · exact ⟨fewer, last⟩

/-! ### The other commands -/

theorem removePeriodicRq_spec (rqId : UInt16) (client : Client) :
    Fewer client.rq (removePeriodicRq rqId client).1.rq ∧
      (removePeriodicRq rqId client).1.lastRqId = client.lastRqId := by
  rcases removePeriodicRq_cases rqId client with ⟨_, same⟩ | ⟨idx, _, removed⟩
  · rw [same]
    exact ⟨Fewer.refl _, rfl⟩
  · rw [removed]
    exact ⟨fewer_modify switchesOff_deactivated client.rq idx, rfl⟩

/-- A slot that is active after a request was added was active before, or is the new one. -/
theorem addRequest_spec {offset : Nat → UInt32} {periodic allocated : Bool} {rqId : UInt16}
    {payload : List UInt8} {timeout : UInt32} {maxRetries : UInt8} {client next : Client}
    {result : Int}
    (added : addRequest offset periodic allocated rqId payload timeout maxRetries client =
      .ok (next, result)) :
    next.lastRqId = client.lastRqId ∧ ∃ free, ∀ idx rq, ActiveAt next.rq idx rq →
      ActiveAt client.rq idx rq ∨ idx = free ∧ rq.rqId = rqId := by
  rcases addRequest_cases added with ⟨_, rfl, _⟩ | ⟨free, serialized, _, _, _, rfl⟩
  · exact ⟨rfl, 0, fun _ _ active => .inl active⟩
  · refine ⟨rfl, free, ?_⟩
    unfold Client.startTimer
    rintro idx rq ⟨at_, active⟩
    by_cases same : idx = free
    · subst same
      rw [List.getElem?_set_self', Option.map_eq_map, Option.map_eq_some_iff] at at_
      obtain ⟨_, -, rfl⟩ := at_
      exact .inr ⟨rfl, rfl⟩
    · rw [List.getElem?_set_ne (Ne.symm same)] at at_
      exact .inl ⟨at_, active⟩

theorem ackRsp_spec (correspondingRq : UInt16) (client : Client) :
    Fewer client.rq (ackRsp correspondingRq client).rq ∧
      ((ackRsp correspondingRq client).lastRqId = client.lastRqId ∨
        (ackRsp correspondingRq client).lastRqId = expRspInvalid) := by
  obtain ⟨lastRqId, last, ⟨_, same⟩ | ⟨idx, _, changed⟩⟩ := ackRsp_cases correspondingRq client
  · rw [same]
    exact ⟨Fewer.refl _, last⟩
  · rw [changed]
    exact ⟨fewer_modify switchesOff_acked client.rq idx, last⟩

theorem activeAt_of_ackedSlot {correspondingRq : UInt16} {client : Client} {idx : Nat}
    (found : ackedSlot correspondingRq client = some idx) :
    ∃ rq, ActiveAt client.rq idx rq ∧ rq.rqId = correspondingRq := by
  rw [ackedSlot, List.findIdx?_eq_some_iff_getElem] at found
  obtain ⟨inside, matched, -⟩ := found
  rw [Bool.and_eq_true, beq_iff_eq] at matched
  exact ⟨client.rq[idx], ⟨List.getElem?_eq_getElem inside, matched.1⟩, matched.2⟩

/-! ### A client that all pending replies agree with -/

/-- The last request is the one the replies are to, and it is in their slot if it is active. -/
structure Settled (source : Transmission) (client : Client) : Prop where
  last : client.lastRqId = source.rqId ∨ client.lastRqId = expRspInvalid
  slot : ∀ idx rq, ActiveAt client.rq idx rq → rq.rqId = source.rqId → idx = source.slot

section

variable {source : Transmission} {client : Client} {data : List UInt8} {tags : List Transmission}

theorem Settled.fewer {next : Client} (settled : Settled source client)
    (fewer : Fewer client.rq next.rq)
    (last : next.lastRqId = client.lastRqId ∨ next.lastRqId = expRspInvalid) :
    Settled source next := by
  constructor
  · rcases last with same | invalid
    · rw [same]
      exact settled.last
    · exact .inr invalid
  · intro idx rq active named
    obtain ⟨before, activeBefore, same⟩ := fewer idx rq active
    exact settled.slot idx before activeBefore (same.trans named)

theorem Settled.ackRsp (settled : Settled source client) (correspondingRq : UInt16) :
    Settled source (ackRsp correspondingRq client) := by
  obtain ⟨fewer, last⟩ := ackRsp_spec correspondingRq client
  exact settled.fewer fewer last

theorem frameOrigins_eq (all : ∀ tag ∈ tags, tag = source) :
    ∀ origin ∈ frameOrigins data tags, origin = source :=
  fun origin inside => all origin (mem_of_mem_frameOrigins inside)

theorem parserDeeds_credited (all : ∀ tag ∈ tags, tag = source)
    (number : tags.length = data.length) :
    ∀ deed ∈ parserDeeds source.rqId data tags, deed.Credited := by
  intro deed inside
  rw [parserDeeds] at inside
  split at inside
  · cases inside
  · rename_i start finish found
    split at inside
    · cases inside
    · split at inside
      · cases inside
      · obtain rfl := List.mem_singleton.mp inside
        refine ⟨frameOrigins_ne_nil number (by rw [found]; exact nofun), ?_⟩
        intro origin from_
        rw [frameOrigins_eq all origin from_]

theorem acked_credited (settled : Settled source client) (last : client.lastRqId = source.rqId)
    (all : ∀ tag ∈ tags, tag = source) (number : tags.length = data.length)
    (found : checkedFrame data ≠ none) :
    (Deed.acked client.lastRqId (ackedSlot client.lastRqId client)
      (frameOrigins data tags)).Credited := by
  refine ⟨frameOrigins_ne_nil number found, ?_⟩
  intro origin from_
  rw [frameOrigins_eq all origin from_]
  refine ⟨last.symm, ?_⟩
  intro idx slot
  obtain ⟨rq, active, named⟩ := activeAt_of_ackedSlot slot
  exact (settled.slot idx rq active (named.trans last)).symm

/-- What a call of `parse` leaves when the bytes it was given are all from one transmission. -/
structure Kept (source : Transmission) (client : Client) (data : List UInt8)
    (returned : ParseReturn) : Prop where
  settled : Settled source returned.client
  fewer : Fewer client.rq returned.client.rq
  rest : returned.rest.length = data.length - returned.processed

theorem parseLoopDeeds_spec {rounds : Nat} {result : ParseResult}
    (settled : Settled source client) (last : client.lastRqId = source.rqId)
    (asked : result.rspId = client.lastRqId) (all : ∀ tag ∈ tags, tag = source)
    (number : tags.length = data.length) :
    (∀ deed ∈ (parseLoopDeeds rounds client data tags result).1, deed.Credited) ∧
      ∀ returned, (parseLoopDeeds rounds client data tags result).2 = .ok returned →
        Kept source client data returned := by
  induction rounds generalizing data tags result with
  | zero =>
      refine ⟨List.forall_mem_nil _, ?_⟩
      intro returned done
      cases done
      exact ⟨settled, Fewer.refl _, rfl⟩
  | succ rounds ih =>
      rw [parseLoopDeeds]
      split
      · refine ⟨List.forall_mem_nil _, ?_⟩
        intro returned done
        cases done
        exact ⟨settled, Fewer.refl _, rfl⟩
      · have applied : ∀ deed ∈ parserDeeds result.rspId data tags, deed.Credited := by
          rw [asked, last]
          exact parserDeeds_credited all number
        split
        · dsimp only
          refine ⟨applied, ?_⟩
          intro returned done
          cases done
        · rename_i parsed called
          have left : (parsed.dataIn.drop parsed.processed).length =
              data.length - parsed.processed := by
            rw [List.length_drop, length_dataIn called]
          split
          · dsimp only
            refine ⟨applied, ?_⟩
            intro returned done
            cases done
          · dsimp only
            split
            · -- The status of an accepted packet.
              split
              · refine ⟨applied, ?_⟩
                intro returned done
                cases done
                exact ⟨settled, Fewer.refl _, left⟩
              · refine ⟨applied, ?_⟩
                intro returned done
                cases done
                exact ⟨settled, Fewer.refl _, left⟩
            · split
              · rename_i rejected
                refine ⟨?_, ?_⟩
                · intro deed inside
                  rcases List.mem_append.mp inside with before | acked
                  · exact applied deed before
                  · obtain rfl := List.mem_singleton.mp acked
                    exact acked_credited settled last all number
                      (checked_of_rejected called rejected)
                · intro returned done
                  cases done
                  exact ⟨settled.ackRsp _, (ackRsp_spec _ client).1, left⟩
              · split
                · refine ⟨applied, ?_⟩
                  intro returned done
                  cases done
                  exact ⟨settled, Fewer.refl _, left⟩
                · -- The next round, on the bytes behind the processed ones.
                  have later : (tags.drop parsed.processed).length =
                      (parsed.dataIn.drop parsed.processed).length := by
                    rw [List.length_drop, left, number]
                  obtain ⟨credited, kept⟩ := @ih (parsed.dataIn.drop parsed.processed)
                    (tags.drop parsed.processed)
                    { result with payload := parsed.output, status := parsed.err }
                    asked (fun tag inside => all tag (List.mem_of_mem_drop inside)) later
                  refine ⟨?_, ?_⟩
                  · intro deed inside
                    rcases List.mem_append.mp inside with before | next
                    · exact applied deed before
                    · exact credited deed next
                  · intro returned done
                    split at done
                    · cases done
                    · rename_i continued next
                      cases done
                      obtain ⟨settledNext, fewerNext, rest⟩ := kept _ next
                      refine ⟨settledNext, fewerNext, ?_⟩
                      dsimp only
                      rw [rest, left, Nat.sub_sub]

theorem parseDeeds_spec {result : ParseResult} (settled : Settled source client)
    (all : ∀ tag ∈ tags, tag = source) (number : tags.length = data.length) :
    (∀ deed ∈ (parseDeeds client data tags result).1, deed.Credited) ∧
      ∀ returned, (parseDeeds client data tags result).2 = .ok returned →
        Kept source client data returned := by
  rw [parseDeeds]
  split
  · refine ⟨List.forall_mem_nil _, ?_⟩
    intro returned done
    cases done
    exact ⟨settled, Fewer.refl _, rfl⟩
  · rename_i outstanding
    have last : client.lastRqId = source.rqId := settled.last.resolve_right outstanding
    exact parseLoopDeeds_spec settled last rfl all number

theorem processRoundsDeeds_spec {rounds : Nat} {result : ParseResult}
    (settled : Settled source client) (all : ∀ tag ∈ tags, tag = source)
    (number : tags.length = data.length) :
    (∀ deed ∈ (processRoundsDeeds rounds client data tags result).1, deed.Credited) ∧
      ∀ next calls processed,
        (processRoundsDeeds rounds client data tags result).2 = .ok (next, calls, processed) →
          Settled source next ∧ Fewer client.rq next.rq := by
  induction rounds generalizing client data tags result with
  | zero =>
      refine ⟨List.forall_mem_nil _, ?_⟩
      intro next calls processed done
      cases done
      exact ⟨settled, Fewer.refl _⟩
  | succ rounds ih =>
      obtain ⟨creditedNow, keptNow⟩ := @parseDeeds_spec source client data tags result settled all
        number
      rw [processRoundsDeeds]
      split
      · refine ⟨List.forall_mem_nil _, ?_⟩
        intro next calls processed done
        cases done
        exact ⟨settled, Fewer.refl _⟩
      · dsimp only
        split
        · refine ⟨creditedNow, ?_⟩
          intro next calls processed done
          cases done
        · rename_i after parsed processed rest returned
          obtain ⟨settledNow, fewerNow, left⟩ := keptNow _ returned
          -- No packet is ever accepted.
          have unlike : parsed.status ≠ ParseStatus.ok := by
            rw [parseDeeds_snd] at returned
            exact parse_status returned
          have later : (tags.drop processed).length = rest.length := by
            rw [List.length_drop, left, number]
          rw [if_neg unlike, if_neg unlike, if_neg unlike, List.append_nil]
          obtain ⟨credited, kept⟩ := @ih after rest (tags.drop processed) parsed settledNow
            (fun tag inside => all tag (List.mem_of_mem_drop inside)) later
          refine ⟨?_, ?_⟩
          · intro deed inside
            rcases List.mem_append.mp inside with before | next
            · exact creditedNow deed before
            · exact credited deed next
          · intro next calls count done
            split at done
            · cases done
            · rename_i last calls' count' continued
              cases done
              obtain ⟨settledNext, fewerNext⟩ := kept _ _ _ continued
              exact ⟨settledNext, fewerNow.trans fewerNext⟩

end

/-- What `process_data` leaves of a receiver and the tags of its ring. -/
structure KeptRing (receiver : Receiver) (tags : List Transmission) : Prop where
  consistent : receiver.ring.Consistent
  number : tags.length = receiver.ring.contents.length

theorem processDataDeeds_spec {source : Transmission} {newData : List UInt8}
    {newTags tags : List Transmission} {receiver : Receiver} (ring : KeptRing receiver tags)
    (settled : Settled source receiver.client) (all : ∀ tag ∈ tags ++ newTags, tag = source)
    (number : newTags.length = newData.length) :
    (∀ deed ∈ (processDataDeeds newData newTags receiver tags).1, deed.Credited) ∧
      ∀ next, (processDataDeeds newData newTags receiver tags).2.2 = .ok next →
        KeptRing next (processDataDeeds newData newTags receiver tags).2.1 ∧
          (∀ tag ∈ (processDataDeeds newData newTags receiver tags).2.1, tag = source) ∧
          Settled source next.client ∧ Fewer receiver.client.rq next.client.rq := by
  rw [processDataDeeds]
  split
  · refine ⟨List.forall_mem_nil _, ?_⟩
    intro next done
    cases done
  · rename_i written_ written
    have consistent := RingBuf.consistent_ringbufWrite written
    have same : (lastOf (2 * maxPacketLen) (tags ++ newTags)).length =
        written_.contents.length := by
      rw [RingBuf.contents_ringbufWrite ring.consistent written, length_lastOf, length_lastOf,
        List.length_append, List.length_append, ring.number, number]
    have allRing : ∀ tag ∈ lastOf (2 * maxPacketLen) (tags ++ newTags), tag = source :=
      fun tag inside => all tag (mem_of_mem_lastOf inside)
    have keptRing : KeptRing { receiver with ring := written_ }
        (lastOf (2 * maxPacketLen) (tags ++ newTags)) := ⟨consistent, same⟩
    generalize lastOf (2 * maxPacketLen) (tags ++ newTags) = held at same allRing keptRing
    rw [RingBuf.ringbufRead_eq consistent (by decide)]
    have window : (held.take maxPacketLen).length =
        (written_.contents.take maxPacketLen).length := by
      rw [List.length_take, List.length_take, same]
    cases read : written_.contents.take maxPacketLen with
    | nil =>
        refine ⟨List.forall_mem_nil _, ?_⟩
        intro next done
        cases done
        exact ⟨keptRing, allRing, settled, Fewer.refl _⟩
    | cons byte rest =>
        rw [read] at window
        obtain ⟨credited, kept⟩ := @processRoundsDeeds_spec source receiver.client (byte :: rest)
          (held.take maxPacketLen) 8 .zero settled
          (fun tag inside => allRing tag (List.mem_of_mem_take inside)) window
        dsimp only
        split
        · refine ⟨credited, ?_⟩
          intro next done
          cases done
        · rename_i client calls processed looped
          obtain ⟨settledNext, fewer⟩ := kept _ _ _ looped
          split
          · split
            · refine ⟨credited, ?_⟩
              intro next done
              cases done
            · rename_i cleared_ cleared
              refine ⟨credited, ?_⟩
              intro next done
              cases done
              obtain ⟨consistentNext, contents⟩ := RingBuf.ringbufClear_eq consistent cleared
              refine ⟨⟨consistentNext, ?_⟩, ?_, settledNext, fewer⟩
              · rw [contents, List.length_drop, List.length_drop, same]
              · exact fun tag inside => allRing tag (List.mem_of_mem_drop inside)
          · refine ⟨credited, ?_⟩
            intro next done
            cases done
            exact ⟨⟨consistent, same⟩, allRing, settledNext, fewer⟩

/-- No two active slots share an identifier. -/
def Distinct (rqs : List Rq) : Prop :=
  ∀ idx other rq otherRq, ActiveAt rqs idx rq → ActiveAt rqs other otherRq →
    rq.rqId = otherRq.rqId → idx = other

theorem Distinct.fewer {rqs next : List Rq} (distinct : Distinct rqs) (fewer : Fewer rqs next) :
    Distinct next := by
  intro idx other rq otherRq active activeOther same
  obtain ⟨before, activeBefore, named⟩ := fewer idx rq active
  obtain ⟨beforeOther, activeBeforeOther, namedOther⟩ := fewer other otherRq activeOther
  exact distinct idx other before beforeOther activeBefore activeBeforeOther
    (named.trans (same.trans namedOther.symm))

/-- What holds of a link whose device has not stopped. -/
structure Link.Sound (link : Link) : Prop where
  ring : KeptRing link.receiver link.arrived
  uniform : ∀ source ∈ link.pending, ∀ other ∈ link.pending, other = source
  settled : ∀ source ∈ link.pending, Settled source link.receiver.client
  distinct : Distinct link.receiver.client.rq

/-- The invariant of the careful runs. -/
structure Link.Credits (link : Link) : Prop where
  credited : ∀ deed ∈ link.deeds, deed.Credited
  sound : link.stopped = false → link.Sound

theorem credits_initial : Link.initial.Credits := by
  refine ⟨nofun, fun _ => ⟨⟨RingBuf.consistent_ringbufInit _, ?_⟩, nofun, nofun, ?_⟩⟩
  · exact (congrArg List.length (RingBuf.contents_ringbufInit (by decide))).symm
  · rintro idx other rq otherRq ⟨at_, active⟩
    have zero := List.eq_of_mem_replicate (List.mem_of_getElem? at_)
    rw [zero] at active
    cases active

theorem mem_pending {link : Link} {source : Transmission} :
    source ∈ link.pending ↔
      source ∈ link.unanswered ∨ source ∈ link.wire.map Prod.snd ∨ source ∈ link.arrived := by
  rw [Link.pending, List.mem_append, List.mem_append, or_assoc]

theorem running_of_step {link next : Link} {event : LinkEvent}
    (stepped : link.step event = some next) : link.stopped = false := by
  cases stopped : link.stopped with
  | false => rfl
  | true =>
      unfold Link.step at stepped
      rw [if_pos stopped] at stepped
      cases stepped

/-- An answer moves a transmission from the inverter to the wire. -/
theorem credits_answer {link next : Link} {body : List UInt8} (credits : link.Credits)
    (stepped : link.step (.answer body) = some next) : next.Credits := by
  rw [Link.step] at stepped
  split at stepped
  · cases stepped
  · rename_i running
    obtain ⟨ring, uniform, settled, distinct⟩ := credits.sound (Bool.not_eq_true _ ▸ running)
    split at stepped
    · cases stepped
    · rename_i oldest rest unanswered
      cases stepped
      have inside : ∀ source ∈ Link.pending { link with
          unanswered := rest
          wire := link.wire ++ (replyFrame body).map (·, oldest) }, source ∈ link.pending := by
        intro source inside
        rw [mem_pending] at inside ⊢
        dsimp only at inside
        rw [unanswered, List.mem_cons]
        rw [List.map_append, List.mem_append] at inside
        rcases inside with waiting | (before | added) | arrived
        · exact .inl (.inr waiting)
        · exact .inr (.inl before)
        · rw [List.map_map, List.mem_map] at added
          obtain ⟨byte, -, rfl⟩ := added
          exact .inl (.inl rfl)
        · exact .inr (.inr arrived)
      refine ⟨credits.credited, fun _ => ⟨ring, ?_, ?_, distinct⟩⟩
      · exact fun source one other two => uniform source (inside source one) other
          (inside other two)
      · exact fun source one => settled source (inside source one)

theorem uartRxCb_eq {data payload : List UInt8} (called : uartRxCb data = .ok payload) :
    payload = data := by
  rw [uartRxCb] at called
  split at called
  · cases called
  · split at called
    · cases called
    · cases called
      rfl

/-- All bytes that arrive are from the one transmission whose replies are pending. -/
theorem credits_arrive {link next : Link} {count : Nat} (credits : link.Credits)
    (stepped : link.step (.arrive count) = some next) : next.Credits := by
  rw [Link.step] at stepped
  split at stepped
  · cases stepped
  · rename_i running
    obtain ⟨ring, uniform, settled, distinct⟩ := credits.sound (Bool.not_eq_true _ ▸ running)
    split at stepped
    · rename_i room
      obtain ⟨positive, -, enough⟩ := room
      cases stepped
      obtain ⟨⟨byte, source⟩, first⟩ := List.exists_mem_of_length_pos
        (show 0 < link.wire.length by omega)
      have pending : source ∈ link.pending :=
        mem_pending.mpr (.inr (.inl (List.mem_map_of_mem first)))
      have only : ∀ other ∈ link.pending, other = source := uniform source pending
      have onWire : ∀ other ∈ link.wire.map Prod.snd, other = source :=
        fun other inside => only other (mem_pending.mpr (.inr (.inl inside)))
      have all : ∀ tag ∈ link.arrived ++ (link.wire.take count).map Prod.snd, tag = source := by
        intro tag inside
        rcases List.mem_append.mp inside with before | new
        · exact only tag (mem_pending.mpr (.inr (.inr before)))
        · rw [List.map_take] at new
          exact onWire tag (List.mem_of_mem_take new)
      rw [Link.receive]
      split
      · exact ⟨credits.credited, nofun⟩
      · rename_i payload called
        obtain rfl := uartRxCb_eq called
        have number : ((link.wire.take count).map Prod.snd).length =
            ((link.wire.take count).map Prod.fst).length := by
          rw [List.length_map, List.length_map]
        have spec := processDataDeeds_spec ring (settled source pending) all number
        dsimp only
        generalize processDataDeeds ((link.wire.take count).map Prod.fst)
          ((link.wire.take count).map Prod.snd) link.receiver link.arrived = result at spec
        obtain ⟨deeds, arrived, outcome⟩ := result
        obtain ⟨creditedNow, kept⟩ := spec
        have credited : ∀ deed ∈ link.deeds ++ deeds, deed.Credited := by
          intro deed inside
          rcases List.mem_append.mp inside with before | new
          · exact credits.credited deed before
          · exact creditedNow deed new
        cases outcome with
        | error fault => exact ⟨credited, nofun⟩
        | ok receiver =>
            obtain ⟨ringNext, arrivedAll, settledNext, fewer⟩ := kept receiver rfl
            have one : ∀ other ∈ Link.pending { link with
                wire := link.wire.drop count, receiver := receiver, arrived := arrived,
                deeds := link.deeds ++ deeds }, other = source := by
              intro other inside
              rw [mem_pending] at inside
              rcases inside with waiting | onWay | held
              · exact only other (mem_pending.mpr (.inl waiting))
              · rw [List.map_drop] at onWay
                exact onWire other (List.mem_of_mem_drop onWay)
              · exact arrivedAll other held
            refine ⟨credited, fun _ => ⟨ringNext, ?_, ?_, distinct.fewer fewer⟩⟩
            · intro left leftInside right rightInside
              rw [one left leftInside, one right rightInside]
            · intro left leftInside
              rw [one left leftInside]
              exact settledNext
    · cases stepped

/-! The commands of the task -/

theorem step_of_command {link : Link} {event : LinkEvent} {command : Event}
    (known : event.command = some command) (running : link.stopped = false) :
    link.step event = (link.receiver.client.step command).map fun client =>
      { link with
        receiver := { link.receiver with client }
        unanswered := link.unanswered ++ event.sends link.receiver.client } := by
  cases event with
  | answer body => cases known
  | arrive count => cases known
  | addRq | addPeriodicRq | removePeriodicRq | timer =>
      cases known
      unfold Link.step
      rw [if_neg (by rw [running]; exact nofun)]
      rfl

/-- A request with a fresh identifier has none of the pending replies. -/
theorem settled_addRequest {source : Transmission} {link : Link} {client : Client}
    {rqId : UInt16} {free : Nat} (fresh : Fresh rqId link) (pending : source ∈ link.pending)
    (settled : Settled source link.receiver.client)
    (last : client.lastRqId = link.receiver.client.lastRqId)
    (slots : ∀ idx rq, ActiveAt client.rq idx rq →
      ActiveAt link.receiver.client.rq idx rq ∨ idx = free ∧ rq.rqId = rqId) :
    Settled source client := by
  refine ⟨by rw [last]; exact settled.last, ?_⟩
  intro idx rq active named
  rcases slots idx rq active with before | ⟨-, new⟩
  · exact settled.slot idx rq before named
  · exact absurd (named.symm.trans new) (fresh.2 source pending)

theorem distinct_addRequest {rqId : UInt16} {rqs next : List Rq} {free : Nat}
    (distinct : Distinct rqs) (fresh : ∀ rq ∈ rqs, rq.active = true → rq.rqId ≠ rqId)
    (slots : ∀ idx rq, ActiveAt next idx rq → ActiveAt rqs idx rq ∨ idx = free ∧ rq.rqId = rqId) :
    Distinct next := by
  intro idx other rq otherRq active activeOther same
  rcases slots idx rq active with before | ⟨place, new⟩
  · rcases slots other otherRq activeOther with beforeOther | ⟨-, newOther⟩
    · exact distinct idx other rq otherRq before beforeOther same
    · exact absurd (same.trans newOther) (fresh rq before.mem before.2)
  · rcases slots other otherRq activeOther with beforeOther | ⟨placeOther, -⟩
    · exact absurd (same.symm.trans new) (fresh otherRq beforeOther.mem beforeOther.2)
    · rw [place, placeOther]

/-- What the client and the pending replies must be behind a command. -/
theorem credits_of_client {link : Link} {client : Client} {sends : List Transmission}
    (credits : link.Credits) (ring : KeptRing link.receiver link.arrived)
    (uniform : ∀ source ∈ link.pending ++ sends, ∀ other ∈ link.pending ++ sends, other = source)
    (settled : ∀ source ∈ link.pending ++ sends, Settled source client)
    (distinct : Distinct client.rq) :
    Link.Credits { link with
      receiver := { link.receiver with client }, unanswered := link.unanswered ++ sends } := by
  have inside : ∀ source ∈ Link.pending { link with
      receiver := { link.receiver with client }, unanswered := link.unanswered ++ sends },
      source ∈ link.pending ++ sends := by
    intro source inside
    rw [mem_pending, List.mem_append] at inside
    rw [List.mem_append, mem_pending]
    tauto
  refine ⟨credits.credited, fun _ => ⟨⟨ring.consistent, ring.number⟩, ?_, ?_, distinct⟩⟩
  · exact fun source one other two => uniform source (inside source one) other (inside other two)
  · exact fun source one => settled source (inside source one)

theorem credits_timer {link : Link} {client : Client} {sent : Bool} (credits : link.Credits)
    (running : link.stopped = false) (careful : Careful link (.timer sent))
    (result : sendRq sent link.receiver.client = .ok client) :
    Link.Credits { link with
      receiver := { link.receiver with client }
      unanswered := link.unanswered ++ transmitted sent link.receiver.client } := by
  obtain ⟨ring, uniform, settled, distinct⟩ := credits.sound running
  obtain ⟨fewer, last⟩ := sendRq_spec result
  rw [Careful] at careful
  rw [transmitted]
  cases found : chosen link.receiver.client with
  | none =>
      rw [found] at last
      apply credits_of_client credits ring
      · rw [List.append_nil]
        exact uniform
      · rw [List.append_nil]
        exact fun source pending => (settled source pending).fewer fewer (.inl last)
      · exact distinct.fewer fewer
  | some choice =>
      obtain ⟨idx, rq⟩ := choice
      rw [found] at last
      have active := activeAt_of_chosen found
      have only : ∀ source ∈ link.pending ++ (if sent then [⟨idx, rq.rqId⟩] else []),
          source = ⟨idx, rq.rqId⟩ := by
        intro source inside
        rcases List.mem_append.mp inside with before | new
        · exact careful (idx, rq) found source before
        · split at new
          · exact List.mem_singleton.mp new
          · cases new
      apply credits_of_client credits ring
      · intro source one other two
        rw [only source one, only other two]
      · intro source one
        rw [only source one]
        refine ⟨.inl last, ?_⟩
        intro place held activeHeld named
        obtain ⟨before, activeBefore, same⟩ := fewer place held activeHeld
        exact distinct place idx before rq activeBefore active (same.trans named)
      · exact distinct.fewer fewer

theorem credits_added {link : Link} {client : Client} {rqId : UInt16} (credits : link.Credits)
    (running : link.stopped = false) (fresh : Fresh rqId link)
    (added : client.lastRqId = link.receiver.client.lastRqId ∧
      ∃ free, ∀ idx rq, ActiveAt client.rq idx rq →
        ActiveAt link.receiver.client.rq idx rq ∨ idx = free ∧ rq.rqId = rqId) :
    Link.Credits { link with
      receiver := { link.receiver with client }, unanswered := link.unanswered ++ [] } := by
  obtain ⟨ring, uniform, settled, distinct⟩ := credits.sound running
  obtain ⟨last, free, slots⟩ := added
  apply credits_of_client credits ring
  · rw [List.append_nil]
    exact uniform
  · rw [List.append_nil]
    exact fun source pending =>
      settled_addRequest fresh pending (settled source pending) last slots
  · exact distinct_addRequest distinct fresh.1 slots

theorem credits_command {link next : Link} {event : LinkEvent} {command : Event}
    (credits : link.Credits) (careful : Careful link event) (known : event.command = some command)
    (stepped : link.step event = some next) : next.Credits := by
  have running := running_of_step stepped
  rw [step_of_command known running, Option.map_eq_some_iff] at stepped
  obtain ⟨client, result, rfl⟩ := stepped
  cases event with
  | answer body => cases known
  | arrive count => cases known
  | removePeriodicRq rqId =>
      cases known
      cases result
      obtain ⟨ring, uniform, settled, distinct⟩ := credits.sound running
      obtain ⟨fewer, last⟩ := removePeriodicRq_spec rqId link.receiver.client
      apply credits_of_client credits ring
      · simp only [LinkEvent.sends, List.append_nil]
        exact uniform
      · simp only [LinkEvent.sends, List.append_nil]
        exact fun source pending => (settled source pending).fewer fewer (.inl last)
      · exact distinct.fewer fewer
  | timer sent =>
      cases known
      cases taken_of_step result with
      | timer send => exact credits_timer credits running careful send
  | addRq allocated rqId payload timeout retries =>
      cases known
      cases taken_of_step result with
      | addRq _ added => exact credits_added credits running careful (addRequest_spec added)
  | addPeriodicRq allocated rqId payload period =>
      cases known
      cases taken_of_step result with
      | addPeriodicRq _ added =>
          exact credits_added credits running careful (addRequest_spec added)

theorem credits_step {link next : Link} {event : LinkEvent} (careful : Careful link event)
    (credits : link.Credits) (stepped : links.step link event = some next) : next.Credits := by
  cases event with
  | answer body => exact credits_answer credits stepped
  | arrive count => exact credits_arrive credits stepped
  | addRq | addPeriodicRq | removePeriodicRq | timer =>
      exact credits_command credits careful rfl stepped

/-- In every careful run each reply is credited to the request that it answers. -/
theorem credited_of_careful {trace : List (Link × LinkEvent)} {link : Link}
    (run : links.Run .initial trace link)
    (careful : ∀ taken ∈ trace, Careful taken.1 taken.2) :
    ∀ deed ∈ link.deeds, deed.Credited := by
  have kept : link.Credits := run.invariant credits_initial
    (fun careful credits stepped => credits_step careful credits stepped) careful
  exact kept.credited

/-- A periodic request is sent and rejected. -/
def rejection : List LinkEvent :=
  [.addPeriodicRq true Cmd.qvfw.code [81, 86, 70, 87] 10000, .timer true, .timer true,
    .answer nak, .arrive 7]

theorem credited_rejection :
    ∃ link, links.exec .initial rejection = some link ∧
      link.deeds = [.acked Cmd.qvfw.code (some 0) (List.replicate 7 ⟨0, Cmd.qvfw.code⟩)] ∧
      ∀ deed ∈ link.deeds, deed.Credited := by
  have executed : (links.exec .initial rejection).map Link.deeds =
      some [.acked Cmd.qvfw.code (some 0) (List.replicate 7 ⟨0, Cmd.qvfw.code⟩)] := by
    decide +kernel
  obtain ⟨link, finished, deeds⟩ := Option.map_eq_some_iff.mp executed
  exact ⟨link, finished, deeds,
    credited_of_careful (Machine.run_of_exec finished) (by decide +kernel)⟩

/-- The rejection comes when the request has been given up and another one sent. -/
def lateRejection : List LinkEvent :=
  [.addPeriodicRq true Cmd.qvfw.code [81, 86, 70, 87] 10000,
    .addPeriodicRq true Cmd.qmod.code [81, 77, 79, 68] 10000] ++
    List.replicate 5 (.timer true) ++ [.answer nak, .arrive 7]

theorem lateRejection_miscredited :
    ¬∀ trace link, links.Run .initial trace link → ∀ deed ∈ link.deeds, deed.Credited := by
  intro law
  have executed : (links.exec .initial lateRejection).map Link.deeds =
      some [.acked Cmd.qmod.code (some 1) (List.replicate 7 ⟨0, Cmd.qvfw.code⟩)] := by
    decide +kernel
  obtain ⟨link, finished, deeds⟩ := Option.map_eq_some_iff.mp executed
  have credited := law _ link (Machine.run_of_exec finished)
  rw [deeds] at credited
  obtain ⟨-, all⟩ := credited _ List.mem_cons_self
  have same := (all ⟨0, Cmd.qvfw.code⟩ (List.mem_replicate.mpr ⟨by decide, rfl⟩)).1
  revert same
  decide

end EsInverter.SerialClient
