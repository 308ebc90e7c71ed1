import EsInverter.EncryptedImg.Stages

/-!
# Which images are decrypted

However an image is cut into chunks, the decoder puts out the text of its body
and refuses it for the same reason; it accepts the images whose size and tag are
those of the header, and no others.
-/

set_option autoImplicit false

namespace EsInverter.EncryptedImg

open Lib

variable {crypto : Crypto} {calls : Calls} {rsaPem stream rest : List UInt8} {handle : Handle}

/-- What a call replies to the bytes `rest`, where `text` was put out before. -/
inductive Replies (crypto : Crypto) (calls : Calls) (rsaPem stream rest text : List UInt8) :
    Except Fault (Reply × Handle × Args) → Prop
  | goes {reply : Reply} {after : Handle} {args : Args} {part : List UInt8}
      (went : reply = .ok ∨ reply = .notFinished) (at_ : At crypto rsaPem (stream ++ rest) after)
      (out : args.dataOut.take args.dataOutLen = part.map some)
      (all : after.gcmCtx.text crypto = text ++ part) :
      Replies crypto calls rsaPem stream rest text (.ok (reply, after, args))
  | fails {reply : Reply} {after : Handle} {args : Args} (failed : reply = .fail ∨ reply = .noMem)
      (cause : Refused crypto rsaPem (stream ++ rest) ∨ ∃ call, calls call = false) :
      Replies crypto calls rsaPem stream rest text (.ok (reply, after, args))

/-- Nothing is put out in front of the body. -/
theorem At.text_header (at_ : At crypto rsaPem stream handle)
    (header : handle.state ≠ .dataDecode) : handle.gcmCtx.text crypto = [] := by
  obtain ⟨some_, inside⟩ := State.inside_header header
  rw [Gcm.text, at_.knows.unused (by omega), masked_nil]

theorem Leaves.thenRun {next : State} {flow : Except Fault Flow}
    {run : Handle → List UInt8 → Except Fault (Reply × Handle × Args)} {text : List UInt8}
    (leaves : Leaves crypto calls rsaPem stream rest next flow) (nothing : text = [])
    (goes : ∀ {taken behind : List UInt8} {after : Handle},
      rest = taken ++ behind → (stream ++ taken).length = next.offset →
      At crypto rsaPem (stream ++ taken) after → after.state = next →
      Replies crypto calls rsaPem (stream ++ taken) behind text (run after behind)) :
    Replies crypto calls rsaPem stream rest text (thenRun flow run) := by
  cases leaves with
  | fallThrough split ends at_ state =>
      have replies := goes split ends at_ state
      subst split
      rw [EncryptedImg.thenRun, ok_bind]
      dsimp only
      generalize run _ _ = result at replies
      cases replies with
      | goes went at_ out all => exact .goes went (by rwa [List.append_assoc] at at_) out all
      | fails failed cause => exact .fails failed (by rwa [List.append_assoc] at cause)
  | notFinished at_ header =>
      have same : _ = text ++ [] := (at_.text_header header).trans (by rw [nothing]; rfl)
      exact .goes (.inr rfl) at_ rfl same
  | fails cause => exact .fails (.inl rfl) cause

theorem body_append (received : 512 ≤ stream.length) (rest : List UInt8) :
    body (stream ++ rest) = body stream ++ rest := List.drop_append_of_le_length received

theorem binSize_append (received : 512 ≤ stream.length) (rest : List UInt8) :
    binSize (stream ++ rest) = binSize stream := by
  have inside : State.readBinsize.offset + State.readBinsize.size ≤ stream.length :=
    Nat.le_trans (show 408 ≤ 512 by decide) received
  rw [binSize, field_append inside]
  rfl

/-- A run of `process_bin` takes the whole chunk into the cipher and the cache. -/
theorem Processes.replies {read : UInt32} {reply : Reply} {left : Nat}
    {result : Except Fault (Reply × Handle × Args)}
    (processes :
      Processes crypto calls { handle with binaryFileRead := read } rest reply left result)
    (knows : Knows crypto rsaPem handle.state stream handle) (state : handle.state = .dataDecode)
    (binary : handle.binary = body stream) (went : reply = .ok ∨ reply = .notFinished)
    (counted : read.toNat = (body (stream ++ rest)).length) (short : left < 16)
    (inner : (body (stream ++ rest)).length < (binSize (stream ++ rest)).toNat →
      left = (body (stream ++ rest)).length % 16)
    (complete : (body (stream ++ rest)).length = (binSize (stream ++ rest)).toNat → left = 0) :
    Replies crypto calls rsaPem stream rest (handle.gcmCtx.text crypto) result := by
  rw [state] at knows
  have received : 512 ≤ stream.length := knows.received
  cases processes with
  | fails failing cause => exact .fails failing (.inr cause)
  | @goes input cacheBuf args room all out =>
      refine .goes went (.data ?_ state ⟨counted, short, ?_, inner, complete⟩) out
        (Gcm.text_input handle.gcmCtx input)
      · have more := knows.append rest
        have same : (Handle.deciphering { handle with binaryFileRead := read } input cacheBuf
            left).state = .dataDecode := state
        rw [same]
        exact { more with
          secret := fun early => absurd early (by decide)
          key := fun behind => ⟨room, (more.key behind).2⟩
          unused := fun early => absurd early (by decide) }
      · rw [body_append received, ← binary, Handle.binary, Handle.binary, List.append_assoc, ← all,
          ← List.append_assoc]
        rfl

theorem processBin_replies (at_ : At crypto rsaPem stream handle)
    (state : handle.state = .dataDecode) (small : (body (stream ++ rest)).length < 2 ^ 32) :
    Replies crypto calls rsaPem stream rest (handle.gcmCtx.text crypto)
      (processBin crypto calls handle rest) := by
  cases at_ with
  | field _ header => exact absurd state header.2
  | extraHeader _ header => exact absurd (state.symm.trans header) (by decide)
  | data knows _ decoding =>
      obtain ⟨read, short, binary, inner, complete⟩ := decoding
      have received : 512 ≤ stream.length := by
        have behind := knows.received
        rw [state] at behind
        exact behind
      have room : handle.cacheBuf.length = 16 := by
        rw [state] at knows
        exact (knows.key (by decide)).1
      have size : handle.binaryFileLen = binSize (stream ++ rest) := by
        rw [state] at knows
        rw [binSize_append received]
        exact knows.size (by decide)
      have longer : (body (stream ++ rest)).length = (body stream).length + rest.length := by
        rw [body_append received, List.length_append]
      have counted : (handle.binaryFileRead + UInt32.ofNat rest.length).toNat =
          (body (stream ++ rest)).length := by
        rw [UInt32.toNat_add, UInt32.toNat_ofNat', read]
        omega
      have same : binSize (stream ++ rest) = binSize stream := binSize_append received rest
      rw [processBin]
      split
      · next unfinished =>
          have other : (body (stream ++ rest)).length ≠ (binSize (stream ++ rest)).toNat := by
            intro equal
            exact unfinished (UInt32.toNat_inj.mp ((counted.trans equal).trans (by rw [size])))
          refine @Processes.replies crypto calls rsaPem stream rest handle _ _ _ _
            (processBlocks_processes short room) knows state binary (.inr rfl) counted
            (Nat.mod_lt _ (by decide)) ?_ (fun equal => absurd equal other)
          intro less
          have before := inner (by rw [← same]; omega)
          dsimp only
          omega
      · next finished =>
          have all : handle.binaryFileRead + UInt32.ofNat rest.length = handle.binaryFileLen :=
            not_not.mp finished
          have equal : (body (stream ++ rest)).length = (binSize (stream ++ rest)).toNat := by
            rw [← counted, all, size]
          refine @Processes.replies crypto calls rsaPem stream rest handle _ _ _ _
            (processLast_processes short room) knows state binary (.inl rfl) counted
            (Nat.succ_pos 15) ?_ (fun _ => rfl)
          intro less
          omega

/-- Nothing is put out before the body begins. -/
theorem At.text_begin (at_ : At crypto rsaPem stream handle) (begins : stream.length = 512) :
    handle.gcmCtx.text crypto = [] := by
  cases at_ with
  | field knows header _ => exact (At.field knows header ‹_›).text_header header.2
  | extraHeader knows header skipped =>
      exact (At.extraHeader knows header skipped).text_header (by rw [header]; decide)
  | data _ _ decoding =>
      have none_ : handle.binary = [] :=
        decoding.binary.trans (List.drop_of_length_le (Nat.le_of_eq begins))
      rw [Gcm.text, (List.append_eq_nil_iff.mp none_).1, masked_nil]

/-! The header from each of its states on. -/

theorem fromExtraHeader_replies (at_ : At crypto rsaPem stream handle)
    (state : handle.state = .readExtraHeader) (small : (body (stream ++ rest)).length < 2 ^ 32) :
    Replies crypto calls rsaPem stream rest [] (fromExtraHeader crypto calls handle rest) := by
  refine (readExtraHeader_leaves at_ state).thenRun rfl fun split ends at_ state => ?_
  rw [split, ← List.append_assoc] at small
  rw [← at_.text_begin ends]
  exact processBin_replies at_ state small

theorem fromAuth_replies (at_ : At crypto rsaPem stream handle) (state : handle.state = .readAuth)
    (small : (body (stream ++ rest)).length < 2 ^ 32) :
    Replies crypto calls rsaPem stream rest [] (fromAuth crypto calls handle rest) := by
  refine (readAuth_leaves at_ state).thenRun rfl fun split _ at_ state => ?_
  rw [split, ← List.append_assoc] at small
  exact fromExtraHeader_replies at_ state small

theorem fromBinsize_replies (at_ : At crypto rsaPem stream handle)
    (state : handle.state = .readBinsize) (small : (body (stream ++ rest)).length < 2 ^ 32) :
    Replies crypto calls rsaPem stream rest [] (fromBinsize crypto calls handle rest) := by
  refine (readBinsize_leaves at_ state).thenRun rfl fun split _ at_ state => ?_
  rw [split, ← List.append_assoc] at small
  exact fromAuth_replies at_ state small

theorem fromIv_replies (at_ : At crypto rsaPem stream handle) (state : handle.state = .readIv)
    (small : (body (stream ++ rest)).length < 2 ^ 32) :
    Replies crypto calls rsaPem stream rest [] (fromIv crypto calls handle rest) := by
  refine (readIv_leaves at_ state).thenRun rfl fun split _ at_ state => ?_
  rw [split, ← List.append_assoc] at small
  exact fromBinsize_replies at_ state small

theorem fromGcm_replies (at_ : At crypto rsaPem stream handle) (state : handle.state = .readGcm)
    (small : (body (stream ++ rest)).length < 2 ^ 32) :
    Replies crypto calls rsaPem stream rest [] (fromGcm crypto calls handle rest) := by
  refine (readGcm_leaves at_ state).thenRun rfl fun split _ at_ state => ?_
  rw [split, ← List.append_assoc] at small
  exact fromIv_replies at_ state small

theorem fromMagic_replies (at_ : At crypto rsaPem stream handle) (state : handle.state = .readMagic)
    (small : (body (stream ++ rest)).length < 2 ^ 32) :
    Replies crypto calls rsaPem stream rest [] (fromMagic crypto calls handle rest) := by
  refine (readMagic_leaves at_ state).thenRun rfl fun split _ at_ state => ?_
  rw [split, ← List.append_assoc] at small
  exact fromGcm_replies at_ state small

theorem decryptData_replies (at_ : At crypto rsaPem stream handle)
    (small : (body (stream ++ rest)).length < 2 ^ 32) :
    Replies crypto calls rsaPem stream rest (handle.gcmCtx.text crypto)
      (decryptData crypto calls handle rest) := by
  by_cases decodes : handle.state = .dataDecode
  · rw [decryptData, decodes]
    exact processBin_replies at_ decodes small
  · rw [at_.text_header decodes, decryptData]
    cases state : handle.state with
    | readMagic => exact fromMagic_replies at_ state small
    | readGcm => exact fromGcm_replies at_ state small
    | readIv => exact fromIv_replies at_ state small
    | readBinsize => exact fromBinsize_replies at_ state small
    | readAuth => exact fromAuth_replies at_ state small
    | readExtraHeader => exact fromExtraHeader_replies at_ state small
    | dataDecode => exact absurd state decodes

/-! ### All chunks of an image -/

/-- The image behind its chunks. -/
def joined (chunks : List Chunk) : List UInt8 := (chunks.map Prod.fst).flatten

/-- A call fails for one of the chunks. -/
def Fails (chunks : List Chunk) : Prop := ∃ chunk ∈ chunks, ∃ call, chunk.2 call = false

theorem decryptAll_returns {chunks : List Chunk} (at_ : At crypto rsaPem stream handle)
    (small : (body (stream ++ joined chunks)).length < 2 ^ 32) :
    ∃ last out, decryptAll crypto handle chunks = .ok (last, out) ∧
      ((last = none ∧ (Refused crypto rsaPem (stream ++ joined chunks) ∨ Fails chunks)) ∨
        ∃ after part, last = some after ∧ out = part.map some ∧
          At crypto rsaPem (stream ++ joined chunks) after ∧
          after.gcmCtx.text crypto = handle.gcmCtx.text crypto ++ part) := by
  induction chunks generalizing stream handle with
  | nil =>
      have same : stream ++ joined [] = stream := List.append_nil stream
      refine ⟨some handle, [], rfl, .inr ⟨handle, [], rfl, rfl, ?_, (List.append_nil _).symm⟩⟩
      rwa [same]
  | cons chunk later ih =>
      obtain ⟨dataIn, calls⟩ := chunk
      have split : stream ++ joined ((dataIn, calls) :: later) = stream ++ dataIn ++ joined later :=
        (List.append_assoc stream dataIn (joined later)).symm
      rw [split] at small ⊢
      have begun : (body (stream ++ dataIn)).length < 2 ^ 32 := by
        simp only [body, List.length_drop, List.length_append] at small ⊢
        omega
      have replies := @decryptData_replies crypto calls rsaPem stream dataIn handle at_ begun
      rw [decryptAll]
      generalize decryptData crypto calls handle dataIn = result at replies
      cases replies with
      | @fails reply after args failed cause =>
          refine ⟨none, [], ?_, .inl ⟨rfl, ?_⟩⟩
          · rw [ok_bind]
            dsimp only
            rw [if_neg (by rcases failed with rfl | rfl <;> decide)]
          · rcases cause with refused | ⟨call, failing⟩
            · exact .inl (refused.append _)
            · exact .inr ⟨_, List.mem_cons_self, call, failing⟩
      | @goes reply after args part went at_ out all =>
          obtain ⟨last, rest, decrypted, outcome⟩ := ih at_ small
          refine ⟨last, args.dataOut.take args.dataOutLen ++ rest, ?_, ?_⟩
          · rw [ok_bind]
            dsimp only
            rw [if_pos went, decrypted, ok_bind]
          · rcases outcome with ⟨none_, cause⟩ | ⟨final, behind, some_, output, at_end, text⟩
            · refine .inl ⟨none_, cause.imp_right ?_⟩
              rintro ⟨chunk, inside, failing⟩
              exact ⟨chunk, List.mem_cons_of_mem _ inside, failing⟩
            · refine .inr ⟨final, part ++ behind, some_, ?_, at_end, ?_⟩
              · rw [out, output, List.map_append]
              · rw [text, all, List.append_assoc]

theorem at_started (crypto : Crypto) (rsaPem : List UInt8) :
    At crypto rsaPem [] (.started rsaPem) := by
  refine @At.begin crypto rsaPem [] _ .readMagic ⟨Nat.le_refl 0, fun _ => ⟨rfl, rfl, ?_⟩, ?_, ?_,
    ?_, ?_, ?_, ?_, ?_⟩ rfl (by decide) rfl rfl rfl
  · exact List.length_replicate
  · exact fun behind => absurd behind (by decide)
  · exact fun behind => absurd behind (by decide)
  · exact fun behind => absurd behind (by decide)
  · exact fun _ => rfl
  · exact fun behind => absurd behind (by decide)
  · exact fun behind => absurd behind (by decide)
  · exact ⟨List.length_replicate, List.length_replicate⟩

/-! ### The text of an image -/

/-- The text of the body, under the key of the header. -/
def plain (crypto : Crypto) (rsaPem stream : List UInt8) : List UInt8 :=
  match imageKey crypto rsaPem stream with
  | none => []
  | some key =>
      masked (· ^^^ ·) (crypto.keystream key.stored (field .readIv stream)) 0 (body stream)

/-- How much of it is put out: whole blocks, and all of it with the last byte. -/
def settled (stream : List UInt8) : Nat :=
  if (body stream).length = (binSize stream).toNat then (body stream).length
  else (body stream).length - (body stream).length % 16

theorem plain_short (short : stream.length ≤ 512) : plain crypto rsaPem stream = [] := by
  have none_ : body stream = [] := List.drop_of_length_le short
  rw [plain, none_]
  split
  · rfl
  · rfl

theorem At.text (at_ : At crypto rsaPem stream handle)
    (within : (body stream).length ≤ (binSize stream).toNat) :
    handle.gcmCtx.text crypto = (plain crypto rsaPem stream).take (settled stream) := by
  by_cases header : handle.state = .dataDecode
  · obtain ⟨-, short, binary, inner, complete⟩ := at_.decoding header
    have knows := at_.knows
    rw [header] at knows
    obtain ⟨-, key, known, stored⟩ := knows.key (by decide)
    obtain ⟨gcmKey, iv⟩ := knows.cipher (by decide)
    have kept : handle.gcmCtx.input = (body stream).take (settled stream) := by
      have total : handle.gcmCtx.input.length + (handle.cacheBuf.take handle.cacheBufLen).length =
          (body stream).length := by
        rw [← List.length_append, ← Handle.binary, binary]
      have room := (knows.key (by decide)).1
      rw [List.length_take, room] at total
      have length : handle.gcmCtx.input.length = settled stream := by
        rw [settled]
        split
        · next equal =>
            have empty := complete equal
            omega
        · next other =>
            have left := inner (by omega)
            omega
      rw [← binary, Handle.binary, ← length, List.take_left]
    rw [Gcm.text, gcmKey, iv, stored, kept, plain, known, masked_take]
  · have short := at_.short_header header
    rw [at_.text_header header, plain_short (by omega), List.take_nil]

/-- For every cut of an image that is no longer than its header says: no access is out of bounds,
the decoder stops only at a wrong magic number or a key that it cannot decipher, which it refuses at
every cut, or at a call that fails, and otherwise it has put out the same part of the text. -/
theorem decryptAll_cut {chunks : List Chunk}
    (within : (body (joined chunks)).length ≤ (binSize (joined chunks)).toNat) :
    ∃ last out, decryptAll crypto (.started rsaPem) chunks = .ok (last, out) ∧
      (last = none → Refused crypto rsaPem (joined chunks) ∨ Fails chunks) ∧
      (last ≠ none → ¬Refused crypto rsaPem (joined chunks) ∧
        out = ((plain crypto rsaPem (joined chunks)).take (settled (joined chunks))).map some) := by
  have small : (body ([] ++ joined chunks)).length < 2 ^ 32 :=
    Nat.lt_of_le_of_lt within (UInt32.toNat_lt _)
  obtain ⟨last, out, decrypted, outcome⟩ := decryptAll_returns (at_started crypto rsaPem) small
  refine ⟨last, out, decrypted, ?_⟩
  rw [List.nil_append] at outcome
  rcases outcome with ⟨rfl, cause⟩ | ⟨after, part, rfl, output, at_, text⟩
  · exact ⟨fun _ => cause, fun some_ => absurd rfl some_⟩
  · refine ⟨fun none_ => absurd none_ (by simp), fun _ => ⟨at_.not_refused, ?_⟩⟩
    have nothing : (Handle.started rsaPem).gcmCtx.text crypto = [] := rfl
    rw [output, ← at_.text within, text, nothing, List.nil_append]

/-- A key that is enciphered by leaving it as it is, and a mask that counts. -/
def toyCrypto : Crypto where
  pkDecrypt _ encGcm := some ⟨encGcm.take gcmKeySize, List.length_take_le ..⟩
  keystream _ _ idx := UInt8.ofNat idx
  tag _ _ _ := Vector.replicate authSize 7

def toyText : List UInt8 := List.replicate 10 222 ++ List.replicate 10 173

/-- An image of twenty bytes of text. -/
def toyImage : List UInt8 :=
  [207, 182, 136, 7] ++ List.replicate encGcmKeySize 1 ++ List.replicate ivSize 2 ++
    [20, 0, 0, 0] ++ List.replicate authSize 7 ++ List.replicate reservedHeader 0 ++
    masked (· ^^^ ·) UInt8.ofNat 0 toyText

/-- The header comes in two chunks, the second one with six bytes of the text. -/
def toyChunks : List Chunk :=
  [(toyImage.take 100, fun _ => true), ((toyImage.drop 100).take 418, fun _ => true),
    (toyImage.drop 518, fun _ => true)]

theorem joined_toyChunks : joined toyChunks = toyImage := by
  have whole : toyImage.take 100 ++ ((toyImage.drop 100).take 418 ++ toyImage.drop 518) =
      toyImage := by
    have behind : toyImage.drop 518 = (toyImage.drop 100).drop 418 := by rw [List.drop_drop]
    rw [behind, List.take_append_drop, List.take_append_drop]
  simpa [joined, toyChunks] using whole

theorem not_fails_toyChunks : ¬Fails toyChunks := by
  rintro ⟨chunk, inside, call, failing⟩
  simp only [toyChunks, List.mem_cons, List.not_mem_nil, or_false] at inside
  rcases inside with rfl | rfl | rfl
  · cases failing
  · cases failing
  · cases failing

theorem decryptAll_cut_toyChunks :
    ∃ last, decryptAll toyCrypto (.started [45]) toyChunks = .ok (last, toyText.map some) ∧
      last ≠ none := by
  have within : (body (joined toyChunks)).length ≤ (binSize (joined toyChunks)).toNat := by
    rw [joined_toyChunks]
    decide +kernel
  have accepted : ¬Refused toyCrypto [45] (joined toyChunks) := by
    rw [joined_toyChunks]
    rintro (⟨-, differs⟩ | ⟨-, unknown⟩)
    · exact differs (by decide +kernel)
    · cases unknown
  have text : (plain toyCrypto [45] (joined toyChunks)).take (settled (joined toyChunks)) =
      toyText := by
    rw [joined_toyChunks]
    decide +kernel
  obtain ⟨last, out, decrypted, stops, goes⟩ := @decryptAll_cut toyCrypto [45] toyChunks within
  have some_ : last ≠ none := fun none_ =>
    (stops none_).elim accepted not_fails_toyChunks
  rw [(goes some_).2, text] at decrypted
  exact ⟨last, decrypted, some_⟩

/-- An image as its header describes it. -/
structure WellFormed (crypto : Crypto) (rsaPem stream : List UInt8) : Prop where
  magic : word (field .readMagic stream) = espEncImgMagic
  length : stream.length = 512 + (binSize stream).toNat
  key : ∃ key, imageKey crypto rsaPem stream = some key ∧
    (crypto.tag key.stored (field .readIv stream) (body stream)).toList = field .readAuth stream

theorem WellFormed.length_body (wellFormed : WellFormed crypto rsaPem stream) :
    (body stream).length = (binSize stream).toNat := by
  have total := wellFormed.length
  rw [body, List.length_drop, total]
  exact Nat.add_sub_cancel_left ..

theorem WellFormed.not_refused (wellFormed : WellFormed crypto rsaPem stream) :
    ¬Refused crypto rsaPem stream := by
  rintro (⟨-, differs⟩ | ⟨-, unknown⟩)
  · exact differs wellFormed.magic
  · obtain ⟨key, known, -⟩ := wellFormed.key
    rw [unknown] at known
    cases known

/-- Behind the header, the end accepts what is well formed. -/
theorem decryptEnd_data_iff (knows : Knows crypto rsaPem handle.state stream handle)
    (state : handle.state = .dataDecode) (decoding : Decoding stream handle) (finished : Bool) :
    decryptEnd crypto finished handle = .ok ↔
      finished = true ∧ WellFormed crypto rsaPem stream := by
  obtain ⟨read, -, binary, -, complete⟩ := decoding
  rw [state] at knows
  have received : 512 ≤ stream.length := knows.received
  obtain ⟨-, key, known, stored⟩ := knows.key (by decide)
  obtain ⟨gcmKey, iv⟩ := knows.cipher (by decide)
  have size := knows.size (by decide)
  have auth := knows.auth (by decide)
  have whole : (body stream).length = stream.length - 512 := List.length_drop
  have given : handle.cacheBufLen = 0 → handle.gcmCtx.input = body stream := by
    intro empty
    rw [← binary, Handle.binary, empty, List.take_zero, List.append_nil]
  rw [decryptEnd, if_pos state]
  constructor
  · intro accepted
    split at accepted
    · cases accepted
    · next all =>
        obtain ⟨empty, equal⟩ : handle.cacheBufLen = 0 ∧
            handle.binaryFileRead = handle.binaryFileLen := by
          rw [not_or, not_not, not_not] at all
          exact all
        rw [equal, size] at read
        split at accepted
        · cases accepted
        · next called =>
            dsimp only at accepted
            split at accepted
            · cases accepted
            · next same =>
                rw [not_not, gcmKey, iv, stored, given empty, auth] at same
                exact ⟨by simpa using called, knows.magic (by decide), by omega, key, known,
                  same⟩
  · rintro ⟨called, wellFormed⟩
    have equal := wellFormed.length_body
    have empty := complete equal
    obtain ⟨other, again, same⟩ := wellFormed.key
    cases known.symm.trans again
    have all : handle.binaryFileRead = handle.binaryFileLen := by
      rw [← UInt32.toNat_inj, read, equal, size]
    rw [if_neg (by rw [not_or, not_not, not_not]; exact ⟨empty, all⟩),
      if_neg (by rw [called]; decide)]
    dsimp only
    rw [gcmKey, iv, stored, given empty, auth, if_neg (not_not.mpr same)]

/-- `esp_encrypted_img_decrypt_end` accepts an image that is well formed, and no other one. -/
theorem decryptEnd_ok_iff (at_ : At crypto rsaPem stream handle) (finished : Bool) :
    decryptEnd crypto finished handle = .ok ↔
      finished = true ∧ WellFormed crypto rsaPem stream := by
  by_cases header : handle.state = .dataDecode
  · exact decryptEnd_data_iff at_.knows header (at_.decoding header) finished
  · have short := at_.short_header header
    rw [decryptEnd, if_neg header]
    refine iff_of_false (by decide) ?_
    rintro ⟨-, wellFormed⟩
    have total := wellFormed.length
    omega

theorem length_plain_le : (plain crypto rsaPem stream).length ≤ (body stream).length := by
  rw [plain]
  split
  · exact Nat.zero_le _
  · rw [length_masked]

theorem WellFormed.take_settled (wellFormed : WellFormed crypto rsaPem stream) :
    (plain crypto rsaPem stream).take (settled stream) = plain crypto rsaPem stream := by
  rw [settled, if_pos wellFormed.length_body, List.take_of_length_le length_plain_le]

/-- The output of a download that `esp_encrypted_img_decrypt_end` accepts. -/
def decryptImage (crypto : Crypto) (rsaPem : List UInt8) (chunks : List Chunk) (finished : Bool) :
    Except Fault (Option (List (Option UInt8))) := do
  let (last, out) ← decryptAll crypto (.started rsaPem) chunks
  match last with
  | none => .ok none
  | some handle => if decryptEnd crypto finished handle = .ok then .ok (some out) else .ok none

theorem WellFormed.text (wellFormed : WellFormed crypto rsaPem stream)
    (at_ : At crypto rsaPem stream handle) :
    handle.gcmCtx.text crypto = plain crypto rsaPem stream := by
  rw [at_.text (Nat.le_of_eq wellFormed.length_body), wellFormed.take_settled]

/-- A well-formed image is accepted however it is cut, when no call fails. -/
theorem WellFormed.decryptImage {chunks : List Chunk}
    (wellFormed : WellFormed crypto rsaPem (joined chunks)) (works : ¬Fails chunks) :
    decryptImage crypto rsaPem chunks true =
      .ok (some ((plain crypto rsaPem (joined chunks)).map some)) := by
  have small : (body ([] ++ joined chunks)).length < 2 ^ 32 := by
    rw [List.nil_append, wellFormed.length_body]
    exact UInt32.toNat_lt _
  obtain ⟨last, out, decrypted, outcome⟩ := decryptAll_returns (at_started crypto rsaPem) small
  rw [List.nil_append] at outcome
  rw [EncryptedImg.decryptImage, decrypted, ok_bind]
  rcases outcome with ⟨rfl, cause⟩ | ⟨after, part, rfl, rfl, at_, text⟩
  · exact absurd cause (not_or.mpr ⟨wellFormed.not_refused, works⟩)
  · have nothing : (Handle.started rsaPem).gcmCtx.text crypto = [] := rfl
    rw [nothing, List.nil_append, wellFormed.text at_] at text
    dsimp only
    rw [if_pos ((decryptEnd_ok_iff at_ true).mpr ⟨rfl, wellFormed⟩), text]

/-- Only a well-formed image is accepted, whatever the calls return, and its text is put out; and it
is accepted however it is cut, when no call fails. -/
theorem decryptImage_accepts {chunks : List Chunk}
    (small : (body (joined chunks)).length < 2 ^ 32) (finished : Bool) :
    ∃ result, decryptImage crypto rsaPem chunks finished = .ok result ∧
      (∀ out, result = some out → WellFormed crypto rsaPem (joined chunks) ∧
        out = (plain crypto rsaPem (joined chunks)).map some) ∧
      (WellFormed crypto rsaPem (joined chunks) → ¬Fails chunks → finished = true →
        result = some ((plain crypto rsaPem (joined chunks)).map some)) := by
  have accepts (result : Option (List (Option UInt8)))
      (decrypted : decryptImage crypto rsaPem chunks finished = .ok result)
      (wellFormed : WellFormed crypto rsaPem (joined chunks)) (works : ¬Fails chunks)
      (called : finished = true) :
      result = some ((plain crypto rsaPem (joined chunks)).map some) := by
    subst called
    exact Except.ok.inj (decrypted.symm.trans (wellFormed.decryptImage works))
  obtain ⟨last, out, decrypted, outcome⟩ := decryptAll_returns (at_started crypto rsaPem) small
  rw [List.nil_append] at outcome
  rw [decryptImage, decrypted, ok_bind] at accepts ⊢
  rcases outcome with ⟨rfl, cause⟩ | ⟨after, part, rfl, rfl, at_, text⟩
  · exact ⟨none, rfl, fun _ accepted => absurd accepted (Option.some_ne_none _).symm,
      accepts none rfl⟩
  · have nothing : (Handle.started rsaPem).gcmCtx.text crypto = [] := rfl
    rw [nothing, List.nil_append] at text
    dsimp only at accepts ⊢
    split at accepts
    · next accepted =>
        obtain ⟨-, wellFormed⟩ := (decryptEnd_ok_iff at_ finished).mp accepted
        rw [if_pos accepted]
        refine ⟨_, rfl, fun out same => ?_, accepts _ rfl⟩
        cases same
        exact ⟨wellFormed, by rw [← text, wellFormed.text at_]⟩
    · next rejected =>
        rw [if_neg rejected]
        exact ⟨none, rfl, fun _ accepted => absurd accepted (Option.some_ne_none _).symm,
          accepts none rfl⟩

theorem wellFormed_toyImage : WellFormed toyCrypto [45] toyImage where
  magic := by decide +kernel
  length := by decide +kernel
  key := ⟨_, rfl, by decide +kernel⟩

theorem decryptImage_accepts_toyChunks :
    ∃ out, decryptImage toyCrypto [45] toyChunks true = .ok (some out) ∧
      out = (plain toyCrypto [45] (joined toyChunks)).map some ∧
      WellFormed toyCrypto [45] (joined toyChunks) := by
  have small : (body (joined toyChunks)).length < 2 ^ 32 := by
    rw [joined_toyChunks]
    decide +kernel
  have wellFormed : WellFormed toyCrypto [45] (joined toyChunks) := by
    rw [joined_toyChunks]
    exact wellFormed_toyImage
  obtain ⟨result, decrypted, sound, complete⟩ :=
    @decryptImage_accepts toyCrypto [45] toyChunks small true
  have accepted := complete wellFormed not_fails_toyChunks rfl
  rw [accepted] at decrypted
  exact ⟨_, decrypted, rfl, (sound _ accepted).1⟩

end EsInverter.EncryptedImg
