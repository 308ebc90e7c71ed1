import EsInverter.EncryptedImg.Header

/-!
# The states of the header one by one

A state that gets enough bytes for its field falls through to the next one, at
once or from what it has gathered; otherwise it gathers what it gets.
-/

set_option autoImplicit false

namespace EsInverter.EncryptedImg

open Lib

variable {crypto : Crypto} {calls : Calls} {rsaPem stream rest : List UInt8} {handle : Handle}

/-! ### Gathering a field -/

theorem size_le (state : State) : state.size ≤ 384 := by
  cases state with
  | _ => decide

/-- The handle that has gathered the first bytes of a field. -/
def Handle.gathered (handle : Handle) (dest : List UInt8) (count : Nat) : Handle :=
  { handle.withDest dest with cacheBufLen := count, binaryFileRead := UInt32.ofNat count }

theorem Handle.state_withDest (handle : Handle) (dest : List UInt8) :
    (handle.withDest dest).state = handle.state := by
  obtain ⟨_, _, _, _, _, _, state, _, _, _⟩ := handle
  cases state with
  | _ => rfl

theorem Handle.dest_withDest (handle : Handle) (dest : List UInt8) :
    (handle.withDest dest).dest = dest := by
  obtain ⟨_, _, _, _, _, _, state, _, _, _⟩ := handle
  cases state with
  | _ => rfl

theorem Handle.counts_withDest (handle : Handle) (dest : List UInt8) :
    (handle.withDest dest).cacheBufLen = handle.cacheBufLen ∧
      (handle.withDest dest).binaryFileRead = handle.binaryFileRead := by
  obtain ⟨_, _, _, _, _, _, state, _, _, _⟩ := handle
  cases state with
  | _ => exact ⟨rfl, rfl⟩

theorem Handle.state_gathered (handle : Handle) (dest : List UInt8) (count : Nat) :
    (handle.gathered dest count).state = handle.state := handle.state_withDest dest

theorem Handle.dest_gathered (handle : Handle) (dest : List UInt8) (count : Nat) :
    (handle.gathered dest count).dest = dest := handle.dest_withDest dest

theorem Handle.gathered_cache (handle : Handle) {dest : List UInt8} {count : Nat}
    (cached : handle.state ≠ .readIv ∧ handle.state ≠ .readAuth) :
    handle.gathered dest count =
      { handle with
        cacheBuf := dest, cacheBufLen := count, binaryFileRead := UInt32.ofNat count } := by
  obtain ⟨_, _, _, _, _, _, state, _, _, _⟩ := handle
  cases state with
  | readIv => exact absurd rfl cached.1
  | readAuth => exact absurd rfl cached.2
  | _ => rfl

theorem cacheData_returns {values : List UInt8}
    (room : handle.cacheBufLen + values.length ≤ handle.dest.length) :
    ∃ dest, cacheData values handle = .ok (handle.withDest dest) ∧
      dest.length = handle.dest.length ∧
      dest.take (handle.cacheBufLen + values.length) =
        handle.dest.take handle.cacheBufLen ++ values := by
  obtain ⟨dest, copied, length, front⟩ := memcpy_returns room
  refine ⟨dest, ?_, length, front⟩
  rw [Handle.dest] at copied
  rw [cacheData, Handle.withDest]
  cases state : handle.state with
  | _ =>
      rw [state] at copied
      dsimp only at copied ⊢
      rw [copied, ok_bind]

/-- What is gathered of a field, and what is behind it. -/
inductive Receives (stream rest : List UInt8) (handle : Handle) :
    Except Fault (Handle × List UInt8) → Prop
  | part {dest : List UInt8} {after : Handle}
      (same : after = handle.gathered dest (stream.length - handle.state.offset + rest.length))
      (length : dest.length = handle.dest.length)
      (gathered : Gathered (stream ++ rest) after) : Receives stream rest handle (.ok (after, []))
  | all {dest taken behind : List UInt8} (split : rest = taken ++ behind)
      (length : dest.length = handle.dest.length)
      (ends : (stream ++ taken).length = handle.state.offset + handle.state.size)
      (value : dest.take handle.state.size = field handle.state (stream ++ taken)) :
      Receives stream rest handle (.ok (handle.gathered dest handle.state.size, behind))

theorem readAndCacheData_receives (received : handle.state.offset ≤ stream.length)
    (gathered : Gathered stream handle) (room : handle.state.size ≤ handle.dest.length) :
    Receives stream rest handle (readAndCacheData handle.state.size handle rest) := by
  obtain ⟨short, read, len, cached⟩ := gathered
  have small := size_le handle.state
  rw [readAndCacheData, if_neg (by omega), read]
  dsimp only
  generalize counted : min rest.length
    (handle.state.size - (stream.length - handle.state.offset)) = count
  have length : (rest.take count).length = count := by
    rw [List.length_take]
    omega
  obtain ⟨dest, copied, same, front⟩ := @cacheData_returns handle (rest.take count) (by omega)
  obtain ⟨lenSame, readSame⟩ := handle.counts_withDest dest
  have start : handle.binaryFileRead = UInt32.ofNat (stream.length - handle.state.offset) := by
    rw [← read, UInt32.ofNat_toNat]
  rw [readBytes_take (by omega), ok_bind, copied, ok_bind, lenSame, readSame, start, len,
    ← UInt32.ofNat_add]
  rw [cached, length, len] at front
  have gathered : ({ handle.withDest dest with
      cacheBufLen := stream.length - handle.state.offset + count
      binaryFileRead := UInt32.ofNat (stream.length - handle.state.offset + count) } : Handle) =
      handle.gathered dest (stream.length - handle.state.offset + count) := rfl
  rw [gathered]
  have drops : (stream ++ rest.take count).drop handle.state.offset =
      stream.drop handle.state.offset ++ rest.take count := List.drop_append_of_le_length received
  by_cases enough : handle.state.size ≤ stream.length - handle.state.offset + rest.length
  · have total : stream.length - handle.state.offset + count = handle.state.size := by omega
    rw [total] at front ⊢
    refine .all (List.take_append_drop count rest).symm same ?_ ?_
    · rw [List.length_append, length]
      omega
    · have whole : (stream.drop handle.state.offset ++ rest.take count).length =
          handle.state.size := by
        rw [List.length_append, List.length_drop, length]
        omega
      rw [front, field, window, drops, List.take_of_length_le (Nat.le_of_eq whole)]
  · have all : count = rest.length := by omega
    rw [all, List.take_length] at front drops
    rw [all, List.drop_length]
    refine .part rfl same ⟨?_, ?_, ?_, ?_⟩
    · rw [Handle.state_gathered, List.length_append]
      omega
    · rw [Handle.state_gathered, List.length_append, Handle.gathered, UInt32.toNat_ofNat']
      omega
    · rw [Handle.state_gathered, List.length_append]
      have behind : stream.length - handle.state.offset + rest.length =
          stream.length + rest.length - handle.state.offset := by omega
      exact behind
    · rw [Handle.state_gathered, Handle.dest_gathered, drops, ← front]
      rfl

/-! ### The states -/

/-- How a state that is given the bytes `rest` is left. -/
inductive Leaves (crypto : Crypto) (calls : Calls) (rsaPem stream rest : List UInt8)
    (next : State) : Except Fault Flow → Prop
  | fallThrough {after : Handle} {taken behind : List UInt8} (split : rest = taken ++ behind)
      (ends : (stream ++ taken).length = next.offset)
      (at_ : At crypto rsaPem (stream ++ taken) after) (state : after.state = next) :
      Leaves crypto calls rsaPem stream rest next (.ok (.fallThrough after behind))
  | notFinished {after : Handle} (at_ : At crypto rsaPem (stream ++ rest) after)
      (header : after.state ≠ .dataDecode) :
      Leaves crypto calls rsaPem stream rest next (.ok (.return_ .notFinished after))
  | fails {after : Handle}
      (cause : Refused crypto rsaPem (stream ++ rest) ∨ ∃ call, calls call = false) :
      Leaves crypto calls rsaPem stream rest next (.ok (.return_ .fail after))

/-- A state of the header begins. -/
theorem At.begin {state : State} (knows : Knows crypto rsaPem state stream handle)
    (same : handle.state = state) (header : state ≠ .dataDecode)
    (begins : stream.length = state.offset) (read : handle.binaryFileRead = 0)
    (empty : handle.cacheBufLen = 0) : At crypto rsaPem stream handle := by
  subst same
  have short : stream.length < handle.state.offset + handle.state.size := by
    have some_ := (State.inside_header header).1
    omega
  have none_ : handle.binaryFileRead.toNat = stream.length - handle.state.offset := by
    rw [read, begins, Nat.sub_self]
    rfl
  by_cases extra : handle.state = .readExtraHeader
  · exact .extraHeader knows extra ⟨short, none_⟩
  · refine .field knows ⟨extra, header⟩ ⟨short, none_, ?_, ?_⟩
    · rw [empty, begins, Nat.sub_self]
    · rw [empty, List.take_zero, ← begins, List.drop_length]

/-- What was gathered of a field changes nothing of the fields in front of it. -/
theorem Knows.gathered {dest : List UInt8} {count : Nat}
    (knows : Knows crypto rsaPem handle.state stream handle)
    (length : dest.length = handle.dest.length) :
    Knows crypto rsaPem handle.state stream (handle.gathered dest count) := by
  obtain ⟨_, _, _, _, _, _, state, _, _, _⟩ := handle
  cases state with
  | readIv => exact { knows with rooms := ⟨length.trans knows.rooms.1, knows.rooms.2⟩ }
  | readAuth =>
      exact { knows with
        auth := fun behind => absurd behind (show ¬424 ≤ State.readAuth.offset by decide)
        rooms := ⟨knows.rooms.1, length.trans knows.rooms.2⟩ }
  | _ =>
      exact { knows with
        secret := fun early =>
          ⟨(knows.secret early).1, (knows.secret early).2.1, length.trans (knows.secret early).2.2⟩
        key := fun behind => ⟨length.trans (knows.key behind).1, (knows.key behind).2⟩ }

/-- A state of the header goes on. -/
theorem At.part {dest : List UInt8} (knows : Knows crypto rsaPem handle.state stream handle)
    (header : handle.state ≠ .readExtraHeader ∧ handle.state ≠ .dataDecode)
    (length : dest.length = handle.dest.length) {count : Nat}
    (gathered : Gathered (stream ++ rest) (handle.gathered dest count)) :
    At crypto rsaPem (stream ++ rest) (handle.gathered dest count) := by
  refine .field ?_ (by rwa [Handle.state_gathered]) gathered
  rw [Handle.state_gathered]
  exact (knows.append rest).gathered length

theorem Knows.room (knows : Knows crypto rsaPem handle.state stream handle)
    (header : handle.state ≠ .readExtraHeader ∧ handle.state ≠ .dataDecode) :
    handle.state.size ≤ handle.dest.length := by
  rw [Handle.dest]
  cases state : handle.state with
  | readMagic =>
      rw [state] at knows
      have room := (knows.secret (by decide)).2.2
      exact Nat.le_trans (by decide) (Nat.le_of_eq room.symm)
  | readGcm =>
      rw [state] at knows
      have room := (knows.secret (by decide)).2.2
      exact Nat.le_of_eq room.symm
  | readIv => exact Nat.le_of_eq knows.rooms.1.symm
  | readBinsize =>
      rw [state] at knows
      have room := (knows.key (by decide)).1
      exact Nat.le_trans (by decide) (Nat.le_of_eq room.symm)
  | readAuth => exact Nat.le_of_eq knows.rooms.2.symm
  | readExtraHeader => exact absurd state header.1
  | dataDecode => exact absurd state header.2

/-- The outcome of `read_and_cache_data` in a state of the header. -/
inductive Fills (crypto : Crypto) (rsaPem stream rest : List UInt8) (state : State)
    (handle : Handle) : Except Fault (Handle × List UInt8) → Prop
  | part {after : Handle} (at_ : At crypto rsaPem (stream ++ rest) after)
      (same : after.state = state) (read : after.binaryFileRead.toNat < state.size)
      (len : after.cacheBufLen < state.size) :
      Fills crypto rsaPem stream rest state handle (.ok (after, []))
  | all {dest taken behind : List UInt8} (split : rest = taken ++ behind)
      (length : dest.length = handle.dest.length)
      (ends : (stream ++ taken).length = state.offset + state.size)
      (value : dest.take state.size = field state (stream ++ taken)) :
      Fills crypto rsaPem stream rest state handle (.ok (handle.gathered dest state.size, behind))

theorem At.fills (rest : List UInt8) {state : State} (at_ : At crypto rsaPem stream handle)
    (same : handle.state = state) (header : state ≠ .readExtraHeader ∧ state ≠ .dataDecode) :
    Gathered stream handle ∧
      Fills crypto rsaPem stream rest state handle (readAndCacheData state.size handle rest) := by
  subst same
  cases at_ with
  | extraHeader _ extra => exact absurd extra header.1
  | data _ decodes => exact absurd decodes header.2
  | field knows _ gathered =>
      refine ⟨gathered, ?_⟩
      have receives := @readAndCacheData_receives stream rest handle knows.received gathered
        (knows.room header)
      generalize readAndCacheData handle.state.size handle rest = result at receives
      cases receives with
      | all split length ends value => exact .all split length ends value
      | @part dest after same length gathered =>
          subst same
          have short := gathered.short
          have read := gathered.read
          have len := gathered.len
          have received := knows.received
          rw [Handle.state_gathered, List.length_append] at short read len
          exact .part (.part knows header length gathered) (handle.state_gathered ..) (by omega)
            (by omega)

/-- A field that is in the chunk as a whole. -/
theorem Gathered.atOnce {state : State} (gathered : Gathered stream handle)
    (knows : Knows crypto rsaPem handle.state stream handle) (same : handle.state = state)
    (empty : handle.cacheBufLen = 0) (enough : state.size ≤ rest.length) :
    handle.binaryFileRead = 0 ∧
      (stream ++ rest.take state.size).length = state.offset + state.size ∧
      field state (stream ++ rest.take state.size) = rest.take state.size := by
  subst same
  have received := knows.received
  have begins : stream.length = handle.state.offset := by
    have len := gathered.len
    omega
  have length : (rest.take handle.state.size).length = handle.state.size := by
    rw [List.length_take]
    omega
  refine ⟨UInt32.toNat_inj.mp (gathered.read.trans ?_), ?_, ?_⟩
  · rw [begins, Nat.sub_self]
    rfl
  · rw [List.length_append, length, begins]
  · rw [field, window_behind begins, List.take_take, Nat.min_self]

theorem Refused.taken {taken behind : List UInt8}
    (refused : Refused crypto rsaPem (stream ++ taken)) (split : rest = taken ++ behind) :
    Refused crypto rsaPem (stream ++ rest) := by
  rw [split, ← List.append_assoc]
  exact refused.append behind

/-! ### The magic number -/

theorem Knows.afterMagic {cacheBuf : List UInt8}
    (knows : Knows crypto rsaPem .readMagic stream handle) (ends : stream.length = 4)
    (magic : word (field .readMagic stream) = espEncImgMagic)
    (room : cacheBuf.length = encGcmKeySize) :
    Knows crypto rsaPem .readGcm stream
      { handle with cacheBuf, binaryFileRead := 0, cacheBufLen := 0, state := .readGcm } where
  received := Nat.le_of_eq ends.symm
  secret _ := ⟨(knows.secret (by decide)).1, (knows.secret (by decide)).2.1, room⟩
  magic _ := magic
  key behind := absurd behind (by decide)
  cipher behind := absurd behind (by decide)
  unused _ := knows.unused (by decide)
  size behind := absurd behind (by decide)
  auth behind := absurd behind (by decide)
  rooms := knows.rooms

theorem readMagic_leaves (at_ : At crypto rsaPem stream handle)
    (state : handle.state = .readMagic) :
    Leaves crypto calls rsaPem stream rest .readGcm (readMagic handle rest) := by
  obtain ⟨gathered, fills⟩ := at_.fills rest state (by decide)
  have knows : Knows crypto rsaPem .readMagic stream handle := state ▸ at_.knows
  obtain ⟨secret, blank, room⟩ := knows.secret (by decide)
  rw [readMagic]
  split
  · next enough =>
      have split_ := (List.take_append_drop magicSize rest).symm
      obtain ⟨read, ends, value⟩ := gathered.atOnce at_.knows state enough.1 enough.2
      have same : word (field .readMagic (stream ++ rest.take magicSize)) = word rest :=
        (congrArg word value).trans (word_take (by decide))
      rw [readWord_returns enough.2, ok_bind]
      split
      · next differs =>
          have refused : Refused crypto rsaPem (stream ++ rest.take magicSize) :=
            .inl ⟨Nat.le_of_eq ends.symm, by rwa [same]⟩
          exact .fails (.inl (refused.taken split_))
      · next equal =>
          have magic := same.trans (not_not.mp equal)
          have again : ({ handle with state := .readGcm } : Handle) =
              { handle with
                cacheBuf := handle.cacheBuf, binaryFileRead := 0, cacheBufLen := 0,
                state := .readGcm } := by
            rw [← read, ← enough.1]
          rw [again]
          exact .fallThrough split_ ends
            (At.begin ((knows.append _).afterMagic ends magic room) rfl (by decide) ends rfl rfl)
            rfl
  · have fills : Fills crypto rsaPem stream rest .readMagic handle
        (readAndCacheData magicSize handle rest) := fills
    generalize readAndCacheData magicSize handle rest = result at fills
    cases fills with
    | part after same read len =>
        have few : _ ≠ magicSize := Nat.ne_of_lt read
        rw [ok_bind]
        dsimp only
        rw [if_neg few]
        exact .notFinished after (by rw [same]; decide)
    | @all dest taken behind split length ends value =>
        rw [handle.gathered_cache (by rw [state]; decide), ok_bind]
        dsimp only
        have same : word (field .readMagic (stream ++ taken)) = word dest :=
          (congrArg word value).symm.trans (word_take (by decide))
        have wide : dest.length = encGcmKeySize := by
          rw [length, Handle.dest, state]
          exact room
        rw [if_pos (by decide), readWord_returns (by rw [wide]; decide), ok_bind]
        split
        · next differs =>
            have refused : Refused crypto rsaPem (stream ++ taken) :=
              .inl ⟨Nat.le_of_eq ends.symm, by rwa [same]⟩
            exact .fails (.inl (refused.taken split))
        · next equal =>
            have magic := same.trans (not_not.mp equal)
            exact .fallThrough split ends
              (At.begin ((knows.append _).afterMagic ends magic wide) rfl (by decide) ends rfl rfl)
              rfl

/-! ### The key -/

theorem Knows.afterGcm {key : Key} {cacheBuf : List UInt8}
    (knows : Knows crypto rsaPem .readGcm stream handle) (ends : stream.length = 388)
    (deciphered : imageKey crypto rsaPem stream = some key) (room : cacheBuf.length = 16) :
    Knows crypto rsaPem .readIv stream
      { handle with
        gcmKey := key.stored, cacheBuf, state := .readIv, binaryFileRead := 0, cacheBufLen := 0,
        rsaPem := none } where
  received := Nat.le_of_eq ends.symm
  secret early := absurd early (by decide)
  magic _ := knows.magic (by decide)
  key _ := ⟨room, key, deciphered, rfl⟩
  cipher behind := absurd behind (by decide)
  unused _ := knows.unused (by decide)
  size behind := absurd behind (by decide)
  auth behind := absurd behind (by decide)
  rooms := knows.rooms

theorem processGcmKey_leaves {taken behind dataIn : List UInt8} (split : rest = taken ++ behind)
    (knows : Knows crypto rsaPem .readGcm (stream ++ taken) handle)
    (ends : (stream ++ taken).length = 388) (inside : encGcmKeySize ≤ dataIn.length)
    (value : dataIn.take encGcmKeySize = field .readGcm (stream ++ taken)) :
    Leaves crypto calls rsaPem stream rest .readIv
      (processGcmKey crypto calls dataIn behind handle) := by
  obtain ⟨secret, blank, room⟩ := knows.secret (by decide)
  have known : crypto.pkDecrypt rsaPem (field .readGcm (stream ++ taken)) =
      imageKey crypto rsaPem (stream ++ taken) := rfl
  rw [processGcmKey, readBytes_take inside, ok_bind, decipherGcmKey, secret, Option.bind_some, value,
    known]
  by_cases unready : calls .ctrDrbgSeed = false ∨ calls .pkParseKey = false
  · rw [if_pos unready]
    rcases unready with failed | failed
    · exact .fails (.inr ⟨_, failed⟩)
    · exact .fails (.inr ⟨_, failed⟩)
  · rw [if_neg unready]
    cases deciphered : imageKey crypto rsaPem (stream ++ taken) with
    | none =>
        have refused : Refused crypto rsaPem (stream ++ taken) :=
          .inr ⟨Nat.le_of_eq ends.symm, deciphered⟩
        exact .fails (.inl (refused.taken split))
    | some key =>
        have small : (handle.cacheBuf.take 16).length = 16 := by
          rw [List.length_take, room]
          rfl
        dsimp only
        rw [blank]
        cases shrunk : calls .cacheBuf with
        | false => exact .fails (.inr ⟨_, shrunk⟩)
        | true =>
            exact .fallThrough split ends
              (At.begin (knows.afterGcm ends deciphered small) rfl (by decide) ends rfl rfl) rfl

theorem readGcm_leaves (at_ : At crypto rsaPem stream handle) (state : handle.state = .readGcm) :
    Leaves crypto calls rsaPem stream rest .readIv (readGcm crypto calls handle rest) := by
  obtain ⟨gathered, fills⟩ := at_.fills rest state (by decide)
  rw [readGcm]
  split
  · next enough =>
      have split_ := (List.take_append_drop encGcmKeySize rest).symm
      obtain ⟨-, ends, value⟩ := gathered.atOnce at_.knows state enough.1 enough.2
      have knows : Knows crypto rsaPem .readGcm stream handle := state ▸ at_.knows
      exact processGcmKey_leaves split_ (knows.append _) ends enough.2 value.symm
  · have fills : Fills crypto rsaPem stream rest .readGcm handle
        (readAndCacheData encGcmKeySize handle rest) := fills
    generalize readAndCacheData encGcmKeySize handle rest = result at fills
    cases fills with
    | part after same read len =>
        have few : _ ≠ encGcmKeySize := Nat.ne_of_lt len
        rw [ok_bind]
        dsimp only
        rw [if_neg few]
        exact .notFinished after (by rw [same]; decide)
    | @all dest taken behind split length ends value =>
        have knows : Knows crypto rsaPem handle.state (stream ++ taken)
            (handle.gathered dest State.readGcm.size) := (at_.knows.append taken).gathered length
        have full : State.readGcm.size = encGcmKeySize := rfl
        rw [state] at knows
        rw [handle.gathered_cache (by rw [state]; decide)] at knows ⊢
        rw [ok_bind]
        dsimp only
        rw [if_pos full]
        have room : dest.length = encGcmKeySize := by
          rw [length, Handle.dest, state]
          exact ((state ▸ at_.knows).secret (by decide)).2.2
        exact processGcmKey_leaves split knows ends (Nat.le_of_eq room.symm) value

/-! ### The initialization vector -/

theorem Knows.afterIv {iv : List UInt8} (knows : Knows crypto rsaPem .readIv stream handle)
    (ends : stream.length = 404) (value : iv = field .readIv stream) (room : iv.length = ivSize) :
    Knows crypto rsaPem .readBinsize stream
      { handle with
        iv, state := .readBinsize, binaryFileRead := 0, cacheBufLen := 0,
        gcmCtx := ⟨handle.gcmKey, iv, []⟩ } where
  received := Nat.le_of_eq ends.symm
  secret early := absurd early (by decide)
  magic _ := knows.magic (by decide)
  key _ := knows.key (by decide)
  cipher _ := ⟨rfl, value⟩
  unused _ := rfl
  size behind := absurd behind (by decide)
  auth behind := absurd behind (by decide)
  rooms := ⟨room, knows.rooms.2⟩

/-- The vector is received in part, or as a whole in one way or the other. -/
theorem receiveIv_returns (at_ : At crypto rsaPem stream handle) (state : handle.state = .readIv)
    (rest : List UInt8) :
    (∃ after, receiveIv handle rest = .ok (after, []) ∧ At crypto rsaPem (stream ++ rest) after ∧
        after.state = .readIv ∧ after.binaryFileRead.toNat < ivSize) ∨
      ∃ iv taken behind len, receiveIv handle rest =
          .ok ({ handle with
            iv, cacheBufLen := len, binaryFileRead := UInt32.ofNat ivSize }, behind) ∧
        rest = taken ++ behind ∧ (stream ++ taken).length = 404 ∧
        iv = field .readIv (stream ++ taken) ∧ iv.length = ivSize := by
  obtain ⟨gathered, fills⟩ := at_.fills rest state (by decide)
  rw [receiveIv]
  split
  · next enough =>
      obtain ⟨-, ends, value⟩ := gathered.atOnce at_.knows state enough.1 enough.2
      have length : (rest.take ivSize).length = ivSize := List.length_take_of_le enough.2
      rw [readBytes_take enough.2, ok_bind]
      exact .inr ⟨_, rest.take ivSize, _, _, rfl, (List.take_append_drop ivSize rest).symm, ends,
        value.symm, length⟩
  · have fills : Fills crypto rsaPem stream rest .readIv handle
        (readAndCacheData ivSize handle rest) := fills
    generalize readAndCacheData ivSize handle rest = result at fills
    cases fills with
    | part after same read len => exact .inl ⟨_, rfl, after, same, read⟩
    | @all dest taken behind split length ends value =>
        have whole : dest.length = ivSize := by
          rw [length, Handle.dest, state]
          exact at_.knows.rooms.1
        have gathers : handle.gathered dest State.readIv.size =
            { handle with
              iv := dest, cacheBufLen := ivSize, binaryFileRead := UInt32.ofNat ivSize } := by
          rw [Handle.gathered, Handle.withDest, state]
          rfl
        rw [gathers]
        have same : dest = field _ (stream ++ taken) :=
          (List.take_of_length_le (Nat.le_of_eq whole)).symm.trans value
        exact .inr ⟨dest, taken, behind, _, rfl, split, ends, same, whole⟩

theorem readIv_leaves (at_ : At crypto rsaPem stream handle) (state : handle.state = .readIv) :
    Leaves crypto calls rsaPem stream rest .readBinsize (readIv calls handle rest) := by
  have knows : Knows crypto rsaPem .readIv stream handle := state ▸ at_.knows
  rw [readIv]
  rcases receiveIv_returns at_ state rest with
    ⟨after, received, more, same, few⟩ |
    ⟨iv, taken, behind, len, received, split, ends, value, length⟩
  · rw [received, ok_bind]
    dsimp only
    rw [if_neg (Nat.ne_of_lt few)]
    exact .notFinished more (by rw [same]; decide)
  · rw [received, ok_bind]
    dsimp only
    rw [if_pos (by decide)]
    cases keyed : calls .setkey with
    | false => exact .fails (.inr ⟨_, keyed⟩)
    | true =>
        cases started : calls .starts with
        | false => exact .fails (.inr ⟨_, started⟩)
        | true =>
            exact .fallThrough split ends
              (At.begin ((knows.append taken).afterIv ends value length) rfl (by decide) ends rfl
                rfl) rfl

/-! ### The size and the tag -/

theorem Knows.afterBinsize {cacheBuf : List UInt8}
    (knows : Knows crypto rsaPem .readBinsize stream handle) (ends : stream.length = 408)
    (room : cacheBuf.length = 16) :
    Knows crypto rsaPem .readAuth stream
      { handle with
        cacheBuf, binaryFileLen := binSize stream, state := .readAuth, binaryFileRead := 0,
        cacheBufLen := 0 } where
  received := Nat.le_of_eq ends.symm
  secret early := absurd early (by decide)
  magic _ := knows.magic (by decide)
  key _ := ⟨room, (knows.key (by decide)).2⟩
  cipher _ := knows.cipher (by decide)
  unused _ := knows.unused (by decide)
  size _ := rfl
  auth behind := absurd behind (by decide)
  rooms := knows.rooms

theorem readBinsize_leaves (at_ : At crypto rsaPem stream handle)
    (state : handle.state = .readBinsize) :
    Leaves crypto calls rsaPem stream rest .readAuth (readBinsize handle rest) := by
  obtain ⟨gathered, fills⟩ := at_.fills rest state (by decide)
  have knows : Knows crypto rsaPem .readBinsize stream handle := state ▸ at_.knows
  have room := (knows.key (by decide)).1
  rw [readBinsize]
  split
  · next enough =>
      obtain ⟨-, ends, value⟩ := gathered.atOnce at_.knows state enough.1 enough.2
      have same : binSize (stream ++ rest.take binSizeData) = word rest :=
        (congrArg word value).trans (word_take (by decide))
      rw [readWord_returns enough.2, ok_bind, ← same]
      exact .fallThrough (List.take_append_drop binSizeData rest).symm ends
        (At.begin ((knows.append _).afterBinsize ends room) rfl (by decide) ends rfl rfl) rfl
  · have fills : Fills crypto rsaPem stream rest .readBinsize handle
        (readAndCacheData binSizeData handle rest) := fills
    generalize readAndCacheData binSizeData handle rest = result at fills
    cases fills with
    | part after same read len =>
        have few : _ ≠ binSizeData := Nat.ne_of_lt read
        rw [ok_bind]
        dsimp only
        rw [if_neg few]
        exact .notFinished after (by rw [same]; decide)
    | @all dest taken behind split length ends value =>
        rw [handle.gathered_cache (by rw [state]; decide), ok_bind]
        dsimp only
        have same : binSize (stream ++ taken) = word dest :=
          (congrArg word value).symm.trans (word_take (by decide))
        have wide : dest.length = 16 := by
          rw [length, Handle.dest, state]
          exact room
        rw [if_pos (by decide), readWord_returns (by rw [wide]; decide), ok_bind, ← same]
        exact .fallThrough split ends
          (At.begin ((knows.append taken).afterBinsize ends wide) rfl (by decide) ends rfl rfl) rfl

theorem Knows.afterAuth {authTag : List UInt8} (knows : Knows crypto rsaPem .readAuth stream handle)
    (ends : stream.length = 424) (value : authTag = field .readAuth stream)
    (room : authTag.length = authSize) :
    Knows crypto rsaPem .readExtraHeader stream
      { handle with
        authTag, state := .readExtraHeader, binaryFileRead := 0, cacheBufLen := 0 } where
  received := Nat.le_of_eq ends.symm
  secret early := absurd early (by decide)
  magic _ := knows.magic (by decide)
  key _ := knows.key (by decide)
  cipher _ := knows.cipher (by decide)
  unused _ := knows.unused (by decide)
  size _ := knows.size (by decide)
  auth _ := value
  rooms := ⟨knows.rooms.1, room⟩

theorem receiveAuth_returns (at_ : At crypto rsaPem stream handle)
    (state : handle.state = .readAuth) (rest : List UInt8) :
    (∃ after, receiveAuth handle rest = .ok (after, []) ∧ At crypto rsaPem (stream ++ rest) after ∧
        after.state = .readAuth ∧ after.binaryFileRead.toNat < authSize) ∨
      ∃ authTag taken behind len, receiveAuth handle rest =
          .ok ({ handle with
            authTag, cacheBufLen := len, binaryFileRead := UInt32.ofNat authSize }, behind) ∧
        rest = taken ++ behind ∧ (stream ++ taken).length = 424 ∧
        authTag = field .readAuth (stream ++ taken) ∧ authTag.length = authSize := by
  obtain ⟨gathered, fills⟩ := at_.fills rest state (by decide)
  rw [receiveAuth]
  split
  · next enough =>
      obtain ⟨-, ends, value⟩ := gathered.atOnce at_.knows state enough.1 enough.2
      have length : (rest.take authSize).length = authSize := List.length_take_of_le enough.2
      rw [readBytes_take enough.2, ok_bind]
      exact .inr ⟨_, rest.take authSize, _, _, rfl, (List.take_append_drop authSize rest).symm,
        ends, value.symm, length⟩
  · have fills : Fills crypto rsaPem stream rest .readAuth handle
        (readAndCacheData authSize handle rest) := fills
    generalize readAndCacheData authSize handle rest = result at fills
    cases fills with
    | part after same read len => exact .inl ⟨_, rfl, after, same, read⟩
    | @all dest taken behind split length ends value =>
        have whole : dest.length = authSize := by
          rw [length, Handle.dest, state]
          exact at_.knows.rooms.2
        have gathers : handle.gathered dest State.readAuth.size =
            { handle with
              authTag := dest, cacheBufLen := authSize,
              binaryFileRead := UInt32.ofNat authSize } := by
          rw [Handle.gathered, Handle.withDest, state]
          rfl
        rw [gathers]
        have same : dest = field _ (stream ++ taken) :=
          (List.take_of_length_le (Nat.le_of_eq whole)).symm.trans value
        exact .inr ⟨dest, taken, behind, _, rfl, split, ends, same, whole⟩

theorem readAuth_leaves (at_ : At crypto rsaPem stream handle) (state : handle.state = .readAuth) :
    Leaves crypto calls rsaPem stream rest .readExtraHeader (readAuth handle rest) := by
  have knows : Knows crypto rsaPem .readAuth stream handle := state ▸ at_.knows
  rw [readAuth]
  rcases receiveAuth_returns at_ state rest with
    ⟨after, received, more, same, few⟩ |
    ⟨authTag, taken, behind, len, received, split, ends, value, length⟩
  · rw [received, ok_bind]
    dsimp only
    rw [if_neg (Nat.ne_of_lt few)]
    exact .notFinished more (by rw [same]; decide)
  · rw [received, ok_bind]
    dsimp only
    rw [if_pos (by decide)]
    exact .fallThrough split ends
      (At.begin ((knows.append taken).afterAuth ends value length) rfl (by decide) ends rfl rfl) rfl

/-! ### The reserved bytes -/

theorem Knows.afterExtraHeader (knows : Knows crypto rsaPem .readExtraHeader stream handle)
    (ends : stream.length = 512) :
    Knows crypto rsaPem .dataDecode stream
      { handle with state := .dataDecode, binaryFileRead := 0, cacheBufLen := 0 } where
  received := Nat.le_of_eq ends.symm
  secret early := absurd early (by decide)
  magic _ := knows.magic (by decide)
  key _ := knows.key (by decide)
  cipher _ := knows.cipher (by decide)
  unused early := absurd early (by decide)
  size _ := knows.size (by decide)
  auth _ := knows.auth (by decide)
  rooms := knows.rooms

theorem readExtraHeader_leaves (at_ : At crypto rsaPem stream handle)
    (state : handle.state = .readExtraHeader) :
    Leaves crypto calls rsaPem stream rest .dataDecode (readExtraHeader handle rest) := by
  have knows : Knows crypto rsaPem .readExtraHeader stream handle := state ▸ at_.knows
  cases at_ with
  | field _ header => exact absurd state header.1
  | data _ decodes => exact absurd (state.symm.trans decodes) (by decide)
  | extraHeader _ _ skipped =>
      obtain ⟨short, read⟩ := skipped
      have received : 424 ≤ stream.length := knows.received
      rw [state] at short read
      have short : stream.length < 424 + 88 := short
      have read : handle.binaryFileRead.toNat = stream.length - 424 := read
      have missing : (UInt32.ofNat reservedHeader - handle.binaryFileRead).toNat =
          512 - stream.length := by
        have less : handle.binaryFileRead ≤ UInt32.ofNat reservedHeader := by
          rw [UInt32.le_iff_toNat_le, read]
          exact Nat.le_of_lt (show stream.length - 424 < 88 by omega)
        rw [UInt32.toNat_sub_of_le _ _ less, read]
        exact (show 88 - (stream.length - 424) = 512 - stream.length by omega)
      rw [readExtraHeader, missing]
      generalize counted : min rest.length (512 - stream.length) = count
      have total : (handle.binaryFileRead + UInt32.ofNat count).toNat =
          stream.length - 424 + count := by
        rw [UInt32.toNat_add, UInt32.toNat_ofNat', read]
        omega
      dsimp only
      split
      · next complete =>
          have complete : stream.length - 424 + count = 88 := total.symm.trans complete
          have ends : (stream ++ rest.take count).length = 512 := by
            rw [List.length_append, List.length_take]
            omega
          refine .fallThrough (List.take_append_drop count rest).symm ends
            (.data ((knows.append _).afterExtraHeader ends) rfl ?_) rfl
          have none_ : body (stream ++ rest.take count) = [] :=
            List.drop_of_length_le (Nat.le_of_eq ends)
          have input : handle.gcmCtx.input = [] := knows.unused (by decide)
          refine ⟨?_, ?_, ?_, ?_, ?_⟩
          · rw [none_]
            rfl
          · exact Nat.succ_pos 15
          · rw [Handle.binary, none_, List.take_zero, List.append_nil]
            exact input
          · intro _
            rw [none_]
            rfl
          · intro _
            rfl
      · next missing =>
          have part : ¬stream.length - 424 + count = 88 := fun complete =>
            missing (total.trans complete)
          have all : count = rest.length := by omega
          subst all
          have more : (stream ++ rest).length = stream.length + rest.length := List.length_append
          refine .notFinished (.extraHeader ?_ state ⟨?_, ?_⟩) (by rw [state]; decide)
          · rw [state]
            exact { knows.append rest with }
          · rw [state, more]
            exact (show stream.length + rest.length < 424 + 88 by omega)
          · rw [state, more, total]
            exact (show stream.length - 424 + rest.length = stream.length + rest.length - 424 by
              omega)

end EsInverter.EncryptedImg
