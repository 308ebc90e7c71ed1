import EsInverter.EncryptedImg.Decoder

/-!
# The encrypted binary block by block

What `process_bin` hands to the cipher and what it keeps in the cache are
together all bytes of the binary so far, and what it puts out is the text of
the bytes that it handed over.
-/

set_option autoImplicit false

namespace EsInverter.EncryptedImg

open Lib

variable {crypto : Crypto} {calls : Calls} {handle : Handle} {rest : List UInt8}

/-- The text of all that the cipher was given. -/
def Gcm.text (crypto : Crypto) (gcm : Gcm) : List UInt8 :=
  masked (· ^^^ ·) (crypto.keystream gcm.key gcm.iv) 0 gcm.input

theorem Gcm.deciphered_append (gcm : Gcm) (first second : List UInt8) :
    gcm.deciphered crypto (first ++ second) = gcm.deciphered crypto first ++
      ({ gcm with input := gcm.input ++ first } : Gcm).deciphered crypto second := by
  rw [Gcm.deciphered, masked_append, ← List.length_append]
  rfl

theorem Gcm.text_input (gcm : Gcm) (input : List UInt8) :
    ({ gcm with input := gcm.input ++ input } : Gcm).text crypto =
      gcm.text crypto ++ gcm.deciphered crypto input := by
  rw [Gcm.text, Gcm.text, Gcm.deciphered]
  dsimp only
  rw [masked_append, Nat.zero_add]

@[simp]
theorem Gcm.length_deciphered (gcm : Gcm) (input : List UInt8) :
    (gcm.deciphered crypto input).length = input.length := length_masked ..

/-- The bytes of the binary that are in the cipher or in the cache. -/
def Handle.binary (handle : Handle) : List UInt8 :=
  handle.gcmCtx.input ++ handle.cacheBuf.take handle.cacheBufLen

/-- The handle with another cache and more given to the cipher. -/
def Handle.deciphering (handle : Handle) (input cacheBuf : List UInt8) (cacheBufLen : Nat) :
    Handle :=
  { handle with
    gcmCtx := { handle.gcmCtx with input := handle.gcmCtx.input ++ input }, cacheBuf, cacheBufLen }

theorem Handle.deciphering_nil (handle : Handle) (cacheBuf : List UInt8) (cacheBufLen : Nat) :
    handle.deciphering [] cacheBuf cacheBufLen = { handle with cacheBuf, cacheBufLen } := by
  rw [Handle.deciphering, List.append_nil]

theorem Handle.deciphering_deciphering (handle : Handle) (first second cache cacheBuf : List UInt8)
    (len cacheBufLen : Nat) :
    (handle.deciphering first cache len).deciphering second cacheBuf cacheBufLen =
      handle.deciphering (first ++ second) cacheBuf cacheBufLen := by
  simp only [Handle.deciphering, List.append_assoc]

theorem memcpy_returns {α : Type} {offset : Nat} {values cells : List α}
    (room : offset + values.length ≤ cells.length) :
    ∃ written, memcpy offset values cells = .ok written ∧ written.length = cells.length ∧
      written.take (offset + values.length) = cells.take offset ++ values := by
  obtain ⟨written, spliced, length, front⟩ := splice_returns room
  refine ⟨written, ?_, length, front⟩
  rw [memcpy, spliced]

section Reads

variable {offset count : Nat} {bytes : List UInt8}

theorem readBytes_window (inside : offset + count ≤ bytes.length) :
    readBytes offset count bytes = .ok (window offset count bytes) := if_pos inside

theorem readBytes_take (inside : count ≤ bytes.length) :
    readBytes 0 count bytes = .ok (bytes.take count) :=
  readBytes_window (by rwa [Nat.zero_add])

/-- The bytes from an offset on. -/
theorem readBytes_drop (inside : offset ≤ bytes.length) :
    readBytes offset (bytes.length - offset) bytes = .ok (bytes.drop offset) := by
  rw [readBytes_window (by omega), window, List.take_of_length_le (by rw [List.length_drop])]

theorem word_take (all : 4 ≤ count) : word (bytes.take count) = word bytes := by
  simp only [word, List.getD_eq_getElem?_getD]
  rw [List.getElem?_take_of_lt (by omega), List.getElem?_take_of_lt (by omega),
    List.getElem?_take_of_lt (by omega), List.getElem?_take_of_lt (by omega)]

theorem readWord_returns (inside : 4 ≤ bytes.length) : readWord bytes = .ok (word bytes) := by
  rw [readWord, readBytes_take inside, ok_bind, word_take (Nat.le_refl 4)]

end Reads

/-- The output of a call of the cipher library, behind what is in the block already. -/
theorem gcmUpdate_returns {succeeds : Bool} {input : List UInt8} {place room : Nat}
    {dataOut : List (Option UInt8)} (fits : input.length ≤ room)
    (inside : place + room ≤ dataOut.length) :
    (succeeds = false ∧ gcmUpdate crypto succeeds input place room handle dataOut = .ok none) ∨
      ∃ written, gcmUpdate crypto succeeds input place room handle dataOut =
          .ok (some (handle.deciphering input handle.cacheBuf handle.cacheBufLen, written)) ∧
        written.length = dataOut.length ∧
        written.take (place + input.length) =
          dataOut.take place ++ (handle.gcmCtx.deciphered crypto input).map some := by
  rw [gcmUpdate]
  cases succeeds with
  | false => exact .inl ⟨rfl, if_pos (.inl rfl)⟩
  | true =>
      right
      have length : ((handle.gcmCtx.deciphered crypto input).map some).length = input.length := by
        rw [List.length_map, Gcm.length_deciphered]
      obtain ⟨written, copied, same, front⟩ := memcpy_returns
        (show place + ((handle.gcmCtx.deciphered crypto input).map some).length ≤ dataOut.length by
          omega)
      rw [if_neg (by simpa using fits), copied, ok_bind]
      rw [length] at front
      exact ⟨written, rfl, same, front⟩

/-- A run of `process_bin` on the bytes `rest`. -/
inductive Processes (crypto : Crypto) (calls : Calls) (handle : Handle) (rest : List UInt8)
    (reply : Reply) (left : Nat) : Except Fault (Reply × Handle × Args) → Prop
  | fails {failed : Reply} {next : Handle} {args : Args}
      (failing : failed = .fail ∨ failed = .noMem) (cause : ∃ call, calls call = false) :
      Processes crypto calls handle rest reply left (.ok (failed, next, args))
  | goes {input cacheBuf : List UInt8} {args : Args} (room : cacheBuf.length = 16)
      (binary : input ++ cacheBuf.take left = handle.cacheBuf.take handle.cacheBufLen ++ rest)
      (out : args.dataOut.take args.dataOutLen =
        (handle.gcmCtx.deciphered crypto input).map some) :
      Processes crypto calls handle rest reply left
        (.ok (reply, handle.deciphering input cacheBuf left, args))

/-- The last bytes of a chunk are put into the cache. -/
theorem cacheLeft_returns {left : Nat} {before : List UInt8} (short : left < 16)
    (cache : before.length = 16) (inside : left ≤ rest.length) :
    ∃ cacheBuf : List UInt8, cacheLeft left rest before = .ok cacheBuf ∧ cacheBuf.length = 16 ∧
      cacheBuf.take left = rest.drop (rest.length - left) := by
  rw [cacheLeft]
  have length : (rest.drop (rest.length - left)).length = left := by
    rw [List.length_drop]
    omega
  by_cases some_ : left = 0
  · subst some_
    refine ⟨before, rfl, cache, ?_⟩
    rw [List.take_zero, Nat.sub_zero, List.drop_length]
  · obtain ⟨written, copied, same, front⟩ := memcpy_returns
      (show 0 + (rest.drop (rest.length - left)).length ≤ before.length by omega)
    rw [length, Nat.zero_add, List.take_zero, List.nil_append] at front
    have tail : readBytes (rest.length - left) left rest =
        .ok (rest.drop (rest.length - left)) := by
      have whole := @readBytes_drop (rest.length - left) rest (Nat.sub_le _ _)
      rwa [Nat.sub_sub_self inside] at whole
    exact ⟨written, by rw [if_pos some_, tail, ok_bind, copied], same.trans cache, front⟩

/-- A chunk in the part that is copied to the cache, whole blocks and the bytes left. -/
theorem take_append_blocks {copyLen left : Nat} (inside : copyLen + left ≤ rest.length) :
    rest.take copyLen ++ ((rest.drop copyLen).take (rest.length - left - copyLen) ++
      rest.drop (rest.length - left)) = rest := by
  have joined : copyLen + (rest.length - left - copyLen) = rest.length - left := by omega
  have tail : rest.drop (rest.length - left) =
      (rest.drop copyLen).drop (rest.length - left - copyLen) := by
    rw [List.drop_drop, joined]
  rw [tail, List.take_append_drop, List.take_append_drop]

theorem processRest_processes {copyLen decLen room : Nat} {dataOut : List (Option UInt8)}
    {input : List UInt8} {earlier : Handle} (cache : handle.cacheBuf.length = 16)
    (written_ : input.length = decLen) (copied : copyLen ≤ rest.length)
    (behind : handle = earlier.deciphering input handle.cacheBuf handle.cacheBufLen)
    (all : input = earlier.cacheBuf.take earlier.cacheBufLen ++ rest.take copyLen)
    (fits : decLen + (rest.length - copyLen - (rest.length - copyLen) % 16) ≤ room)
    (inside : dataOut.length = room)
    (done : dataOut.take decLen = (earlier.gcmCtx.deciphered crypto input).map some) :
    Processes crypto calls earlier rest .notFinished ((rest.length - copyLen) % 16)
      (processRest crypto calls rest copyLen decLen room handle dataOut) := by
  subst written_
  have short : (rest.length - copyLen) % 16 < 16 := Nat.mod_lt _ (by decide)
  have part : (rest.length - copyLen) % 16 ≤ rest.length - copyLen := Nat.mod_le _ _
  rw [processRest]
  generalize (rest.length - copyLen) % 16 = left at short part fits ⊢
  obtain ⟨cacheBuf, kept, room_, cached⟩ :=
    @cacheLeft_returns rest left handle.cacheBuf short cache (by omega)
  have split := take_append_blocks (show copyLen + left ≤ rest.length by omega)
  have length : ((rest.drop copyLen).take (rest.length - left - copyLen)).length =
      rest.length - left - copyLen := by
    rw [List.length_take, List.length_drop]
    omega
  generalize taken : (rest.drop copyLen).take (rest.length - left - copyLen) = second
    at split length
  have binary : input ++ second ++ cacheBuf.take left =
      earlier.cacheBuf.take earlier.cacheBufLen ++ rest := by
    rw [all, cached, List.append_assoc, List.append_assoc, split]
  have again : ({ handle with cacheBufLen := left, cacheBuf } : Handle) =
      earlier.deciphering input cacheBuf left := by
    rw [behind]
    rfl
  have read : readBytes copyLen second.length rest = .ok second := by
    rw [length, readBytes_window (by omega), window, taken]
  rw [kept, ok_bind]
  dsimp only
  rw [again, ← length]
  split
  · rw [read, ok_bind]
    rcases @gcmUpdate_returns crypto (earlier.deciphering input cacheBuf left)
      (calls .updateChunk) second input.length (room - input.length) dataOut (by omega) (by omega)
      with ⟨failed, updated⟩ | ⟨written, updated, -, front⟩
    · rw [updated, ok_bind]
      exact .fails (.inl rfl) ⟨_, failed⟩
    · rw [updated, ok_bind]
      dsimp only
      rw [Handle.deciphering_deciphering]
      refine .goes room_ binary ?_
      rw [Gcm.deciphered_append, List.map_append, ← done]
      exact front
  · next none_ =>
      have empty : second = [] := List.length_eq_zero_iff.mp (by omega)
      subst empty
      rw [List.append_nil] at binary
      exact .goes room_ binary done

theorem processBlocks_processes (short : handle.cacheBufLen < 16)
    (cache : handle.cacheBuf.length = 16) :
    Processes crypto calls handle rest .notFinished ((handle.cacheBufLen + rest.length) % 16)
      (processBlocks crypto calls handle rest) := by
  have part : (handle.cacheBufLen + rest.length) % 16 ≤ handle.cacheBufLen + rest.length :=
    Nat.mod_le _ _
  rw [processBlocks]
  dsimp only
  split
  · next refused => exact .fails (.inr rfl) ⟨_, refused.2⟩
  · split
    · next empty =>
        rw [empty, Nat.zero_add]
        refine processRest_processes cache List.length_nil (Nat.zero_le _) ?_ ?_ ?_ ?_ rfl
        · rw [Handle.deciphering_nil]
        · rw [empty]
          rfl
        · rw [Nat.zero_add, Nat.sub_zero]
        · exact List.length_replicate
    · next filled =>
        generalize copy : min (16 - handle.cacheBufLen) rest.length = copyLen
        have length : (rest.take copyLen).length = copyLen := by
          rw [List.length_take]
          omega
        obtain ⟨cacheBuf, copied, room, front⟩ := memcpy_returns
          (show handle.cacheBufLen + (rest.take copyLen).length ≤ handle.cacheBuf.length by omega)
        rw [length] at front
        rw [readBytes_take (by omega), ok_bind, copied, ok_bind]
        split
        · next partial_ =>
            have whole : rest.take copyLen = rest := List.take_of_length_le (by omega)
            have left : (handle.cacheBufLen + rest.length) % 16 = handle.cacheBufLen + copyLen := by
              omega
            have kept := handle.deciphering_nil cacheBuf (handle.cacheBufLen + copyLen)
            rw [← kept, left]
            refine .goes (room.trans cache) ?_ rfl
            rw [List.nil_append, front, whole]
        · next block =>
            have full : handle.cacheBufLen + copyLen = 16 := not_not.mp block
            have left : (handle.cacheBufLen + rest.length) % 16 = (rest.length - copyLen) % 16 := by
              omega
            rw [full] at front ⊢
            have input : (cacheBuf.take 16).length = 16 := by
              rw [List.length_take]
              omega
            rw [readBytes_take (by omega), ok_bind]
            generalize size_eq : handle.cacheBufLen + rest.length -
              (handle.cacheBufLen + rest.length) % 16 = size
            rcases @gcmUpdate_returns crypto { handle with cacheBufLen := 16, cacheBuf }
              (calls .updateCache) (cacheBuf.take 16) 0 size (List.replicate size none) (by omega)
              (by rw [List.length_replicate, Nat.zero_add])
              with ⟨failed, updated⟩ | ⟨written, updated, same, out⟩
            · rw [updated, ok_bind]
              exact .fails (.inl rfl) ⟨_, failed⟩
            · rw [updated, ok_bind, left]
              refine processRest_processes (room.trans cache) input (by omega) rfl ?_ (by omega)
                ?_ ?_
              · exact front
              · rw [same, List.length_replicate]
              · rw [input, Nat.zero_add, List.take_zero, List.nil_append] at out
                exact out

theorem processLast_processes (short : handle.cacheBufLen < 16)
    (cache : handle.cacheBuf.length = 16) :
    Processes crypto calls handle rest .ok 0 (processLast crypto calls handle rest) := by
  rw [processLast]
  dsimp only
  split
  · next refused => exact .fails (.inr rfl) ⟨_, refused⟩
  · generalize copy : min (16 - handle.cacheBufLen) rest.length = copyLen
    have length : (rest.take copyLen).length = copyLen := by
      rw [List.length_take]
      omega
    obtain ⟨cacheBuf, copied, room, front⟩ := memcpy_returns
      (show handle.cacheBufLen + (rest.take copyLen).length ≤ handle.cacheBuf.length by omega)
    rw [length] at front
    have input : (cacheBuf.take (handle.cacheBufLen + copyLen)).length =
        handle.cacheBufLen + copyLen := by
      rw [List.length_take]
      omega
    rw [readBytes_take (by omega), ok_bind, copied, ok_bind, readBytes_take (by omega), ok_bind]
    rcases @gcmUpdate_returns crypto
      { handle with cacheBufLen := handle.cacheBufLen + copyLen, cacheBuf } (calls .updateCache)
      (cacheBuf.take (handle.cacheBufLen + copyLen)) 0 (handle.cacheBufLen + rest.length)
      (List.replicate (handle.cacheBufLen + rest.length) none) (by omega)
      (by rw [List.length_replicate, Nat.zero_add])
      with ⟨failed, updated⟩ | ⟨written, updated, same, out⟩
    · rw [updated, ok_bind]
      exact .fails (.inl rfl) ⟨_, failed⟩
    · rw [updated, ok_bind]
      dsimp only
      rw [input, Nat.zero_add, List.take_zero, List.nil_append] at out
      generalize cacheBuf.take (handle.cacheBufLen + copyLen) = first at *
      have outLen : (Handle.deciphering
          { handle with cacheBufLen := handle.cacheBufLen + copyLen, cacheBuf } first cacheBuf
          (handle.cacheBufLen + copyLen)).cacheBufLen = handle.cacheBufLen + copyLen := rfl
      rw [outLen]
      split
      · next more =>
          have full : handle.cacheBufLen + copyLen = 16 := by omega
          rw [List.length_replicate] at same
          rw [full] at out input ⊢
          rw [readBytes_drop (by omega), ok_bind]
          rcases @gcmUpdate_returns crypto
            (Handle.deciphering { handle with cacheBufLen := 16, cacheBuf } first cacheBuf 16)
            (calls .updateChunk) (rest.drop copyLen) 16 (handle.cacheBufLen + rest.length - 16)
            written (by rw [List.length_drop]; omega) (by omega)
            with ⟨failed, again⟩ | ⟨behind, again, -, rest_out⟩
          · rw [again, ok_bind]
            exact .fails (.inl rfl) ⟨_, failed⟩
          · rw [again, ok_bind]
            dsimp only
            rw [Handle.deciphering_deciphering]
            have binary : first ++ rest.drop copyLen ++ cacheBuf.take 0 =
                handle.cacheBuf.take handle.cacheBufLen ++ rest := by
              rw [List.take_zero, List.append_nil, front, List.append_assoc, List.take_append_drop]
            have total : 16 + rest.length - copyLen = 16 + (rest.drop copyLen).length := by
              rw [List.length_drop]
              omega
            refine .goes (room.trans cache) binary ?_
            rw [Gcm.deciphered_append, List.map_append]
            dsimp only
            rw [total, rest_out, out]
            rfl
      · next all =>
          have whole : rest.take copyLen = rest := List.take_of_length_le (by omega)
          have binary : first ++ cacheBuf.take 0 =
              handle.cacheBuf.take handle.cacheBufLen ++ rest := by
            rw [List.take_zero, List.append_nil, front, whole]
          have total : handle.cacheBufLen + copyLen + rest.length - copyLen =
              handle.cacheBufLen + copyLen := by omega
          refine .goes (room.trans cache) binary ?_
          dsimp only
          rw [total, out]

end EsInverter.EncryptedImg
