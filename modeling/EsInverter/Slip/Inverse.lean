import EsInverter.Slip.Sweep

/-!
# The encoder and the automaton are inverse

`decode` reads back what `slip_encode` wrote, byte for byte, and leaves what
follows it.  The encoder's bound is stated over the bytes it wrote, also where
it runs out of room.
-/

set_option autoImplicit false

namespace EsInverter.Slip

/-! ### What the encoder writes -/

/-- The loop of `slip_encode` with the bytes written when it returns: the next one goes to the
position behind them. -/
def slipEncodeWritesLoop (maxEncodedDataLen : Nat) (written : List UInt8) :
    List UInt8 → EspErr × List UInt8
  | [] =>
      if written.length + 1 > maxEncodedDataLen then (.noMem, written)
      else (.ok, written ++ [slipEnd])
  | byte :: rest =>
      if written.length + (escape byte).length > maxEncodedDataLen then (.noMem, written)
      else slipEncodeWritesLoop maxEncodedDataLen (written ++ escape byte) rest

/-- `slip_encode`, whose first write is not compared with the length of the buffer. -/
def slipEncodeWrites (maxEncodedDataLen : Nat) (data : List UInt8) : EspErr × List UInt8 :=
  if data.length = 0 then (.invalidArg, [])
  else slipEncodeWritesLoop maxEncodedDataLen [slipBegin] data

/-- The bytes of a successful call. -/
def bytesOf (result : EspErr × List UInt8) : Except EspErr (List UInt8) :=
  if result.1 = .ok then .ok result.2 else .error result.1

theorem slipEncodeLoop_eq (limit : Nat) (written data : List UInt8) :
    slipEncodeLoop limit written data =
      bytesOf (slipEncodeWritesLoop limit written data) := by
  induction data generalizing written with
  | nil =>
      rw [slipEncodeLoop, slipEncodeWritesLoop]
      split
      · rfl
      · rfl
  | cons byte rest ih =>
      rw [slipEncodeLoop, slipEncodeWritesLoop]
      split
      · rfl
      · exact ih (written ++ escape byte)

theorem slipEncode_eq (limit : Nat) (data : List UInt8) :
    slipEncode limit data = bytesOf (slipEncodeWrites limit data) := by
  rw [slipEncode, slipEncodeWrites]
  split
  · rfl
  · exact slipEncodeLoop_eq limit [slipBegin] data

theorem slipEncodeWritesLoop_fits {limit : Nat} {written data : List UInt8}
    (fits : (written ++ data.flatMap escape ++ [slipEnd]).length ≤ limit) :
    slipEncodeWritesLoop limit written data =
      (.ok, written ++ data.flatMap escape ++ [slipEnd]) := by
  induction data generalizing written with
  | nil =>
      simp only [List.flatMap_nil, List.append_nil, List.length_append, List.length_singleton]
        at fits
      rw [slipEncodeWritesLoop, if_neg (by omega), List.flatMap_nil, List.append_nil]
  | cons byte rest ih =>
      rw [List.flatMap_cons, ← List.append_assoc written] at fits ⊢
      have room : ¬ written.length + (escape byte).length > limit := by
        simp only [List.length_append] at fits
        omega
      rw [slipEncodeWritesLoop, if_neg room]
      exact ih fits

theorem slipEncodeWritesLoop_overflows {limit : Nat} {written data : List UInt8}
    (started : written.length ≤ limit)
    (overflows : limit < (written ++ data.flatMap escape ++ [slipEnd]).length) :
    ∃ bytes, slipEncodeWritesLoop limit written data = (.noMem, bytes) ∧
      bytes.length ≤ limit := by
  induction data generalizing written with
  | nil =>
      simp only [List.flatMap_nil, List.append_nil, List.length_append, List.length_singleton]
        at overflows
      exact ⟨written, if_pos (by omega), started⟩
  | cons byte rest ih =>
      rw [List.flatMap_cons, ← List.append_assoc written] at overflows
      rw [slipEncodeWritesLoop]
      by_cases full : written.length + (escape byte).length > limit
      · exact ⟨written, if_pos full, started⟩
      · rw [if_neg full]
        exact ih (by rw [List.length_append]; omega) overflows

theorem frame_eq (data : List UInt8) :
    frame data = [slipBegin] ++ data.flatMap escape ++ [slipEnd] := rfl

/-- Exactly the frame where it fits, and nothing behind the buffer where it does not. -/
theorem slipEncodeWrites_spec {limit : Nat} (positive : 1 ≤ limit) {data : List UInt8}
    (some_ : data ≠ []) :
    if (frame data).length ≤ limit then slipEncodeWrites limit data = (.ok, frame data)
    else ∃ bytes, slipEncodeWrites limit data = (.noMem, bytes) ∧ bytes.length ≤ limit := by
  have nonempty : ¬ data.length = 0 := by simpa using some_
  rw [slipEncodeWrites, if_neg nonempty, frame_eq]
  split
  case isTrue fits => exact slipEncodeWritesLoop_fits fits
  case isFalse overflows =>
    exact slipEncodeWritesLoop_overflows positive (Nat.lt_of_not_le overflows)

/-! ### The special bytes of a frame -/

theorem mem_escape {byte special : UInt8} (inside : special ∈ escape byte) :
    special ≠ slipBegin ∧ special ≠ slipEnd := by
  have pair {code : UInt8} (code_ : code ≠ slipBegin ∧ code ≠ slipEnd)
      (either : special ∈ [slipEsc, code]) : special ≠ slipBegin ∧ special ≠ slipEnd := by
    rcases List.mem_pair.mp either with rfl | rfl
    · decide
    · exact code_
  rw [escape] at inside
  split at inside
  · exact pair (by decide) inside
  split at inside
  · exact pair (by decide) inside
  split at inside
  · exact pair (by decide) inside
  · obtain rfl := List.mem_singleton.mp inside
    constructor <;> assumption

theorem mem_flatMap_escape {data : List UInt8} {special : UInt8}
    (inside : special ∈ data.flatMap escape) : special ≠ slipBegin ∧ special ≠ slipEnd := by
  obtain ⟨byte, _, inside⟩ := List.mem_flatMap.mp inside
  exact mem_escape inside

/-- BEGIN opens a frame, END closes it, and neither stands in between. -/
theorem frame_delimited {data : List UInt8} {index : Nat} {byte : UInt8}
    (there : (frame data)[index]? = some byte) :
    (byte = slipBegin → index = 0) ∧ (byte = slipEnd → index + 1 = (frame data).length) := by
  cases index with
  | zero =>
      obtain rfl : slipBegin = byte := Option.some.inj there
      exact ⟨fun _ => rfl, fun same => absurd same (by decide)⟩
  | succ index =>
      have behind : (data.flatMap escape ++ [slipEnd])[index]? = some byte := there
      have length : (frame data).length = (data.flatMap escape).length + 2 := by simp [frame]
      rcases Nat.lt_or_ge index (data.flatMap escape).length with before | after
      · rw [List.getElem?_append_left before] at behind
        have plain := mem_flatMap_escape (List.mem_of_getElem? behind)
        exact ⟨fun same => absurd same plain.1, fun same => absurd same plain.2⟩
      · rw [List.getElem?_append_right after, List.getElem?_singleton] at behind
        split at behind
        case isTrue last =>
          obtain rfl : slipEnd = byte := Option.some.inj behind
          exact ⟨fun same => absurd same (by decide), fun _ => by omega⟩
        case isFalse => cases behind

/-! ### Reading it back -/

theorem taken_slipEsc (escActive : Bool) : taken true escActive slipEsc = .goesOn true true [] := by
  cases escActive <;> rfl

/-- A byte stands for itself, or for the escape byte and a code. -/
theorem escape_taken (byte : UInt8) :
    (escape byte = [byte] ∧ taken true false byte = .goesOn true false [byte]) ∨
      ∃ code, escape byte = [slipEsc, code] ∧
        taken true true code = .goesOn true false [byte] := by
  by_cases isBegin : byte = slipBegin
  · subst isBegin
    exact .inr ⟨slipEscBegin, rfl, rfl⟩
  by_cases isEnd : byte = slipEnd
  · subst isEnd
    exact .inr ⟨slipEscEnd, rfl, rfl⟩
  by_cases isEsc : byte = slipEsc
  · subst isEsc
    exact .inr ⟨slipEscEsc, rfl, rfl⟩
  left
  rw [escape, taken, if_neg isBegin, if_neg isEnd, if_neg isEsc]
  simp [isBegin, isEnd, isEsc]

theorem decodeLoop_escape {cap processedNum : Nat} {byte : UInt8}
    (room : processedNum + (escape byte).length ≤ cap) (rest decoded : List UInt8) :
    decodeLoop cap (escape byte ++ rest) ⟨decoded, processedNum, true, false⟩ =
      decodeLoop cap rest
        ⟨decoded ++ [byte], processedNum + (escape byte).length, true, false⟩ := by
  rcases escape_taken byte with ⟨plain, reads⟩ | ⟨code, escaped, reads⟩
  · rw [plain] at room ⊢
    rw [List.length_singleton] at room ⊢
    rw [List.singleton_append, decodeLoop_cons (by omega), reads]
  · rw [escaped] at room ⊢
    simp only [List.length_cons, List.length_nil] at room ⊢
    rw [List.cons_append, List.singleton_append, decodeLoop_cons (by omega), taken_slipEsc]
    dsimp only
    rw [decodeLoop_cons (by omega), reads, List.append_nil]

theorem decodeLoop_flatMap_escape {cap processedNum : Nat} {data : List UInt8}
    (room : processedNum + (data.flatMap escape).length ≤ cap) (rest decoded : List UInt8) :
    decodeLoop cap (data.flatMap escape ++ rest) ⟨decoded, processedNum, true, false⟩ =
      decodeLoop cap rest
        ⟨decoded ++ data, processedNum + (data.flatMap escape).length, true, false⟩ := by
  induction data generalizing processedNum decoded with
  | nil => simp
  | cons byte data ih =>
      rw [List.flatMap_cons, List.length_append] at room ⊢
      rw [List.append_assoc, decodeLoop_escape (by omega), ih (by omega), List.append_assoc,
        List.singleton_append, Nat.add_assoc]

/-- The automaton stops right behind a frame, with its payload. -/
theorem decodeLoop_frame {cap : Nat} {data : List UInt8} (room : (frame data).length ≤ cap)
    (rest : List UInt8) :
    decodeLoop cap (frame data ++ rest) ⟨[], 0, false, false⟩ =
      (.none, ⟨data, (frame data).length, false, false⟩) := by
  have length : (frame data).length = (data.flatMap escape).length + 2 := by simp [frame]
  have start : taken false false slipBegin = .goesOn true false [] := rfl
  have stop : taken true false slipEnd = .ended := rfl
  rw [length] at room ⊢
  rw [frame, List.cons_append, List.append_assoc, decodeLoop_cons (by omega), start]
  dsimp only
  rw [decodeLoop_flatMap_escape (by omega), List.singleton_append, decodeLoop_cons (by omega), stop]
  simp only [List.append_nil, List.nil_append, Nat.zero_add]
  rw [Nat.add_comm 1]

/-- The encoder writes the frame or stays inside its buffer, only the ends of the frame are its
delimiters, and the automaton reads the payload back from the front of any bytes.  The count of
processed bytes, a `uint16_t`, does not wrap. -/
theorem slip_inverse {data : List UInt8} (some_ : data ≠ []) {capacity : Nat}
    (positive : 1 ≤ capacity) :
    (if (frame data).length ≤ capacity then slipEncodeWrites capacity data = (.ok, frame data)
      else ∃ bytes, slipEncodeWrites capacity data = (.noMem, bytes) ∧ bytes.length ≤ capacity) ∧
    (∀ index byte, (frame data)[index]? = some byte →
      (byte = slipBegin → index = 0) ∧ (byte = slipEnd → index + 1 = (frame data).length)) ∧
    ∀ (rest : List UInt8) (cap : Nat), (frame data).length ≤ cap →
      (frame data).length + rest.length ≤ 65535 →
      decodeLoop cap (frame data ++ rest) ⟨[], 0, false, false⟩ =
        (.none, ⟨data, (frame data).length, false, false⟩) ∧
      (UInt16.ofNat (frame data).length).toNat = (frame data).length := by
  refine ⟨slipEncodeWrites_spec positive some_, fun _ _ => frame_delimited, ?_⟩
  intro rest cap room short
  refine ⟨decodeLoop_frame room rest, ?_⟩
  rw [UInt16.toNat_ofNat']
  exact Nat.mod_eq_of_lt (by omega)

theorem slip_inverse_escaped :
    (if (frame [slipEnd]).length ≤ 3 then slipEncodeWrites 3 [slipEnd] = (.ok, frame [slipEnd])
      else ∃ bytes, slipEncodeWrites 3 [slipEnd] = (.noMem, bytes) ∧ bytes.length ≤ 3) ∧
    decodeLoop 4 (frame [slipEnd] ++ [7]) ⟨[], 0, false, false⟩ =
      (.none, ⟨[slipEnd], 4, false, false⟩) := by
  have inverse := slip_inverse (List.cons_ne_nil slipEnd []) (by decide : 1 ≤ 3)
  refine ⟨inverse.1, ?_⟩
  exact (inverse.2.2 [7] 4 (by decide) (by decide)).1

end EsInverter.Slip
