import Mathlib

/-!
# Little-endian fields read through a cursor

A pointer reaches arbitrary memory, whether or not the byte belongs to the
received buffer.  A reader therefore always succeeds in fetching a byte, and
the cursor records every index it dereferenced; staying inside a buffer is a
property of that record.  A reader may also stop with an error of the client's
choice, and the cursor of the stopped run is kept.
-/

namespace EsInverter.Lib.Wire

/-- The bytes reachable from a pointer, by offset. -/
abbrev Memory := Nat → UInt8

structure Cursor where
  ptr : Nat
  reads : List Nat
  deriving DecidableEq, Repr

namespace Cursor

def start : Cursor := ⟨0, []⟩

/-- Dereference the next `count` bytes in order. -/
def advance (cursor : Cursor) (count : Nat) : Cursor :=
  ⟨cursor.ptr + count, cursor.reads ++ List.range' cursor.ptr count⟩

@[simp]
theorem advance_zero (cursor : Cursor) : cursor.advance 0 = cursor := by
  simp [advance]

@[simp]
theorem advance_advance (cursor : Cursor) (first second : Nat) :
    (cursor.advance first).advance second = cursor.advance (first + second) := by
  simp only [advance, Nat.add_assoc, List.append_assoc, Cursor.mk.injEq, true_and]
  rw [List.append_cancel_left_eq]
  have joined : List.range' cursor.ptr first ++ List.range' (cursor.ptr + 1 * first) second =
      List.range' cursor.ptr (first + second) := List.range'_append
  rwa [Nat.one_mul] at joined

@[simp]
theorem advance_ptr (cursor : Cursor) (count : Nat) :
    (cursor.advance count).ptr = cursor.ptr + count := rfl

/-- From the start of a buffer the indices read are exactly the first ones. -/
theorem mem_reads_start (count index : Nat) :
    index ∈ (start.advance count).reads ↔ index < count := by
  simp [start, advance, List.mem_range'_1]

end Cursor

def Reader (ε α : Type) : Type := Memory → Cursor → Except ε α × Cursor

namespace Reader

variable {ε α β : Type}

protected def pure (value : α) : Reader ε α := fun _ cursor => (.ok value, cursor)

protected def bind (first : Reader ε α) (next : α → Reader ε β) : Reader ε β :=
  fun memory cursor =>
    match first memory cursor with
    | (.ok value, moved) => next value memory moved
    | (.error failure, moved) => (.error failure, moved)

instance : Monad (Reader ε) where
  pure := Reader.pure
  bind := Reader.bind

def fail (failure : ε) : Reader ε α := fun _ cursor => (.error failure, cursor)

/-- Stop with `failure` unless the condition holds. -/
def require (condition : Prop) [Decidable condition] (failure : ε) : Reader ε Unit :=
  if condition then pure () else fail failure

/-- An error of a pure computation becomes an error of the reader. -/
def lift (result : Except ε α) : Reader ε α := fun _ cursor => (result, cursor)

def byte : Reader ε UInt8 :=
  fun memory cursor => (.ok (memory cursor.ptr), cursor.advance 1)

/-- Copy the next `count` bytes. -/
def bytes (count : Nat) : Reader ε (List UInt8) :=
  fun memory cursor =>
    (.ok ((List.range count).map fun offset => memory (cursor.ptr + offset)), cursor.advance count)

/-- Run one reader for each element of an array, lowest index first. -/
def array (item : Reader ε α) : (count : Nat) → Reader ε (Vector α count)
  | 0 => pure #v[]
  | count + 1 => do
      let earlier ← array item count
      let last ← item
      pure (earlier.push last)

def uint16le : Reader ε UInt16 := do
  let low ← byte
  let high ← byte
  pure (low.toUInt16 ||| high.toUInt16 <<< 8)

def uint32le : Reader ε UInt32 := do
  let b0 ← byte
  let b1 ← byte
  let b2 ← byte
  let b3 ← byte
  pure (b0.toUInt32 ||| b1.toUInt32 <<< 8 ||| b2.toUInt32 <<< 16 ||| b3.toUInt32 <<< 24)

def uint64le : Reader ε UInt64 := do
  let b0 ← byte
  let b1 ← byte
  let b2 ← byte
  let b3 ← byte
  let b4 ← byte
  let b5 ← byte
  let b6 ← byte
  let b7 ← byte
  pure (b0.toUInt64 ||| b1.toUInt64 <<< 8 ||| b2.toUInt64 <<< 16 ||| b3.toUInt64 <<< 24 |||
    b4.toUInt64 <<< 32 ||| b5.toUInt64 <<< 40 ||| b6.toUInt64 <<< 48 ||| b7.toUInt64 <<< 56)

/-! ### Running a composed reader -/

@[simp]
theorem run_pure (value : α) (memory : Memory) (cursor : Cursor) :
    (pure value : Reader ε α) memory cursor = (.ok value, cursor) := rfl

theorem run_bind_ok {first : Reader ε α} {next : α → Reader ε β} {memory : Memory}
    {cursor moved : Cursor} {value : α} (ran : first memory cursor = (.ok value, moved)) :
    (first >>= next) memory cursor = next value memory moved := by
  change Reader.bind first next memory cursor = _
  rw [Reader.bind, ran]

theorem run_bind_error {first : Reader ε α} {next : α → Reader ε β} {memory : Memory}
    {cursor moved : Cursor} {failure : ε} (ran : first memory cursor = (.error failure, moved)) :
    (first >>= next) memory cursor = (.error failure, moved) := by
  change Reader.bind first next memory cursor = _
  rw [Reader.bind, ran]

theorem run_require_true {condition : Prop} [Decidable condition] (holds : condition) (failure : ε)
    (next : Unit → Reader ε β) (memory : Memory) (cursor : Cursor) :
    (require condition failure >>= next) memory cursor = next () memory cursor :=
  run_bind_ok (by rw [require, if_pos holds]; rfl)

theorem run_require_false {condition : Prop} [Decidable condition] (fails : ¬ condition)
    (failure : ε) (next : Unit → Reader ε β) (memory : Memory) (cursor : Cursor) :
    (require condition failure >>= next) memory cursor = (.error failure, cursor) :=
  run_bind_error (by rw [require, if_neg fails]; rfl)

/-- The word stored at an offset, low byte first. -/
def word16 (memory : Memory) (offset : Nat) : UInt16 :=
  (memory offset).toUInt16 ||| (memory (offset + 1)).toUInt16 <<< 8

theorem run_uint16le (memory : Memory) (cursor : Cursor) :
    (uint16le : Reader ε UInt16) memory cursor =
      (.ok (word16 memory cursor.ptr), cursor.advance 2) := by
  have step : (uint16le : Reader ε UInt16) memory cursor =
      (.ok (word16 memory cursor.ptr), (cursor.advance 1).advance 1) := rfl
  rw [step, Cursor.advance_advance]

/-- An array of bytes is the stretch of memory it was read from. -/
theorem run_array_byte (count : Nat) (memory : Memory) (cursor : Cursor) :
    (array byte count : Reader ε (Vector UInt8 count)) memory cursor =
      (.ok (Vector.ofFn fun index => memory (cursor.ptr + index)), cursor.advance count) := by
  induction count with
  | zero =>
      rw [Cursor.advance_zero]
      rfl
  | succ count ih =>
      have last : (byte : Reader ε UInt8) memory (cursor.advance count) =
          (.ok (memory (cursor.ptr + count)), (cursor.advance count).advance 1) := rfl
      rw [array, run_bind_ok ih, run_bind_ok last, run_pure, Cursor.advance_advance]
      rw [Vector.ofFn_succ]
      rfl

/-! ### Fixed consumption -/

/-- The reader succeeds on every memory and reads exactly `count` bytes. -/
def Consumes (reader : Reader ε α) (count : Nat) : Prop :=
  ∀ memory cursor, ∃ value, reader memory cursor = (.ok value, cursor.advance count)

namespace Consumes

theorem pure (value : α) : Consumes (pure value : Reader ε α) 0 :=
  fun _ cursor => ⟨value, by simp⟩

theorem bind {first : Reader ε α} {next : α → Reader ε β} {before after : Nat}
    (head : Consumes first before) (tail : ∀ value, Consumes (next value) after) :
    Consumes (first >>= next) (before + after) := by
  intro memory cursor
  obtain ⟨value, ran⟩ := head memory cursor
  obtain ⟨result, rest⟩ := tail value memory (cursor.advance before)
  refine ⟨result, ?_⟩
  rw [run_bind_ok ran, rest, Cursor.advance_advance]

theorem map {reader : Reader ε α} {count : Nat} (consumes : Consumes reader count) (f : α → β) :
    Consumes (f <$> reader) count :=
  consumes.bind fun value => Consumes.pure (f value)

theorem byte : Consumes (byte : Reader ε UInt8) 1 := fun _ _ => ⟨_, rfl⟩

theorem bytes (count : Nat) : Consumes (bytes count : Reader ε (List UInt8)) count :=
  fun _ _ => ⟨_, rfl⟩

theorem uint16le : Consumes (uint16le : Reader ε UInt16) 2 :=
  byte.bind fun _ => byte.bind fun _ => Consumes.pure _

theorem uint32le : Consumes (uint32le : Reader ε UInt32) 4 :=
  byte.bind fun _ => byte.bind fun _ => byte.bind fun _ => byte.bind fun _ => Consumes.pure _

theorem uint64le : Consumes (uint64le : Reader ε UInt64) 8 :=
  byte.bind fun _ => byte.bind fun _ => byte.bind fun _ => byte.bind fun _ =>
    byte.bind fun _ => byte.bind fun _ => byte.bind fun _ => byte.bind fun _ => Consumes.pure _

theorem array {item : Reader ε α} {width : Nat} (each : Consumes item width) (count : Nat) :
    Consumes (array item count) (width * count) := by
  induction count with
  | zero => exact Consumes.pure _
  | succ count ih => exact ih.bind fun earlier => each.bind fun last => Consumes.pure _

end Consumes

/-- Readers whose length is found by instance search from their parts. -/
class FixedWidth (reader : Reader ε α) (count : outParam Nat) : Prop where
  consumes : Consumes reader count

namespace FixedWidth

variable {count : Nat}

instance (value : α) : FixedWidth (pure value : Reader ε α) 0 := ⟨.pure value⟩

instance {first : Reader ε α} {next : α → Reader ε β} {before after : Nat}
    [head : FixedWidth first before] [tail : ∀ value, FixedWidth (next value) after] :
    FixedWidth (first >>= next) (before + after) :=
  ⟨head.consumes.bind fun value => (tail value).consumes⟩

instance {reader : Reader ε α} [width : FixedWidth reader count] (f : α → β) :
    FixedWidth (f <$> reader) count :=
  ⟨width.consumes.map f⟩

instance : FixedWidth (byte : Reader ε UInt8) 1 := ⟨.byte⟩
instance : FixedWidth (uint16le : Reader ε UInt16) 2 := ⟨.uint16le⟩
instance : FixedWidth (uint32le : Reader ε UInt32) 4 := ⟨.uint32le⟩
instance : FixedWidth (uint64le : Reader ε UInt64) 8 := ⟨.uint64le⟩

instance {item : Reader ε α} {width : Nat} [each : FixedWidth item width] (count : Nat) :
    FixedWidth (array item count) (width * count) :=
  ⟨each.consumes.array count⟩

end FixedWidth

/-! ### Decoding what was encoded -/

/-- The memory holds `encoded` from offset `at_` on. -/
def Holds (memory : Memory) (at_ : Nat) (encoded : List UInt8) : Prop :=
  ∀ index (inside : index < encoded.length), memory (at_ + index) = encoded[index]

theorem holds_append {memory : Memory} {at_ : Nat} {first second : List UInt8} :
    Holds memory at_ (first ++ second) ↔
      Holds memory at_ first ∧ Holds memory (at_ + first.length) second := by
  constructor
  · intro whole
    constructor
    · intro index inside
      rw [whole index (by simp; omega), List.getElem_append_left inside]
    · intro index inside
      have found := whole (first.length + index) (by simp; omega)
      rw [List.getElem_append_right (Nat.le_add_right _ _)] at found
      simpa [Nat.add_assoc] using found
  · rintro ⟨left, right⟩ index inside
    by_cases early : index < first.length
    · rw [left index early, List.getElem_append_left early]
    · have late : first.length ≤ index := Nat.le_of_not_lt early
      rw [List.getElem_append_right late]
      have found := right (index - first.length) (by simp at inside; omega)
      rwa [Nat.add_assoc, Nat.add_sub_cancel' late] at found

/-- The memory of a buffer with the given bytes, whatever lies behind it. -/
def ofBytes (received : List UInt8) (behind : Memory) : Memory :=
  fun index => received[index]?.getD (behind index)

theorem holds_ofBytes (received : List UInt8) (behind : Memory) :
    Holds (ofBytes received behind) 0 received := by
  intro index inside
  simp [ofBytes, List.getElem?_eq_getElem inside]

/-- Behind its last byte a buffer's memory is unconstrained. -/
theorem ofBytes_behind {received : List UInt8} {behind : Memory} {index : Nat}
    (outside : received.length ≤ index) : ofBytes received behind index = behind index := by
  simp [ofBytes, List.getElem?_eq_none outside]

/-- Where `encoded` is stored the reader returns `value` and moves behind it. -/
def Decodes (reader : Reader ε α) (encoded : List UInt8) (value : α) : Prop :=
  ∀ memory cursor, Holds memory cursor.ptr encoded →
    reader memory cursor = (.ok value, cursor.advance encoded.length)

namespace Decodes

theorem pure (value : α) : Decodes (pure value : Reader ε α) [] value :=
  fun _ _ _ => by simp

theorem bind {first : Reader ε α} {next : α → Reader ε β} {before after : List UInt8}
    {value : α} {result : β} (head : Decodes first before value)
    (tail : Decodes (next value) after result) :
    Decodes (first >>= next) (before ++ after) result := by
  intro memory cursor stored
  obtain ⟨storedHead, storedTail⟩ := holds_append.mp stored
  rw [run_bind_ok (head memory cursor storedHead), tail memory _ storedTail,
    Cursor.advance_advance, List.length_append]

/-- A passed check reads nothing. -/
theorem require {condition : Prop} [Decidable condition] {failure : ε}
    {next : Unit → Reader ε β} {encoded : List UInt8} {result : β} (holds : condition)
    (tail : Decodes (next ()) encoded result) :
    Decodes (Reader.require condition failure >>= next) encoded result := by
  intro memory cursor stored
  rw [run_require_true holds, tail memory cursor stored]

theorem map {reader : Reader ε α} {encoded : List UInt8} {value : α}
    (decodes : Decodes reader encoded value) (f : α → β) :
    Decodes (f <$> reader) encoded (f value) := by
  intro memory cursor stored
  change (reader >>= fun result => Pure.pure (f result)) memory cursor = _
  rw [run_bind_ok (decodes memory cursor stored), run_pure]

theorem byte (value : UInt8) : Decodes (byte : Reader ε UInt8) [value] value := by
  intro memory cursor stored
  have found : memory cursor.ptr = value := stored 0 (by simp)
  simp [Reader.byte, found]

/-- Elements stored one behind the other decode to the whole array. -/
theorem array {item : Reader ε α} {encode : α → List UInt8}
    (each : ∀ value, Decodes item (encode value) value) {count : Nat} (values : Vector α count) :
    Decodes (array item count) (values.toList.flatMap encode) values := by
  induction count with
  | zero =>
      have empty : values = #v[] := Vector.eq_empty
      subst empty
      exact Decodes.pure _
  | succ count ih =>
      obtain ⟨earlier, last, same⟩ : ∃ earlier last, values = Vector.push earlier last :=
        ⟨values.pop, values.back, (Vector.push_pop_back values).symm⟩
      subst same
      have step : Decodes (Reader.array item (count + 1))
          (earlier.toList.flatMap encode ++ (encode last ++ [])) (earlier.push last) := by
        rw [Reader.array]
        exact (ih earlier).bind ((each last).bind (Decodes.pure _))
      simpa [Vector.toList, Vector.push] using step

end Decodes

end Reader

/-! ### The encoders -/

def le16 (value : UInt16) : List UInt8 := [value.toUInt8, (value >>> 8).toUInt8]

def le32 (value : UInt32) : List UInt8 :=
  [value.toUInt8, (value >>> 8).toUInt8, (value >>> 16).toUInt8, (value >>> 24).toUInt8]

def le64 (value : UInt64) : List UInt8 :=
  [value.toUInt8, (value >>> 8).toUInt8, (value >>> 16).toUInt8, (value >>> 24).toUInt8,
    (value >>> 32).toUInt8, (value >>> 40).toUInt8, (value >>> 48).toUInt8, (value >>> 56).toUInt8]

@[simp] theorem length_le16 (value : UInt16) : (le16 value).length = 2 := rfl
@[simp] theorem length_le32 (value : UInt32) : (le32 value).length = 4 := rfl
@[simp] theorem length_le64 (value : UInt64) : (le64 value).length = 8 := rfl

/-- The bytes of a word put back at their positions give the word. -/
theorem le16_join (value : UInt16) :
    value.toUInt8.toUInt16 ||| (value >>> 8).toUInt8.toUInt16 <<< 8 = value := by
  apply UInt16.toBitVec_inj.mp
  apply BitVec.eq_of_getLsbD_eq
  intro bit inside
  simp [-UInt16.toUInt16_toUInt8]
  grind

theorem le32_join (value : UInt32) :
    value.toUInt8.toUInt32 ||| (value >>> 8).toUInt8.toUInt32 <<< 8 |||
      (value >>> 16).toUInt8.toUInt32 <<< 16 ||| (value >>> 24).toUInt8.toUInt32 <<< 24 = value := by
  apply UInt32.toBitVec_inj.mp
  apply BitVec.eq_of_getLsbD_eq
  intro bit inside
  simp [-UInt32.toUInt32_toUInt8]
  grind

theorem le64_join (value : UInt64) :
    value.toUInt8.toUInt64 ||| (value >>> 8).toUInt8.toUInt64 <<< 8 |||
      (value >>> 16).toUInt8.toUInt64 <<< 16 ||| (value >>> 24).toUInt8.toUInt64 <<< 24 |||
      (value >>> 32).toUInt8.toUInt64 <<< 32 ||| (value >>> 40).toUInt8.toUInt64 <<< 40 |||
      (value >>> 48).toUInt8.toUInt64 <<< 48 ||| (value >>> 56).toUInt8.toUInt64 <<< 56 = value := by
  apply UInt64.toBitVec_inj.mp
  apply BitVec.eq_of_getLsbD_eq
  intro bit inside
  simp [-UInt64.toUInt64_toUInt8]
  grind

namespace Reader.Decodes

variable {ε : Type}

theorem uint16le (value : UInt16) : Decodes (uint16le : Reader ε UInt16) (le16 value) value := by
  have step : Decodes (Reader.uint16le : Reader ε UInt16)
      ([value.toUInt8] ++ ([(value >>> 8).toUInt8] ++ []))
      (value.toUInt8.toUInt16 ||| (value >>> 8).toUInt8.toUInt16 <<< 8) := by
    rw [Reader.uint16le]
    exact (byte _).bind ((byte _).bind (pure _))
  rwa [le16_join] at step

theorem uint32le (value : UInt32) : Decodes (uint32le : Reader ε UInt32) (le32 value) value := by
  have step : Decodes (Reader.uint32le : Reader ε UInt32)
      ([value.toUInt8] ++ ([(value >>> 8).toUInt8] ++ ([(value >>> 16).toUInt8] ++
        ([(value >>> 24).toUInt8] ++ []))))
      (value.toUInt8.toUInt32 ||| (value >>> 8).toUInt8.toUInt32 <<< 8 |||
        (value >>> 16).toUInt8.toUInt32 <<< 16 ||| (value >>> 24).toUInt8.toUInt32 <<< 24) := by
    rw [Reader.uint32le]
    exact (byte _).bind ((byte _).bind ((byte _).bind ((byte _).bind (pure _))))
  rwa [le32_join] at step

theorem uint64le (value : UInt64) : Decodes (uint64le : Reader ε UInt64) (le64 value) value := by
  have step : Decodes (Reader.uint64le : Reader ε UInt64)
      ([value.toUInt8] ++ ([(value >>> 8).toUInt8] ++ ([(value >>> 16).toUInt8] ++
        ([(value >>> 24).toUInt8] ++ ([(value >>> 32).toUInt8] ++ ([(value >>> 40).toUInt8] ++
          ([(value >>> 48).toUInt8] ++ ([(value >>> 56).toUInt8] ++ []))))))))
      (value.toUInt8.toUInt64 ||| (value >>> 8).toUInt8.toUInt64 <<< 8 |||
        (value >>> 16).toUInt8.toUInt64 <<< 16 ||| (value >>> 24).toUInt8.toUInt64 <<< 24 |||
        (value >>> 32).toUInt8.toUInt64 <<< 32 ||| (value >>> 40).toUInt8.toUInt64 <<< 40 |||
        (value >>> 48).toUInt8.toUInt64 <<< 48 ||| (value >>> 56).toUInt8.toUInt64 <<< 56) := by
    rw [Reader.uint64le]
    exact (byte _).bind ((byte _).bind ((byte _).bind ((byte _).bind ((byte _).bind
      ((byte _).bind ((byte _).bind ((byte _).bind (pure _))))))))
  rwa [le64_join] at step

end Reader.Decodes

end EsInverter.Lib.Wire
