import EsInverter.Lib.LastOf
import EsInverter.RingBuf.Ring

/-!
# The ring buffer as a queue

A ring holds the bytes from its read position up to its write position.  Writing
appends to them and drops the oldest ones, clearing drops the oldest ones, and
reading copies a prefix.
-/

set_option autoImplicit false

namespace EsInverter.RingBuf

open Lib

variable {size : Nat}

/-- The bytes in the ring, the oldest first. -/
def contents (buf : RingBuf size) : List UInt8 :=
  List.ofFn fun i : Fin buf.ringbufLen => buf.buffer[advance buf.read i]

/-- The positions of a full ring coincide: only the flag tells it from an empty one. -/
def Consistent (buf : RingBuf size) : Prop := buf.isFull = true → buf.read = buf.write

theorem advance_val (position : Fin size) {count : Nat} (near : count ≤ size) :
    (advance position count).val =
      if position.val + count < size then position.val + count
      else position.val + count - size := by
  have inside := position.isLt
  rw [advance]
  split
  case isTrue below => exact Nat.mod_eq_of_lt below
  case isFalse above =>
    dsimp only
    rw [Nat.mod_eq_sub_mod (by omega), Nat.mod_eq_of_lt (by omega)]

theorem advance_injective {position : Fin size} {count other : Nat} (near : count < size)
    (nearOther : other < size) (same : advance position count = advance position other) :
    count = other := by
  have values := congrArg Fin.val same
  rw [advance_val position near.le, advance_val position nearOther.le] at values
  have inside := position.isLt
  split at values <;> split at values <;> omega

theorem advance_advance (position : Fin size) {first second : Nat} :
    advance (advance position first) second = advance position (first + second) := by
  apply Fin.ext
  simp only [advance]
  rw [Nat.mod_add_mod, Nat.add_assoc]

theorem advance_zero (position : Fin size) : advance position 0 = position :=
  Fin.ext (Nat.mod_eq_of_lt position.isLt)

theorem advance_size (position : Fin size) : advance position size = position := by
  apply Fin.ext
  simp only [advance]
  rw [Nat.add_mod_right]
  exact Nat.mod_eq_of_lt position.isLt

theorem ringbufLen_le (buf : RingBuf size) : buf.ringbufLen ≤ size := by
  have read := buf.read.isLt
  have write := buf.write.isLt
  rw [ringbufLen]
  split
  · exact le_rfl
  · split <;> omega

theorem ringbufLen_lt {buf : RingBuf size} (room : buf.isFull = false) : buf.ringbufLen < size := by
  have read := buf.read.isLt
  have write := buf.write.isLt
  rw [ringbufLen, if_neg (by simp [room])]
  split <;> omega

theorem ringbufLen_full {buf : RingBuf size} (full : buf.isFull = true) : buf.ringbufLen = size :=
  if_pos full

/-- The write position is right behind the last byte. -/
theorem advance_ringbufLen {buf : RingBuf size} (consistent : buf.Consistent) :
    advance buf.read buf.ringbufLen = buf.write := by
  have read := buf.read.isLt
  have write := buf.write.isLt
  cases full : buf.isFull with
  | true => rw [ringbufLen_full full, advance_size, consistent full]
  | false =>
      have length : buf.ringbufLen = if buf.write.val ≥ buf.read.val
          then buf.write.val - buf.read.val
          else size - (buf.read.val - buf.write.val) := if_neg (by rw [full]; exact nofun)
      apply Fin.ext
      rw [advance_val buf.read buf.ringbufLen_le]
      split at length <;> split <;> omega

/-- The length is the distance of the positions, unless they coincide. -/
theorem ringbufLen_eq {buf : RingBuf size} {count : Nat} (consistent : buf.Consistent)
    (near : count < size) (room : buf.isFull = false)
    (reaches : advance buf.read count = buf.write) : buf.ringbufLen = count := by
  apply advance_injective (ringbufLen_lt room) near
  rw [advance_ringbufLen consistent, reaches]

@[simp]
theorem length_contents (buf : RingBuf size) : buf.contents.length = buf.ringbufLen :=
  List.length_ofFn

theorem getElem_contents (buf : RingBuf size) {index : Nat} (inside : index < buf.contents.length) :
    buf.contents[index] = buf.buffer.get (advance buf.read index) := by
  simp [contents, Vector.get_eq_getElem]

theorem consistent_ringbufInit (positive : 0 < size) : (ringbufInit size positive).Consistent :=
  nofun

theorem contents_ringbufInit (positive : 0 < size) : (ringbufInit size positive).contents = [] := by
  apply List.eq_nil_of_length_eq_zero
  rw [length_contents]
  rfl

theorem consistent_writeByte (buf : RingBuf size) (byte : UInt8) :
    (buf.writeByte byte).Consistent := by
  intro full
  exact beq_iff_eq.mp full

/-- The cells behind a write hold what was there before, with the new byte behind it. -/
theorem getElem_written {buf : RingBuf size} (consistent : buf.Consistent) (byte : UInt8)
    {count : Nat} (inside : count < (buf.contents ++ [byte]).length)
    (kept : buf.isFull = true → count ≠ 0) :
    (buf.buffer.set buf.write byte).get (advance buf.read count) =
      (buf.contents ++ [byte])[count] := by
  rw [Vector.get_eq_getElem]
  have behind := advance_ringbufLen consistent
  rw [List.length_append, length_contents, List.length_singleton] at inside
  by_cases last : count = buf.ringbufLen
  · have position : advance buf.read count = buf.write := last ▸ behind
    rw [List.getElem_append_right (by rw [length_contents]; omega), List.getElem_singleton]
    simp only [position, Vector.getElem_set_self]
  · have before : count < buf.contents.length := by
      rw [length_contents]
      omega
    have other : advance buf.read count ≠ buf.write := by
      intro same
      cases full : buf.isFull with
      | true =>
          have length := ringbufLen_full full
          have start : advance buf.read count = advance buf.read 0 := by
            rw [same, advance_zero, consistent full]
          exact kept full (advance_injective (by omega) (by omega) start)
      | false =>
          have room := ringbufLen_lt full
          exact last (advance_injective (by omega) room (same.trans behind.symm))
    rw [List.getElem_append_left before, getElem_contents, Vector.get_eq_getElem,
      Vector.getElem_set_ne]
    exact fun same => other (Fin.ext same.symm)

theorem contents_writeByte {buf : RingBuf size} (consistent : buf.Consistent) (byte : UInt8) :
    (buf.writeByte byte).contents = lastOf size (buf.contents ++ [byte]) := by
  have behind := advance_ringbufLen consistent
  have positive := Nat.zero_lt_of_lt buf.read.isLt
  cases full : buf.isFull with
  | true =>
      have length := ringbufLen_full full
      have written : buf.writeByte byte =
          { buffer := buf.buffer.set buf.write byte, read := advance buf.read 1,
            write := advance buf.write 1, isFull := true } := by
        simp [writeByte, full, consistent full]
      have again : (buf.writeByte byte).ringbufLen = size := by
        rw [written]
        exact ringbufLen_full rfl
      have oldest : (buf.contents ++ [byte]).length - size = 1 := by
        rw [List.length_append, length_contents, length, List.length_singleton]
        omega
      rw [lastOf, oldest]
      apply List.ext_getElem
      · rw [length_contents, again, List.length_drop]
        omega
      · intro index left right
        rw [getElem_contents, List.getElem_drop,
          ← getElem_written consistent byte _ fun _ => by omega]
        simp only [written, advance_advance]
  | false =>
      have room := ringbufLen_lt full
      have written : buf.writeByte byte =
          { buffer := buf.buffer.set buf.write byte, read := buf.read,
            write := advance buf.write 1, isFull := buf.read == advance buf.write 1 } := by
        simp [writeByte, full]
      have next : advance buf.read (buf.ringbufLen + 1) = advance buf.write 1 := by
        rw [← behind, advance_advance]
      have longer : (buf.writeByte byte).ringbufLen = buf.ringbufLen + 1 := by
        by_cases wrapped : buf.read = advance buf.write 1
        · have filled : (buf.writeByte byte).ringbufLen = size := by
            rw [written]
            exact ringbufLen_full (beq_iff_eq.mpr wrapped)
          rw [filled]
          by_contra short
          have start : advance buf.read (buf.ringbufLen + 1) = advance buf.read 0 := by
            rw [next, advance_zero, ← wrapped]
          exact Nat.succ_ne_zero _ (advance_injective (by omega) (by omega) start)
        · have below : buf.ringbufLen + 1 < size := by
            by_contra full
            have all : buf.ringbufLen + 1 = size := by omega
            rw [all, advance_size] at next
            exact wrapped next
          apply ringbufLen_eq (consistent_writeByte buf byte) below
          · rw [written]
            exact beq_false_of_ne wrapped
          · rw [written]
            exact next
      have short : (buf.contents ++ [byte]).length ≤ size := by
        rw [List.length_append, length_contents, List.length_singleton]
        omega
      rw [lastOf_of_short short]
      apply List.ext_getElem
      · rw [length_contents, longer, List.length_append, length_contents, List.length_singleton]
      · intro index left right
        rw [getElem_contents, ← getElem_written consistent byte right (by simp [full])]
        simp only [written]

theorem consistent_ringbufWrite {buf next : RingBuf size} {data : List UInt8}
    (written : buf.ringbufWrite data = .ok next) : next.Consistent := by
  rw [ringbufWrite] at written
  split at written
  case isTrue => cases written
  case isFalse filled =>
    cases written
    cases data using List.reverseRecOn with
    | nil => exact absurd rfl filled
    | append_singleton data byte =>
        rw [List.foldl_append]
        exact consistent_writeByte _ byte

/-- A write appends and drops the oldest bytes. -/
theorem contents_ringbufWrite {buf next : RingBuf size} {data : List UInt8}
    (consistent : buf.Consistent) (written : buf.ringbufWrite data = .ok next) :
    next.contents = lastOf size (buf.contents ++ data) := by
  rw [ringbufWrite] at written
  split at written
  case isTrue => cases written
  case isFalse filled =>
    cases written
    clear filled
    induction data generalizing buf with
    | nil =>
        rw [List.append_nil, lastOf_of_short (by rw [length_contents]; exact buf.ringbufLen_le)]
        rfl
    | cons byte rest ih =>
        rw [List.foldl_cons, ih (consistent_writeByte buf byte), contents_writeByte consistent,
          lastOf_lastOf_append, List.append_assoc, List.singleton_append]

theorem readFrom_eq {buf : RingBuf size} (consistent : buf.Consistent) (remaining : Nat)
    {start : Nat} (first : 0 < start) (inside : start ≤ buf.ringbufLen) :
    buf.readFrom remaining start = (buf.contents.drop start).take remaining := by
  induction remaining generalizing start with
  | zero => rfl
  | succ remaining ih =>
      have most := buf.ringbufLen_le
      have behind := advance_ringbufLen consistent
      rw [readFrom]
      by_cases ended : start = buf.ringbufLen
      · rw [if_pos ⟨first, ended ▸ behind⟩, List.drop_of_length_le (by rw [length_contents]; omega)]
        rfl
      · have before : start < buf.contents.length := by
          rw [length_contents]
          omega
        have other : advance buf.read start ≠ buf.write := by
          intro same
          cases full : buf.isFull with
          | true =>
              have again : advance buf.read start = advance buf.read 0 := by
                rw [same, advance_zero, consistent full]
              have zero := advance_injective (by omega) (by omega) again
              omega
          | false =>
              exact ended (advance_injective (by omega) (ringbufLen_lt full)
                (same.trans behind.symm))
        rw [if_neg fun stop => other stop.2, ih (by omega) (by omega),
          List.drop_eq_getElem_cons before, List.take_succ_cons, getElem_contents,
          Vector.get_eq_getElem, Fin.getElem_fin]

theorem ringbufIsEmpty_iff {buf : RingBuf size} (consistent : buf.Consistent) :
    buf.ringbufIsEmpty = true ↔ buf.contents = [] := by
  have positive := Nat.zero_lt_of_lt buf.read.isLt
  have behind := advance_ringbufLen consistent
  rw [← List.length_eq_zero_iff, length_contents, ringbufIsEmpty, Bool.and_eq_true, beq_iff_eq,
    Bool.not_eq_true']
  constructor
  · rintro ⟨together, room⟩
    apply ringbufLen_eq consistent positive room
    rw [advance_zero, together]
  · intro empty
    rw [empty, advance_zero] at behind
    refine ⟨behind, ?_⟩
    by_contra full
    have length := ringbufLen_full (Bool.not_eq_false _ ▸ full)
    omega

/-- A read copies a prefix. -/
theorem ringbufRead_eq {buf : RingBuf size} {len : Nat} (consistent : buf.Consistent)
    (positive : 0 < len) : buf.ringbufRead len = .ok (buf.contents.take len) := by
  rw [ringbufRead, if_neg (by omega)]
  split
  case isTrue empty => rw [(ringbufIsEmpty_iff consistent).mp empty, List.take_nil]
  case isFalse filled =>
    rw [ringbufIsEmpty_iff consistent] at filled
    have some : 0 < buf.contents.length := List.length_pos_iff.mpr filled
    obtain ⟨more, rfl⟩ := Nat.exists_eq_succ_of_ne_zero positive.ne'
    have first : buf.buffer[advance buf.read 0] = buf.contents[0] := (getElem_contents buf some).symm
    have taken : buf.contents.take (more + 1) =
        buf.contents[0] :: (buf.contents.drop 1).take more :=
      (congrArg (List.take (more + 1)) (List.drop_eq_getElem_cons some)).trans
        List.take_succ_cons
    rw [length_contents] at some
    rw [readFrom, if_neg (fun stop => absurd stop.1 (Nat.lt_irrefl 0)), first,
      readFrom_eq consistent more (by omega) (by omega), taken]

theorem consistent_ringbufFlush (buf : RingBuf size) : buf.ringbufFlush.Consistent := nofun

theorem contents_ringbufFlush (buf : RingBuf size) : buf.ringbufFlush.contents = [] := by
  apply List.eq_nil_of_length_eq_zero
  rw [length_contents, ringbufFlush, ringbufLen, if_neg (by exact nofun), if_pos le_rfl]
  exact Nat.sub_self _

/-- Clearing drops the oldest bytes. -/
theorem ringbufClear_eq {buf next : RingBuf size} {bytesToClear : Nat}
    (consistent : buf.Consistent) (cleared : buf.ringbufClear bytesToClear = .ok next) :
    next.Consistent ∧ next.contents = buf.contents.drop bytesToClear := by
  have most := buf.ringbufLen_le
  have behind := advance_ringbufLen consistent
  rw [ringbufClear] at cleared
  by_cases zero : bytesToClear = 0
  · rw [if_pos zero] at cleared
    cases cleared
  · rw [if_neg zero] at cleared
    by_cases empty : buf.ringbufLen = 0
    · rw [if_pos empty] at cleared
      cases cleared
      rw [List.drop_of_length_le (by rw [length_contents]; omega)]
      exact ⟨consistent, List.eq_nil_of_length_eq_zero (by rw [length_contents, empty])⟩
    · rw [if_neg empty] at cleared
      by_cases all : bytesToClear ≥ buf.ringbufLen
      · rw [if_pos all] at cleared
        cases cleared
        rw [List.drop_of_length_le (by rw [length_contents]; omega)]
        exact ⟨consistent_ringbufFlush buf, contents_ringbufFlush buf⟩
      · rw [if_neg all] at cleared
        cases cleared
        have open_ : Consistent
            { buf with read := advance buf.read bytesToClear, isFull := false } := nofun
        refine ⟨open_, ?_⟩
        have left : ringbufLen { buf with read := advance buf.read bytesToClear, isFull := false } =
            buf.ringbufLen - bytesToClear := by
          apply ringbufLen_eq open_ (by omega) rfl
          rw [advance_advance, Nat.add_sub_cancel' (by omega)]
          exact behind
        apply List.ext_getElem
        · rw [length_contents, left, List.length_drop, length_contents]
        · intro index inside right
          rw [getElem_contents, List.getElem_drop, getElem_contents]
          simp only [advance_advance]

end EsInverter.RingBuf
