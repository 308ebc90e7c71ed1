import EsInverter.Fault
import EsInverter.Lib.Trimming

/-!
# The average of a dataset without its extreme values

A dataset is an array of items of one size, filled from the front.  The average
reads the items as unsigned integers of that size and sums them in 64 bits.
-/

set_option autoImplicit false

namespace EsInverter

open Lib

/-! ### The array of items -/

/-- `dataset_t`; a `size_t` has 32 bits. -/
structure Dataset where
  itemSize : UInt32
  itemsCap : UInt32
  itemsNow : UInt32
  buffer : List UInt8
  deriving DecidableEq, Repr

namespace Dataset

/-- `memcpy` to an offset of an array. -/
def writeAt (array : List UInt8) (offset : Nat) (bytes : List UInt8) : Except Fault (List UInt8) :=
  if offset + bytes.length ≤ array.length then
    .ok (array.take offset ++ bytes ++ array.drop (offset + bytes.length))
  else .error .outOfBounds

def readAt (array : List UInt8) (offset count : Nat) : Except Fault (List UInt8) :=
  if offset + count ≤ array.length then .ok ((array.drop offset).take count)
  else .error .outOfBounds

theorem writeAt_of_le {array bytes : List UInt8} {offset : Nat}
    (room : offset + bytes.length ≤ array.length) :
    writeAt array offset bytes =
      .ok (array.take offset ++ bytes ++ array.drop (offset + bytes.length)) := if_pos room

theorem readAt_of_le {array : List UInt8} {offset count : Nat}
    (inside : offset + count ≤ array.length) :
    readAt array offset count = .ok ((array.drop offset).take count) := if_pos inside

/-- The sizes of the unsigned integer types. -/
def itemSizes : List UInt32 := [1, 2, 4, 8]

def emDatasetInit (ds : Dataset) (buf : List UInt8) (itemSize itemsCap : UInt32) :
    Except Fault (Dataset × Int32) :=
  if itemSize = 0 then .error (.assertion .itemSize)
  else if itemsCap = 0 then .error (.assertion .itemsCap)
  else if itemSize ∉ itemSizes then .ok (ds, -1)
  else do
    let buffer ← writeAt buf 0 (List.replicate (itemSize * itemsCap).toNat 0)
    return ({ itemSize, itemsCap, itemsNow := 0, buffer }, 0)

def emDatasetAdd (ds : Dataset) (item : List UInt8) : Except Fault (Dataset × Int32) :=
  if ds.itemsNow ≥ ds.itemsCap then .ok (ds, -1)
  else do
    let bytes ← readAt item 0 ds.itemSize.toNat
    let buffer ← writeAt ds.buffer (ds.itemsNow * ds.itemSize).toNat bytes
    return ({ ds with buffer, itemsNow := ds.itemsNow + 1 }, 0)

/-! ### The average -/

/-- The bytes of an item as an unsigned integer, low byte first. -/
def value (item : List UInt8) : Nat := Nat.ofDigits 256 (item.map UInt8.toNat)

/-- The local variables of the loop. -/
structure Extremes where
  minItem : UInt64
  maxItem : UInt64
  sum : UInt64
  deriving DecidableEq, Repr

def Extremes.initial : Extremes := ⟨0xFFFFFFFFFFFFFFFF, 0, 0⟩

/-- The body of each case of the `switch`. -/
def Extremes.visit (extremes : Extremes) (val : UInt64) : Extremes :=
  { minItem := if val < extremes.minItem then val else extremes.minItem
    maxItem := if val > extremes.maxItem then val else extremes.maxItem
    sum := extremes.sum + val }

/-- The loop from item `i` on; `none` is the default case. -/
def loop (ds : Dataset) : (remaining : Nat) → (i : UInt32) → Extremes →
    Except Fault (Option Extremes)
  | 0, _, extremes => .ok (some extremes)
  | remaining + 1, i, extremes =>
      if ds.itemSize ∉ itemSizes then .ok none
      else do
        let item ← readAt ds.buffer (i * ds.itemSize).toNat ds.itemSize.toNat
        ds.loop remaining (i + 1) (extremes.visit (UInt64.ofNat (value item)))

def emDatasetAvgWithoutExtreme (ds : Option Dataset) : Except Fault UInt64 :=
  match ds with
  | none => .ok (-1)
  | some ds =>
      if ds.itemsNow < 3 then .ok (-2)
      else do
        match ← ds.loop ds.itemsNow.toNat 0 .initial with
        | none => return (-3)
        | some extremes =>
            return (extremes.sum - extremes.minItem - extremes.maxItem) /
              (ds.itemsNow - 2).toUInt64

/-! ### Which items a dataset holds -/

structure Holds (items : List (List UInt8)) (ds : Dataset) : Prop where
  itemSize : ds.itemSize ∈ itemSizes
  sizes : ∀ item ∈ items, item.length = ds.itemSize.toNat
  count : ds.itemsNow.toNat = items.length
  fits : items.length ≤ ds.itemsCap.toNat
  /-- The array that the caller gave, in an address space of 32 bits. -/
  room : ds.itemSize.toNat * ds.itemsCap.toNat ≤ ds.buffer.length
  addressable : ds.buffer.length < 2 ^ 32
  stored : ds.buffer.take (items.length * ds.itemSize.toNat) = items.flatten

theorem length_flatten_of_sizes {items : List (List UInt8)} {size : Nat}
    (sizes : ∀ item ∈ items, item.length = size) : items.flatten.length = items.length * size := by
  rw [List.length_flatten, List.map_congr_left sizes, List.map_const', List.sum_replicate,
    smul_eq_mul]

theorem itemSize_cases {itemSize : UInt32} (inside : itemSize ∈ itemSizes) :
    itemSize.toNat = 1 ∨ itemSize.toNat = 2 ∨ itemSize.toNat = 4 ∨ itemSize.toNat = 8 := by
  simp only [itemSizes, List.mem_cons, List.not_mem_nil, or_false] at inside
  rcases inside with rfl | rfl | rfl | rfl <;> decide

namespace Holds

variable {items : List (List UInt8)} {ds : Dataset}

theorem positive (holds : Holds items ds) : 0 < ds.itemSize.toNat := by
  rcases itemSize_cases holds.itemSize with size | size | size | size <;> omega

/-- The offsets of the items do not wrap. -/
theorem offset_le (holds : Holds items ds) {i : Nat} (inside : i ≤ items.length) :
    i * ds.itemSize.toNat ≤ ds.buffer.length := by
  calc i * ds.itemSize.toNat ≤ ds.itemsCap.toNat * ds.itemSize.toNat :=
        Nat.mul_le_mul_right _ (Nat.le_trans inside holds.fits)
    _ = ds.itemSize.toNat * ds.itemsCap.toNat := Nat.mul_comm _ _
    _ ≤ ds.buffer.length := holds.room

theorem toNat_offset (holds : Holds items ds) {i : UInt32} (inside : i.toNat ≤ items.length) :
    (i * ds.itemSize).toNat = i.toNat * ds.itemSize.toNat := by
  rw [UInt32.toNat_mul]
  exact Nat.mod_eq_of_lt (Nat.lt_of_le_of_lt (holds.offset_le inside) holds.addressable)

/-- Reading an item that was added. -/
theorem readAt_item (holds : Holds items ds) {i : UInt32} (inside : i.toNat < items.length) :
    readAt ds.buffer (i * ds.itemSize).toNat ds.itemSize.toNat = .ok items[i.toNat] := by
  have size := holds.sizes _ (List.getElem_mem inside)
  have next := holds.offset_le (i := i.toNat + 1) inside
  rw [Nat.add_mul, Nat.one_mul] at next
  rw [holds.toNat_offset (Nat.le_of_lt inside), readAt_of_le next]
  have split : items = items.take i.toNat ++ items[i.toNat] :: items.drop (i.toNat + 1) := by
    rw [← List.drop_eq_getElem_cons, List.take_append_drop]
  have before : (items.take i.toNat).flatten.length = i.toNat * ds.itemSize.toNat := by
    rw [length_flatten_of_sizes fun item mem => holds.sizes item (List.mem_of_mem_take mem),
      List.length_take, Nat.min_eq_left (Nat.le_of_lt inside)]
  have last : ds.itemSize.toNat ≤
      items.length * ds.itemSize.toNat - i.toNat * ds.itemSize.toNat := by
    rw [← Nat.sub_mul]
    exact Nat.le_mul_of_pos_left _ (by omega)
  have same : ((ds.buffer.take (items.length * ds.itemSize.toNat)).drop
      (i.toNat * ds.itemSize.toNat)).take ds.itemSize.toNat = items[i.toNat] := by
    rw [holds.stored, congrArg List.flatten split, List.flatten_append, List.flatten_cons,
      ← before, List.drop_left, ← size, List.take_left]
  rw [List.drop_take, List.take_take, Nat.min_eq_left last] at same
  rw [same]

/-- An item is added behind the others, or the dataset is full. -/
theorem add_full (holds : Holds items ds) (full : items.length = ds.itemsCap.toNat)
    (item : List UInt8) : emDatasetAdd ds item = .ok (ds, -1) := by
  have reached : ds.itemsNow ≥ ds.itemsCap := by
    rw [ge_iff_le, UInt32.le_iff_toNat_le, holds.count, full]
  rw [emDatasetAdd, if_pos reached]

theorem add_free (holds : Holds items ds) (free : items.length < ds.itemsCap.toNat)
    {item : List UInt8} (size : item.length = ds.itemSize.toNat) :
    ∃ next, emDatasetAdd ds item = .ok (next, 0) ∧ Holds (items ++ [item]) next ∧
      next.itemSize = ds.itemSize ∧ next.itemsCap = ds.itemsCap := by
  have open_ : ¬ ds.itemsNow ≥ ds.itemsCap := by
    rw [ge_iff_le, UInt32.le_iff_toNat_le, holds.count]
    omega
  have read : readAt item 0 ds.itemSize.toNat = .ok item := by
    rw [readAt, if_pos (by omega), List.drop_zero, ← size, List.take_length]
  have offset : (ds.itemsNow * ds.itemSize).toNat = items.length * ds.itemSize.toNat := by
    rw [holds.toNat_offset (Nat.le_of_eq holds.count), holds.count]
  have room : items.length * ds.itemSize.toNat + item.length ≤ ds.buffer.length := by
    have last := Nat.mul_le_mul_left ds.itemSize.toNat free
    have whole := holds.room
    rw [Nat.succ_eq_add_one, Nat.mul_add, Nat.mul_one, Nat.mul_comm] at last
    omega
  have same_length : (ds.buffer.take (items.length * ds.itemSize.toNat) ++ item ++
      ds.buffer.drop (items.length * ds.itemSize.toNat + item.length)).length =
        ds.buffer.length := by
    rw [List.length_append, List.length_append, List.length_take, List.length_drop]
    omega
  refine ⟨{ ds with
    buffer := ds.buffer.take (items.length * ds.itemSize.toNat) ++ item ++
      ds.buffer.drop (items.length * ds.itemSize.toNat + item.length)
    itemsNow := ds.itemsNow + 1 }, ?_, ⟨holds.itemSize, ?_, ?_, ?_, ?_, ?_, ?_⟩, rfl, rfl⟩
  · rw [emDatasetAdd, if_neg open_, read, ok_bind, offset, writeAt_of_le room]
    rfl
  · intro other mem
    rcases List.mem_append.mp mem with old | new
    · exact holds.sizes other old
    · rw [List.mem_singleton.mp new, size]
  · have bound := ds.itemsCap.toNat_lt
    have one : (1 : UInt32).toNat = 1 := rfl
    rw [UInt32.toNat_add, holds.count, one, List.length_append, List.length_singleton]
    exact Nat.mod_eq_of_lt (by omega)
  · rw [List.length_append]
    exact free
  · rw [same_length]
    exact holds.room
  · rw [same_length]
    exact holds.addressable
  · have before : (ds.buffer.take (items.length * ds.itemSize.toNat)).length =
        items.length * ds.itemSize.toNat := by
      rw [List.length_take]
      omega
    have size_ : (items ++ [item]).length * ds.itemSize.toNat =
        (ds.buffer.take (items.length * ds.itemSize.toNat) ++ item).length := by
      rw [List.length_append, List.length_append, List.length_singleton, before, size, Nat.add_mul,
        Nat.one_mul]
    rw [size_, List.take_left, holds.stored, List.flatten_append, List.flatten_singleton]

end Holds

/-! ### Filling a dataset -/

/-- `em_dataset_add` for each of the items. -/
def addAll (ds : Dataset) : List (List UInt8) → Except Fault Dataset
  | [] => .ok ds
  | item :: rest => do
      let (ds, _) ← emDatasetAdd ds item
      ds.addAll rest

theorem holds_init {itemSize itemsCap : UInt32} {buf : List UInt8} (known : itemSize ∈ itemSizes)
    (positive : 0 < itemsCap) (room : itemSize.toNat * itemsCap.toNat ≤ buf.length)
    (addressable : buf.length < 2 ^ 32) (blank : Dataset) :
    ∃ ds, emDatasetInit blank buf itemSize itemsCap = .ok (ds, 0) ∧ Holds [] ds ∧
      ds.itemSize = itemSize ∧ ds.itemsCap = itemsCap := by
  have zero : itemSize ≠ 0 := by
    rintro rfl
    revert known
    decide
  have empty : itemsCap ≠ 0 := (UInt32.ne_of_lt positive).symm
  have product : (itemSize * itemsCap).toNat = itemSize.toNat * itemsCap.toNat := by
    rw [UInt32.toNat_mul]
    exact Nat.mod_eq_of_lt (Nat.lt_of_le_of_lt room addressable)
  have fits : 0 + (List.replicate (itemSize * itemsCap).toNat (0 : UInt8)).length ≤
      buf.length := by
    rw [List.length_replicate, product, Nat.zero_add]
    exact room
  have length : (buf.take 0 ++ List.replicate (itemSize * itemsCap).toNat 0 ++
      buf.drop (0 + (List.replicate (itemSize * itemsCap).toNat (0 : UInt8)).length)).length =
        buf.length := by
    rw [List.length_append, List.length_append, List.length_take, List.length_drop]
    omega
  refine ⟨_, by rw [emDatasetInit, if_neg zero, if_neg empty, if_neg (not_not.mpr known),
    writeAt_of_le fits]; rfl, ⟨known, nofun, rfl, Nat.zero_le _, ?_, ?_, ?_⟩, rfl, rfl⟩
  · rw [length]
    exact room
  · rw [length]
    exact addressable
  · rw [List.length_nil, Nat.zero_mul]
    rfl

/-- A dataset keeps the items that were added first, up to its capacity. -/
theorem holds_addAll {items adds : List (List UInt8)} {ds : Dataset} (holds : Holds items ds)
    (sizes : ∀ item ∈ adds, item.length = ds.itemSize.toNat) :
    ∃ next, ds.addAll adds = .ok next ∧
      Holds ((items ++ adds).take ds.itemsCap.toNat) next ∧ next.itemSize = ds.itemSize ∧
      next.itemsCap = ds.itemsCap := by
  induction adds generalizing items ds with
  | nil =>
      refine ⟨ds, rfl, ?_, rfl, rfl⟩
      rw [List.append_nil, List.take_of_length_le holds.fits]
      exact holds
  | cons item rest ih =>
      obtain ⟨size, later⟩ := List.forall_mem_cons.mp sizes
      rcases Nat.lt_or_eq_of_le holds.fits with free | full
      · obtain ⟨next, added, holdsNext, sameSize, sameCap⟩ := holds.add_free free size
        obtain ⟨last, ran, holdsLast, lastSize, lastCap⟩ :=
          ih holdsNext (by rw [sameSize]; exact later)
        refine ⟨last, ?_, ?_, lastSize.trans sameSize, lastCap.trans sameCap⟩
        · rw [addAll, added, ok_bind]
          exact ran
        · rw [sameCap, List.append_assoc] at holdsLast
          exact holdsLast
      · obtain ⟨last, ran, holdsLast, lastSize, lastCap⟩ := ih holds later
        refine ⟨last, ?_, ?_, lastSize, lastCap⟩
        · rw [addAll, holds.add_full full item, ok_bind]
          exact ran
        · rw [← full, List.take_left] at holdsLast ⊢
          exact holdsLast

/-! ### The loop over the items -/

theorem loop_from {items : List (List UInt8)} {ds : Dataset} (holds : Holds items ds)
    (remaining : Nat) (i : UInt32) (position : i.toNat + remaining = items.length)
    (extremes : Extremes) :
    ds.loop remaining i extremes =
      .ok (some (((items.drop i.toNat).map fun item => UInt64.ofNat (value item)).foldl
        Extremes.visit extremes)) := by
  induction remaining generalizing i extremes with
  | zero =>
      rw [loop, List.drop_of_length_le (by omega)]
      rfl
  | succ remaining ih =>
      have inside : i.toNat < items.length := by omega
      have next : (i + 1).toNat = i.toNat + 1 := by
        have bound := ds.itemsCap.toNat_lt
        have fits := holds.fits
        have one : (1 : UInt32).toNat = 1 := rfl
        rw [UInt32.toNat_add, one]
        exact Nat.mod_eq_of_lt (by omega)
      rw [loop, if_neg (not_not.mpr holds.itemSize), holds.readAt_item inside, ok_bind,
        ih (i + 1) (by omega), next, List.drop_eq_getElem_cons inside, List.map_cons,
        List.foldl_cons]

/-! ### The three local variables -/

/-- The least of the values; there is one. -/
def smallest (values : List Nat) : Nat := values.min?.getD 0

def largest (values : List Nat) : Nat := values.max?.getD 0

/-- What the values sum to without their least and their greatest one. -/
def trimmedSum (values : List Nat) : Nat := values.sum - smallest values - largest values

theorem isLeast_smallest {values : List Nat} (some_ : values ≠ []) :
    IsLeast {value | value ∈ values} (smallest values) := by
  obtain ⟨first, rest, rfl⟩ := List.exists_cons_of_ne_nil some_
  exact isLeast_foldl_min first rest

theorem isGreatest_largest {values : List Nat} (some_ : values ≠ []) :
    IsGreatest {value | value ∈ values} (largest values) := by
  obtain ⟨first, rest, rfl⟩ := List.exists_cons_of_ne_nil some_
  exact isGreatest_foldl_max first rest

theorem exists_trimmed_of_length {values : List Nat} (two : 2 ≤ values.length) :
    ∃ rest, Trimmed values (smallest values) (largest values) rest ∧
      trimmedSum values = rest.sum := by
  have some_ : values ≠ [] := List.ne_nil_of_length_pos (by omega)
  obtain ⟨rest, trimmed⟩ :=
    exists_trimmed (isLeast_smallest some_) (isGreatest_largest some_) two
  refine ⟨rest, trimmed, ?_⟩
  rw [trimmedSum, trimmed.sum]
  omega

theorem toNat_visit_minItem (extremes : Extremes) (val : UInt64) :
    (extremes.visit val).minItem.toNat = min extremes.minItem.toNat val.toNat := by
  change (if val < extremes.minItem then val else extremes.minItem).toNat = _
  by_cases less : val < extremes.minItem
  · rw [if_pos less, Nat.min_eq_right (Nat.le_of_lt (UInt64.lt_iff_toNat_lt.mp less))]
  · rw [if_neg less, Nat.min_eq_left (UInt64.le_iff_toNat_le.mp (UInt64.not_lt.mp less))]

theorem toNat_visit_maxItem (extremes : Extremes) (val : UInt64) :
    (extremes.visit val).maxItem.toNat = max extremes.maxItem.toNat val.toNat := by
  change (if val > extremes.maxItem then val else extremes.maxItem).toNat = _
  by_cases greater : val > extremes.maxItem
  · rw [if_pos greater, Nat.max_eq_right (Nat.le_of_lt (UInt64.lt_iff_toNat_lt.mp greater))]
  · rw [if_neg greater, Nat.max_eq_left (UInt64.le_iff_toNat_le.mp (UInt64.not_lt.mp greater))]

/-- The running values of the loop, as natural numbers. -/
theorem toNat_foldl_visit (words : List UInt64) (start : Extremes) :
    (words.foldl Extremes.visit start).minItem.toNat =
        (words.map UInt64.toNat).foldl min start.minItem.toNat ∧
      (words.foldl Extremes.visit start).maxItem.toNat =
        (words.map UInt64.toNat).foldl max start.maxItem.toNat ∧
      (words.foldl Extremes.visit start).sum.toNat =
        (start.sum.toNat + (words.map UInt64.toNat).sum) % 2 ^ 64 := by
  induction words generalizing start with
  | nil =>
      refine ⟨rfl, rfl, ?_⟩
      exact (Nat.mod_eq_of_lt start.sum.toNat_lt).symm
  | cons word rest ih =>
      obtain ⟨least, greatest, sum⟩ := ih (start.visit word)
      have total : (start.visit word).sum.toNat = (start.sum.toNat + word.toNat) % 2 ^ 64 :=
        UInt64.toNat_add _ _
      rw [List.foldl_cons, List.map_cons, List.foldl_cons, List.foldl_cons, List.sum_cons]
      refine ⟨?_, ?_, ?_⟩
      · rw [least, toNat_visit_minItem]
      · rw [greatest, toNat_visit_maxItem]
      · rw [sum, total, Nat.mod_add_mod, Nat.add_assoc]

/-! ### The average of a dataset -/

section Average

variable {items : List (List UInt8)} {ds : Dataset}

/-- The items as unsigned integers. -/
def values (items : List (List UInt8)) : List Nat := items.map value

theorem exists_trimmed_values (two : 2 ≤ items.length) :
    ∃ rest, Trimmed (values items) (smallest (values items)) (largest (values items)) rest ∧
      trimmedSum (values items) = rest.sum :=
  exists_trimmed_of_length (by rwa [values, List.length_map])

theorem value_lt (holds : Holds items ds) {item : List UInt8} (inside : item ∈ items) :
    value item < 256 ^ ds.itemSize.toNat := by
  have digits : ∀ digit ∈ item.map UInt8.toNat, digit < 256 := by
    intro digit mem
    obtain ⟨byte, _, rfl⟩ := List.mem_map.mp mem
    exact byte.toNat_lt
  have bound := Nat.ofDigits_lt_base_pow_length (by decide) digits
  rwa [List.length_map, holds.sizes item inside] at bound

/-- An item fits 64 bits. -/
theorem value_lt_word (holds : Holds items ds) {item : List UInt8} (inside : item ∈ items) :
    value item < 2 ^ 64 := by
  have bound := value_lt holds inside
  have power : 256 ^ ds.itemSize.toNat ≤ 256 ^ 8 := by
    refine Nat.pow_le_pow_right (by decide) ?_
    rcases itemSize_cases holds.itemSize with size | size | size | size <;> omega
  exact Nat.lt_of_lt_of_le bound power

theorem toNat_words (holds : Holds items ds) :
    (items.map fun item => UInt64.ofNat (value item)).map UInt64.toNat = values items := by
  rw [List.map_map]
  apply List.map_congr_left
  intro item inside
  exact UInt64.toNat_ofNat_of_lt' (value_lt_word holds inside)

/-- What is computed: the trimmed sum has wrapped. -/
theorem avg_of_holds (holds : Holds items ds) (three : 3 ≤ items.length) :
    ∃ average, emDatasetAvgWithoutExtreme (some ds) = .ok average ∧
      average.toNat = trimmedSum (values items) % 2 ^ 64 / (items.length - 2) := by
  have many : ¬ ds.itemsNow < 3 := by
    have least : (3 : UInt32).toNat = 3 := rfl
    rw [UInt32.lt_iff_toNat_lt, holds.count, least]
    omega
  have ran := loop_from holds ds.itemsNow.toNat 0 (by rw [holds.count]; exact Nat.zero_add _)
    .initial
  obtain ⟨low, high, sum⟩ := toNat_foldl_visit
    (items.map fun item => UInt64.ofNat (value item)) .initial
  rw [toNat_words holds] at low high sum
  have some_ : values items ≠ [] := by
    apply List.ne_nil_of_length_pos
    rw [values, List.length_map]
    omega
  have below : ∀ number ∈ values items, number ≤ Extremes.initial.minItem.toNat := by
    intro number mem
    obtain ⟨item, inside, rfl⟩ := List.mem_map.mp mem
    exact Nat.le_of_lt_succ (value_lt_word holds inside)
  have least := (isLeast_of_foldl_min some_ below).unique (isLeast_smallest some_)
  have greatest := (isGreatest_of_foldl_max some_ fun number _ => Nat.zero_le number).unique
    (isGreatest_largest some_)
  rw [least] at low
  rw [show Extremes.initial.maxItem.toNat = 0 from rfl, greatest] at high
  rw [show Extremes.initial.sum.toNat = 0 from rfl, Nat.zero_add] at sum
  have divisor : (ds.itemsNow - 2).toUInt64.toNat = items.length - 2 := by
    have two : (2 : UInt32) ≤ ds.itemsNow := by
      rw [UInt32.le_iff_toNat_le, holds.count]
      exact Nat.le_of_succ_le three
    rw [UInt32.toNat_toUInt64, UInt32.toNat_sub_of_le _ _ two, holds.count]
    rfl
  obtain ⟨rest, trimmed, same⟩ := exists_trimmed_values (Nat.le_of_succ_le three)
  refine ⟨_, by rw [emDatasetAvgWithoutExtreme, if_neg many, ran]; rfl, ?_⟩
  rw [UInt64.toNat_div, divisor, UInt64.toNat_sub, UInt64.toNat_sub, UInt32.toNat_zero,
    List.drop_zero, low, high, sum, same, trimmed.sum]
  congr 1
  have lowFits := low ▸ UInt64.toNat_lt _
  have highFits := high ▸ UInt64.toNat_lt _
  omega

theorem trimmedSum_perm {first second : List Nat} (some_ : first ≠ []) (perm : first.Perm second) :
    trimmedSum first = trimmedSum second := by
  have other : second ≠ [] := by
    rintro rfl
    exact some_ perm.eq_nil
  have same : {value | value ∈ first} = {value | value ∈ second} :=
    Set.ext fun value => perm.mem_iff
  have least := (same ▸ isLeast_smallest some_).unique (isLeast_smallest other)
  have greatest := (same ▸ isGreatest_largest some_).unique (isGreatest_largest other)
  rw [trimmedSum, trimmedSum, perm.sum_eq, least, greatest]

/-- The average is the trimmed mean, lies between the extreme items and is the same for every
order of the items. -/
structure Averages (items : List (List UInt8)) (ds : Dataset) : Prop where
  mean : ∃ average, emDatasetAvgWithoutExtreme (some ds) = .ok average ∧
    average.toNat = trimmedSum (values items) / (items.length - 2) ∧
    smallest (values items) ≤ average.toNat ∧ average.toNat ≤ largest (values items)
  order : ∀ others other, Holds others other → others.Perm items →
    emDatasetAvgWithoutExtreme (some other) = emDatasetAvgWithoutExtreme (some ds)

theorem order_of_holds (holds : Holds items ds) (three : 3 ≤ items.length)
    {others : List (List UInt8)} {other : Dataset} (holdsOther : Holds others other)
    (perm : others.Perm items) :
    emDatasetAvgWithoutExtreme (some other) = emDatasetAvgWithoutExtreme (some ds) := by
  have size : others.length = items.length := perm.length_eq
  obtain ⟨first, ran, same⟩ := avg_of_holds holds three
  obtain ⟨second, ranOther, sameOther⟩ := avg_of_holds holdsOther (size ▸ three)
  have some_ : values others ≠ [] := by
    apply List.ne_nil_of_length_pos
    rw [values, List.length_map]
    omega
  rw [trimmedSum_perm some_ (perm.map value), size, ← values, ← same] at sameOther
  rw [ran, ranOther, UInt64.toNat_inj.mp sameOther]

/-- A quotient by less than a full turn tells a number from what is left after it wrapped. -/
theorem mod_div_eq_iff {number divisor : Nat} (positive : 0 < divisor) (small : divisor ≤ 2 ^ 64) :
    number % 2 ^ 64 / divisor = number / divisor ↔ number < 2 ^ 64 := by
  constructor
  · intro same
    by_contra large
    have turn : number % 2 ^ 64 + divisor ≤ number := by omega
    have more := Nat.div_le_div_right (c := divisor) turn
    rw [Nat.add_div_right _ positive, same] at more
    exact Nat.not_succ_le_self _ more
  · intro fits
    rw [Nat.mod_eq_of_lt fits]

theorem averages_iff (holds : Holds items ds) (three : 3 ≤ items.length) :
    Averages items ds ↔ trimmedSum (values items) < 2 ^ 64 := by
  have bound := ds.itemsCap.toNat_lt
  have fits := holds.fits
  obtain ⟨average, ran, computed⟩ := avg_of_holds holds three
  have positive : 0 < items.length - 2 := by omega
  rw [← mod_div_eq_iff positive (by omega), ← computed]
  constructor
  · rintro ⟨⟨mean, ranMean, same, _⟩, _⟩
    obtain rfl : average = mean := Except.ok.inj (ran.symm.trans ranMean)
    exact same
  · intro same
    have size : (values items).length = items.length := List.length_map _
    obtain ⟨rest, trimmed, sum⟩ := exists_trimmed_values (Nat.le_of_succ_le three)
    have length := trimmed.length
    have between := trimmed.average (by omega)
    have count : items.length - 2 = rest.length := by omega
    rw [sum, count] at same
    rw [← same] at between
    exact ⟨⟨average, ran, by rw [sum, count, same], between⟩,
      fun _ _ holdsOther perm => order_of_holds holds three holdsOther perm⟩

/-- Items of at most four bytes never make the sum wrap. -/
theorem trimmedSum_lt (holds : Holds items ds) (narrow : ds.itemSize ≠ 8)
    (three : 3 ≤ items.length) : trimmedSum (values items) < 2 ^ 64 := by
  have size : (values items).length = items.length := List.length_map _
  obtain ⟨rest, trimmed, sum⟩ := exists_trimmed_values (Nat.le_of_succ_le three)
  have short : ds.itemSize.toNat ≤ 4 := by
    have eight : ds.itemSize.toNat ≠ 8 := fun same => narrow (UInt32.toNat_inj.mp same)
    rcases itemSize_cases holds.itemSize with known | known | known | known <;> omega
  have word : largest (values items) ≤ 2 ^ 32 := by
    have some_ : values items ≠ [] := List.ne_nil_of_length_pos (by omega)
    obtain ⟨item, inside, same⟩ := List.mem_map.mp (isGreatest_largest some_).1
    rw [← same]
    have power : 256 ^ ds.itemSize.toNat ≤ 256 ^ 4 := Nat.pow_le_pow_right (by decide) short
    exact Nat.le_of_lt (Nat.lt_of_lt_of_le (value_lt holds inside) power)
  have bound := ds.itemsCap.toNat_lt
  have fits := holds.fits
  have length := trimmed.length
  rw [sum]
  calc rest.sum ≤ rest.length * largest (values items) :=
        List.sum_le_card_nsmul rest _ trimmed.high
    _ ≤ rest.length * 2 ^ 32 := Nat.mul_le_mul_left _ word
    _ < 2 ^ 32 * 2 ^ 32 := Nat.mul_lt_mul_of_pos_right (by omega) (by decide)

end Average

/-- What a dataset does with the next item, and its average. -/
structure Lawful (items : List (List UInt8)) (ds : Dataset) : Prop where
  full : items.length = ds.itemsCap.toNat →
    ∀ item, item.length = ds.itemSize.toNat → emDatasetAdd ds item = .ok (ds, -1)
  added : items.length < ds.itemsCap.toNat →
    ∀ item, item.length = ds.itemSize.toNat →
      ∃ next, emDatasetAdd ds item = .ok (next, 0) ∧ Holds (items ++ [item]) next
  average : 3 ≤ items.length → Averages items ds

/-- After every sequence of additions the dataset holds the first items up to its capacity, and it
is lawful exactly if what remains of their sum without the extreme items has not wrapped. -/
theorem lawful_iff {itemSize itemsCap : UInt32} {buf : List UInt8}
    (known : itemSize ∈ itemSizes) (positive : 0 < itemsCap)
    (room : itemSize.toNat * itemsCap.toNat ≤ buf.length) (addressable : buf.length < 2 ^ 32)
    (blank : Dataset) {adds : List (List UInt8)}
    (sizes : ∀ item ∈ adds, item.length = itemSize.toNat) :
    ∃ empty ds, emDatasetInit blank buf itemSize itemsCap = .ok (empty, 0) ∧
      empty.addAll adds = .ok ds ∧ Holds (adds.take itemsCap.toNat) ds ∧
      (Lawful (adds.take itemsCap.toNat) ds ↔
        (3 ≤ (adds.take itemsCap.toNat).length →
          trimmedSum (values (adds.take itemsCap.toNat)) < 2 ^ 64)) ∧
      (itemSize ≠ 8 → Lawful (adds.take itemsCap.toNat) ds) := by
  obtain ⟨empty, started, holdsEmpty, sameSize, sameCap⟩ :=
    holds_init known positive room addressable blank
  obtain ⟨ds, ran, holds, size, cap⟩ := holds_addAll holdsEmpty (sameSize ▸ sizes)
  rw [List.nil_append, sameCap] at holds
  have lawful : Lawful (adds.take itemsCap.toNat) ds ↔
      (3 ≤ (adds.take itemsCap.toNat).length →
        trimmedSum (values (adds.take itemsCap.toNat)) < 2 ^ 64) := by
    constructor
    · exact fun law three => (averages_iff holds three).mp (law.average three)
    · intro fits
      refine ⟨fun full item _ => holds.add_full full item, fun free item length => ?_,
        fun three => (averages_iff holds three).mpr (fits three)⟩
      obtain ⟨next, added, holdsNext, _, _⟩ := holds.add_free free length
      exact ⟨next, added, holdsNext⟩
  refine ⟨empty, ds, started, ran, holds, lawful, fun narrow => lawful.mpr fun three => ?_⟩
  exact trimmedSum_lt holds (by rw [size, sameSize]; exact narrow) three

/-! ### Four items of eight bytes, each `2 ^ 63` -/

def halves : List (List UInt8) := List.replicate 4 [0, 0, 0, 0, 0, 0, 0, 0x80]

def halvesBuf : List UInt8 := List.replicate 32 0

def halvesStored : Dataset := ⟨8, 4, 4, halves.flatten⟩

/-- The first four are not lawful, the first three are. -/
theorem lawful_iff_halves :
    (∃ empty ds, emDatasetInit halvesStored halvesBuf 8 4 = .ok (empty, 0) ∧
      empty.addAll halves = .ok ds ∧ ¬ Lawful (halves.take 4) ds) ∧
    ∃ empty ds, emDatasetInit halvesStored halvesBuf 8 3 = .ok (empty, 0) ∧
      empty.addAll halves = .ok ds ∧ Lawful (halves.take 3) ds := by
  have sizes : ∀ item ∈ halves, item.length = (8 : UInt32).toNat := by decide
  constructor
  · obtain ⟨empty, ds, started, added, _, law, _⟩ := lawful_iff (by decide) (by decide)
      (show (8 : UInt32).toNat * (4 : UInt32).toNat ≤ halvesBuf.length by decide) (by decide)
      halvesStored sizes
    refine ⟨empty, ds, started, added, fun lawful => ?_⟩
    have fits : trimmedSum (values halves) < 2 ^ 64 := law.mp lawful (by decide)
    revert fits
    decide +kernel
  · obtain ⟨empty, ds, started, added, _, law, _⟩ := lawful_iff (by decide) (by decide)
      (show (8 : UInt32).toNat * (3 : UInt32).toNat ≤ halvesBuf.length by decide) (by decide)
      halvesStored sizes
    exact ⟨empty, ds, started, added, law.mpr fun _ => by decide +kernel⟩

/-- The two items between the extreme ones sum to `2 ^ 64`, and the average is zero. -/
theorem halves_not_lawful :
    addAll ⟨8, 4, 0, halvesBuf⟩ halves = .ok halvesStored ∧
      emDatasetAvgWithoutExtreme (some halvesStored) = .ok 0 ∧ ¬ Lawful halves halvesStored := by
  have computed : emDatasetAvgWithoutExtreme (some halvesStored) = .ok 0 := by decide +kernel
  refine ⟨by decide +kernel, computed, fun lawful => ?_⟩
  obtain ⟨average, ran, _, low, _⟩ := (lawful.average (by decide)).mean
  obtain rfl : 0 = average := Except.ok.inj (computed.symm.trans ran)
  have half : smallest (values halves) = 2 ^ 63 := by decide +kernel
  rw [half] at low
  revert low
  decide

end Dataset

end EsInverter
