import Mathlib

/-!
# Blocks of a heap and the slots that point to them

A table of slots owns a heap when every pointer of the table leads to a live
block that is as its slot describes it, no two slots point to the same block,
and no live block is without a slot.  Putting a fresh block into an empty slot
and releasing the block of a slot keep this.
-/

set_option autoImplicit false

namespace EsInverter.Lib

/-- The live blocks by their addresses. -/
structure Heap (κ β : Type) where
  block : κ → Option β

namespace Heap

variable {κ β : Type}

def empty : Heap κ β := ⟨fun _ => none⟩

@[simp]
theorem block_empty {address : κ} : (empty : Heap κ β).block address = none := rfl

/-! ### Slots that own the heap -/

variable {σ : Type} {pointer : σ → Option κ} {describes : σ → β → Prop} {slots : List σ}
  {heap : Heap κ β} {address other : κ} {block : β}

variable (pointer describes) in
structure OwnedBy (slots : List σ) (heap : Heap κ β) : Prop where
  live {idx : Nat} {slot : σ} {address : κ} (at_ : slots[idx]? = some slot)
    (points : pointer slot = some address) :
    ∃ block, heap.block address = some block ∧ describes slot block
  once {first second : Nat} {slot other : σ} {address : κ} (at_ : slots[first]? = some slot)
    (other_at : slots[second]? = some other) (points : pointer slot = some address)
    (again : pointer other = some address) : first = second
  held {address : κ} {block : β} (live : heap.block address = some block) :
    ∃ (idx : Nat) (slot : σ), slots[idx]? = some slot ∧ pointer slot = some address

theorem ownedBy_empty (vacant : ∀ slot ∈ slots, pointer slot = none) :
    OwnedBy pointer describes slots empty where
  live at_ points := by
    rw [vacant _ (List.mem_of_getElem? at_)] at points
    cases points
  once at_ _ points _ := by
    rw [vacant _ (List.mem_of_getElem? at_)] at points
    cases points
  held live := by cases live

theorem getElem?_set_cases {idx place : Nat} {added slot : σ}
    (at_ : (slots.set place added)[idx]? = some slot) :
    (idx = place ∧ slot = added) ∨ (idx ≠ place ∧ slots[idx]? = some slot) := by
  by_cases same : place = idx
  · subst same
    rw [List.getElem?_set_self'] at at_
    obtain ⟨_, _, rfl⟩ := Option.map_eq_some_iff.mp at_
    exact .inl ⟨rfl, rfl⟩
  · rw [List.getElem?_set_ne same] at at_
    exact .inr ⟨Ne.symm same, at_⟩

theorem getElem?_set_of_some {place : Nat} {before : σ} (at_ : slots[place]? = some before)
    (added : σ) : (slots.set place added)[place]? = some added := by
  rw [List.getElem?_set_self', at_]
  rfl

/-- A fresh block has no slot yet. -/
theorem OwnedBy.ne_of_fresh (owned : OwnedBy pointer describes slots heap)
    (fresh : heap.block address = none) {idx : Nat} {slot : σ} (at_ : slots[idx]? = some slot)
    (points : pointer slot = some other) : other ≠ address := by
  rintro rfl
  obtain ⟨block, live, -⟩ := owned.live at_ points
  rw [fresh] at live
  cases live

/-! ### Taking and releasing a block -/

variable [DecidableEq κ]

def store (address : κ) (block : β) (heap : Heap κ β) : Heap κ β :=
  ⟨Function.update heap.block address (some block)⟩

def without (address : κ) (heap : Heap κ β) : Heap κ β :=
  ⟨Function.update heap.block address none⟩

/-- `free`, which only a live block may be given to. -/
def free (address : κ) (heap : Heap κ β) : Option (Heap κ β) :=
  if (heap.block address).isSome then some (heap.without address) else none

@[simp]
theorem block_store : (heap.store address block).block address = some block :=
  Function.update_self ..

theorem block_store_of_ne (apart : other ≠ address) :
    (heap.store address block).block other = heap.block other :=
  Function.update_of_ne apart ..

@[simp]
theorem block_without : (heap.without address).block address = none := Function.update_self ..

theorem block_without_of_ne (apart : other ≠ address) :
    (heap.without address).block other = heap.block other :=
  Function.update_of_ne apart ..

theorem free_of_live (live : heap.block address = some block) :
    heap.free address = some (heap.without address) := by
  rw [free, live]
  rfl

namespace OwnedBy

variable {place : Nat} {before added : σ}

/-- A fresh block goes into a slot without one. -/
theorem store (owned : OwnedBy pointer describes slots heap) (fresh : heap.block address = none)
    (at_ : slots[place]? = some before) (vacant : pointer before = none)
    (points : pointer added = some address) (described : describes added block) :
    OwnedBy pointer describes (slots.set place added) (heap.store address block) where
  live slot_at leads := by
    rcases getElem?_set_cases slot_at with ⟨rfl, rfl⟩ | ⟨_, earlier⟩
    · cases points.symm.trans leads
      exact ⟨block, block_store, described⟩
    · rw [block_store_of_ne (owned.ne_of_fresh fresh earlier leads)]
      exact owned.live earlier leads
  once slot_at other_at leads again := by
    rcases getElem?_set_cases slot_at with ⟨rfl, rfl⟩ | ⟨_, earlier⟩
    · cases points.symm.trans leads
      rcases getElem?_set_cases other_at with ⟨rfl, _⟩ | ⟨_, later⟩
      · rfl
      · exact absurd rfl (owned.ne_of_fresh fresh later again)
    · rcases getElem?_set_cases other_at with ⟨rfl, rfl⟩ | ⟨_, later⟩
      · cases points.symm.trans again
        exact absurd rfl (owned.ne_of_fresh fresh earlier leads)
      · exact owned.once earlier later leads again
  held {live_address _} live := by
    by_cases same : live_address = address
    · subst same
      exact ⟨place, added, getElem?_set_of_some at_ added, points⟩
    · rw [block_store_of_ne same] at live
      obtain ⟨idx, slot, slot_at, leads⟩ := owned.held live
      have apart : place ≠ idx := by
        rintro rfl
        cases at_.symm.trans slot_at
        cases vacant.symm.trans leads
      exact ⟨idx, slot, by rw [List.getElem?_set_ne apart]; exact slot_at, leads⟩

/-- The block of a slot is released together with the pointer to it. -/
theorem without (owned : OwnedBy pointer describes slots heap)
    (at_ : slots[place]? = some before) (points : pointer before = some address)
    (vacant : pointer added = none) :
    OwnedBy pointer describes (slots.set place added) (heap.without address) where
  live {idx slot live_address} slot_at leads := by
    rcases getElem?_set_cases slot_at with ⟨rfl, rfl⟩ | ⟨apart, earlier⟩
    · cases vacant.symm.trans leads
    · have other : live_address ≠ address := by
        rintro rfl
        exact apart (owned.once earlier at_ leads points)
      rw [block_without_of_ne other]
      exact owned.live earlier leads
  once slot_at other_at leads again := by
    rcases getElem?_set_cases slot_at with ⟨rfl, rfl⟩ | ⟨_, earlier⟩
    · cases vacant.symm.trans leads
    · rcases getElem?_set_cases other_at with ⟨rfl, rfl⟩ | ⟨_, later⟩
      · cases vacant.symm.trans again
      · exact owned.once earlier later leads again
  held {live_address _} live := by
    have other : live_address ≠ address := by
      rintro rfl
      rw [block_without] at live
      cases live
    rw [block_without_of_ne other] at live
    obtain ⟨idx, slot, slot_at, leads⟩ := owned.held live
    have apart : place ≠ idx := by
      rintro rfl
      cases at_.symm.trans slot_at
      exact other (Option.some.inj (leads.symm.trans points))
    exact ⟨idx, slot, by rw [List.getElem?_set_ne apart]; exact slot_at, leads⟩

end OwnedBy

end Heap

end EsInverter.Lib
