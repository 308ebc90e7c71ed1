import Mathlib

/-!
# Computations with their accesses

A computation that leaves, next to its result, the list of what it accesses.  Whether
all of that is legal is decided step by step, and the result is that of the same
computation without the list.
-/

set_option autoImplicit false

namespace EsInverter.Lib

/-- A result with the accesses made on the way to it. -/
structure Footed (κ α : Type) where
  accesses : List κ
  result : α

namespace Footed

variable {κ α β : Type}

instance : Monad (Footed κ) where
  pure value := ⟨[], value⟩
  bind run next := ⟨run.accesses ++ (next run.result).accesses, (next run.result).result⟩

def touch (access : κ) : Footed κ Unit := ⟨[access], ()⟩

def touchAll (accesses : List κ) : Footed κ Unit := ⟨accesses, ()⟩

/-- The results of a computation for each item, one after the other. -/
def forEach (items : List α) (run : α → Footed κ β) : Footed κ (List β) :=
  match items with
  | [] => pure []
  | item :: rest => do
      let first ← run item
      let later ← forEach rest run
      pure (first :: later)

/-- Every access is legal. -/
def Within (legal : κ → Prop) (run : Footed κ α) : Prop := ∀ access ∈ run.accesses, legal access

instance (legal : κ → Prop) [DecidablePred legal] (run : Footed κ α) :
    Decidable (run.Within legal) := inferInstanceAs (Decidable (∀ access ∈ run.accesses, _))

@[simp]
theorem result_pure (value : α) : (pure value : Footed κ α).result = value := rfl

@[simp]
theorem result_bind (run : Footed κ α) (next : α → Footed κ β) :
    (run >>= next).result = (next run.result).result := rfl

@[simp]
theorem result_forEach (items : List α) (run : α → Footed κ β) :
    (forEach items run).result = items.map fun item => (run item).result := by
  induction items with
  | nil => rfl
  | cons item rest ih =>
      rw [forEach, List.map_cons, ← ih]
      rfl

/-! ### Legal accesses -/

variable {legal : κ → Prop}

@[simp]
theorem within_pure (value : α) : (pure value : Footed κ α).Within legal := by
  rintro access ⟨⟩

@[simp]
theorem within_touch (access : κ) : (touch access).Within legal ↔ legal access := by
  constructor
  · exact fun within => within access (List.mem_singleton_self access)
  · intro allowed other inside
    rwa [List.mem_singleton.mp inside]

@[simp]
theorem within_touchAll (accesses : List κ) :
    (touchAll accesses).Within legal ↔ ∀ access ∈ accesses, legal access := Iff.rfl

@[simp]
theorem within_bind (run : Footed κ α) (next : α → Footed κ β) :
    (run >>= next).Within legal ↔ run.Within legal ∧ (next run.result).Within legal := by
  constructor
  · intro within
    constructor
    · exact fun access inside => within access (List.mem_append_left _ inside)
    · exact fun access inside => within access (List.mem_append_right _ inside)
  · rintro ⟨first, later⟩ access inside
    rcases List.mem_append.mp inside with inside | inside
    · exact first access inside
    · exact later access inside

@[simp]
theorem within_forEach (items : List α) (run : α → Footed κ β) :
    (forEach items run).Within legal ↔ ∀ item ∈ items, (run item).Within legal := by
  induction items with
  | nil => simp [forEach]
  | cons item rest ih => simp [forEach, ih]

end Footed

end EsInverter.Lib
