import Mathlib

/-!
# Demands in a log

Besides the usual value a strong one can be demanded.  The first use behind a
demand then has to be strong, and every use as long as there was no release.
-/

set_option autoImplicit false

namespace EsInverter.Lib

variable {α : Type}

inductive Mark (α : Type)
  | demand
  | release
  | use (value : α)
  deriving DecidableEq, Repr

def Mark.isUse : Mark α → Bool
  | .use _ => true
  | _ => false

/-- Behind every demand the first use is strong, and a weak one comes only behind a release. -/
def Honoured (strong : α → Prop) (log : List (Mark α)) : Prop :=
  ∀ before between value later,
    log = before ++ .demand :: (between ++ .use value :: later) →
      ((∀ mark ∈ between, mark.isUse = false) → strong value) ∧
        (¬strong value → .release ∈ between)

/-- What the demands of a log still ask for. -/
structure Outstanding where
  /-- There was no use since the last demand. -/
  unused : Bool
  /-- There was no release since the last demand. -/
  unreleased : Bool
  deriving DecidableEq, Repr

namespace Outstanding

def mark (outstanding : Outstanding) : Mark α → Outstanding
  | .demand => ⟨true, true⟩
  | .release => { outstanding with unreleased := false }
  | .use _ => { outstanding with unused := false }

/-- The next use has to be a strong one. -/
def Pressing (outstanding : Outstanding) : Prop :=
  outstanding.unused = true ∨ outstanding.unreleased = true

instance (outstanding : Outstanding) : Decidable outstanding.Pressing :=
  inferInstanceAs (Decidable (_ ∨ _))

end Outstanding

def outstanding (log : List (Mark α)) : Outstanding := log.foldl Outstanding.mark ⟨false, false⟩

@[simp]
theorem outstanding_snoc (log : List (Mark α)) (mark : Mark α) :
    outstanding (log ++ [mark]) = (outstanding log).mark mark := by
  rw [outstanding, List.foldl_append]
  rfl

theorem unused_of_split {before between : List (Mark α)}
    (none : ∀ mark ∈ between, mark.isUse = false) :
    (outstanding (before ++ .demand :: between)).unused = true := by
  induction between using List.reverseRecOn with
  | nil => rw [outstanding_snoc, Outstanding.mark]
  | append_singleton between last ih =>
      have unused := ih fun mark inside => none mark (List.mem_append_left _ inside)
      have other : last.isUse = false := none last (by simp)
      rw [← List.cons_append, ← List.append_assoc, outstanding_snoc]
      cases last with
      | demand => rfl
      | release => exact unused
      | use value => cases other

theorem unreleased_of_split {before between : List (Mark α)} (none : .release ∉ between) :
    (outstanding (before ++ .demand :: between)).unreleased = true := by
  induction between using List.reverseRecOn with
  | nil => rw [outstanding_snoc, Outstanding.mark]
  | append_singleton between last ih =>
      have unreleased := ih fun inside => none (List.mem_append_left _ inside)
      rw [← List.cons_append, ← List.append_assoc, outstanding_snoc]
      cases last with
      | demand => rfl
      | release => exact absurd (by simp) none
      | use value => exact unreleased

theorem honoured_nil (strong : α → Prop) : Honoured strong [] := by
  intro before between value later split
  simp at split

/-- A mark keeps the demands honoured unless it is a weak use while one is pressing. -/
theorem Honoured.snoc {strong : α → Prop} {log : List (Mark α)} {mark : Mark α}
    (honoured : Honoured strong log)
    (strongly : ∀ value, mark = .use value → (outstanding log).Pressing → strong value) :
    Honoured strong (log ++ [mark]) := by
  intro before between value later split
  rcases List.eq_nil_or_concat later with rfl | ⟨earlier, last, rfl⟩
  · have shape : before ++ .demand :: (between ++ [.use value]) =
        (before ++ .demand :: between) ++ [.use value] := by simp
    rw [shape] at split
    obtain ⟨same, lastSame⟩ := List.append_inj' split rfl
    have new := strongly value (List.singleton_inj.mp lastSame)
    rw [same] at new
    constructor
    · intro none
      exact new (.inl (unused_of_split none))
    · intro weak
      by_contra none
      exact weak (new (.inr (unreleased_of_split none)))
  · have shape : before ++ .demand :: (between ++ .use value :: (earlier ++ [last])) =
        (before ++ .demand :: (between ++ .use value :: earlier)) ++ [last] := by simp
    rw [List.concat_eq_append, shape] at split
    exact honoured before between value earlier (List.append_inj' split rfl).1

end EsInverter.Lib
