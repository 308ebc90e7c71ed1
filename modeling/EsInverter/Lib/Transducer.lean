import Mathlib.Data.List.Basic

/-!
# Partial transducers

A machine reads one symbol at a time, may refuse it, and emits a list of
outputs.  A run on a concatenation is a run on the first part followed by a run
on the second, which is what makes the machine indifferent to how its input is
cut into pieces.
-/

set_option autoImplicit false

namespace EsInverter.Lib

structure Transducer (σ ι ω : Type) where
  step : σ → ι → Option (σ × List ω)

namespace Transducer

variable {σ ι ω : Type} (machine : Transducer σ ι ω)

def run : σ → List ι → Option (σ × List ω)
  | state, [] => some (state, [])
  | state, symbol :: rest =>
      match machine.step state symbol with
      | none => none
      | some (next, emitted) =>
          match run next rest with
          | none => none
          | some (last, outputs) => some (last, emitted ++ outputs)

@[simp]
theorem run_nil (state : σ) : machine.run state [] = some (state, []) := rfl

variable {machine} {state last : σ} {outputs : List ω}

theorem run_cons_iff {symbol : ι} {rest : List ι} :
    machine.run state (symbol :: rest) = some (last, outputs) ↔
      ∃ next emitted later, machine.step state symbol = some (next, emitted) ∧
        machine.run next rest = some (last, later) ∧ outputs = emitted ++ later := by
  rw [run]
  cases stepped : machine.step state symbol with
  | none => simp
  | some pair =>
      obtain ⟨next, emitted⟩ := pair
      cases ran : machine.run next rest with
      | none => simp [ran]
      | some pair =>
          obtain ⟨finish, later⟩ := pair
          simp only [ran, Option.some.injEq, Prod.mk.injEq]
          constructor
          · rintro ⟨rfl, rfl⟩
            exact ⟨next, emitted, later, ⟨rfl, rfl⟩, ran, rfl⟩
          · rintro ⟨_, _, _, ⟨rfl, rfl⟩, again, rfl⟩
            rw [ran] at again
            cases again
            exact ⟨rfl, rfl⟩

/-- Cutting the input cuts the run. -/
theorem run_append_iff {first second : List ι} :
    machine.run state (first ++ second) = some (last, outputs) ↔
      ∃ middle before after, machine.run state first = some (middle, before) ∧
        machine.run middle second = some (last, after) ∧ outputs = before ++ after := by
  induction first generalizing state outputs with
  | nil => simp
  | cons symbol rest ih =>
      rw [List.cons_append, run_cons_iff]
      constructor
      · rintro ⟨next, emitted, later, stepped, ran, rfl⟩
        obtain ⟨middle, before, after, ranFirst, ranSecond, rfl⟩ := ih.mp ran
        refine ⟨middle, emitted ++ before, after, ?_, ranSecond, by simp⟩
        exact run_cons_iff.mpr ⟨next, emitted, before, stepped, ranFirst, rfl⟩
      · rintro ⟨middle, before, after, ranFirst, ranSecond, rfl⟩
        obtain ⟨next, emitted, later, stepped, ran, rfl⟩ := run_cons_iff.mp ranFirst
        exact ⟨next, emitted, later ++ after, stepped,
          ih.mpr ⟨middle, later, after, ran, ranSecond, rfl⟩, by simp⟩

theorem run_append {middle : σ} {before after : List ω} {first second : List ι}
    (ranFirst : machine.run state first = some (middle, before))
    (ranSecond : machine.run middle second = some (last, after)) :
    machine.run state (first ++ second) = some (last, before ++ after) :=
  run_append_iff.mpr ⟨middle, before, after, ranFirst, ranSecond, rfl⟩

theorem run_cons {next : σ} {emitted later : List ω} {symbol : ι} {rest : List ι}
    (stepped : machine.step state symbol = some (next, emitted))
    (ran : machine.run next rest = some (last, later)) :
    machine.run state (symbol :: rest) = some (last, emitted ++ later) :=
  run_cons_iff.mpr ⟨next, emitted, later, stepped, ran, rfl⟩

/-- Inputs that each lead back to the state concatenate to one that does. -/
theorem run_flatMap {α : Type} {word : α → List ι} {value : α → List ω}
    (each : ∀ item, machine.run state (word item) = some (state, value item)) (items : List α) :
    machine.run state (items.flatMap word) = some (state, items.flatMap value) := by
  induction items with
  | nil => rfl
  | cons item items ih => exact run_append (each item) ih

end Transducer

/-- A nonempty front of a list of pieces ends inside one of the pieces or at its end. -/
theorem exists_cut {α : Type} {pieces : List (List α)} {front back : List α}
    (cut : pieces.flatten = front ++ back) (nonempty : front ≠ []) :
    ∃ lead head tail rest, pieces = lead ++ (head ++ tail) :: rest ∧ head ≠ [] ∧
      lead.flatten ++ head = front ∧ tail ++ rest.flatten = back := by
  induction pieces generalizing front with
  | nil =>
      have empty : front = [] := (List.append_eq_nil_iff.mp cut.symm).1
      exact absurd empty nonempty
  | cons piece pieces ih =>
      rw [List.flatten_cons] at cut
      rcases List.append_eq_append_iff.mp cut with ⟨later, rfl, after⟩ | ⟨tail, rfl, rfl⟩
      · by_cases ended : later = []
        · subst ended
          refine ⟨[], piece, [], pieces, by simp, by simpa using nonempty, by simp, ?_⟩
          simpa using after
        · obtain ⟨lead, head, tail, rest, rfl, some_, rfl, rfl⟩ := ih after ended
          exact ⟨piece :: lead, head, tail, rest, by simp, some_, by simp, rfl⟩
      · exact ⟨[], front, tail, pieces, by simp, nonempty, by simp, rfl⟩

end EsInverter.Lib
