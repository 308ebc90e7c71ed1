import Mathlib

/-!
# Forward simulation

An implementation takes its inputs one after the other, answers each and may
fail.  A meaning answers every input.  Where each step keeps a relation between
the two states and gives the meaning's answer, so does each sequence of steps.
Where the meaning leaves a choice, it follows the answers that it explains.
-/

set_option autoImplicit false

namespace EsInverter.Lib

variable {σ τ ι ω ε : Type}

/-- The last state and the answers of a sequence of inputs, unless one of them fails. -/
def answers (step : σ → ι → Except ε (σ × ω)) : σ → List ι → Except ε (σ × List ω)
  | state, [] => .ok (state, [])
  | state, input :: rest =>
      match step state input with
      | .error fault => .error fault
      | .ok (next, answer) =>
          match answers step next rest with
          | .error fault => .error fault
          | .ok (last, later) => .ok (last, answer :: later)

/-- What every step keeps holds behind each sequence of inputs. -/
theorem answers_invariant {step : σ → ι → Except ε (σ × ω)} {holds : σ → Prop}
    (kept : ∀ {state next : σ} {input : ι} {answer : ω}, holds state →
      step state input = .ok (next, answer) → holds next)
    {inputs : List ι} {state last : σ} {returned : List ω} (initial : holds state)
    (ran : answers step state inputs = .ok (last, returned)) : holds last := by
  induction inputs generalizing state returned with
  | nil =>
      cases ran
      exact initial
  | cons input rest ih =>
      rw [answers] at ran
      cases stepped : step state input with
      | error fault =>
          rw [stepped] at ran
          cases ran
      | ok result =>
          obtain ⟨next, answer⟩ := result
          rw [stepped] at ran
          dsimp only at ran
          cases later : answers step next rest with
          | error fault =>
              rw [later] at ran
              cases ran
          | ok tail =>
              obtain ⟨finish, answered⟩ := tail
              rw [later] at ran
              cases ran
              exact ih (kept initial stepped) later

/-- A meaning that leaves a choice to the implementation: which inputs it allows, which answers it
explains, and what it is behind an input with its answer. -/
structure Spec (τ ι ω : Type) where
  allowed : τ → ι → Prop
  explains : τ → ι → ω → Prop
  follow : τ → ι → ω → τ

/-- Along a sequence of inputs, as far as each is possible and allowed where it comes: the
implementation takes it without a failure, its answer is explained, and it stays related. -/
def Upholds (step : σ → ι → Except ε (σ × ω)) (possible : σ → ι → Prop) (spec : Spec τ ι ω)
    (rel : σ → τ → Prop) : σ → τ → List ι → Prop
  | state, abstract, [] => rel state abstract
  | state, abstract, input :: rest =>
      rel state abstract ∧ (possible state input → spec.allowed abstract input →
        ∃ next answer, step state input = .ok (next, answer) ∧
          spec.explains abstract input answer ∧
          Upholds step possible spec rel next (spec.follow abstract input answer) rest)

/-- What each step on an input of a kind upholds, each sequence of such inputs upholds. -/
theorem upholds_of_step {step : σ → ι → Except ε (σ × ω)} {possible : σ → ι → Prop}
    {spec : Spec τ ι ω} {rel : σ → τ → Prop} {kind : ι → Prop}
    (matched : ∀ {state : σ} {abstract : τ} {input : ι}, kind input → rel state abstract →
      possible state input → spec.allowed abstract input →
      ∃ next answer, step state input = .ok (next, answer) ∧
        spec.explains abstract input answer ∧ rel next (spec.follow abstract input answer))
    {inputs : List ι} (all : ∀ input ∈ inputs, kind input) {state : σ} {abstract : τ}
    (related : rel state abstract) :
    Upholds step possible spec rel state abstract inputs := by
  induction inputs generalizing state abstract with
  | nil => exact related
  | cons input rest ih =>
      obtain ⟨head, tail⟩ := List.forall_mem_cons.mp all
      refine ⟨related, ?_⟩
      intro possible allowed
      obtain ⟨next, answer, stepped, explained, relatedNext⟩ :=
        matched head related possible allowed
      exact ⟨next, answer, stepped, explained, ih tail relatedNext⟩

end EsInverter.Lib
