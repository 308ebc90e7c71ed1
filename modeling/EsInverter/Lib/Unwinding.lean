import Mathlib

/-!
# Two runs with the same visible inputs

A view of the state is unwound over the inputs: a hidden input leaves it alone,
and a visible input takes equal views to equal views.
-/

set_option autoImplicit false

namespace EsInverter.Lib

section

variable {σ ι τ : Type} {step : σ → ι → σ} {view : σ → τ} {visible : ι → Bool}

/-- Hidden inputs can be left out of a run. -/
theorem view_foldl_filter
    (consistent : ∀ state other input, visible input = true → view state = view other →
      view (step state input) = view (step other input))
    (hidden : ∀ state input, visible input = false → view (step state input) = view state)
    (inputs : List ι) {state other : σ} (same : view state = view other) :
    view (inputs.foldl step state) = view ((inputs.filter visible).foldl step other) := by
  induction inputs generalizing state other with
  | nil => exact same
  | cons input rest ih =>
      rw [List.foldl_cons]
      cases seen : visible input with
      | true =>
          rw [List.filter_cons_of_pos seen, List.foldl_cons]
          exact ih (consistent state other input seen same)
      | false =>
          rw [List.filter_cons_of_neg (by simp [seen])]
          exact ih ((hidden state input seen).trans same)

/-- Runs with the same visible inputs end in states with the same view. -/
theorem view_foldl_eq
    (consistent : ∀ state other input, visible input = true → view state = view other →
      view (step state input) = view (step other input))
    (hidden : ∀ state input, visible input = false → view (step state input) = view state)
    {inputs others : List ι} (agree : inputs.filter visible = others.filter visible)
    {state other : σ} (same : view state = view other) :
    view (inputs.foldl step state) = view (others.foldl step other) := by
  have left := view_foldl_filter consistent hidden inputs same
  have right := view_foldl_filter consistent hidden others (Eq.refl (view other))
  rw [left, right, agree]

end

end EsInverter.Lib
