import Mathlib

/-!
# Two runs in lockstep

A machine answers its inputs with outputs and may stop.  A ghost, computed from
the run itself, says which part of the state two runs may differ in.  Runs on
similar inputs stay coupled, unless one of them stops where the other goes on
silently.  They give the same outputs as long as no step shows the part in which
they differ, and nothing is shown after one has stopped alone.
-/

set_option autoImplicit false

namespace EsInverter.Lib

section

variable {σ ι ω ε γ : Type}

/-- The outputs of a run, up to the input at which the machine stops. -/
def outputs (step : σ → ι → Except ε (σ × List ω)) : σ → List ι → List ω
  | _, [] => []
  | state, input :: rest =>
      match step state input with
      | .error _ => []
      | .ok (next, shown) => shown ++ outputs step next rest

/-- What a run stops with, if it stops. -/
def ending (step : σ → ι → Except ε (σ × List ω)) : σ → List ι → Option ε
  | _, [] => none
  | state, input :: rest =>
      match step state input with
      | .error fault => some fault
      | .ok (next, _) => ending step next rest

/-- A property of every step of a run, in the state and with the ghost before the step. -/
def Along (step : σ → ι → Except ε (σ × List ω)) (mark : σ → γ → ι → γ)
    (allowed : σ → γ → ι → Prop) : σ → γ → List ι → Prop
  | _, _, [] => True
  | state, ghost, input :: rest =>
      allowed state ghost input ∧
        match step state input with
        | .error _ => True
        | .ok (next, _) => Along step mark allowed next (mark state ghost input) rest

/-- The results of one step in two runs: both stop, both go on with outputs of equal number, or
the second stops where the first goes on mute. -/
inductive Paired (rel : σ → σ → Prop) (mute : Prop) :
    Except ε (σ × List ω) → Except ε (σ × List ω) → Prop
  | stop (left right : ε) : Paired rel mute (.error left) (.error right)
  | go {next other : σ} {shown seen : List ω} (related : rel next other)
      (number : shown.length = seen.length) :
      Paired rel mute (.ok (next, shown)) (.ok (other, seen))
  | part {next : σ} (right : ε) (silent : mute) : Paired rel mute (.ok (next, [])) (.error right)

/-- A step on a part of the state, as a step on the whole. -/
theorem Paired.map {τ : Type} {rel : σ → σ → Prop} {whole : τ → τ → Prop} {mute : Prop}
    {left right : Except ε (σ × List ω)} (pair : Paired rel mute left right) (mine other : σ → τ)
    (keeps : ∀ next nextOther, rel next nextOther → whole (mine next) (other nextOther)) :
    Paired whole mute (left.map (Prod.map mine id)) (right.map (Prod.map other id)) := by
  cases pair with
  | stop left right => exact .stop left right
  | go related number => exact .go (keeps _ _ related) number
  | part right silent => exact .part right silent

variable (step : σ → ι → Except ε (σ × List ω)) (mark : σ → γ → ι → γ)

section

variable {first second : σ → γ → ι → Prop}

theorem Along.both {inputs : List ι} {state : σ} {ghost : γ}
    (along : Along step mark first state ghost inputs)
    (implied : Along step mark (fun state ghost input => first state ghost input →
      second state ghost input) state ghost inputs) :
    Along step mark (fun state ghost input => first state ghost input ∧ second state ghost input)
      state ghost inputs := by
  induction inputs generalizing state ghost with
  | nil => trivial
  | cons input rest ih =>
      obtain ⟨here, later⟩ := along
      obtain ⟨implies, laterImplied⟩ := implied
      refine ⟨⟨here, implies here⟩, ?_⟩
      generalize step state input = result at later laterImplied
      cases result with
      | error fault => trivial
      | ok outcome => exact ih later laterImplied

/-- A run that does not stop with a fault takes no step that stops with it. -/
theorem along_of_ending_ne {fault : ε} {inside : σ → ι → Prop}
    (stops : ∀ state input, ¬ inside state input → step state input = .error fault)
    {inputs : List ι} {state : σ} (ghost : γ) (ends : ending step state inputs ≠ some fault) :
    Along step mark (fun state _ input => inside state input) state ghost inputs := by
  induction inputs generalizing state ghost with
  | nil => trivial
  | cons input rest ih =>
      rw [ending] at ends
      refine ⟨?_, ?_⟩
      · by_contra outside
        rw [stops state input outside] at ends
        exact ends rfl
      · generalize step state input = result at ends
        cases result with
        | error other => trivial
        | ok outcome => exact ih _ ends

end

variable (allowed : σ → γ → ι → Prop) (rel : γ → σ → σ → Prop) (mute : γ → Prop)

/-- A run that is mute and takes allowed steps only shows nothing. -/
theorem outputs_eq_nil_of_along
    (hush : ∀ ghost state input next shown, mute ghost → allowed state ghost input →
      step state input = .ok (next, shown) → shown = [] ∧ mute (mark state ghost input))
    {inputs : List ι} {ghost : γ} {state : σ} (silent : mute ghost)
    (along : Along step mark allowed state ghost inputs) : outputs step state inputs = [] := by
  induction inputs generalizing ghost state with
  | nil => rfl
  | cons input rest ih =>
      rw [Along] at along
      rw [outputs]
      generalize stepped : step state input = result at along
      cases result with
      | error fault => rfl
      | ok outcome =>
          obtain ⟨quiet, stays⟩ := hush _ _ _ _ _ silent along.1 stepped
          dsimp only
          rw [quiet, List.nil_append]
          exact ih stays along.2

/-- A mute run shows something at a step that is not allowed. -/
theorem outputs_ne_nil_of_not_along
    (heard : ∀ ghost state input, mute ghost → ¬ allowed state ghost input →
      ∃ next shown, step state input = .ok (next, shown) ∧ shown ≠ [])
    (stays : ∀ ghost state input, mute ghost → mute (mark state ghost input))
    {inputs : List ι} {ghost : γ} {state : σ} (silent : mute ghost)
    (along : ¬ Along step mark allowed state ghost inputs) : outputs step state inputs ≠ [] := by
  induction inputs generalizing ghost state with
  | nil => exact absurd trivial along
  | cons input rest ih =>
      rw [Along] at along
      rw [outputs]
      by_cases quiet : allowed state ghost input
      · generalize step state input = result at along
        cases result with
        | error fault => exact absurd ⟨quiet, trivial⟩ along
        | ok outcome =>
            have later := ih (stays ghost state input silent) fun later => along ⟨quiet, later⟩
            exact fun nothing => later (List.append_eq_nil_iff.mp nothing).2
      · obtain ⟨next, shown, stepped, loud⟩ := heard ghost state input silent quiet
        rw [stepped]
        exact fun nothing => loud (List.append_eq_nil_iff.mp nothing).1

section

variable (similar : ι → ι → Prop)
variable (coupled : ∀ ghost state other input twin, rel ghost state other → similar input twin →
  Paired (rel (mark state ghost input)) (mute (mark state ghost input)) (step state input)
    (step other twin))

include coupled

/-- Runs that stay coupled and agree on each allowed step give the same outputs. -/
theorem outputs_eq_of_along
    (agree : ∀ ghost state other input twin next nextOther shown seen,
      rel ghost state other → similar input twin → allowed state ghost input →
      step state input = .ok (next, shown) → step other twin = .ok (nextOther, seen) →
      shown = seen)
    (hush : ∀ ghost state input next shown, mute ghost → allowed state ghost input →
      step state input = .ok (next, shown) → shown = [] ∧ mute (mark state ghost input))
    {inputs twins : List ι} (same : List.Forall₂ similar inputs twins)
    {ghost : γ} {state other : σ} (related : rel ghost state other)
    (along : Along step mark allowed state ghost inputs) :
    outputs step state inputs = outputs step other twins := by
  induction same generalizing ghost state other with
  | nil => rfl
  | @cons input twin rest twins alike same ih =>
      have pair := coupled ghost state other input twin related alike
      rw [Along] at along
      rw [outputs, outputs]
      generalize left : step state input = result at pair along
      generalize right : step other twin = answer at pair
      cases pair with
      | stop _ _ => rfl
      | go relatedNext number =>
          have equal := agree ghost state other input twin _ _ _ _ related alike along.1 left right
          rw [equal]
          exact congrArg _ (ih relatedNext along.2)
      | part _ silent =>
          exact outputs_eq_nil_of_along step mark allowed mute hush silent along.2

/-- A fault that no allowed step of the coupled run has is not what the run ends with. -/
theorem ending_ne_of_along {fault : ε}
    (safe : ∀ ghost state other input twin, rel ghost state other → similar input twin →
      allowed state ghost input → step other twin ≠ .error fault)
    {inputs twins : List ι} (same : List.Forall₂ similar inputs twins)
    {ghost : γ} {state other : σ} (related : rel ghost state other)
    (along : Along step mark allowed state ghost inputs) :
    ending step other twins ≠ some fault := by
  induction same generalizing ghost state other with
  | nil =>
      intro same
      cases same
  | @cons input twin rest twins alike same ih =>
      have pair := coupled ghost state other input twin related alike
      rw [Along] at along
      have fine := safe ghost state other input twin related alike along.1
      rw [ending]
      generalize step state input = result at pair along
      generalize step other twin = answer at pair fine
      cases pair with
      | stop _ right => exact fun same => fine (congrArg Except.error (Option.some.inj same))
      | go relatedNext number => exact ih relatedNext along.2
      | part right _ => exact fun same => fine (congrArg Except.error (Option.some.inj same))

/-- Coupled runs show a difference if some step is not allowed. -/
theorem outputs_ne_of_not_along
    (differ : ∀ ghost state other input twin, rel ghost state other → similar input twin →
      ¬ allowed state ghost input →
      ∃ next nextOther shown seen, step state input = .ok (next, shown) ∧
        step other twin = .ok (nextOther, seen) ∧ shown ≠ seen)
    (heard : ∀ ghost state input, mute ghost → ¬ allowed state ghost input →
      ∃ next shown, step state input = .ok (next, shown) ∧ shown ≠ [])
    (stays : ∀ ghost state input, mute ghost → mute (mark state ghost input))
    {inputs twins : List ι} (same : List.Forall₂ similar inputs twins)
    {ghost : γ} {state other : σ} (related : rel ghost state other)
    (along : ¬ Along step mark allowed state ghost inputs) :
    outputs step state inputs ≠ outputs step other twins := by
  induction same generalizing ghost state other with
  | nil => exact absurd trivial along
  | @cons input twin rest twins alike same ih =>
      have pair := coupled ghost state other input twin related alike
      intro equal
      rw [outputs, outputs] at equal
      by_cases quiet : allowed state ghost input
      · rw [Along] at along
        generalize left : step state input = result at pair along equal
        generalize right : step other twin = answer at pair equal
        cases pair with
        | stop _ _ => exact along ⟨quiet, trivial⟩
        | go relatedNext number =>
            refine ih relatedNext (fun later => along ⟨quiet, later⟩) ?_
            exact (List.append_inj equal number).2
        | part _ silent =>
            exact outputs_ne_nil_of_not_along step mark allowed mute heard stays silent
              (fun later => along ⟨quiet, later⟩) equal
      · obtain ⟨next, nextOther, shown, seen, left, right, unequal⟩ :=
          differ ghost state other input twin related alike quiet
        rw [left, right] at pair
        cases pair with
        | go relatedNext number =>
            rw [left, right] at equal
            exact unequal (List.append_inj equal number).1

end

end

end EsInverter.Lib
