import Mathlib

/-!
# Runs of a machine with named steps

A machine is a partial step function.  A run records every state it left
together with the step taken there, so that a property of a whole run can speak
about each of its steps.
-/

set_option autoImplicit false

namespace EsInverter.Lib

/-- The next state of a step that is taken only under a guard. -/
def provided {σ : Type} (guard : Prop) [Decidable guard] (next : σ) : Option σ :=
  if guard then some next else none

@[simp]
theorem provided_eq_some {σ : Type} {guard : Prop} [Decidable guard] {next result : σ} :
    provided guard next = some result ↔ guard ∧ next = result := by
  rw [provided]
  split <;> simp_all

structure Machine (σ ε : Type) where
  step : σ → ε → Option σ

namespace Machine

variable {σ ε : Type} (machine : Machine σ ε)

inductive Run (start : σ) : List (σ × ε) → σ → Prop
  | nil : Run start [] start
  | snoc {trace : List (σ × ε)} {state next : σ} {event : ε}
      (run : Run start trace state) (stepped : machine.step state event = some next) :
      Run start (trace ++ [(state, event)]) next

variable {machine} {start finish : σ} {trace : List (σ × ε)}

/-- What the allowed steps preserve holds at the end of a run of such steps. -/
theorem Run.invariant {allowed : σ → ε → Prop} {holds : σ → Prop} (initial : holds start)
    (preserved : ∀ {state next event}, allowed state event → holds state →
      machine.step state event = some next → holds next)
    (run : machine.Run start trace finish) (all : ∀ taken ∈ trace, allowed taken.1 taken.2) :
    holds finish := by
  induction run with
  | nil => exact initial
  | @snoc trace state next event run stepped ih =>
      refine preserved (all (state, event) (by simp)) ?_ stepped
      exact ih fun taken inside => all taken (by simp [inside])

/-- What the allowed steps preserve holds in every state of a run of such steps. -/
theorem Run.invariant_visited {allowed : σ → ε → Prop} {holds : σ → Prop} (initial : holds start)
    (preserved : ∀ {state next event}, allowed state event → holds state →
      machine.step state event = some next → holds next)
    (run : machine.Run start trace finish) (all : ∀ taken ∈ trace, allowed taken.1 taken.2) :
    ∀ taken ∈ trace, holds taken.1 := by
  induction run with
  | nil => simp
  | @snoc trace state next event run stepped ih =>
      have allowedBefore : ∀ taken ∈ trace, allowed taken.1 taken.2 :=
        fun taken inside => all taken (by simp [inside])
      intro taken inside
      rcases List.mem_append.mp inside with earlier | last
      · exact ih allowedBefore taken earlier
      · obtain rfl := List.mem_singleton.mp last
        exact run.invariant initial preserved allowedBefore

/-- What every step preserves. -/
theorem Run.always {holds : σ → Prop} (initial : holds start)
    (preserved : ∀ {state next event}, holds state →
      machine.step state event = some next → holds next)
    (run : machine.Run start trace finish) : holds finish := by
  induction run with
  | nil => exact initial
  | snoc run stepped ih => exact preserved ih stepped

/-- What every step preserves holds in every state of a run. -/
theorem Run.always_visited {holds : σ → Prop} (initial : holds start)
    (preserved : ∀ {state next event}, holds state →
      machine.step state event = some next → holds next)
    (run : machine.Run start trace finish) : ∀ taken ∈ trace, holds taken.1 := by
  have steps {state next : σ} {event : ε} (_ : True) (held : holds state)
      (stepped : machine.step state event = some next) : holds next := preserved held stepped
  exact run.invariant_visited initial steps fun _ _ => trivial

/-- A relation with a counter that every step advances by its cost holds with the total cost. -/
theorem Run.accumulate {cost : σ → ε → Nat} {holds : σ → Nat → Prop} (initial : holds start 0)
    (advanced : ∀ {state next event count}, holds state count →
      machine.step state event = some next → holds next (count + cost state event))
    (run : machine.Run start trace finish) :
    holds finish (trace.map fun taken => cost taken.1 taken.2).sum := by
  induction run with
  | nil => exact initial
  | @snoc trace state next event run stepped ih =>
      rw [List.map_append, List.sum_append]
      simpa using advanced ih stepped

/-! ### Parts of a run -/

theorem Run.nil_iff : machine.Run start [] finish ↔ finish = start := by
  constructor
  · intro run
    generalize same : ([] : List (σ × ε)) = whole at run
    cases run with
    | nil => rfl
    | snoc run stepped => simp at same
  · rintro rfl
    exact .nil

theorem Run.snoc_iff {state : σ} {event : ε} :
    machine.Run start (trace ++ [(state, event)]) finish ↔
      machine.Run start trace state ∧ machine.step state event = some finish := by
  constructor
  · intro run
    generalize same : trace ++ [(state, event)] = whole at run
    cases run with
    | nil => simp at same
    | snoc run stepped =>
        obtain ⟨rfl, last⟩ := List.append_inj' same rfl
        cases last
        exact ⟨run, stepped⟩
  · rintro ⟨run, stepped⟩
    exact run.snoc stepped

theorem Run.append_iff {first second : List (σ × ε)} :
    machine.Run start (first ++ second) finish ↔
      ∃ middle, machine.Run start first middle ∧ machine.Run middle second finish := by
  induction second using List.reverseRecOn generalizing finish with
  | nil =>
      rw [List.append_nil]
      constructor
      · intro run
        exact ⟨finish, run, .nil⟩
      · rintro ⟨middle, run, rest⟩
        rw [nil_iff.mp rest]
        exact run
  | append_singleton second taken ih =>
      obtain ⟨state, event⟩ := taken
      rw [← List.append_assoc, snoc_iff, ih]
      constructor
      · rintro ⟨⟨middle, run, rest⟩, stepped⟩
        exact ⟨middle, run, rest.snoc stepped⟩
      · rintro ⟨middle, run, rest⟩
        obtain ⟨rest, stepped⟩ := snoc_iff.mp rest
        exact ⟨⟨middle, run, rest⟩, stepped⟩

/-- The step at a place of a run, with the runs before and behind it. -/
theorem Run.at_ {first second : List (σ × ε)} {state : σ} {event : ε}
    (run : machine.Run start (first ++ (state, event) :: second) finish) :
    ∃ next, machine.Run start first state ∧ machine.step state event = some next ∧
      machine.Run next second finish := by
  rw [List.append_cons, append_iff] at run
  obtain ⟨next, before, after⟩ := run
  obtain ⟨before, stepped⟩ := snoc_iff.mp before
  exact ⟨next, before, stepped, after⟩

/-! ### Executing a list of steps -/

variable (machine)

def exec : σ → List ε → Option σ
  | state, [] => some state
  | state, event :: rest =>
      match machine.step state event with
      | none => none
      | some next => exec next rest

/-- The states left by `exec`. -/
def tracing : σ → List ε → List (σ × ε)
  | _, [] => []
  | state, event :: rest =>
      match machine.step state event with
      | none => []
      | some next => (state, event) :: tracing next rest

variable {machine}

theorem Run.append_exec {state : σ} {events : List ε} (run : machine.Run start trace state)
    (executed : machine.exec state events = some finish) :
    machine.Run start (trace ++ machine.tracing state events) finish := by
  induction events generalizing trace state with
  | nil =>
      cases executed
      simpa [tracing] using run
  | cons event rest ih =>
      rw [exec] at executed
      rw [tracing]
      cases stepped : machine.step state event with
      | none =>
          rw [stepped] at executed
          cases executed
      | some next =>
          rw [stepped] at executed
          have later := ih (run.snoc stepped) executed
          simpa using later

theorem run_of_exec {events : List ε} (executed : machine.exec start events = some finish) :
    machine.Run start (machine.tracing start events) finish := by
  simpa using Run.append_exec .nil executed

end Machine

end EsInverter.Lib
