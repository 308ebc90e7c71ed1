import EsInverter.Lib.Transition

/-!
# What a machine can reach by steps of its own

Some events come from outside, others are the machine's own.  A goal is within
reach when there are own steps that lead to it, whatever the outside did before.
-/

set_option autoImplicit false

namespace EsInverter.Lib.Machine

variable {σ ε : Type} (machine : Machine σ ε)

/-- Own steps lead to the goal. -/
inductive Reaches (own : ε → Prop) (goal : σ → Prop) : σ → Prop
  | here {state : σ} (reached : goal state) : Reaches own goal state
  | step {state next : σ} {event : ε} (allowed : own event)
      (stepped : machine.step state event = some next) (rest : Reaches own goal next) :
      Reaches own goal state

variable {machine} {own : ε → Prop} {goal : σ → Prop} {state : σ}

/-- The own steps as a list that can be executed. -/
theorem Reaches.exec (reaches : machine.Reaches own goal state) :
    ∃ events finish, (∀ event ∈ events, own event) ∧ machine.exec state events = some finish ∧
      goal finish := by
  induction reaches with
  | @here state reached => exact ⟨[], state, by simp, rfl, reached⟩
  | @step state next event allowed stepped rest ih =>
      obtain ⟨events, finish, owns, executed, reached⟩ := ih
      refine ⟨event :: events, finish, ?_, ?_, reached⟩
      · intro taken inside
        rcases List.mem_cons.mp inside with rfl | later
        · exact allowed
        · exact owns taken later
      · rw [Machine.exec, stepped]
        exact executed

end EsInverter.Lib.Machine
