import Mathlib

/-!
# What has held since

A place of a trace where something started, and what holds of every place behind
it.  When the trace grows by one place, the start is that place, or an earlier
start that the place leaves standing.
-/

set_option autoImplicit false

namespace EsInverter.Lib

variable {τ : Type} {starts : τ → Prop} {stays : τ → τ → Prop} {trace behind : List τ}
  {first last : τ}

/-- The trace ends with `first`, where it started, and `behind`, which left it standing. -/
structure Since (starts : τ → Prop) (stays : τ → τ → Prop) (trace : List τ) (first : τ)
    (behind : List τ) : Prop where
  split : ∃ before, trace = before ++ first :: behind
  started : starts first
  stayed : ∀ later ∈ behind, stays first later

namespace Since

theorem not_nil : ¬ Since starts stays [] first behind := by
  rintro ⟨⟨before, split⟩, -, -⟩
  exact List.append_ne_nil_of_right_ne_nil before (List.cons_ne_nil _ _) split.symm

theorem here (started : starts last) : Since starts stays (trace ++ [last]) last [] :=
  ⟨⟨trace, rfl⟩, started, fun _ inside => absurd inside List.not_mem_nil⟩

theorem snoc (since : Since starts stays trace first behind) (stayed : stays first last) :
    Since starts stays (trace ++ [last]) first (behind ++ [last]) where
  split := by
    obtain ⟨before, rfl⟩ := since.split
    exact ⟨before, by rw [List.append_assoc, List.cons_append]⟩
  started := since.started
  stayed later inside := by
    rcases List.mem_append.mp inside with earlier | now
    · exact since.stayed later earlier
    · rw [List.mem_singleton.mp now]
      exact stayed

theorem snoc_cases (since : Since starts stays (trace ++ [last]) first behind) :
    (first = last ∧ behind = [] ∧ starts last) ∨
      ∃ earlier, behind = earlier ++ [last] ∧ Since starts stays trace first earlier ∧
        stays first last := by
  obtain ⟨⟨before, split⟩, started, stayed⟩ := since
  rcases List.eq_nil_or_concat' behind with rfl | ⟨earlier, final, rfl⟩
  · obtain ⟨-, same⟩ := List.append_inj' split rfl
    obtain rfl := List.head_eq_of_cons_eq same
    exact .inl ⟨rfl, rfl, started⟩
  · rw [← List.cons_append, ← List.append_assoc] at split
    obtain ⟨rfl, same⟩ := List.append_inj' split rfl
    obtain rfl := List.head_eq_of_cons_eq same
    refine .inr ⟨earlier, rfl, ⟨⟨before, rfl⟩, started, fun later inside => ?_⟩, ?_⟩
    · exact stayed later (List.mem_append_left _ inside)
    · exact stayed last (List.mem_append_right _ (List.mem_singleton.mpr rfl))

variable {starts' : τ → Prop} {stays' : τ → τ → Prop} {first' : τ} {behind' : List τ}

/-- A later start, behind which the earlier one does not come again, lies behind the earlier. -/
theorem inner (since : Since starts stays trace first behind)
    (later : Since starts' stays' trace first' behind')
    (apart : ∀ taken ∈ first' :: behind', ¬ starts taken) :
    Since starts' stays' behind first' behind' := by
  obtain ⟨⟨before, split⟩, started, -⟩ := since
  obtain ⟨⟨before', split'⟩, started', stayed'⟩ := later
  rcases List.append_eq_append_iff.mp (split.symm.trans split') with
    ⟨between, rfl, same⟩ | ⟨between, rfl, same⟩
  · cases between with
    | nil =>
        obtain ⟨rfl, -⟩ := List.cons.inj same
        exact absurd started (apart _ (List.mem_cons_self ..))
    | cons head between =>
        obtain ⟨-, rfl⟩ := List.cons.inj same
        exact ⟨⟨between, rfl⟩, started', stayed'⟩
  · refine absurd started (apart first ?_)
    rw [same]
    exact List.mem_append_right _ (List.mem_cons_self ..)

theorem outer (since : Since starts stays trace first behind)
    (later : Since starts' stays' behind first' behind') :
    Since starts' stays' trace first' behind' := by
  obtain ⟨before, rfl⟩ := since.split
  obtain ⟨between, rfl⟩ := later.split
  exact ⟨⟨before ++ first :: between, by rw [List.append_assoc, List.cons_append]⟩, later.started,
    later.stayed⟩

end Since

end EsInverter.Lib
