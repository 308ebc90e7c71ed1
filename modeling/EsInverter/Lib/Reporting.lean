import EsInverter.Lib.Transition

/-!
# A value behind a change flag

A machine keeps a value and a flag.  Its steps may report the value; a report
clears the flag, and a step without one raises the flag when it changes the value.
The flag then says whether anything has changed since the last report.
-/

set_option autoImplicit false

namespace EsInverter.Lib

/-- What the steps of a machine do with a value, its change flag and the reports of it. -/
structure Reporting {σ ε α : Type} (machine : Machine σ ε) (value : σ → α) (changed : σ → Bool)
    (reported : σ → ε → Option α) : Prop where
  quiet : ∀ {state next event}, machine.step state event = some next →
    reported state event = none →
      (changed next = true ↔ changed state = true ∨ value next ≠ value state)
  report : ∀ {state next event shown}, machine.step state event = some next →
    reported state event = some shown → shown = value next ∧ changed next = false

section

variable {σ ε α : Type} (machine : Machine σ ε) (value : σ → α) (reported : σ → ε → Option α)

/-- The step changed the value. -/
def Alters (taken : σ × ε) : Prop :=
  ∃ next, machine.step taken.1 taken.2 = some next ∧ value next ≠ value taken.1

theorem alters_iff {machine : Machine σ ε} {state next : σ} {event : ε}
    (stepped : machine.step state event = some next) :
    Alters machine value (state, event) ↔ value next ≠ value state := by
  constructor
  · rintro ⟨other, again, alters⟩
    rw [stepped] at again
    cases again
    exact alters
  · exact fun alters => ⟨next, stepped, alters⟩

/-- The last report of a run, or the given value when there was none. -/
def lastReport (start : α) (trace : List (σ × ε)) : α :=
  (trace.filterMap fun taken => reported taken.1 taken.2).getLastD start

/-- The steps of a run after its last report. -/
def sinceReport (trace : List (σ × ε)) : List (σ × ε) :=
  trace.rtakeWhile fun taken => (reported taken.1 taken.2).isNone

variable {reported}

theorem lastReport_snoc (start : α) (trace : List (σ × ε)) (taken : σ × ε) :
    lastReport reported start (trace ++ [taken]) =
      (reported taken.1 taken.2).getD (lastReport reported start trace) := by
  rw [lastReport, List.filterMap_append]
  cases shown : reported taken.1 taken.2 <;> simp [lastReport, shown]

theorem sinceReport_snoc_of_quiet {trace : List (σ × ε)} {taken : σ × ε}
    (quiet : reported taken.1 taken.2 = none) :
    sinceReport reported (trace ++ [taken]) = sinceReport reported trace ++ [taken] := by
  rw [sinceReport, List.rtakeWhile_concat_pos _ _ _ (by simp [quiet]), sinceReport]

theorem sinceReport_snoc_of_report {trace : List (σ × ε)} {taken : σ × ε} {shown : α}
    (report : reported taken.1 taken.2 = some shown) :
    sinceReport reported (trace ++ [taken]) = [] := by
  rw [sinceReport, List.rtakeWhile_concat_neg _ _ _ (by simp [report])]

end

section

variable {σ ε α : Type} {machine : Machine σ ε} {value : σ → α} {changed : σ → Bool}
variable {reported : σ → ε → Option α}

/-- The flag is up exactly when a step after the last report changed the value. -/
theorem Reporting.changed_iff (reporting : Reporting machine value changed reported)
    {start finish : σ} {trace : List (σ × ε)} (clean : changed start = false)
    (run : machine.Run start trace finish) :
    changed finish = true ↔ ∃ taken ∈ sinceReport reported trace, Alters machine value taken := by
  induction run with
  | nil => simp [clean, sinceReport]
  | @snoc trace state next event run stepped ih =>
      cases shown : reported state event with
      | none =>
          rw [sinceReport_snoc_of_quiet shown, reporting.quiet stepped shown, ih]
          simp [or_and_right, exists_or, alters_iff value stepped]
      | some sent =>
          rw [sinceReport_snoc_of_report shown, (reporting.report stepped shown).2]
          simp

/-- While the flag is down, the last report is the value. -/
theorem Reporting.lastReport_eq (reporting : Reporting machine value changed reported)
    {start finish : σ} {trace : List (σ × ε)} (run : machine.Run start trace finish)
    (settled : changed finish = false) :
    lastReport reported (value start) trace = value finish := by
  induction run with
  | nil => rfl
  | @snoc trace state next event run stepped ih =>
      rw [lastReport_snoc]
      cases shown : reported state event with
      | none =>
          have quiet := (reporting.quiet stepped shown).not.mp (by simp [settled])
          rw [not_or, Bool.not_eq_true, not_not] at quiet
          rw [quiet.2]
          simpa [shown] using ih quiet.1
      | some sent => simpa [shown] using (reporting.report stepped shown).1

end

end EsInverter.Lib
