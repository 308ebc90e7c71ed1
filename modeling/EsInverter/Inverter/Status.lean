import EsInverter.Lib.Reporting

/-!
# The inverter status and its reports

Four functions store what the inverter answers about its state; the one that
stores the mode sends the status when any of them has changed it.
-/

set_option autoImplicit false

namespace EsInverter.Inverter

open Lib

/-- What a status message carries. -/
structure StatusReport where
  mode : UInt32 := 0
  statusFlags : UInt64 := 0
  warningFlags : UInt64 := 0
  faultCode : UInt32 := 0
  deriving DecidableEq, Repr

structure InvStatus extends StatusReport where
  changed : Bool := false
  deriving DecidableEq, Repr

namespace InvStatus

/-- Stores one field of the status and flags the status when the field differs. -/
def assign {β : Type} [DecidableEq β] (field : StatusReport → β)
    (store : β → StatusReport → StatusReport) (value : β) (status : InvStatus) : InvStatus :=
  if field status.toStatusReport ≠ value then
    { toStatusReport := store value status.toStatusReport, changed := true }
  else
    status

def invSetStatus (statusFlags : UInt32) : InvStatus → InvStatus :=
  assign (·.statusFlags) (fun flags report => { report with statusFlags := flags })
    statusFlags.toUInt64

def invSetWarnings (warningFlags : UInt64) : InvStatus → InvStatus :=
  assign (·.warningFlags) (fun flags report => { report with warningFlags := flags }) warningFlags

def invSetFault (faultCode : UInt32) : InvStatus → InvStatus :=
  assign (·.faultCode) (fun code report => { report with faultCode := code }) faultCode

/-- The new status, and the message that `protocol_send_inv_status` sends. -/
def invSetMode (mode : UInt32) (status : InvStatus) : InvStatus × Option StatusReport :=
  let stored := assign (·.mode) (fun mode report => { report with mode := mode }) mode status
  if stored.changed then
    ({ stored with changed := false }, some stored.toStatusReport)
  else
    (stored, none)

/-- Assigning changes the field or nothing, and flags the status in the first case. -/
theorem assign_changed_iff {β : Type} [DecidableEq β] (field : StatusReport → β)
    (store : β → StatusReport → StatusReport)
    (stored : ∀ value report, field (store value report) = value) (value : β)
    (status : InvStatus) :
    (assign field store value status).changed = true ↔ status.changed = true ∨
      (assign field store value status).toStatusReport ≠ status.toStatusReport := by
  rw [assign]
  split
  · next differs =>
      have kept : store value status.toStatusReport ≠ status.toStatusReport := by
        intro same
        apply differs
        rw [← same, stored]
      simp [kept]
  · simp

/-- A value that is not stored is stored already. -/
theorem assign_toStatusReport {β : Type} [DecidableEq β] (field : StatusReport → β)
    (store : β → StatusReport → StatusReport) (kept : ∀ report, store (field report) report = report)
    (value : β) (status : InvStatus) :
    (assign field store value status).toStatusReport = store value status.toStatusReport := by
  rw [assign]
  split
  · rfl
  · next same =>
      rw [← not_not.mp same, kept]

end InvStatus

/-- A call of one of the four functions. -/
inductive SetCall
  | status (statusFlags : UInt32)
  | warnings (warningFlags : UInt64)
  | fault (faultCode : UInt32)
  | mode (mode : UInt32)
  deriving DecidableEq, Repr

/-- The report with the argument of a call in its field. -/
def StatusReport.storing (report : StatusReport) : SetCall → StatusReport
  | .status statusFlags => { report with statusFlags := statusFlags.toUInt64 }
  | .warnings warningFlags => { report with warningFlags }
  | .fault faultCode => { report with faultCode }
  | .mode mode => { report with mode }

/-- The new status, and the message sent by the call. -/
def InvStatus.take (status : InvStatus) : SetCall → InvStatus × Option StatusReport
  | .status statusFlags => (status.invSetStatus statusFlags, none)
  | .warnings warningFlags => (status.invSetWarnings warningFlags, none)
  | .fault faultCode => (status.invSetFault faultCode, none)
  | .mode mode => status.invSetMode mode

def statusMachine : Machine InvStatus SetCall where
  step status call := some (status.take call).1

/-- The message sent by a call. -/
def sentBy (status : InvStatus) (call : SetCall) : Option StatusReport := (status.take call).2

namespace InvStatus

theorem invSetStatus_changed_iff (flags : UInt32) (status : InvStatus) :
    (status.invSetStatus flags).changed = true ↔ status.changed = true ∨
      (status.invSetStatus flags).toStatusReport ≠ status.toStatusReport :=
  assign_changed_iff (·.statusFlags) _ (fun _ _ => rfl) _ status

theorem invSetWarnings_changed_iff (flags : UInt64) (status : InvStatus) :
    (status.invSetWarnings flags).changed = true ↔ status.changed = true ∨
      (status.invSetWarnings flags).toStatusReport ≠ status.toStatusReport :=
  assign_changed_iff (·.warningFlags) _ (fun _ _ => rfl) _ status

theorem invSetFault_changed_iff (code : UInt32) (status : InvStatus) :
    (status.invSetFault code).changed = true ↔ status.changed = true ∨
      (status.invSetFault code).toStatusReport ≠ status.toStatusReport :=
  assign_changed_iff (·.faultCode) _ (fun _ _ => rfl) _ status

/-- The mode is stored like the other fields; what is sent is the status left behind. -/
theorem invSetMode_spec (mode : UInt32) (status : InvStatus) :
    (status.invSetMode mode).1.changed = false ∧
      ∀ shown, (status.invSetMode mode).2 = some shown ↔
        shown = (status.invSetMode mode).1.toStatusReport ∧
          (status.changed = true ∨
            (status.invSetMode mode).1.toStatusReport ≠ status.toStatusReport) := by
  have stored := assign_changed_iff (·.mode) (fun mode report => { report with mode := mode })
    (fun _ _ => rfl) mode status
  rw [invSetMode]
  generalize assign _ _ mode status = kept at stored
  cases raised : kept.changed with
  | true =>
      refine ⟨by simp, fun shown => ?_⟩
      have altered := stored.mp raised
      simp only [if_true, Option.some.injEq]
      exact ⟨fun same => ⟨same.symm, altered⟩, fun same => same.1.symm⟩
  | false =>
      have unaltered := mt stored.mpr (by simp [raised])
      refine ⟨by simp [raised], fun shown => ?_⟩
      simp only [Bool.false_eq_true, if_false, reduceCtorEq, false_iff]
      exact fun sent => unaltered sent.2

end InvStatus

/-- Every call stores its argument, and nothing else. -/
theorem take_stores (status : InvStatus) (call : SetCall) :
    (status.take call).1.toStatusReport = status.toStatusReport.storing call := by
  cases call with
  | status statusFlags => exact InvStatus.assign_toStatusReport _ _ (fun _ => rfl) _ status
  | warnings warningFlags => exact InvStatus.assign_toStatusReport _ _ (fun _ => rfl) _ status
  | fault faultCode => exact InvStatus.assign_toStatusReport _ _ (fun _ => rfl) _ status
  | mode mode =>
      have stored := InvStatus.assign_toStatusReport (·.mode)
        (fun mode report => { report with mode := mode }) (fun _ => rfl) mode status
      rw [InvStatus.take, InvStatus.invSetMode]
      split
      · exact stored
      · exact stored

theorem statusMachine_reporting :
    Reporting statusMachine InvStatus.toStatusReport InvStatus.changed sentBy where
  quiet := by
    rintro status next call ⟨⟩ quiet
    cases call with
    | status statusFlags => exact status.invSetStatus_changed_iff statusFlags
    | warnings warningFlags => exact status.invSetWarnings_changed_iff warningFlags
    | fault faultCode => exact status.invSetFault_changed_iff faultCode
    | mode mode =>
        obtain ⟨lowered, sends⟩ := status.invSetMode_spec mode
        have none_sent := (sends (status.invSetMode mode).1.toStatusReport).not.mp
          (by rw [show (status.invSetMode mode).2 = none from quiet]; nofun)
        rw [show (status.take (.mode mode)).1 = (status.invSetMode mode).1 from rfl, lowered]
        simpa using none_sent
  report := by
    intro status next call shown stepped sent
    cases stepped
    cases call with
    | status statusFlags => simp [sentBy, InvStatus.take] at sent
    | warnings warningFlags => simp [sentBy, InvStatus.take] at sent
    | fault faultCode => simp [sentBy, InvStatus.take] at sent
    | mode mode =>
        obtain ⟨lowered, sends⟩ := status.invSetMode_spec mode
        exact ⟨((sends shown).mp sent).1, lowered⟩

/--
The status after a run of calls: every call stores its argument, the status is settled
only when it has been sent, every `invSetMode` settles it, and sends it exactly when some
call has changed it.
-/
structure StatusLaw (trace : List (InvStatus × SetCall)) (status : InvStatus) : Prop where
  stores : ∀ call, (status.take call).1.toStatusReport = status.toStatusReport.storing call
  settled : status.changed = false → lastReport sentBy {} trace = status.toStatusReport
  settles : ∀ mode, (status.invSetMode mode).1.changed = false
  sends : ∀ mode, (sentBy status (.mode mode)).isSome ↔
    ∃ taken ∈ sinceReport sentBy trace ++ [(status, .mode mode)],
      Alters statusMachine InvStatus.toStatusReport taken
  only : ∀ call, (sentBy status call).isSome → ∃ mode, call = .mode mode

/-- The law holds after every run of calls. -/
theorem statusLaw_of_run {trace : List (InvStatus × SetCall)} {status : InvStatus}
    (run : statusMachine.Run {} trace status) : StatusLaw trace status where
  stores := take_stores status
  settled := statusMachine_reporting.lastReport_eq run
  settles mode := (status.invSetMode_spec mode).1
  sends mode := by
    have stepped : statusMachine.step status (.mode mode) = some (status.invSetMode mode).1 := rfl
    rw [sentBy, InvStatus.take, Option.isSome_iff_exists]
    simp only [(status.invSetMode_spec mode).2, exists_eq_left,
      statusMachine_reporting.changed_iff rfl run, List.mem_append, List.mem_singleton,
      or_and_right, exists_or, alters_iff _ stepped]
  only call := by
    cases call with
    | status statusFlags => simp [sentBy, InvStatus.take]
    | warnings warningFlags => simp [sentBy, InvStatus.take]
    | fault faultCode => simp [sentBy, InvStatus.take]
    | mode mode => exact fun _ => ⟨mode, rfl⟩

/-- A flag that changes and changes back is sent once more, although the last report equals it. -/
theorem statusLaw_of_restored :
    StatusLaw (statusMachine.tracing {} [.status 1, .status 0, .mode 0]) {} :=
  statusLaw_of_run (Machine.run_of_exec rfl)

end EsInverter.Inverter
