import EsInverter.Ota.HttpOta

/-!
# Liveness of the OTA handles

Between two iterations a handle variable should be non-`NULL` exactly when its
handle is live.  Every state of `handle_ota_process` keeps this but FINISHED,
which has both handles freed and clears neither variable.
-/

set_option autoImplicit false

namespace EsInverter.Ota

open Lib

namespace Handle

/-- The variable holds exactly what is live. -/
def Exact (handle : Handle) : Prop := handle.live = handle.var.toList

theorem exact_null : null.Exact := rfl

theorem Exact.var_iff_live {handle : Handle} (exact_ : handle.Exact) (token : Nat) :
    handle.var = some token ↔ token ∈ handle.live := by
  rw [exact_, Option.mem_toList]

theorem Exact.not_dangling {handle : Handle} (exact_ : handle.Exact) :
    handle.dangling = false := by
  rw [dangling]
  cases held : handle.var with
  | none => rfl
  | some token =>
      have alive := (exact_.var_iff_live token).mp held
      simp [alive]

theorem Exact.freed_live {handle : Handle} (exact_ : handle.Exact) : handle.freed.live = [] := by
  rw [freed]
  cases held : handle.var with
  | none => rw [exact_, held]; rfl
  | some token => rw [exact_, held]; simp

theorem Exact.freed_cleared {handle : Handle} (exact_ : handle.Exact) :
    handle.freed.cleared = null := by
  rw [cleared, exact_.freed_live]
  rfl

@[simp]
theorem freed_var (handle : Handle) : handle.freed.var = handle.var := by
  rw [freed]
  split
  · rfl
  · rfl

theorem Exact.freed_dangling {handle : Handle} (exact_ : handle.Exact)
    (held : handle.var ≠ none) : handle.freed.dangling = true := by
  obtain ⟨token, token_eq⟩ := Option.ne_none_iff_exists'.mp held
  rw [dangling, freed_var, token_eq, exact_.freed_live]
  rfl

theorem exact_of_var_none {handle : Handle} (exact_ : handle.Exact) (empty : handle.var = none) :
    handle = null := by
  cases handle with
  | mk var live =>
      obtain rfl : var = none := empty
      obtain rfl : live = [] := exact_
      rfl

end Handle

/-- Neither assertion on the handles has failed. -/
def State.HandleAsserts (state : State) : Prop :=
  state.fault ≠ some (.assertion .decryptHandle) ∧ state.fault ≠ some (.assertion .httpsOtaHandle)

/-- What the handles are expected to satisfy: between two iterations a variable is non-`NULL` if
and only if its handle is live, and so far no freed handle was passed and no assertion on the
handles failed. -/
structure HandlesSound (state : State) : Prop where
  https : state.fault = none →
    ∀ token, state.httpsOtaHandle.var = some token ↔ token ∈ state.httpsOtaHandle.live
  decrypt : state.fault = none →
    ∀ token, state.decryptHandle.var = some token ↔ token ∈ state.decryptHandle.live
  unpassed : state.passedFreed = false
  asserts : state.HandleAsserts

/-- The invariant of the handles. -/
structure Kept (state : State) : Prop where
  https : state.fault = none → state.httpsOtaHandle.Exact
  decrypt : state.fault = none → state.decryptHandle.Exact
  unpassed : state.passedFreed = false
  asserts : state.HandleAsserts

theorem Kept.handlesSound {state : State} (kept : Kept state) : HandlesSound state where
  https running := (kept.https running).var_iff_live
  decrypt running := (kept.decrypt running).var_iff_live
  unpassed := kept.unpassed
  asserts := kept.asserts

/-- Both variables are `NULL`, and nothing is live. -/
structure Closed (state : State) : Prop where
  https : state.httpsOtaHandle = .null
  decrypt : state.decryptHandle = .null

/-- Both variables hold a handle. -/
structure Opened (state : State) : Prop where
  https : state.httpsOtaHandle.var ≠ none
  decrypt : state.decryptHandle.var ≠ none

/-- Where the state machine is decides which variables are `NULL`. -/
structure Phased (state : State) : Prop where
  closed : state.ms = .begin → Closed state
  opened : state.waits = false → state.ms ≠ .begin → Opened state
  started : state.waits = false → state.otaMsg.action = .start

/-- The handles, whatever the loop does next. -/
structure Invariant (state : State) : Prop where
  kept : Kept state
  phased : state.fault = none → Phased state

theorem kept_of_stopped {state : State} {fault : Fault} (unpassed : state.passedFreed = false)
    (stopped : state.fault = some fault) (asserts : state.HandleAsserts) : Kept state where
  https running := by rw [stopped] at running; cases running
  decrypt running := by rw [stopped] at running; cases running
  unpassed := unpassed
  asserts := asserts

theorem handleAsserts_of_none {state : State} (running : state.fault = none) :
    state.HandleAsserts := by
  rw [State.HandleAsserts, running]
  exact ⟨nofun, nofun⟩

theorem handleAsserts_of_errorCheck {state : State} (stopped : state.fault = some .errorCheck) :
    state.HandleAsserts := by
  rw [State.HandleAsserts, stopped]
  exact ⟨nofun, nofun⟩

/-- One handle is freed and set to `NULL`, or the device stops at `ESP_ERROR_CHECK`. -/
theorem abortHttps_cases {outcome : Outcome} {state : State} (running : state.fault = none)
    (kept : Kept state) :
    abortHttps outcome state = { state with httpsOtaHandle := .null } ∨
      (abortHttps outcome state).passedFreed = false ∧
        (abortHttps outcome state).fault = some .errorCheck := by
  have exact_ := kept.https running
  have unpassed : state.passHttps.passedFreed = false := by
    simp [State.passHttps, kept.unpassed, exact_.not_dangling]
  rw [abortHttps]
  split
  · next empty =>
      left
      rw [← Handle.exact_of_var_none exact_ empty]
  · split
    · left
      rw [exact_.freed_cleared]
      simp [State.freeHttps, State.passHttps, exact_.not_dangling]
    · right
      exact ⟨unpassed, rfl⟩

theorem abortDecrypt_cases {outcome : Outcome} {state : State} (running : state.fault = none)
    (kept : Kept state) :
    abortDecrypt outcome state = { state with decryptHandle := .null } ∨
      (abortDecrypt outcome state).passedFreed = false ∧
        (abortDecrypt outcome state).fault = some .errorCheck := by
  have exact_ := kept.decrypt running
  have unpassed : state.passDecrypt.passedFreed = false := by
    simp [State.passDecrypt, kept.unpassed, exact_.not_dangling]
  rw [abortDecrypt]
  split
  · next empty =>
      left
      rw [← Handle.exact_of_var_none exact_ empty]
  · split
    · left
      rw [exact_.freed_cleared]
      simp [State.freeDecrypt, State.passDecrypt, exact_.not_dangling]
    · right
      exact ⟨unpassed, rfl⟩

/-- What `abort_ota_handle` leaves when both handles were in order. -/
def State.aborted (state : State) (errCode : ErrCode) : State :=
  { state.post (.abort errCode) with httpsOtaHandle := .null, decryptHandle := .null }

theorem closed_aborted (state : State) (errCode : ErrCode) : Closed (state.aborted errCode) :=
  ⟨rfl, rfl⟩

/-- Both handles are freed, or the device stops at `ESP_ERROR_CHECK`. -/
theorem abortOtaHandle_cases {outcome : Outcome} {errCode : ErrCode} {state : State}
    (running : state.fault = none) (kept : Kept state) :
    abortOtaHandle outcome errCode state = state.aborted errCode ∨
      (abortOtaHandle outcome errCode state).passedFreed = false ∧
        (abortOtaHandle outcome errCode state).fault = some .errorCheck := by
  rw [abortOtaHandle]
  rcases abortHttps_cases running kept with same | ⟨unpassed, stopped⟩
  · have runningHttps : (abortHttps outcome state).fault = none := by rw [same]; exact running
    have keptHttps : Kept (abortHttps outcome state) := by
      rw [same]
      exact ⟨fun _ => Handle.exact_null, kept.decrypt, kept.unpassed, kept.asserts⟩
    rw [State.andThen_of_fault_none runningHttps]
    rcases abortDecrypt_cases runningHttps keptHttps with sameDecrypt | ⟨unpassed, stopped⟩
    · left
      have runningDecrypt : (abortDecrypt outcome (abortHttps outcome state)).fault = none := by
        rw [sameDecrypt]
        exact runningHttps
      rw [State.andThen_of_fault_none runningDecrypt, sameDecrypt, same]
      rfl
    · right
      rw [State.andThen_of_fault stopped]
      exact ⟨unpassed, stopped⟩
  · right
    rw [State.andThen_of_fault stopped, State.andThen_of_fault stopped]
    exact ⟨unpassed, stopped⟩

theorem kept_of_closed {state : State} (closed : Closed state) (running : state.fault = none)
    (unpassed : state.passedFreed = false) : Kept state where
  https _ := by rw [closed.https]; exact Handle.exact_null
  decrypt _ := by rw [closed.decrypt]; exact Handle.exact_null
  unpassed := unpassed
  asserts := handleAsserts_of_none running

theorem invariant_of_stopped {state : State} (unpassed : state.passedFreed = false)
    (stopped : state.fault = some .errorCheck) : Invariant state where
  kept := kept_of_stopped unpassed stopped (handleAsserts_of_errorCheck stopped)
  phased running := by rw [stopped] at running; cases running

/-- `ABORT`: the machine's state stays, the task waits. -/
theorem invariant_abort {outcome : Outcome} {errCode : ErrCode} {state : State}
    (running : state.fault = none) (kept : Kept state) :
    Invariant ((abortOtaHandle outcome errCode state).andThen
      fun state => { state with waits := true }) := by
  rcases abortOtaHandle_cases running kept with same | ⟨unpassed, stopped⟩
  · have runningAborted : (abortOtaHandle outcome errCode state).fault = none := by
      rw [same]
      exact running
    rw [State.andThen_of_fault_none runningAborted, same]
    have closed : Closed { state.aborted errCode with waits := true } := ⟨rfl, rfl⟩
    exact ⟨kept_of_closed closed running kept.unpassed, fun _ => ⟨fun _ => closed, nofun, nofun⟩⟩
  · rw [State.andThen_of_fault stopped]
    exact invariant_of_stopped unpassed stopped

/-- `START`: the machine starts again with both variables `NULL`. -/
theorem invariant_restart {outcome : Outcome} {state : State} (running : state.fault = none)
    (kept : Kept state) (started : state.otaMsg.action = .start) :
    Invariant (handleRestart outcome state) := by
  have restarted {state : State} (running : state.fault = none)
      (unpassed : state.passedFreed = false) (closed : Closed state)
      (started : state.otaMsg.action = .start) :
      Invariant { state with ms := .begin, waits := false } := by
    have closedNext : Closed { state with ms := .begin, waits := false } :=
      ⟨closed.https, closed.decrypt⟩
    exact ⟨kept_of_closed closedNext running unpassed,
      fun _ => ⟨fun _ => closedNext, fun _ begins => absurd rfl begins, fun _ => started⟩⟩
  rw [handleRestart]
  split
  · rcases abortOtaHandle_cases running kept with same | ⟨unpassed, stopped⟩
    · have runningAborted : (abortOtaHandle outcome .aborted state).fault = none := by
        rw [same]
        exact running
      rw [State.andThen_of_fault_none runningAborted, same]
      exact restarted running kept.unpassed (closed_aborted state .aborted) started
    · rw [State.andThen_of_fault stopped]
      exact invariant_of_stopped unpassed stopped
  · next neither =>
      rw [not_or, not_not, not_not] at neither
      rw [State.andThen_of_fault_none running]
      have closed : Closed state :=
        ⟨Handle.exact_of_var_none (kept.https running) neither.1,
          Handle.exact_of_var_none (kept.decrypt running) neither.2⟩
      exact restarted running kept.unpassed closed started

/-! ### The decrypt callback -/

/-- The callbacks change no handle, and stop at nothing but `ESP_ERROR_CHECK`. -/
structure SameHandles (state next : State) : Prop where
  https : next.httpsOtaHandle = state.httpsOtaHandle
  decrypt : next.decryptHandle = state.decryptHandle
  unpassed : next.passedFreed = state.passedFreed
  ms : next.ms = state.ms
  otaMsg : next.otaMsg = state.otaMsg
  fault : next.fault = state.fault ∨ next.fault = some .errorCheck

theorem SameHandles.refl (state : State) : SameHandles state state :=
  ⟨rfl, rfl, rfl, rfl, rfl, .inl rfl⟩

theorem SameHandles.trans {first second third : State} (before : SameHandles first second)
    (after : SameHandles second third) : SameHandles first third where
  https := after.https.trans before.https
  decrypt := after.decrypt.trans before.decrypt
  unpassed := after.unpassed.trans before.unpassed
  ms := after.ms.trans before.ms
  otaMsg := after.otaMsg.trans before.otaMsg
  fault := by
    rcases after.fault with same | stopped
    · rw [same]
      exact before.fault
    · exact .inr stopped

theorem sameHandles_passDecrypt {state : State} (exact_ : state.decryptHandle.Exact) :
    SameHandles state state.passDecrypt :=
  ⟨rfl, rfl, by simp [State.passDecrypt, exact_.not_dangling], rfl, rfl, .inl rfl⟩

theorem sameHandles_passHttps {state : State} (exact_ : state.httpsOtaHandle.Exact) :
    SameHandles state state.passHttps :=
  ⟨rfl, rfl, by simp [State.passHttps, exact_.not_dangling], rfl, rfl, .inl rfl⟩

theorem sameHandles_validateImageHeader (installed appDesc : List UInt8) (posted : Bool)
    (state : State) :
    SameHandles state (validateImageHeader installed appDesc posted state).1 := by
  rw [validateImageHeader]
  split
  · exact .refl state
  · split
    · exact ⟨rfl, rfl, rfl, rfl, rfl, .inl rfl⟩
    · exact ⟨rfl, rfl, rfl, rfl, rfl, .inr rfl⟩

theorem sameHandles_validateChunk (installed : List UInt8) (start : Nat) (dataOut : List UInt8)
    (posted : Bool) (state : State) :
    SameHandles state (validateChunk installed start dataOut posted state).1 := by
  rw [validateChunk]
  split
  · exact .refl state
  · have called := sameHandles_validateImageHeader installed
      ((dataOut.drop appDescOffset).take appDescSize) posted state
    dsimp only
    split
    · next next_ validated =>
        rw [validated] at called
        refine called.trans ?_
        rw [State.andThen]
        split
        · exact ⟨rfl, rfl, rfl, rfl, rfl, .inl rfl⟩
        · exact .refl next_
    · next validated =>
        rw [validated] at called
        exact called.trans ⟨rfl, rfl, rfl, rfl, rfl, .inl rfl⟩

theorem sameHandles_otaImgDecryptHandler (installed : List UInt8) (delivery : Delivery)
    {state : State} (exact_ : state.decryptHandle.Exact) :
    SameHandles state (otaImgDecryptHandler installed delivery state).1 := by
  have passed := sameHandles_passDecrypt exact_
  cases delivery with
  | noArgs => exact ⟨rfl, rfl, rfl, rfl, rfl, .inl rfl⟩
  | undecryptable => exact passed.trans ⟨rfl, rfl, rfl, rfl, rfl, .inl rfl⟩
  | data dataOut posted =>
      cases dataOut with
      | nil => exact passed
      | cons byte rest =>
          have delivered : SameHandles state (state.passDecrypt.deliver (byte :: rest)) :=
            passed.trans ⟨rfl, rfl, rfl, rfl, rfl, .inl rfl⟩
          rw [otaImgDecryptHandler]
          · split
            · exact delivered
            · exact delivered.trans (sameHandles_validateChunk _ _ _ _ _)
          · nofun

theorem sameHandles_runCallbacks (installed : List UInt8) (deliveries : List Delivery)
    {state : State} (exact_ : state.decryptHandle.Exact) :
    SameHandles state (runCallbacks installed deliveries state).1 := by
  induction deliveries generalizing state with
  | nil => exact .refl state
  | cons delivery rest ih =>
      have called := sameHandles_otaImgDecryptHandler installed delivery exact_
      rw [runCallbacks]
      split
      · next state_ handled =>
          rw [handled] at called
          split
          · have exactNext : state_.decryptHandle.Exact := by rw [called.decrypt]; exact exact_
            exact called.trans (ih exactNext)
          · exact called
      · next handled =>
          rw [handled] at called
          exact called

theorem sameHandles_otaPerform (installed : List UInt8) (outcome : Outcome) {state : State}
    (https : state.httpsOtaHandle.Exact) (decrypt : state.decryptHandle.Exact) :
    SameHandles state (otaPerform installed outcome state).1 := by
  have passed := sameHandles_passHttps https
  have called := passed.trans
    (sameHandles_runCallbacks installed outcome.deliveries decrypt)
  rw [otaPerform]
  split
  · next performed =>
      rw [performed] at called
      exact called
  · next performed =>
      rw [performed] at called
      exact called

/-- What a state of the machine leaves for the end of `handle_ota_process`: it goes on with both
handles, or it reports an error. -/
structure Handled (result : State × ErrCode) : Prop where
  kept : Kept result.1
  started : result.1.otaMsg.action = .start
  opened : result.1.fault = none → result.2 = .none → result.1.ms ≠ .begin ∧ Opened result.1
  unreported : result.1.fault ≠ none → result.2 = .none

theorem invariant_handleResult {outcome : Outcome} {result : State × ErrCode}
    (handled : Handled result) : Invariant (handleResult outcome result) := by
  obtain ⟨state, otaErr⟩ := result
  cases fault : state.fault with
  | some fault_ =>
      obtain rfl : otaErr = .none := handled.unreported (by rw [fault]; nofun)
      rw [handleResult, State.andThen_of_fault fault]
      exact ⟨handled.kept, fun running => by rw [fault] at running; cases running⟩
  | none =>
      by_cases unreported : otaErr = .none
      · subst unreported
        obtain ⟨going, opened⟩ := handled.opened fault rfl
        rw [handleResult, State.andThen_of_fault_none fault]
        have kept : Kept { state with waits := decide (state.ms = .begin) } :=
          ⟨handled.kept.https, handled.kept.decrypt, handled.kept.unpassed, handled.kept.asserts⟩
        refine ⟨kept, fun _ => ⟨fun begins => absurd begins going, fun _ _ => ?_, fun _ => ?_⟩⟩
        · exact ⟨opened.https, opened.decrypt⟩
        · exact handled.started
      · have kept : Kept { state with ms := .begin } :=
          ⟨handled.kept.https, handled.kept.decrypt, handled.kept.unpassed, handled.kept.asserts⟩
        rw [handleResult]
        · exact invariant_abort (by exact fault) kept
        · exact unreported

/-- BEGIN opens both handles or reports an error. -/
theorem handled_begin {outcome : Outcome} {binaryUrl : Option UrlPointer} {state : State}
    (running : state.fault = none) (closed : Closed state) (unpassed : state.passedFreed = false)
    (started : state.otaMsg.action = .start) : Handled (handleBegin outcome binaryUrl state) := by
  obtain ⟨https, decrypt⟩ := closed
  have asserts := handleAsserts_of_none running
  rw [handleBegin]
  simp only [https, decrypt, Handle.null, ne_eq, not_true_eq_false, if_false]
  split
  · refine ⟨⟨fun _ => ?_, fun _ => ?_, unpassed, asserts⟩, started, fun _ => nofun, fun fault => ?_⟩
    · rfl
    · rfl
    · exact absurd running fault
  · split
    · refine ⟨⟨fun _ => rfl, fun _ => rfl, unpassed, asserts⟩, started, fun _ => nofun,
        fun fault => ?_⟩
      exact absurd running fault
    · refine ⟨⟨fun _ => rfl, fun _ => rfl, unpassed, asserts⟩, started, fun _ _ => ?_, fun _ => rfl⟩
      exact ⟨nofun, nofun, nofun⟩

theorem SameHandles.kept {state next : State} (same : SameHandles state next)
    (running : state.fault = none) (kept : Kept state) : Kept next where
  https _ := by rw [same.https]; exact kept.https running
  decrypt _ := by rw [same.decrypt]; exact kept.decrypt running
  unpassed := same.unpassed.trans kept.unpassed
  asserts := by
    rcases same.fault with unchanged | stopped
    · exact handleAsserts_of_none (unchanged.trans running)
    · exact handleAsserts_of_errorCheck stopped

theorem SameHandles.opened {state next : State} (same : SameHandles state next)
    (opened : Opened state) : Opened next where
  https := by rw [same.https]; exact opened.https
  decrypt := by rw [same.decrypt]; exact opened.decrypt

/-- `assert(img_size >= 0)` and `ESP_ERROR_CHECK` can stop the report. -/
theorem handled_reportProgress {outcome : Outcome} {state : State} (kept : Kept state)
    (opened : Opened state) (transfer : state.ms = .transfer)
    (started : state.otaMsg.action = .start) : Handled (reportProgress outcome state) := by
  obtain ⟨https, decrypt, unpassed, asserts⟩ := kept
  obtain ⟨openedHttps, openedDecrypt⟩ := opened
  have going : state.ms ≠ .begin := by rw [transfer]; nofun
  have unreported : state.fault ≠ none → ErrCode.none = .none := fun _ => rfl
  rw [reportProgress]
  split
  · exact ⟨⟨nofun, nofun, unpassed, nofun, nofun⟩, started, nofun, fun _ => rfl⟩
  · dsimp only
    split
    · exact ⟨⟨https, decrypt, unpassed, asserts⟩, started,
        fun _ _ => ⟨going, openedHttps, openedDecrypt⟩, unreported⟩
    · split
      · exact ⟨⟨https, decrypt, unpassed, asserts⟩, started,
          fun _ _ => ⟨going, openedHttps, openedDecrypt⟩, unreported⟩
      · split
        · exact ⟨⟨https, decrypt, unpassed, asserts⟩, started,
            fun _ _ => ⟨going, openedHttps, openedDecrypt⟩, unreported⟩
        · exact ⟨⟨nofun, nofun, unpassed, nofun, nofun⟩, started, nofun, fun _ => rfl⟩

theorem handled_transfer {installed : List UInt8} {outcome : Outcome} {state : State}
    (running : state.fault = none) (kept : Kept state) (opened : Opened state)
    (transfer : state.ms = .transfer) (started : state.otaMsg.action = .start) :
    Handled (handleTransfer installed outcome state) := by
  have performed := sameHandles_otaPerform installed outcome (kept.https running)
    (kept.decrypt running)
  rw [handleTransfer]
  cases result : otaPerform installed outcome state with
  | mk next ret =>
      rw [result] at performed
      have keptNext := performed.kept running kept
      have openedNext := performed.opened opened
      have startedNext : next.otaMsg.action = .start := by rw [performed.otaMsg]; exact started
      dsimp only
      split
      · next stopped =>
          exact ⟨keptNext, startedNext, fun still => absurd still stopped, fun _ => rfl⟩
      · next still =>
          have runningNext : next.fault = none := not_not.mp still
          cases ret with
          | ok =>
              exact ⟨⟨keptNext.https, keptNext.decrypt, keptNext.unpassed, keptNext.asserts⟩,
                startedNext, fun _ _ => ⟨nofun, openedNext.https, openedNext.decrypt⟩, fun _ => rfl⟩
          | error =>
              refine ⟨keptNext, startedNext, fun _ unreported => ?_, fun fault => ?_⟩
              · dsimp only at unreported
                split at unreported
                · cases unreported
                · next reported => exact absurd unreported reported
              · exact absurd runningNext fault
          | inProgress =>
              have passed := sameHandles_passHttps (keptNext.https runningNext)
              exact handled_reportProgress (passed.kept runningNext keptNext)
                (passed.opened openedNext) (performed.ms.trans transfer) startedNext

theorem handled_downloaded {outcome : Outcome} {state : State}
    (running : state.fault = none) (kept : Kept state) (opened : Opened state)
    (started : state.otaMsg.action = .start) : Handled (handleDownloaded outcome state) := by
  have passed := sameHandles_passHttps (kept.https running)
  obtain ⟨https, decrypt, unpassed, asserts⟩ := passed.kept running kept
  rw [handleDownloaded]
  split
  · exact ⟨⟨https, decrypt, unpassed, asserts⟩, started, fun _ => nofun,
      fun fault => absurd running fault⟩
  · exact ⟨⟨https, decrypt, unpassed, asserts⟩, started,
      fun _ _ => ⟨nofun, opened.https, opened.decrypt⟩, fun _ => rfl⟩

/-- Every state but FINISHED keeps the handles in order. -/
theorem handled_handleState {installed : List UInt8} {outcome : Outcome}
    {binaryUrl : Option UrlPointer} {state : State} (running : state.fault = none)
    (kept : Kept state) (phased : Phased state) (going : state.waits = false)
    (unfinished : state.ms ≠ .finished) :
    Handled (handleState installed outcome binaryUrl state) := by
  have started := phased.started going
  rw [handleState]
  cases phase : state.ms with
  | begin => exact handled_begin running (phased.closed phase) kept.unpassed started
  | transfer =>
      have opened := phased.opened going (by rw [phase]; nofun)
      exact handled_transfer running kept opened phase started
  | downloaded =>
      have opened := phased.opened going (by rw [phase]; nofun)
      exact handled_downloaded running kept opened started
  | finished => exact absurd phase unfinished
  | validated | verified | abort =>
      exact ⟨⟨kept.https, kept.decrypt, kept.unpassed, kept.asserts⟩, started, fun _ => nofun,
        fun fault => absurd running fault⟩

/-- The iteration runs FINISHED and is not stopped by `ESP_ERROR_CHECK` before it comes to the
freed handle. -/
def Finishes (state : State) : Event → Prop
  | .submit _ => False
  | .iterate outcome =>
      state.otaQ = [] ∧ state.ms = .finished ∧
        (outcome.decryptEnd = true ∨ outcome.otaAbort = true)

instance (state : State) (event : Event) : Decidable (Finishes state event) :=
  match event with
  | .submit _ => inferInstanceAs (Decidable False)
  | .iterate _ => inferInstanceAs (Decidable (_ ∧ _ ∧ _))

theorem invariant_initial : Invariant .initial where
  kept := ⟨fun _ => rfl, fun _ => rfl, rfl, nofun, nofun⟩
  phased _ := ⟨fun _ => ⟨rfl, rfl⟩, nofun, nofun⟩

theorem kept_unqueued {state : State} (kept : Kept state) (rest : List OtaMsg) (msg : OtaMsg) :
    Kept { state with otaQ := rest, otaMsg := msg } :=
  ⟨kept.https, kept.decrypt, kept.unpassed, kept.asserts⟩

/-- A FINISHED that `ESP_ERROR_CHECK` stops has passed no freed handle. -/
theorem invariant_finished_stopped {outcome : Outcome} {state : State}
    (running : state.fault = none) (kept : Kept state) (opened : Opened state)
    (failing : outcome.decryptEnd = false) (stopping : outcome.otaAbort = false) :
    Invariant (handleResult outcome (handleFinished outcome state)) := by
  have ended : handleFinished outcome state = (state.freeDecrypt, .verify) := by
    rw [handleFinished, failing]
    rfl
  have aborted : abortHttps outcome { state.freeDecrypt with ms := .begin } =
      ({ state.freeDecrypt with ms := .begin }.freeHttps).stop .errorCheck := by
    rw [abortHttps, if_neg (by exact opened.https), stopping]
    rfl
  have unpassed : ({ state.freeDecrypt with ms := .begin }.freeHttps).passedFreed = false := by
    simp [State.freeHttps, State.passHttps, State.freeDecrypt, State.passDecrypt, kept.unpassed,
      (kept.https running).not_dangling, (kept.decrypt running).not_dangling]
  have stopped : abortOtaHandle outcome .verify { state.freeDecrypt with ms := .begin } =
      ({ state.freeDecrypt with ms := .begin }.freeHttps).stop .errorCheck := by
    rw [abortOtaHandle, aborted]
    rfl
  rw [ended]
  simp only [handleResult, stopped]
  exact invariant_of_stopped unpassed rfl

theorem var_of_dangling {handle : Handle} (dangling : handle.dangling = true) :
    handle.var ≠ none := by
  intro empty
  rw [Handle.dangling, empty] at dangling
  cases dangling

theorem passedFreed_andThen {state : State} {next : State → State}
    (passed : state.passedFreed = true)
    (monotone : ∀ state, state.passedFreed = true → (next state).passedFreed = true) :
    (state.andThen next).passedFreed = true := by
  rw [State.andThen]
  split
  · exact monotone state passed
  · exact passed

theorem passedFreed_abortDecrypt {outcome : Outcome} {state : State}
    (passed : state.passedFreed = true) : (abortDecrypt outcome state).passedFreed = true := by
  rw [abortDecrypt]
  split
  · exact passed
  · split <;> simp [State.freeDecrypt, State.passDecrypt, State.stop, passed]

theorem passedFreed_abortDecrypt_dangling {outcome : Outcome} {state : State}
    (dangling : state.decryptHandle.dangling = true) :
    (abortDecrypt outcome state).passedFreed = true := by
  rw [abortDecrypt, if_neg (var_of_dangling dangling)]
  split <;> simp [State.freeDecrypt, State.passDecrypt, State.stop, dangling]

/-- `abort_ota_handle` passes a freed `https_ota_handle`, and a freed `decrypt_handle` when it
comes to it. -/
theorem passedFreed_abortOtaHandle {outcome : Outcome} {errCode : ErrCode} {state : State}
    (running : state.fault = none)
    (freed : state.httpsOtaHandle.dangling = true ∨
      state.decryptHandle.dangling = true ∧ outcome.otaAbort = true) :
    (abortOtaHandle outcome errCode state).passedFreed = true := by
  rw [abortOtaHandle]
  refine passedFreed_andThen ?_ fun _ passed => passed
  rcases freed with https | ⟨decrypt, aborts⟩
  · refine passedFreed_andThen ?_ fun _ passed => passedFreed_abortDecrypt passed
    rw [abortHttps, if_neg (var_of_dangling https)]
    split <;> simp [State.freeHttps, State.passHttps, State.stop, https]
  · have same : (abortHttps outcome state).fault = none ∧
        (abortHttps outcome state).decryptHandle = state.decryptHandle := by
      rw [abortHttps, aborts]
      split
      · exact ⟨running, rfl⟩
      · exact ⟨running, rfl⟩
    rw [State.andThen_of_fault_none same.1]
    exact passedFreed_abortDecrypt_dangling (by rw [same.2]; exact decrypt)

/-- A reported error ends in `abort_ota_handle`. -/
theorem passedFreed_handleResult {outcome : Outcome} {errCode : ErrCode} {state : State}
    (running : state.fault = none) (reported : errCode ≠ .none)
    (freed : state.httpsOtaHandle.dangling = true ∨
      state.decryptHandle.dangling = true ∧ outcome.otaAbort = true) :
    (handleResult outcome (state, errCode)).passedFreed = true := by
  rw [handleResult]
  · refine passedFreed_andThen ?_ fun _ passed => passed
    exact passedFreed_abortOtaHandle (by exact running) freed
  · exact reported

/-- Both variables keep their freed handles when FINISHED succeeds. -/
theorem finished_kept_freed {outcome : Outcome} {state : State} (running : state.fault = none)
    (ended : outcome.decryptEnd = true) (finished : outcome.otaFinish = true) :
    (handleResult outcome (handleFinished outcome state)).fault = none ∧
      (handleResult outcome (handleFinished outcome state)).httpsOtaHandle =
        state.httpsOtaHandle.freed := by
  rw [handleFinished, ended, finished]
  simp only [Bool.not_true, Bool.false_eq_true, if_false, handleResult]
  rw [State.andThen_of_fault_none (by exact running)]
  exact ⟨running, rfl⟩

/-- FINISHED leaves a freed handle in a variable or passes one on. -/
theorem not_handlesSound_finished {outcome : Outcome} {state : State}
    (running : state.fault = none) (kept : Kept state) (opened : Opened state)
    (reached : outcome.decryptEnd = true ∨ outcome.otaAbort = true) :
    ¬HandlesSound (handleResult outcome (handleFinished outcome state)) := by
  intro sound
  have unpassed := sound.unpassed
  have freedHttps := (kept.https running).freed_dangling opened.https
  have freedDecrypt := (kept.decrypt running).freed_dangling opened.decrypt
  cases decryptEnd : outcome.decryptEnd with
  | false =>
      have aborts : outcome.otaAbort = true := by simpa [decryptEnd] using reached
      have passed : (handleResult outcome (state.freeDecrypt, .verify)).passedFreed = true :=
        passedFreed_handleResult running nofun (.inr ⟨freedDecrypt, aborts⟩)
      rw [handleFinished, decryptEnd] at unpassed
      exact Bool.noConfusion (passed.symm.trans unpassed)
  | true =>
      cases otaFinish : outcome.otaFinish with
      | false =>
          have passed : (handleResult outcome
              ((state.freeDecrypt.post .verified).freeHttps, .cleanup)).passedFreed = true :=
            passedFreed_handleResult running nofun (.inl freedHttps)
          rw [handleFinished, decryptEnd, otaFinish] at unpassed
          exact Bool.noConfusion (passed.symm.trans unpassed)
      | true =>
          obtain ⟨still, freed⟩ := finished_kept_freed running decryptEnd otaFinish
          obtain ⟨token, held⟩ := Option.ne_none_iff_exists'.mp opened.https
          have live := (sound.https still token).mp (by rw [freed, Handle.freed_var, held])
          rw [freed, (kept.https running).freed_live] at live
          cases live

theorem invariant_step {installed : List UInt8} {state next : State} {event : Event}
    (unfinished : ¬Finishes state event) (invariant : Invariant state)
    (stepped : (otaTask installed).step state event = some next) : Invariant next := by
  obtain ⟨kept, phased⟩ := invariant
  cases event with
  | submit msg =>
      obtain ⟨⟨running, _⟩, rfl⟩ := provided_eq_some.mp stepped
      have phased_ := phased running
      exact ⟨⟨kept.https, kept.decrypt, kept.unpassed, kept.asserts⟩,
        fun _ => ⟨fun begins => ⟨(phased_.closed begins).https, (phased_.closed begins).decrypt⟩,
          fun going later =>
            ⟨(phased_.opened going later).https, (phased_.opened going later).decrypt⟩,
          phased_.started⟩⟩
  | iterate outcome =>
      obtain ⟨running, ⟨empty, going, rfl⟩ | ⟨msg, rest, queue, rfl⟩⟩ := iterate_cases stepped
      · have phased_ := phased running
        rw [otaTaskBody, phased_.started going]
        by_cases finished : state.ms = .finished
        · have opened := phased_.opened going (by rw [finished]; nofun)
          have stopping : outcome.decryptEnd = false ∧ outcome.otaAbort = false := by
            simpa [Finishes, empty, finished] using unfinished
          have stopped := invariant_finished_stopped running kept opened stopping.1 stopping.2
          simpa [handleOtaProcess, handleState, finished] using stopped
        · exact invariant_handleResult (handled_handleState running kept phased_ going finished)
      · have keptMsg := kept_unqueued kept rest msg
        rw [otaTaskBody]
        cases action : msg.action with
        | start => exact invariant_restart (by exact running) keptMsg action
        | abort => exact invariant_abort (by exact running) keptMsg

/-- The handles are sound in every state of the run. -/
def SoundThroughout (trace : List (State × Event)) (state : State) : Prop :=
  (∀ taken ∈ trace, HandlesSound taken.1) ∧ HandlesSound state

theorem soundThroughout_of_unfinished {installed : List UInt8} {trace : List (State × Event)}
    {state : State} (run : (otaTask installed).Run .initial trace state)
    (unfinished : ∀ taken ∈ trace, ¬Finishes taken.1 taken.2) : SoundThroughout trace state := by
  have visited := run.invariant_visited invariant_initial invariant_step unfinished
  have final := run.invariant invariant_initial invariant_step unfinished
  exact ⟨fun taken inside => (visited taken inside).kept.handlesSound, final.kept.handlesSound⟩

/-- The step that finishes an OTA makes the handles unsound. -/
theorem not_handlesSound_step {installed : List UInt8} {state next : State} {event : Event}
    (invariant : Invariant state) (finishes : Finishes state event)
    (stepped : (otaTask installed).step state event = some next) : ¬HandlesSound next := by
  cases event with
  | submit msg => exact finishes.elim
  | iterate outcome =>
      obtain ⟨empty, finished, reached⟩ := finishes
      obtain ⟨running, ⟨_, going, rfl⟩ | ⟨msg, rest, queue, _⟩⟩ := iterate_cases stepped
      · have phased := invariant.phased running
        have opened := phased.opened going (by rw [finished]; nofun)
        rw [otaTaskBody, phased.started going]
        have unsound := not_handlesSound_finished running invariant.kept opened reached
        simpa [handleOtaProcess, handleState, finished] using unsound
      · rw [empty] at queue
        cases queue

/-- The handles are sound in every state of a run exactly when no iteration of it has finished an
OTA. -/
theorem soundThroughout_iff {installed : List UInt8} {trace : List (State × Event)} {state : State}
    (run : (otaTask installed).Run .initial trace state) :
    SoundThroughout trace state ↔ ∀ taken ∈ trace, ¬Finishes taken.1 taken.2 := by
  refine ⟨fun sound => ?_, soundThroughout_of_unfinished run⟩
  induction run with
  | nil => simp
  | @snoc trace state next event run stepped ih =>
      have soundBefore : SoundThroughout trace state :=
        ⟨fun taken inside => sound.1 taken (by simp [inside]), sound.1 (state, event) (by simp)⟩
      have unfinished := ih soundBefore
      intro taken inside
      rcases List.mem_append.mp inside with earlier | last
      · exact unfinished taken earlier
      · obtain rfl := List.mem_singleton.mp last
        intro finishes
        have invariant := run.invariant invariant_initial invariant_step unfinished
        exact not_handlesSound_step invariant finishes stepped sound.2

/-- A download whose first request fails. -/
def failedDownload : List Event :=
  [.submit ⟨.start, some .newFwImageUrl⟩, .iterate {}, .iterate {}, .iterate { perform := .error }]

def afterFailedDownload : State :=
  { State.initial with
    otaMsg := ⟨.start, some .newFwImageUrl⟩, url := some .newFwImageUrl, tokens := 2,
    posted := [.begin, .abort .esp] }

theorem soundThroughout_iff_failedDownload :
    SoundThroughout ((otaTask []).tracing .initial failedDownload) afterFailedDownload := by
  have executed : (otaTask []).exec .initial failedDownload = some afterFailedDownload := by decide
  refine (soundThroughout_iff (Machine.run_of_exec executed)).mpr ?_
  decide

/-- An image is downloaded and finished; both variables keep their freed handles. -/
def finishedDownload : List Event :=
  [.submit ⟨.start, some .newFwImageUrl⟩, .iterate {}, .iterate {}, .iterate {}, .iterate {},
    .iterate {}]

def afterFinishedDownload : State :=
  { State.initial with
    otaMsg := ⟨.start, some .newFwImageUrl⟩, url := some .newFwImageUrl, tokens := 2,
    httpsOtaHandle := ⟨some 1, []⟩, decryptHandle := ⟨some 0, []⟩,
    posted := [.begin, .downloaded, .verified, .finished], finished := [⟨[], []⟩] }

theorem finishedDownload_unsound :
    ¬∀ trace state, (otaTask []).Run .initial trace state → SoundThroughout trace state := by
  intro always
  have executed : (otaTask []).exec .initial finishedDownload = some afterFinishedDownload := by
    decide
  have sound := (always _ _ (Machine.run_of_exec executed)).2
  have live := (sound.https rfl 1).mp rfl
  cases live

end EsInverter.Ota
