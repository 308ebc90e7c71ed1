import EsInverter.Ota.HttpOta

/-!
# Validation of the downloaded image

The descriptor is looked for at the same offset of every chunk until one is
accepted, and nothing asks for a validation at the end.  The image's own
descriptor is validated exactly when the first chunk holds it whole.
-/

set_option autoImplicit false

namespace EsInverter.Ota

open Lib

/-- The application descriptor of a decrypted image. -/
def appDescOf (image : List UInt8) : List UInt8 := (image.drop appDescOffset).take appDescSize

/-- `validate_image_header` accepted the descriptor of the image that was finished, so its version
is not the installed one. -/
structure Validated (installed : List UInt8) (finished : Finished) : Prop where
  accepted : ⟨appDescOffset, appDescOf finished.chunks.flatten, true⟩ ∈ finished.validations
  otherVersion : version (appDescOf finished.chunks.flatten) ≠ installed

/-- The first chunk reaches to the end of the descriptor. -/
def FirstHolds : List (List UInt8) → Prop
  | [] => False
  | first :: _ => appDescOffset + appDescSize ≤ first.length

instance (chunks : List (List UInt8)) : Decidable (FirstHolds chunks) :=
  match chunks with
  | [] => inferInstanceAs (Decidable False)
  | _ :: _ => inferInstanceAs (Decidable (_ ≤ _))

/-- The records of an OTA in which no validation has failed. -/
structure Judged (installed : List UInt8) (chunks : List (List UInt8))
    (validations : List Validation) (imgValidated : Bool) : Prop where
  validated : FirstHolds chunks → Validated installed ⟨chunks, validations⟩
  held : ∀ validation ∈ validations, validation.offset = appDescOffset → FirstHolds chunks
  begun : imgValidated = true → chunks ≠ []
  nonempty : ∀ chunk ∈ chunks, chunk ≠ []

theorem judged_nil (installed : List UInt8) : Judged installed [] [] false where
  validated := False.elim
  held := by simp
  begun := nofun
  nonempty := by simp

/-- The records decide whether the finished image was validated. -/
theorem Judged.validated_iff {installed : List UInt8} {chunks : List (List UInt8)}
    {validations : List Validation} {imgValidated : Bool}
    (judged : Judged installed chunks validations imgValidated) :
    Validated installed ⟨chunks, validations⟩ ↔ FirstHolds chunks :=
  ⟨fun validated => judged.held _ validated.accepted rfl, judged.validated⟩

/-! ### One more chunk -/

theorem appDescOf_append {image : List UInt8} (enough : appDescOffset + appDescSize ≤ image.length)
    (later : List UInt8) : appDescOf (image ++ later) = appDescOf image := by
  have reached : appDescSize ≤ (image.drop appDescOffset).length := by
    rw [List.length_drop]
    omega
  rw [appDescOf, List.drop_append_of_le_length (by omega), List.take_append_of_le_length reached,
    appDescOf]

theorem length_of_firstHolds {chunks : List (List UInt8)} (first : FirstHolds chunks) :
    appDescOffset + appDescSize ≤ chunks.flatten.length := by
  cases chunks with
  | nil => exact first.elim
  | cons chunk rest =>
      have long : appDescOffset + appDescSize ≤ chunk.length := first
      rw [List.flatten_cons, List.length_append]
      omega

theorem firstHolds_append {chunks : List (List UInt8)} (begun : chunks ≠ [])
    (chunk : List UInt8) : FirstHolds (chunks ++ [chunk]) ↔ FirstHolds chunks := by
  cases chunks with
  | nil => exact absurd rfl begun
  | cons first rest => rfl

/-- A validated image stays validated when bytes and further validations follow. -/
theorem Validated.append {installed : List UInt8} {chunks : List (List UInt8)}
    {validations : List Validation} (validated : Validated installed ⟨chunks, validations⟩)
    (first : FirstHolds chunks) (chunk : List UInt8) (later : List Validation) :
    Validated installed ⟨chunks ++ [chunk], validations ++ later⟩ := by
  have same : appDescOf (chunks ++ [chunk]).flatten = appDescOf chunks.flatten := by
    rw [List.flatten_append]
    exact appDescOf_append (length_of_firstHolds first) _
  obtain ⟨accepted, otherVersion⟩ := validated
  exact ⟨by rw [same]; exact List.mem_append_left _ accepted, by rw [same]; exact otherVersion⟩

theorem length_pos_of_nonempty {chunks : List (List UInt8)} (begun : chunks ≠ [])
    (nonempty : ∀ chunk ∈ chunks, chunk ≠ []) : 0 < chunks.flatten.length := by
  cases chunks with
  | nil => exact absurd rfl begun
  | cons first rest =>
      have some_ := List.length_pos_of_ne_nil (nonempty first (by simp))
      rw [List.flatten_cons, List.length_append]
      omega

/-- A later chunk, validated or not. -/
theorem Judged.later {installed : List UInt8} {chunks : List (List UInt8)}
    {validations : List Validation} {imgValidated : Bool}
    (judged : Judged installed chunks validations imgValidated) (begun : chunks ≠ [])
    {chunk : List UInt8} (some_ : chunk ≠ []) {added : List Validation}
    (behind : ∀ validation ∈ added, validation.offset ≠ appDescOffset) (flag : Bool) :
    Judged installed (chunks ++ [chunk]) (validations ++ added) flag where
  validated first := by
    have before := (firstHolds_append begun chunk).mp first
    exact (judged.validated before).append before chunk added
  held validation inside atStart := by
    rw [firstHolds_append begun]
    rcases List.mem_append.mp inside with earlier | later
    · exact judged.held validation earlier atStart
    · exact absurd atStart (behind validation later)
  begun _ := by simp
  nonempty chunk_ inside := by
    rcases List.mem_append.mp inside with earlier | later
    · exact judged.nonempty chunk_ earlier
    · obtain rfl := List.mem_singleton.mp later
      exact some_

/-- Nothing is validated before the first chunk. -/
theorem Judged.unvalidated {installed : List UInt8} {validations : List Validation}
    {imgValidated : Bool} (judged : Judged installed [] validations imgValidated) :
    ∀ validation ∈ validations, validation.offset ≠ appDescOffset :=
  fun validation inside atStart => judged.held validation inside atStart

/-- A chunk too short to hold a descriptor. -/
theorem Judged.short {installed : List UInt8} {chunks : List (List UInt8)}
    {validations : List Validation} {imgValidated : Bool}
    (judged : Judged installed chunks validations imgValidated) {chunk : List UInt8}
    (some_ : chunk ≠ []) (short : chunk.length < appDescOffset + appDescSize) :
    Judged installed (chunks ++ [chunk]) validations imgValidated := by
  cases chunks with
  | cons first rest =>
      have behind : ∀ validation ∈ ([] : List Validation), validation.offset ≠ appDescOffset := by
        simp
      have later := judged.later (by simp) some_ behind imgValidated
      rwa [List.append_nil] at later
  | nil =>
      refine ⟨fun first => ?_, fun validation inside atStart => ?_, fun _ => by simp, ?_⟩
      · have long : appDescOffset + appDescSize ≤ chunk.length := first
        omega
      · exact absurd atStart (judged.unvalidated validation inside)
      · simpa using some_

/-- A chunk whose descriptor was accepted. -/
theorem Judged.accepted {installed : List UInt8} {chunks : List (List UInt8)}
    {validations : List Validation} {imgValidated : Bool}
    (judged : Judged installed chunks validations imgValidated) {chunk : List UInt8}
    (long : appDescOffset + appDescSize ≤ chunk.length)
    (otherVersion : version (appDescOf chunk) ≠ installed) :
    Judged installed (chunks ++ [chunk])
      (validations ++ [⟨chunks.flatten.length + appDescOffset, appDescOf chunk, true⟩]) true := by
  have some_ : chunk ≠ [] := by
    rintro rfl
    simp [appDescOffset] at long
  cases chunks with
  | cons first rest =>
      refine judged.later (by simp) some_ ?_ true
      have behind := length_pos_of_nonempty (by simp) judged.nonempty
      simp only [List.mem_singleton, forall_eq]
      omega
  | nil =>
      refine ⟨fun _ => ⟨?_, ?_⟩, fun _ _ _ => long, fun _ => by simp, ?_⟩
      · simp
      · simpa using otherVersion
      · simpa using some_

/-! ### The decrypt callback -/

def State.Judged (installed : List UInt8) (state : State) : Prop :=
  Ota.Judged installed state.chunks state.validations state.decryptCtx.imgValidated

/-- What a callback that returned `ESP_OK` keeps while the device runs. -/
structure Judges (installed : List UInt8) (state : State) (result : State × EspErr) : Prop where
  finished : result.1.finished = state.finished
  ms : result.1.ms = state.ms
  judged : result.2 = .ok → result.1.fault = none → state.Judged installed →
    result.1.Judged installed

theorem judges_validateChunk {installed : List UInt8} {state : State} {dataOut : List UInt8}
    {posted : Bool} (running : state.fault = none) (some_ : dataOut ≠ []) :
    Judges installed state
      (validateChunk installed state.image.length dataOut posted
        (state.passDecrypt.deliver dataOut)) := by
  rw [validateChunk]
  split
  · next short => exact ⟨rfl, rfl, fun _ _ judged => judged.short some_ short⟩
  · next long =>
      rw [Nat.not_lt] at long
      dsimp only
      rw [validateImageHeader]
      by_cases same : version (appDescOf dataOut) = installed
      · rw [if_pos (by exact same)]
        exact ⟨rfl, rfl, nofun⟩
      · rw [if_neg (by exact same)]
        cases posted with
        | false => exact ⟨rfl, rfl, fun _ still => nomatch still⟩
        | true =>
            simp only [if_true]
            rw [State.andThen_of_fault_none (by exact running)]
            exact ⟨rfl, rfl, fun _ _ judged => judged.accepted long same⟩

theorem judges_otaImgDecryptHandler (installed : List UInt8) (delivery : Delivery) {state : State}
    (running : state.fault = none) :
    Judges installed state (otaImgDecryptHandler installed delivery state) := by
  cases delivery with
  | noArgs => exact ⟨rfl, rfl, nofun⟩
  | undecryptable => exact ⟨rfl, rfl, nofun⟩
  | data dataOut posted =>
      cases dataOut with
      | nil => exact ⟨rfl, rfl, fun _ _ judged => judged⟩
      | cons byte rest =>
          rw [otaImgDecryptHandler]
          · cases flag : state.decryptCtx.imgValidated with
            | true =>
                refine ⟨rfl, rfl, fun _ _ judged => ?_⟩
                have none_ : ∀ validation ∈ ([] : List Validation),
                    validation.offset ≠ appDescOffset := by simp
                have later := Judged.later judged (judged.begun flag) (List.cons_ne_nil byte rest)
                  none_ state.decryptCtx.imgValidated
                rwa [List.append_nil] at later
            | false => exact judges_validateChunk running (List.cons_ne_nil byte rest)
          · nofun

theorem judges_runCallbacks (installed : List UInt8) (deliveries : List Delivery) {state : State}
    (running : state.fault = none) :
    Judges installed state (runCallbacks installed deliveries state) := by
  induction deliveries generalizing state with
  | nil => exact ⟨rfl, rfl, fun _ _ judged => judged⟩
  | cons delivery rest ih =>
      have called := judges_otaImgDecryptHandler installed delivery running
      rw [runCallbacks]
      split
      · next next_ handled =>
          rw [handled] at called
          split
          · next still =>
              obtain ⟨finished, ms, judged⟩ := ih still
              exact ⟨finished.trans called.finished, ms.trans called.ms,
                fun ok running before => judged ok running (called.judged rfl still before)⟩
          · exact called
      · next handled =>
          rw [handled] at called
          exact called

/-- The running OTA is judged unless the device has stopped, and every finished one was. -/
structure Inspected (installed : List UInt8) (state : State) : Prop where
  judged : state.fault = none → state.ms ≠ .begin → state.Judged installed
  finished : ∀ finished ∈ state.finished, Validated installed finished ↔ FirstHolds finished.chunks

/-- The records and the machine's state are those of the other state. -/
structure SameRecords (state next : State) : Prop where
  chunks : next.chunks = state.chunks
  validations : next.validations = state.validations
  decryptCtx : next.decryptCtx = state.decryptCtx
  finished : next.finished = state.finished
  ms : next.ms = state.ms
  fault : next.fault = none → state.fault = none

theorem SameRecords.trans {first second third : State} (before : SameRecords first second)
    (after : SameRecords second third) : SameRecords first third where
  chunks := after.chunks.trans before.chunks
  validations := after.validations.trans before.validations
  decryptCtx := after.decryptCtx.trans before.decryptCtx
  finished := after.finished.trans before.finished
  ms := after.ms.trans before.ms
  fault running := before.fault (after.fault running)

theorem SameRecords.inspected {installed : List UInt8} {state next : State}
    (same : SameRecords state next) (inspected : Inspected installed state) :
    Inspected installed next where
  judged running going := by
    have judged := inspected.judged (same.fault running) (by rw [← same.ms]; exact going)
    rw [State.Judged, same.chunks, same.validations, same.decryptCtx]
    exact judged
  finished := by rw [same.finished]; exact inspected.finished

theorem sameRecords_andThen {state : State} {next : State → State}
    (same : SameRecords state (next state)) : SameRecords state (state.andThen next) := by
  rw [State.andThen]
  split
  · exact same
  · exact ⟨rfl, rfl, rfl, rfl, rfl, fun running => running⟩

theorem sameRecords_abortHttps (outcome : Outcome) (state : State) :
    SameRecords state (abortHttps outcome state) := by
  rw [abortHttps]
  split
  · exact ⟨rfl, rfl, rfl, rfl, rfl, fun running => running⟩
  · split
    · exact ⟨rfl, rfl, rfl, rfl, rfl, fun running => running⟩
    · exact ⟨rfl, rfl, rfl, rfl, rfl, nofun⟩

theorem sameRecords_abortDecrypt (outcome : Outcome) (state : State) :
    SameRecords state (abortDecrypt outcome state) := by
  rw [abortDecrypt]
  split
  · exact ⟨rfl, rfl, rfl, rfl, rfl, fun running => running⟩
  · split
    · exact ⟨rfl, rfl, rfl, rfl, rfl, fun running => running⟩
    · exact ⟨rfl, rfl, rfl, rfl, rfl, nofun⟩

theorem sameRecords_abortOtaHandle (outcome : Outcome) (errCode : ErrCode) (state : State) :
    SameRecords state (abortOtaHandle outcome errCode state) := by
  rw [abortOtaHandle]
  have freed := (sameRecords_abortHttps outcome state).trans
    (sameRecords_andThen (sameRecords_abortDecrypt outcome _))
  exact freed.trans (sameRecords_andThen ⟨rfl, rfl, rfl, rfl, rfl, fun running => running⟩)

/-- Back at BEGIN nothing is asked of the records. -/
theorem inspected_begin {installed : List UInt8} {state : State} (begins : state.ms = .begin)
    (finished : ∀ finished ∈ state.finished,
      Validated installed finished ↔ FirstHolds finished.chunks) : Inspected installed state where
  judged _ going := absurd begins going
  finished := finished

theorem inspected_stopped {installed : List UInt8} {state : State} {fault : Fault}
    (stopped : state.fault = some fault)
    (finished : ∀ finished ∈ state.finished,
      Validated installed finished ↔ FirstHolds finished.chunks) : Inspected installed state where
  judged running := by rw [stopped] at running; cases running
  finished := finished

/-- An error leads back to BEGIN; otherwise the records are kept as the state left them. -/
theorem inspected_handleResult {installed : List UInt8} {outcome : Outcome}
    {result : State × ErrCode}
    (finished : ∀ finished ∈ result.1.finished,
      Validated installed finished ↔ FirstHolds finished.chunks)
    (inspected : result.2 = .none → Inspected installed result.1) :
    Inspected installed (handleResult outcome result) := by
  obtain ⟨state, otaErr⟩ := result
  by_cases unreported : otaErr = .none
  · subst unreported
    have same : SameRecords state
        (state.andThen fun state => { state with waits := decide (state.ms = .begin) }) :=
      sameRecords_andThen ⟨rfl, rfl, rfl, rfl, rfl, fun running => running⟩
    rw [handleResult]
    exact same.inspected (inspected rfl)
  · rw [handleResult]
    · have aborted := sameRecords_abortOtaHandle outcome otaErr { state with ms := .begin }
      refine (aborted.trans (sameRecords_andThen ?_)).inspected (inspected_begin rfl finished)
      exact ⟨rfl, rfl, rfl, rfl, rfl, fun running => running⟩
    · exact unreported

/-- What a state of the machine leaves of the records: `ota_err` leads to BEGIN, and otherwise they
can be judged. -/
structure Leaves (installed : List UInt8) (result : State × ErrCode) : Prop where
  finished : ∀ finished ∈ result.1.finished,
    Validated installed finished ↔ FirstHolds finished.chunks
  inspected : result.2 = .none → Inspected installed result.1

theorem leaves_of_inspected {installed : List UInt8} {state : State} {errCode : ErrCode}
    (inspected : Inspected installed state) : Leaves installed (state, errCode) :=
  ⟨inspected.finished, fun _ => inspected⟩

theorem leaves_begin {installed : List UInt8} {outcome : Outcome}
    {binaryUrl : Option UrlPointer} {state : State} (inspected : Inspected installed state) :
    Leaves installed (handleBegin outcome binaryUrl state) := by
  have finished := inspected.finished
  rw [handleBegin]
  dsimp only
  split
  · exact leaves_of_inspected (inspected_stopped rfl finished)
  · split
    · exact leaves_of_inspected (inspected_stopped rfl finished)
    · split
      · exact ⟨finished, nofun⟩
      · split
        · exact ⟨finished, nofun⟩
        · exact leaves_of_inspected ⟨fun _ _ => judged_nil installed, finished⟩

theorem leaves_reportProgress {installed : List UInt8} {outcome : Outcome} {state : State}
    (inspected : Inspected installed state) :
    Leaves installed (reportProgress outcome state) := by
  obtain ⟨judged, finished⟩ := inspected
  rw [reportProgress]
  split
  · exact leaves_of_inspected (inspected_stopped rfl finished)
  · dsimp only
    split
    · exact leaves_of_inspected ⟨judged, finished⟩
    · split
      · exact leaves_of_inspected ⟨judged, finished⟩
      · split
        · exact leaves_of_inspected ⟨judged, finished⟩
        · exact leaves_of_inspected (inspected_stopped rfl finished)

/-- `esp_https_ota_perform` hands the error of a callback on. -/
theorem judged_otaPerform {installed : List UInt8} {outcome : Outcome} {state next : State}
    {ret : PerformRet} (running : state.fault = none)
    (performed : otaPerform installed outcome state = (next, ret)) :
    next.finished = state.finished ∧
      (ret ≠ .error → next.fault = none → state.Judged installed → next.Judged installed) := by
  have passed : state.passHttps.fault = none := running
  have called := judges_runCallbacks installed outcome.deliveries passed
  rw [otaPerform] at performed
  split at performed
  · next ran =>
      rw [ran] at called
      cases performed
      exact ⟨called.finished, fun _ still judged => called.judged rfl still judged⟩
  · next ran =>
      rw [ran] at called
      cases performed
      exact ⟨called.finished, fun failed => absurd rfl failed⟩

/-- A callback that fails ends the OTA; otherwise its records can be judged. -/
theorem leaves_transfer {installed : List UInt8} {outcome : Outcome} {state : State}
    (running : state.fault = none) (transfer : state.ms = .transfer)
    (inspected : Inspected installed state) :
    Leaves installed (handleTransfer installed outcome state) := by
  have judgedBefore := inspected.judged running (by rw [transfer]; nofun)
  rw [handleTransfer]
  cases result : otaPerform installed outcome state with
  | mk next ret =>
      obtain ⟨same, judged⟩ := judged_otaPerform running result
      have finished : ∀ finished ∈ next.finished,
          Validated installed finished ↔ FirstHolds finished.chunks := by
        rw [same]
        exact inspected.finished
      dsimp only
      split
      · next stopped =>
          obtain ⟨fault, fault_eq⟩ := Option.ne_none_iff_exists'.mp stopped
          exact leaves_of_inspected (inspected_stopped fault_eq finished)
      · next still =>
          have runningNext : next.fault = none := not_not.mp still
          cases ret with
          | ok =>
              exact leaves_of_inspected
                ⟨fun _ _ => judged nofun runningNext judgedBefore, finished⟩
          | inProgress =>
              exact leaves_reportProgress
                ⟨fun _ _ => judged nofun runningNext judgedBefore, finished⟩
          | error =>
              refine ⟨finished, fun unreported => ?_⟩
              dsimp only at unreported
              split at unreported
              · cases unreported
              · next reported => exact absurd unreported reported

theorem leaves_downloaded {installed : List UInt8} {outcome : Outcome} {state : State}
    (downloaded : state.ms = .downloaded) (inspected : Inspected installed state) :
    Leaves installed (handleDownloaded outcome state) := by
  rw [handleDownloaded]
  split
  · exact ⟨inspected.finished, nofun⟩
  · exact leaves_of_inspected
      ⟨fun running _ => inspected.judged running (by rw [downloaded]; nofun), inspected.finished⟩

/-- The finished OTA is the one whose records were judged. -/
theorem leaves_finished {installed : List UInt8} {outcome : Outcome} {state : State}
    (running : state.fault = none) (finished : state.ms = .finished)
    (inspected : Inspected installed state) :
    Leaves installed (handleFinished outcome state) := by
  have judged := inspected.judged running (by rw [finished]; nofun)
  rw [handleFinished]
  split
  · exact ⟨inspected.finished, nofun⟩
  · dsimp only
    split
    · exact ⟨inspected.finished, nofun⟩
    · refine leaves_of_inspected (inspected_begin rfl fun finished_ inside => ?_)
      rcases List.mem_append.mp inside with earlier | last
      · exact inspected.finished finished_ earlier
      · obtain rfl := List.mem_singleton.mp last
        exact judged.validated_iff

theorem leaves_handleState {installed : List UInt8} (outcome : Outcome)
    (binaryUrl : Option UrlPointer) {state : State} (running : state.fault = none)
    (inspected : Inspected installed state) :
    Leaves installed (handleState installed outcome binaryUrl state) := by
  rw [handleState]
  cases phase : state.ms with
  | begin => exact leaves_begin inspected
  | transfer => exact leaves_transfer running phase inspected
  | downloaded => exact leaves_downloaded phase inspected
  | finished => exact leaves_finished running phase inspected
  | validated | verified | abort => exact ⟨inspected.finished, nofun⟩

theorem inspected_restart {installed : List UInt8} {outcome : Outcome} {state : State}
    (inspected : Inspected installed state) :
    Inspected installed (handleRestart outcome state) := by
  have begins {state : State} (inspected : Inspected installed state) :
      Inspected installed
        (state.andThen fun state => { state with ms := .begin, waits := false }) := by
    rw [State.andThen]
    split
    · exact inspected_begin rfl inspected.finished
    · exact inspected
  rw [handleRestart]
  split
  · exact begins ((sameRecords_abortOtaHandle outcome .aborted state).inspected inspected)
  · exact begins inspected

theorem inspected_step {installed : List UInt8} {state next : State} {event : Event}
    (inspected : Inspected installed state)
    (stepped : (otaTask installed).step state event = some next) : Inspected installed next := by
  cases event with
  | submit msg =>
      obtain ⟨_, rfl⟩ := provided_eq_some.mp stepped
      exact ⟨inspected.judged, inspected.finished⟩
  | iterate outcome =>
      obtain ⟨running, ⟨empty, going, rfl⟩ | ⟨msg, rest, queue, rfl⟩⟩ := iterate_cases stepped
      · rw [otaTaskBody]
        cases action : state.otaMsg.action with
        | start =>
            have left_ := leaves_handleState outcome state.otaMsg.param running inspected
            exact inspected_handleResult left_.finished left_.inspected
        | abort =>
            refine ((sameRecords_abortOtaHandle outcome .aborted state).trans
              (sameRecords_andThen ?_)).inspected inspected
            exact ⟨rfl, rfl, rfl, rfl, rfl, fun running => running⟩
      · have taken : Inspected installed { state with otaQ := rest, otaMsg := msg } :=
          ⟨inspected.judged, inspected.finished⟩
        rw [otaTaskBody]
        cases action : msg.action with
        | start => exact inspected_restart taken
        | abort =>
            refine ((sameRecords_abortOtaHandle outcome .aborted _).trans
              (sameRecords_andThen ?_)).inspected taken
            exact ⟨rfl, rfl, rfl, rfl, rfl, fun running => running⟩

/-- Of the OTAs that a run finished, exactly those were validated whose first chunk reached to the
end of the descriptor. -/
theorem validated_iff_firstHolds {installed : List UInt8} {trace : List (State × Event)}
    {state : State} (run : (otaTask installed).Run .initial trace state) :
    ∀ finished ∈ state.finished, Validated installed finished ↔ FirstHolds finished.chunks := by
  have initial : Inspected installed .initial := inspected_begin rfl (by simp [State.initial])
  exact (run.always initial inspected_step).finished

/-- An OTA that a message starts, whose image comes in one request with the given deliveries. -/
def finishedWith (deliveries : List Delivery) : List Event :=
  [.submit ⟨.start, some .newFwImageUrl⟩, .iterate {}, .iterate {}, .iterate { deliveries },
    .iterate {}, .iterate {}]

/-- What `finishedWith` leaves. -/
def afterFinishedWith (ctx : DecryptCtx) (posted : List Posted) (chunks : List (List UInt8))
    (validations : List Validation) : State :=
  { State.initial with
    otaMsg := ⟨.start, some .newFwImageUrl⟩, url := some .newFwImageUrl, tokens := 2,
    httpsOtaHandle := ⟨some 1, []⟩, decryptHandle := ⟨some 0, []⟩, decryptCtx := ctx,
    posted := [.begin] ++ posted ++ [.downloaded, .verified, .finished],
    chunks, validations, finished := [⟨chunks, validations⟩] }

/-- The version installed on the device of the next two runs. -/
def installedVersion : List UInt8 := 49 :: List.replicate 31 0

/-- An image of another version in one chunk. -/
def otherImage : List UInt8 := List.replicate 288 0

theorem validated_iff_firstHolds_otherImage :
    Validated installedVersion
      ⟨[otherImage], [⟨appDescOffset, appDescOf otherImage, true⟩]⟩ := by
  have executed : (otaTask installedVersion).exec .initial (finishedWith [.data otherImage true]) =
      some (afterFinishedWith ⟨true, .none, 288⟩ [.validated (List.replicate 32 0)] [otherImage]
        [⟨appDescOffset, appDescOf otherImage, true⟩]) := by
    decide +kernel
  have long : FirstHolds [otherImage] := by decide +kernel
  exact (validated_iff_firstHolds (Machine.run_of_exec executed) _ (.head _)).mpr long

/-- An image of the installed version in two chunks, of which the first has 16 bytes. -/
def firstPart : List UInt8 := List.replicate 16 0
def secondPart : List UInt8 := List.replicate 32 0 ++ installedVersion ++ List.replicate 208 0

theorem installed_version_finished :
    ¬∀ trace state, (otaTask installedVersion).Run .initial trace state →
      ∀ finished ∈ state.finished, Validated installedVersion finished := by
  intro always
  have executed : (otaTask installedVersion).exec .initial
      (finishedWith [.data firstPart true, .data secondPart true]) =
      some (afterFinishedWith ⟨false, .none, 288⟩ [] [firstPart, secondPart] []) := by
    decide +kernel
  have validated := always _ _ (Machine.run_of_exec executed) _ (.head _)
  have accepted := validated.accepted
  cases accepted

end EsInverter.Ota
