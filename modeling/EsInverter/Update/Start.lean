import EsInverter.Update.State

/-!
# Starting an update

The arguments that pass the checks of `update_start` are stored before `start` is
called, so that a `start` that fails leaves them behind.  The array of the URL has
no room for the terminator of a URL of full length.
-/

set_option autoImplicit false

namespace EsInverter.Update

open Lib

/-- Reading a string from an array ends at its terminator. -/
def readString (array : List UInt8) : Except Fault (List UInt8) :=
  if 0 ∈ array then .ok (cString array) else .error .outOfBounds

/-- The stored version, and the stored URL unless it is empty. -/
def updateFwUrl (updater : Updater) : Except Fault (UInt32 × Option (List UInt8)) := do
  let url ← readString updater.state.newFwImageUrl
  return (updater.state.newFwVer, if url.length = 0 then none else some url)

/-- The array after `set_new_fw_url`. -/
def storedUrl (url : List UInt8) (fwUrlLen : UInt16) : List UInt8 :=
  url.take fwUrlLen.toNat ++ List.replicate (imageUrlMaxLen - fwUrlLen.toNat) 0

/-- The request passes the checks of `update_start`. -/
structure Passes (device : Device) (request : StartRequest) (url : List UInt8) : Prop where
  devType : request.devType = device.devType
  hwVer : request.hwVer = device.hwVer
  version : ∃ installedFw, updateNumericFwVer device = .ok installedFw ∧
    request.newFwVer ≠ installedFw
  newUrl : request.newUrl = some url
  notEmpty : request.fwUrlLen ≠ 0
  slash : url.head? = some 47
  fits : request.fwUrlLen.toNat ≤ imageUrlMaxLen
  inside : request.fwUrlLen.toNat ≤ url.length

def Updater.storing (request : StartRequest) (url : List UInt8) (updater : Updater) : Updater :=
  { updater with
    state :=
      { updater.state with
        newFwImageUrl := storedUrl url request.fwUrlLen
        newFwVer := request.newFwVer
        policy := request.policy } }

variable {device : Device} {start : List UInt8 → Except Fault Bool} {request : StartRequest}
variable {updater : Updater} {url : List UInt8}

/-- The URL is stored exactly if it can be. -/
theorem setNewFwUrl_cases {result : Updater × Bool}
    (run : setNewFwUrl request.newUrl request.fwUrlLen updater = .ok result) :
    result = (updater, false) ∨
      ∃ url, request.newUrl = some url ∧ request.fwUrlLen ≠ 0 ∧ url.head? = some 47 ∧
        request.fwUrlLen.toNat ≤ imageUrlMaxLen ∧ request.fwUrlLen.toNat ≤ url.length ∧
        result = ({ updater with
          state := { updater.state with newFwImageUrl := storedUrl url request.fwUrlLen } },
          true) := by
  unfold setNewFwUrl at run
  cases given : request.newUrl with
  | none =>
      rw [given] at run
      cases run
      exact .inl rfl
  | some url =>
      rw [given] at run
      cases url with
      | nil =>
          dsimp only at run
          split at run
          · cases run
            exact .inl rfl
          · cases run
      | cons first rest =>
          dsimp only at run
          split_ifs at run with empty slash long outside
          · cases run
            exact .inl rfl
          · cases run
            exact .inl rfl
          · cases run
            exact .inl rfl
          · cases run
            refine .inr ⟨_, rfl, empty, ?_, by omega, by omega, rfl⟩
            rw [not_not] at slash
            simp [slash]

theorem setNewFwUrl_of_passes (passes : Passes device request url) :
    setNewFwUrl request.newUrl request.fwUrlLen updater =
      .ok ({ updater with
        state := { updater.state with newFwImageUrl := storedUrl url request.fwUrlLen } },
        true) := by
  obtain ⟨first, rest, rfl⟩ : ∃ first rest, url = first :: rest := by
    cases url with
    | nil => exact absurd passes.slash (by simp)
    | cons first rest => exact ⟨first, rest, rfl⟩
  have slash : first = 47 := by simpa using passes.slash
  have fits := passes.fits
  have inside := passes.inside
  unfold setNewFwUrl
  rw [passes.newUrl]
  dsimp only
  rw [if_neg passes.notEmpty, if_neg (by simp [slash]), if_neg (by omega), if_neg (by omega)]
  rfl

/-- A request that passes is stored, whatever `start` returns. -/
theorem updateStart_of_passes (passes : Passes device request url) :
    updateStart device start request updater = (do
      let started ← start (storedUrl url request.fwUrlLen)
      return (updater.storing request url).withError (if started then .none else .swFault)) := by
  obtain ⟨installedFw, read, differs⟩ := passes.version
  have stored := @setNewFwUrl_of_passes device request updater url passes
  simp only [updateStart, passes.devType, passes.hwVer, read, stored, ne_eq, not_true_eq_false,
    if_false, differs, bind, Except.bind, pure, Except.pure, Bool.not_true, Bool.false_eq_true]
  cases start (storedUrl url request.fwUrlLen) with
  | error fault => rfl
  | ok started => cases started <;> rfl

/-- A request that does not pass changes nothing but the error. -/
theorem updateStart_of_refused (refused : ∀ url, ¬ Passes device request url)
    {next : Updater} {error : UpdateError}
    (run : updateStart device start request updater = .ok (next, error)) :
    error ≠ .none ∧ next = (updater.withError error).1 := by
  unfold updateStart at run
  by_cases devType : request.devType = device.devType
  swap
  · rw [if_pos devType] at run
    cases run
    exact ⟨by decide, rfl⟩
  by_cases hwVer : request.hwVer = device.hwVer
  swap
  · rw [if_neg (not_not.mpr devType), if_pos hwVer] at run
    cases run
    exact ⟨by decide, rfl⟩
  rw [if_neg (not_not.mpr devType), if_neg (not_not.mpr hwVer)] at run
  obtain ⟨installedFw, read, run⟩ := bind_ok run
  by_cases same : request.newFwVer = installedFw
  · rw [if_pos same] at run
    cases run
    exact ⟨by decide, rfl⟩
  rw [if_neg same] at run
  obtain ⟨taken, stored, run⟩ := bind_ok run
  rcases setNewFwUrl_cases stored with rfl | ⟨url, newUrl, notEmpty, slash, fits, inside, -⟩
  · cases run
    exact ⟨by decide, rfl⟩
  · exact absurd ⟨devType, hwVer, ⟨installedFw, read, same⟩, newUrl, notEmpty, slash, fits, inside⟩
      (refused url)

/-! ### All or nothing -/

/-- `start` is called with the array: whatever fault it runs into there, the update runs into. -/
def CallsStart (device : Device) (request : StartRequest) (updater : Updater)
    (array : List UInt8) : Prop :=
  ∀ start fault, start array = .error fault →
    updateStart device start request updater = .error fault

/-- What is kept of an update state when its request is refused. -/
def UpdateState.kept (state : UpdateState) : UInt32 × UInt8 × UpdatePhase × List UInt8 :=
  (state.newFwVer, state.policy, state.phase, state.newFwImageUrl)

/-- The request is all or nothing: refused without a trace, or stored with the URL it gave. -/
def AllOrNothing (device : Device) (start : List UInt8 → Except Fault Bool)
    (request : StartRequest) (updater : Updater) : Prop :=
  ∀ next error, updateStart device start request updater = .ok (next, error) →
    (error ≠ .none → next.state.kept = updater.state.kept) ∧
      (error = .none → next.state.newFwVer = request.newFwVer ∧
        next.state.policy = request.policy ∧
        ∀ url, request.newUrl = some url → 0 ∉ url.take request.fwUrlLen.toNat →
          (∃ array, CallsStart device request updater array ∧
            readString array = .ok (url.take request.fwUrlLen.toNat)) ∧
          updateFwUrl next = .ok (request.newFwVer, some (url.take request.fwUrlLen.toNat)))

/-- A `start` that fails finds the request stored already, and the terminator has room. -/
def Harmless (device : Device) (start : List UInt8 → Except Fault Bool)
    (request : StartRequest) (updater : Updater) : Prop :=
  ∀ url, Passes device request url →
    (start (storedUrl url request.fwUrlLen) = .ok false →
      request.newFwVer = updater.state.newFwVer ∧ request.policy = updater.state.policy ∧
        storedUrl url request.fwUrlLen = updater.state.newFwImageUrl) ∧
      (start (storedUrl url request.fwUrlLen) = .ok true →
        0 ∉ url.take request.fwUrlLen.toNat → request.fwUrlLen.toNat < imageUrlMaxLen)

theorem readString_storedUrl (text : 0 ∉ url.take request.fwUrlLen.toNat)
    (room : request.fwUrlLen.toNat < imageUrlMaxLen) :
    readString (storedUrl url request.fwUrlLen) = .ok (url.take request.fwUrlLen.toNat) := by
  obtain ⟨count, more⟩ : ∃ count, imageUrlMaxLen - request.fwUrlLen.toNat = count + 1 :=
    ⟨imageUrlMaxLen - request.fwUrlLen.toNat - 1, by omega⟩
  have nonzero : ∀ byte ∈ url.take request.fwUrlLen.toNat, decide (byte ≠ 0) = true := by
    intro byte inside
    rw [decide_eq_true_eq]
    rintro rfl
    exact text inside
  rw [readString, storedUrl, more, List.replicate_succ, if_pos (by simp), cString,
    List.takeWhile_append_of_pos nonzero]
  simp

/-- A URL of full length leaves no terminator. -/
theorem room_of_readString (text : 0 ∉ url.take request.fwUrlLen.toNat) {read : List UInt8}
    (terminated : readString (storedUrl url request.fwUrlLen) = .ok read) :
    request.fwUrlLen.toNat < imageUrlMaxLen := by
  by_contra full
  have none_ : imageUrlMaxLen - request.fwUrlLen.toNat = 0 := by omega
  rw [readString, storedUrl, none_, List.replicate_zero, List.append_nil, if_neg text] at terminated
  cases terminated

theorem callsStart_of_passes (passes : Passes device request url) :
    CallsStart device request updater (storedUrl url request.fwUrlLen) := by
  intro start fault failed
  rw [updateStart_of_passes passes, failed]
  rfl

theorem kept_storing_iff (error : UpdateError) :
    ((updater.storing request url).withError error).1.state.kept = updater.state.kept ↔
      request.newFwVer = updater.state.newFwVer ∧ request.policy = updater.state.policy ∧
        storedUrl url request.fwUrlLen = updater.state.newFwImageUrl := by
  simp [Updater.withError, Updater.storing, UpdateState.kept]

/-- A request that passes and is started reads back unless its URL is too long. -/
theorem updateFwUrl_storing (passes : Passes device request url)
    (text : 0 ∉ url.take request.fwUrlLen.toNat) (room : request.fwUrlLen.toNat < imageUrlMaxLen) :
    updateFwUrl ((updater.storing request url).withError .none).1 =
      .ok (request.newFwVer, some (url.take request.fwUrlLen.toNat)) := by
  have read : readString ((updater.storing request url).withError .none).1.state.newFwImageUrl =
      .ok (url.take request.fwUrlLen.toNat) := readString_storedUrl text room
  have positive : request.fwUrlLen.toNat ≠ 0 := by
    intro zero
    exact passes.notEmpty (UInt16.toNat_inj.mp zero)
  have length : (url.take request.fwUrlLen.toNat).length ≠ 0 := by
    rw [List.length_take, Nat.min_eq_left passes.inside]
    exact positive
  rw [updateFwUrl, read]
  dsimp only [bind, Except.bind]
  rw [if_neg length]
  rfl

/-- A request is all or nothing exactly if it is harmless. -/
theorem allOrNothing_iff_harmless :
    AllOrNothing device start request updater ↔ Harmless device start request updater := by
  constructor
  · intro all url passes
    have ran : updateStart device start request updater = _ := updateStart_of_passes passes
    constructor
    · intro failed
      rw [failed] at ran
      exact (kept_storing_iff .swFault).mp ((all _ _ ran).1 (by decide))
    · intro started text
      rw [started] at ran
      obtain ⟨-, returned⟩ := (((all _ _ ran).2 rfl).2).2 url passes.newUrl text
      obtain ⟨read, terminated, -⟩ := bind_ok returned
      exact room_of_readString text terminated
  · intro harmless next error run
    by_cases passed : ∃ url, Passes device request url
    · obtain ⟨url, passes⟩ := passed
      obtain ⟨onFailure, onSuccess⟩ := harmless url passes
      rw [updateStart_of_passes passes] at run
      obtain ⟨started, returned, run⟩ := bind_ok run
      cases started with
      | false =>
          cases run
          refine ⟨fun _ => (kept_storing_iff .swFault).mpr (onFailure returned), ?_⟩
          intro none_
          cases none_
      | true =>
          cases run
          refine ⟨fun failed => absurd rfl failed, fun _ => ⟨rfl, rfl, ?_⟩⟩
          intro other given text
          obtain rfl : other = url := by
            rw [passes.newUrl] at given
            exact (Option.some.inj given).symm
          have room := onSuccess returned text
          exact ⟨⟨_, callsStart_of_passes passes, readString_storedUrl text room⟩,
            updateFwUrl_storing passes text room⟩
    · have refused := updateStart_of_refused (not_exists.mp passed) run
      refine ⟨fun _ => by rw [refused.2]; rfl, fun none_ => absurd none_ refused.1⟩

/-- A device with version "1.0.0". -/
def oldDevice : Device :=
  { devType := 1, hwVer := 1, version := [49, 46, 48, 46, 48] ++ List.replicate 27 0 }

/-- "/b" while "/a" is being transferred. -/
def secondRequest : StartRequest :=
  { devType := 1, newFwVer := 0x20000, hwVer := 1, newUrl := some [47, 98], fwUrlLen := 2
    policy := 0 }

def transferring : Updater :=
  let url := [47, 97] ++ List.replicate (imageUrlMaxLen - 2) 0
  { Updater.initial with
    state := { Updater.initial.state with
      newFwVer := 0x10001, phase := .transfer, newFwImageUrl := url } }

/-- The queue of the OTA task is full; the running update is left with the second URL. -/
theorem secondRequest_not_allOrNothing :
    ¬ AllOrNothing oldDevice (fun _ => .ok false) secondRequest transferring := by
  intro all
  have kept := (all _ _ rfl).1 (by decide)
  revert kept
  decide

end EsInverter.Update
