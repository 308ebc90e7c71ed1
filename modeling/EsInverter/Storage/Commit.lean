import EsInverter.Storage.Dump

/-!
# Which runs commit every change

The invariant says what holds at each statement of `dump_check`; a setter that
comes in between leaves a request behind, and with it all that is promised is
that another dump follows.
-/

set_option autoImplicit false

namespace EsInverter.Storage

open Lib

section

variable (crc32 : List UInt8 → UInt32)

def Store.crc (store : Store) : UInt32 := crc32 store.ram.device.bytes

/-- The section is durable with its checksum, and everyone was told. -/
structure Committed (store : Store) : Prop where
  device : store.durable.device = store.ram.device
  checksum : store.ram.checksum = store.crc crc32
  durableChecksum : store.durable.checksum = store.crc crc32
  told : store.awaited = []

/-- What the law asks of a state. -/
def CommitLaw (store : Store) : Prop :=
  store.pc = .idle → store.scheduled = false → store.setterRan = true → Committed crc32 store

/-- The condition on a step.  Where `dump_check` finds the checksum unchanged, the section is the
durable one and no callback is awaited; where it clears `dump_request`, the checksum it has stored
is still the section's. -/
def Careful (store : Store) : Event → Prop
  | .statement =>
      (store.pc = .entered → store.dumpRequest &&& Section.device.bit ≠ 0 →
        store.crc crc32 = store.ram.checksum →
          store.durable.device = store.ram.device ∧ store.awaited = []) ∧
        (store.pc = .savedDs → store.crc crc32 = store.ram.checksum)
  | _ => True

instance (store : Store) (event : Event) : Decidable (Careful crc32 store event) :=
  match event with
  | .statement => inferInstanceAs (Decidable ((_ → _ → _ → _ ∧ _) ∧ (_ → _)))
  | .setUniqueId _ | .setCoordinates _ _ | .expire => inferInstanceAs (Decidable True)

/-! ### The invariant -/

/-- What holds behind each statement of `dump_check`. -/
def Store.Stage (store : Store) : DumpPc → Prop
  | .idle | .entered =>
      store.staged.checksum = store.ram.checksum ∧ store.durable.checksum = store.ram.checksum ∧
        (store.dumpRequest = 0 → store.setterRan = true → Committed crc32 store)
  | .unlocked | .opened => store.dumpRequest = 2
  | .savedDevice | .savedDs =>
      store.dumpRequest = 2 ∧ store.staged.checksum = store.ram.checksum
  | .cleared =>
      store.staged.checksum = store.ram.checksum ∧
        (store.dumpRequest = 0 → store.ram.checksum = store.crc crc32)
  | .committed =>
      store.staged.checksum = store.ram.checksum ∧ store.durable.checksum = store.ram.checksum ∧
        (store.dumpRequest = 0 → store.ram.checksum = store.crc crc32 ∧
          store.durable.device = store.ram.device)
  | .calling next =>
      store.staged.checksum = store.ram.checksum ∧ store.durable.checksum = store.ram.checksum ∧
        (store.dumpRequest = 0 → store.ram.checksum = store.crc crc32 ∧
          store.durable.device = store.ram.device ∧ ∀ callback ∈ store.awaited, next ≤ callback)

/-- A dump that has not yet taken up the request is under way. -/
def Store.Coming (store : Store) : Prop :=
  store.scheduled = true ∨ store.pc = .entered ∨ store.pc = .unlocked ∨ store.pc = .opened ∨
    store.pc = .savedDevice ∨ store.pc = .savedDs

structure Sound (callbacks : Nat) (store : Store) : Prop where
  staged : store.staged.device = store.ram.device
  request : store.dumpRequest = 0 ∨ store.dumpRequest = 2
  coming : store.dumpRequest = 2 → store.Coming
  known : ∀ callback ∈ store.awaited, callback < callbacks
  stage : store.Stage crc32 store.pc

variable {crc32} {callbacks : Nat}

/-- Where `dump_check` has taken up its requests, a new one has scheduled another dump. -/
theorem Sound.scheduled_of_past {store : Store} (sound : Sound crc32 callbacks store)
    (past : store.pc ≠ .entered ∧ store.pc ≠ .unlocked ∧ store.pc ≠ .opened ∧
      store.pc ≠ .savedDevice ∧ store.pc ≠ .savedDs)
    (requested : store.dumpRequest = 2) : store.scheduled = true := by
  have coming := sound.coming requested
  rw [Store.Coming] at coming
  simpa [past] using coming

theorem Sound.law {store : Store} (sound : Sound crc32 callbacks store) : CommitLaw crc32 store := by
  intro idle unscheduled ran
  have stage := sound.stage
  rw [idle] at stage
  rcases sound.request with none_ | requested
  · exact stage.2.2 none_ ran
  · have scheduled := sound.scheduled_of_past (by simp [idle]) requested
    rw [unscheduled] at scheduled
    cases scheduled

theorem sound_initial (perm : Perm) : Sound crc32 callbacks (.initial perm) where
  staged := rfl
  request := .inl rfl
  coming := by
    intro requested
    cases requested
  known := by simp [Store.initial]
  stage := by
    refine ⟨rfl, rfl, fun _ ran => ?_⟩
    cases ran

/-- The section was set to new data, staged and requested to be dumped. -/
def Store.requestDump (store : Store) (device : DeviceData) : Store :=
  { store with
    ram := { store.ram with device }, staged := { store.staged with device }
    dumpRequest := 2, scheduled := true }

theorem or_two_of_request {dumpRequest : UInt32} (request : dumpRequest = 0 ∨ dumpRequest = 2) :
    dumpRequest ||| 2 = 2 := by
  rcases request with rfl | rfl
  · rfl
  · rfl

theorem storageSetDeviceUniqueId_eq {store : Store} (staged : store.staged.device = store.ram.device)
    (request : store.dumpRequest = 0 ∨ store.dumpRequest = 2) (uniqueId : UInt32) :
    storageSetDeviceUniqueId true uniqueId store =
      store.requestDump { store.ram.device with uniqueId } := by
  have bits := or_two_of_request request
  simp [storageSetDeviceUniqueId, storageSaveDbEntry, setDevice, sectionDumpRequest,
    Entry.storageSection, Entry.copy, Section.bit, Store.requestDump, staged, bits]

theorem storageSetCoordinates_eq {store : Store} (staged : store.staged.device = store.ram.device)
    (request : store.dumpRequest = 0 ∨ store.dumpRequest = 2) (latitude longitude : Int64) :
    storageSetCoordinates true true latitude longitude store =
      store.requestDump { store.ram.device with latitude, longitude } := by
  have bits := or_two_of_request request
  simp [storageSetCoordinates, storageSaveDbEntry, setDevice, sectionDumpRequest,
    Entry.storageSection, Entry.copy, Section.bit, Store.requestDump, staged, bits]

theorem sound_requestDump {store : Store} (sound : Sound crc32 callbacks store)
    (device before : DeviceData) :
    Sound crc32 callbacks ((store.requestDump device).noteSetter callbacks before) where
  staged := rfl
  request := .inr rfl
  coming _ := .inl rfl
  known := by
    rw [Store.noteSetter]
    dsimp only
    split
    · exact sound.known
    · simp
  stage := by
    have stage := sound.stage
    have pending : (2 : UInt32) ≠ 0 := by decide
    cases pc : store.pc <;> rw [pc] at stage <;>
      simp [Store.noteSetter, Store.requestDump, Store.Stage, pc] at stage ⊢ <;> grind

variable (crc32) in
/-- A request of the section leaves the mutex with a new checksum, or is dropped. -/
theorem lockedPart_cases {store : Store} (request : store.dumpRequest = 0 ∨ store.dumpRequest = 2) :
    (store.dumpRequest = 0 ∧ lockedPart crc32 store = { store with pc := .idle }) ∨
      (store.dumpRequest = 2 ∧ store.crc crc32 = store.ram.checksum ∧
        lockedPart crc32 store = { store with dumpRequest := 0, pc := .idle }) ∨
      (store.dumpRequest = 2 ∧
        lockedPart crc32 store =
          { store with
            ram := { store.ram with checksum := store.crc crc32 }, pc := .unlocked }) := by
  have onlyDevice : (2 : UInt32) &&& Section.ds.bit = 0 := by decide
  have someDevice : ¬(2 : UInt32) &&& Section.device.bit = 0 := by decide
  have someMask : ¬(2 : UInt32) &&& storageMask = 0 := by decide
  have dropped : (2 : UInt32) &&& ~~~Section.device.bit = 0 := by decide
  rcases request with none_ | requested
  · refine .inl ⟨none_, ?_⟩
    rw [lockedPart, none_]
    rfl
  · by_cases unchanged : crc32 store.ram.device.bytes = store.ram.checksum
    · refine .inr (.inl ⟨requested, unchanged, ?_⟩)
      rw [lockedPart, checkDevice, requested, if_neg someMask, if_neg someDevice, if_pos unchanged,
        dropped]
      simp [checkDs]
    · refine .inr (.inr ⟨requested, ?_⟩)
      rw [lockedPart, checkDevice, requested, if_neg someMask, if_neg someDevice, if_neg unchanged,
        checkDs]
      simp [onlyDevice, Store.crc]

theorem sound_lockedPart {store : Store} (sound : Sound crc32 callbacks store)
    (entered : store.pc = .entered)
    (careful : store.dumpRequest &&& Section.device.bit ≠ 0 → store.crc crc32 = store.ram.checksum →
      store.durable.device = store.ram.device ∧ store.awaited = []) :
    Sound crc32 callbacks (lockedPart crc32 store) := by
  have stage := sound.stage
  rw [entered] at stage
  obtain ⟨stagedCrc, durableCrc, clean⟩ := stage
  obtain ⟨none_, same⟩ | ⟨requested, unchanged, same⟩ | ⟨requested, same⟩ :=
    lockedPart_cases crc32 sound.request
  · rw [same]
    refine ⟨sound.staged, sound.request, fun requested => ?_, sound.known, stagedCrc, durableCrc, ?_⟩
    · rw [none_] at requested
      cases requested
    · intro _ ran
      obtain ⟨device, checksum, durableChecksum, told⟩ := clean none_ ran
      exact ⟨device, checksum, durableChecksum, told⟩
  · rw [same]
    obtain ⟨device, told⟩ := careful (by rw [requested]; decide) unchanged
    refine ⟨sound.staged, .inl rfl, nofun, sound.known, stagedCrc, durableCrc, fun _ _ => ?_⟩
    exact ⟨device, unchanged.symm, durableCrc.trans unchanged.symm, told⟩
  · rw [same]
    exact ⟨sound.staged, sound.request, fun _ => .inr (.inr (.inl rfl)), sound.known, requested⟩

theorem saveCrcIfRequested_device {store : Store} (requested : store.dumpRequest = 2) :
    saveCrcIfRequested .device store =
      { store with staged := { store.staged with checksum := store.ram.checksum } } := by
  rw [saveCrcIfRequested, if_neg (by rw [requested]; decide)]
  rfl

theorem saveCrcIfRequested_ds (store : Store) : saveCrcIfRequested .ds store = store := by
  rw [saveCrcIfRequested, saveCrcOfSection]
  exact ite_self store

theorem sound_statement {store next : Store} (sound : Sound crc32 callbacks store)
    (careful : Careful crc32 store .statement)
    (stepped : dumpStatement crc32 callbacks store = some next) : Sound crc32 callbacks next := by
  obtain ⟨shortcut, cleared⟩ := careful
  have stage := sound.stage
  cases pc : store.pc with
  | idle =>
      rw [dumpStatement, pc] at stepped
      cases stepped
  | entered =>
      rw [dumpStatement, pc] at stepped
      cases stepped
      exact sound_lockedPart sound pc (shortcut pc)
  | unlocked =>
      rw [dumpStatement, pc] at stepped
      rw [pc] at stage
      cases stepped
      exact ⟨sound.staged, sound.request, fun _ => .inr (.inr (.inr (.inl rfl))), sound.known, stage⟩
  | opened =>
      rw [dumpStatement, pc] at stepped
      rw [pc] at stage
      cases stepped
      rw [saveCrcIfRequested_device stage]
      exact ⟨sound.staged, sound.request, fun _ => .inr (.inr (.inr (.inr (.inl rfl)))),
        sound.known, stage, rfl⟩
  | savedDevice =>
      rw [dumpStatement, pc] at stepped
      rw [pc] at stage
      cases stepped
      rw [saveCrcIfRequested_ds]
      exact ⟨sound.staged, sound.request, fun _ => .inr (.inr (.inr (.inr (.inr rfl)))),
        sound.known, stage⟩
  | savedDs =>
      rw [dumpStatement, pc] at stepped
      rw [pc] at stage
      cases stepped
      exact ⟨sound.staged, .inl rfl, nofun, sound.known, stage.2, fun _ => (cleared pc).symm⟩
  | cleared =>
      rw [dumpStatement, pc] at stepped
      rw [pc] at stage
      cases stepped
      obtain ⟨stagedCrc, current⟩ := stage
      have scheduled := sound.scheduled_of_past (by simp [pc])
      refine ⟨sound.staged, sound.request, fun requested => .inl (scheduled requested), sound.known,
        stagedCrc, stagedCrc, fun none_ => ⟨current none_, sound.staged⟩⟩
  | committed =>
      rw [dumpStatement, pc] at stepped
      rw [pc] at stage
      cases stepped
      obtain ⟨stagedCrc, durableCrc, current⟩ := stage
      have scheduled := sound.scheduled_of_past (by simp [pc])
      refine ⟨sound.staged, sound.request, fun requested => .inl (scheduled requested), sound.known,
        stagedCrc, durableCrc, fun none_ => ⟨(current none_).1, (current none_).2, by simp⟩⟩
  | calling number =>
      rw [dumpStatement, pc] at stepped
      rw [pc] at stage
      obtain ⟨stagedCrc, durableCrc, current⟩ := stage
      have scheduled := sound.scheduled_of_past (by simp [pc])
      dsimp only at stepped
      split at stepped
      · cases stepped
        refine ⟨sound.staged, sound.request, fun requested => .inl (scheduled requested), ?_,
          stagedCrc, durableCrc, fun none_ => ?_⟩
        · intro callback inside
          exact sound.known callback (List.mem_filter.mp inside).1
        · obtain ⟨checksum, device, told⟩ := current none_
          refine ⟨checksum, device, ?_⟩
          intro callback inside
          obtain ⟨waiting, other⟩ := List.mem_filter.mp inside
          have from_ := told callback waiting
          simp at other
          omega
      · next last =>
          cases stepped
          refine ⟨sound.staged, sound.request, fun requested => .inl (scheduled requested),
            sound.known, stagedCrc, durableCrc, fun none_ _ => ?_⟩
          obtain ⟨checksum, device, told⟩ := current none_
          refine ⟨device, checksum, durableCrc.trans checksum, ?_⟩
          rw [List.eq_nil_iff_forall_not_mem]
          intro callback inside
          have from_ := told callback inside
          have known := sound.known callback inside
          omega

theorem sound_step {store next : Store} {event : Event} (careful : Careful crc32 store event)
    (sound : Sound crc32 callbacks store)
    (stepped : (storage crc32 callbacks).step store event = some next) :
    Sound crc32 callbacks next := by
  cases event with
  | setUniqueId uniqueId =>
      cases stepped
      rw [storageSetDeviceUniqueId_eq sound.staged sound.request]
      exact sound_requestDump sound _ _
  | setCoordinates latitude longitude =>
      cases stepped
      rw [storageSetCoordinates_eq sound.staged sound.request]
      exact sound_requestDump sound _ _
  | expire =>
      obtain ⟨⟨scheduled, idle⟩, rfl⟩ := provided_eq_some.mp stepped
      have stage := sound.stage
      rw [idle] at stage
      refine ⟨sound.staged, sound.request, fun _ => .inr (.inl rfl), sound.known, stage.1,
        stage.2.1, fun none_ ran => ?_⟩
      obtain ⟨device, checksum, durableChecksum, told⟩ := stage.2.2 none_ ran
      exact ⟨device, checksum, durableChecksum, told⟩
  | statement => exact sound_statement sound careful stepped

/-- In every run whose steps are careful the law holds in every state reached. -/
theorem commitLaw_of_careful {perm : Perm} {trace : List (Store × Event)} {finish : Store}
    (run : (storage crc32 callbacks).Run (.initial perm) trace finish)
    (careful : ∀ taken ∈ trace, Careful crc32 taken.1 taken.2) :
    CommitLaw crc32 finish ∧ ∀ taken ∈ trace, CommitLaw crc32 taken.1 := by
  constructor
  · exact (run.invariant (sound_initial perm) sound_step careful).law
  · intro taken inside
    exact (run.invariant_visited (sound_initial perm) sound_step careful taken inside).law

end

/-! ### A setter behind the mutex -/

/-- One step of the reflected CRC with the polynomial `0x04C11DB7`. -/
def crcShift (crc : UInt32) : UInt32 :=
  if crc &&& 1 = 1 then crc >>> 1 ^^^ 0xEDB88320 else crc >>> 1

/-- `esp_rom_crc32_le` of the ROM, started with zero. -/
def crc32Le (bytes : List UInt8) : UInt32 :=
  ~~~(bytes.foldl (fun crc byte => Nat.repeat crcShift 8 (crc ^^^ byte.toUInt32)) 0xFFFFFFFF)

/-- `factory_config`, before anything was stored. -/
def factoryPerm : Perm :=
  { checksum := 0, device := { uniqueId := 0, latitude := 5222970, longitude := 2101220 },
    dsChecksum := 0 }

/-- A setter and the dump that follows, with one callback. -/
def oneDump : List Event := [.setUniqueId 1, .expire] ++ List.replicate 9 .statement

/-- What `oneDump` leads to. -/
def afterOneDump : Perm :=
  { factoryPerm with
    checksum := crc32Le (DeviceData.bytes { factoryPerm.device with uniqueId := 1 })
    device := { factoryPerm.device with uniqueId := 1 } }

theorem commitLaw_oneDump :
    CommitLaw crc32Le
      { Store.initial afterOneDump with setterRan := true } := by
  have executed : (storage crc32Le 1).exec (.initial factoryPerm) oneDump =
      some { Store.initial afterOneDump with setterRan := true } := by
    decide +kernel
  exact (commitLaw_of_careful (Machine.run_of_exec executed) (by decide +kernel)).1

/-- A second setter runs when `dump_check` has just given the mutex back. -/
def setterBehindMutex : List Event :=
  [.setUniqueId 1, .expire, .statement, .setUniqueId 2] ++ List.replicate 8 .statement ++
    [.expire, .statement]

/-- The second identifier is stored with the checksum of the first. -/
def afterSetterBehindMutex : Perm :=
  { afterOneDump with device := { factoryPerm.device with uniqueId := 2 } }

theorem setterBehindMutex_lost :
    ¬∀ trace finish, (storage crc32Le 1).Run (.initial factoryPerm) trace finish →
      CommitLaw crc32Le finish := by
  intro law
  have executed : (storage crc32Le 1).exec (.initial factoryPerm) setterBehindMutex =
      some { Store.initial afterSetterBehindMutex with setterRan := true } := by
    decide +kernel
  have committed := law _ _ (Machine.run_of_exec executed) rfl rfl rfl
  have checksum := committed.checksum
  revert checksum
  decide +kernel

end EsInverter.Storage
