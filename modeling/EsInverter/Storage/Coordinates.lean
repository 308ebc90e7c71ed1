import EsInverter.Storage.Restart

/-!
# Storing the coordinates

The two coordinates are stored one after the other, each in RAM first and then
under its own key in NVS.  What NVS answers to each call is arbitrary; a write
that fails leaves its key as it was.
-/

set_option autoImplicit false

namespace EsInverter.Storage

open Lib.Wire

/-- What `nvs_open` and the write behind it answer. -/
structure NvsAnswers where
  opened : NvsRet
  written : NvsRet
  deriving DecidableEq, Repr

/-- The database and NVS, with the sections whose dump is requested. -/
structure Keyed where
  database : Database
  nvs : Nvs
  dumpRequest : UInt32

/-- `find_entry_db_idx` -/
def findEntryDb (entryDbPtr : Entry) : Option MapperEntry :=
  nvsMapper.find? fun entry => entry.isUsed && entry.entryDbPtr == entryDbPtr

namespace Keyed

def storageSaveDbEntry (answers : NvsAnswers) (entryDbPtr : Entry) (keyed : Keyed) :
    Except Fault Keyed :=
  match findEntryDb entryDbPtr with
  | none => .ok keyed
  | some entry =>
      if answers.opened ≠ .ok ∧ answers.opened ≠ .notFound then .error (.assertion .nvsOpen)
      else do
        let (ret, _, nvs) ← entry.process .nvsWrite keyed.database keyed.nvs
        if answers.written ≠ .ok ∨ ret ≠ .ok then return keyed
        else
          let bit := entry.storageSection.bit
          return { keyed with nvs, dumpRequest := keyed.dumpRequest ||| bit }

def setLongitude (longitude : Int64) (keyed : Keyed) : Keyed :=
  let perm := keyed.database.perm
  { keyed with
    database :=
      { keyed.database with perm := { perm with device := { perm.device with longitude } } } }

def setLatitude (latitude : Int64) (keyed : Keyed) : Keyed :=
  let perm := keyed.database.perm
  { keyed with
    database :=
      { keyed.database with perm := { perm with device := { perm.device with latitude } } } }

def storageSetCoordinates (long lat : NvsAnswers) (latitude longitude : Int64) (keyed : Keyed) :
    Except Fault Keyed := do
  let keyed ← (keyed.setLongitude longitude).storageSaveDbEntry long .longitude
  (keyed.setLatitude latitude).storageSaveDbEntry lat .latitude

end Keyed

/-- NVS holds a coordinate under a key. -/
def Nvs.Holds (key : String) (value : Int64) (nvs : Nvs) : Prop :=
  nvs.get (.int .i64) key 8 = .ok (le64 value.toUInt64)

/-- Both keys of the coordinates are new or both are old, and the RAM is the same. -/
structure AllOrNothing (latitude longitude : Int64) (before after : Keyed) : Prop where
  together :
    after.nvs.Holds "d/c/lat" latitude ∧ after.nvs.Holds "d/c/long" longitude ∨
      after.nvs.staged "d/c/lat" = before.nvs.staged "d/c/lat" ∧
        after.nvs.staged "d/c/long" = before.nvs.staged "d/c/long"
  latitude : after.nvs.Holds "d/c/lat" after.database.perm.device.latitude
  longitude : after.nvs.Holds "d/c/long" after.database.perm.device.longitude

/-! ### Saving one entry -/

/-- A key after the write: it holds the member, or what it held before. -/
structure Keyed.Saved (answers : NvsAnswers) (entry : MapperEntry) (before after : Keyed) :
    Prop where
  database : after.database = before.database
  written : answers.written = .ok → entry.Kept before.database.perm after.nvs
  failed : answers.written ≠ .ok → after.nvs.staged entry.key = before.nvs.staged entry.key
  others : ∀ other ≠ entry.key, after.nvs.staged other = before.nvs.staged other

theorem Keyed.saved_of_found {answers : NvsAnswers} {entryDbPtr : Entry} {entry : MapperEntry}
    {keyed after : Keyed} (found : findEntryDb entryDbPtr = some entry) (fits : entry.Fits)
    (run : keyed.storageSaveDbEntry answers entryDbPtr = .ok after) :
    Saved answers entry keyed after := by
  obtain ⟨item, processed, kept⟩ := @process_write entry keyed.database keyed.nvs fits
  unfold storageSaveDbEntry at run
  rw [found] at run
  dsimp only at run
  split at run
  · cases run
  · rw [processed] at run
    by_cases written : answers.written = .ok
    · cases run.symm.trans (if_neg (by simp [written]))
      refine ⟨rfl, fun _ => kept, fun failed => absurd written failed, fun other away => ?_⟩
      exact Function.update_of_ne away _ _
    · cases run.symm.trans (if_pos (Or.inl written))
      exact ⟨rfl, fun stored => absurd stored written, fun _ => rfl, fun _ _ => rfl⟩

/-- The entry of a coordinate in the table. -/
def coordinateEntry (entryDbPtr : Entry) (key : String) : MapperEntry :=
  { entryDbPtr, entrySize := 8, entryType := .int .i64, key, storageSection := .device,
    isUsed := true }

theorem find_latitude : findEntryDb .latitude = some (coordinateEntry .latitude "d/c/lat") := rfl

theorem find_longitude :
    findEntryDb .longitude = some (coordinateEntry .longitude "d/c/long") := rfl

/-- `nvs_open` succeeds or does not find the namespace. -/
def NvsAnswers.Opens (answers : NvsAnswers) : Prop :=
  answers.opened = .ok ∨ answers.opened = .notFound

theorem Keyed.save_returns {answers : NvsAnswers} (opens : answers.Opens) {entryDbPtr : Entry}
    {entry : MapperEntry} (found : findEntryDb entryDbPtr = some entry) (fits : entry.Fits)
    (keyed : Keyed) : ∃ after, keyed.storageSaveDbEntry answers entryDbPtr = .ok after := by
  obtain ⟨item, processed, kept⟩ := @process_write entry keyed.database keyed.nvs fits
  have passes : ¬ (answers.opened ≠ .ok ∧ answers.opened ≠ .notFound) := by
    rintro ⟨notOk, notMissing⟩
    exact opens.elim notOk notMissing
  rw [storageSaveDbEntry, found]
  dsimp only
  rw [if_neg passes, processed, ok_bind]
  by_cases failed : answers.written ≠ .ok
  · exact ⟨keyed, if_pos (Or.inl failed)⟩
  · exact ⟨_, if_neg (by simpa using failed)⟩

/-! ### Both coordinates -/

/--
What the two writes leave behind: the RAM has the new coordinates, and each key
has the new value or what it held, by itself.
-/
structure StoredApart (long lat : NvsAnswers) (latitude longitude : Int64)
    (before after : Keyed) : Prop where
  ram : after.database = ((before.setLongitude longitude).setLatitude latitude).database
  latWritten : lat.written = .ok → after.nvs.Holds "d/c/lat" latitude
  latFailed : lat.written ≠ .ok → after.nvs.staged "d/c/lat" = before.nvs.staged "d/c/lat"
  longWritten : long.written = .ok → after.nvs.Holds "d/c/long" longitude
  longFailed : long.written ≠ .ok → after.nvs.staged "d/c/long" = before.nvs.staged "d/c/long"
  others : ∀ key, key ≠ "d/c/lat" → key ≠ "d/c/long" →
    after.nvs.staged key = before.nvs.staged key

/-- What NVS holds depends on the key only. -/
theorem Nvs.holds_congr {key : String} {first second : Nvs} (value : Int64)
    (same : first.staged key = second.staged key) :
    first.Holds key value ↔ second.Holds key value := by
  unfold Nvs.Holds Nvs.get
  rw [same]

theorem Keyed.storedApart {long lat : NvsAnswers} {latitude longitude : Int64}
    {keyed after : Keyed}
    (returned : keyed.storageSetCoordinates long lat latitude longitude = .ok after) :
    StoredApart long lat latitude longitude keyed after := by
  obtain ⟨middle, first, second⟩ := bind_ok returned
  have fits (ptr : Entry) (key : String) (size : ptr.size = 8) :
      (coordinateEntry ptr key).Fits := ⟨size.symm, rfl⟩
  have savedLong := saved_of_found find_longitude (fits _ _ rfl) first
  have savedLat := saved_of_found find_latitude (fits _ _ rfl) second
  have other : "d/c/long" ≠ "d/c/lat" := by decide
  have longKept : after.nvs.staged "d/c/long" = middle.nvs.staged "d/c/long" :=
    savedLat.others "d/c/long" other
  have latKept : middle.nvs.staged "d/c/lat" = keyed.nvs.staged "d/c/lat" :=
    savedLong.others "d/c/lat" other.symm
  refine ⟨?_, savedLat.written, ?_, ?_, ?_, ?_⟩
  · rw [savedLat.database, setLatitude, savedLong.database]
    rfl
  · exact fun failed => (savedLat.failed failed).trans latKept
  · exact fun written => (Nvs.holds_congr longitude longKept).mpr (savedLong.written written)
  · exact fun failed => longKept.trans (savedLong.failed failed)
  · intro key notLat notLong
    exact (savedLat.others key notLat).trans (savedLong.others key notLong)

theorem Keyed.setCoordinates_returns {long lat : NvsAnswers} (longOpens : long.Opens)
    (latOpens : lat.Opens) (latitude longitude : Int64) (keyed : Keyed) :
    ∃ after, keyed.storageSetCoordinates long lat latitude longitude = .ok after := by
  obtain ⟨middle, first⟩ :=
    save_returns longOpens find_longitude ⟨rfl, rfl⟩ (keyed.setLongitude longitude)
  obtain ⟨after, second⟩ :=
    save_returns latOpens find_latitude ⟨rfl, rfl⟩ (middle.setLatitude latitude)
  exact ⟨after, by rw [storageSetCoordinates, first, ok_bind, second]⟩

/-- A key holds the new value exactly if it was written or held it already. -/
theorem holds_iff {key : String} {value : Int64} {answers : NvsAnswers} {before after : Nvs}
    (written : answers.written = .ok → after.Holds key value)
    (failed : answers.written ≠ .ok → after.staged key = before.staged key) :
    after.Holds key value ↔ answers.written = .ok ∨ before.Holds key value := by
  by_cases stored : answers.written = .ok
  · simp [stored, written stored]
  · simp [stored, Nvs.holds_congr value (failed stored)]

/--
Each coordinate is stored by itself, so both copies agree on both, all or
nothing, exactly if each of the keys was written or held the value already.
-/
theorem allOrNothing_iff {long lat : NvsAnswers} {latitude longitude : Int64}
    {keyed after : Keyed}
    (returned : keyed.storageSetCoordinates long lat latitude longitude = .ok after) :
    StoredApart long lat latitude longitude keyed after ∧
      (AllOrNothing latitude longitude keyed after ↔
        (lat.written = .ok ∨ keyed.nvs.Holds "d/c/lat" latitude) ∧
          (long.written = .ok ∨ keyed.nvs.Holds "d/c/long" longitude)) := by
  have stored := Keyed.storedApart returned
  refine ⟨stored, ?_⟩
  rw [← holds_iff stored.latWritten stored.latFailed,
    ← holds_iff stored.longWritten stored.longFailed]
  have ramLat : after.database.perm.device.latitude = latitude := by
    rw [stored.ram]
    rfl
  have ramLong : after.database.perm.device.longitude = longitude := by
    rw [stored.ram]
    rfl
  constructor
  · rintro ⟨-, lat, long⟩
    rw [ramLat] at lat
    rw [ramLong] at long
    exact ⟨lat, long⟩
  · intro both
    exact ⟨.inl both, by rw [ramLat]; exact both.1, by rw [ramLong]; exact both.2⟩

/-- The factory configuration with an empty NVS. -/
def blank : Keyed :=
  { database := factoryConfig, nvs := { staged := fun _ => none, durable := fun _ => none }
    dumpRequest := 0 }

/-- The longitude is written and the latitude is not. -/
def halfStored : Keyed :=
  { blank.setLongitude 2 |>.setLatitude 1 with
    nvs := blank.nvs.set "d/c/long" (.int .i64 #v[2, 0, 0, 0, 0, 0, 0, 0])
    dumpRequest := Section.device.bit }

theorem halfStored_returned :
    blank.storageSetCoordinates ⟨.ok, .ok⟩ ⟨.ok, .invalidLength⟩ 1 2 = .ok halfStored := rfl

theorem halfStored_apart :
    StoredApart ⟨.ok, .ok⟩ ⟨.ok, .invalidLength⟩ 1 2 blank halfStored ∧
      (AllOrNothing 1 2 blank halfStored ↔
        (NvsRet.invalidLength = .ok ∨ blank.nvs.Holds "d/c/lat" 1) ∧
          (NvsRet.ok = .ok ∨ blank.nvs.Holds "d/c/long" 2)) :=
  allOrNothing_iff halfStored_returned

theorem halfStored_not_allOrNothing :
    blank.storageSetCoordinates ⟨.ok, .ok⟩ ⟨.ok, .invalidLength⟩ 1 2 = .ok halfStored ∧
      ¬ AllOrNothing 1 2 blank halfStored := by
  refine ⟨halfStored_returned, fun all => ?_⟩
  have latitude : halfStored.nvs.get (.int .i64) "d/c/lat" 8 = .error .notFound := rfl
  have holds := all.latitude
  rw [Nvs.Holds, latitude] at holds
  cases holds

end EsInverter.Storage
