import EsInverter.Storage.Mapper

/-!
# The settings over a restart

What a table of entries writes it reads back, as long as its keys differ and every
used entry has a type of the size of its member.
-/

set_option autoImplicit false

namespace EsInverter.Storage

open Lib.Wire

/-! ### Members and their bytes -/

theorem word32_le32 (value : UInt32) : word32 (le32 value) = value := by
  have decodes : Reader.Decodes (Reader.uint32le : Reader Unit UInt32) (le32 value) value :=
    Reader.Decodes.uint32le value
  rw [word32, decodes _ Cursor.start (Reader.holds_ofBytes (le32 value) fun _ => 0)]

theorem word64_le64 (value : UInt64) : word64 (le64 value) = value := by
  have decodes : Reader.Decodes (Reader.uint64le : Reader Unit UInt64) (le64 value) value :=
    Reader.Decodes.uint64le value
  rw [word64, decodes _ Cursor.start (Reader.holds_ofBytes (le64 value) fun _ => 0)]

namespace Entry

variable (entry other : Entry) (source target : Perm) (database : Database)

@[simp]
theorem length_bytes : (entry.bytes source).length = entry.size := by
  cases entry <;> rfl

theorem assign_bytes : entry.assign (entry.bytes source) target = entry.copy source target := by
  cases entry with
  | checksum | uniqueId | dsChecksum => simp [assign, bytes, copy, word32_le32]
  | latitude | longitude => simp [assign, bytes, copy, word64_le64]

theorem store_bytes :
    entry.store (entry.bytes source) database =
      .ok { database with perm := entry.copy source database.perm } := by
  have whole : (entry.bytes database.perm).drop (entry.bytes source).length = [] := by simp
  rw [store, if_pos (by simp)]
  dsimp only
  rw [whole, List.append_nil, assign_bytes]

theorem load_size : entry.load entry.size database = .ok (entry.bytes database.perm) := by
  rw [load, if_pos (Nat.le_refl _), List.take_of_length_le (by simp)]

/-- A copied member has the bytes of the source. -/
theorem bytes_copy_self : entry.bytes (entry.copy source target) = entry.bytes source := by
  cases entry <;> rfl

theorem bytes_copy_of_eq (same : other.bytes target = other.bytes source) :
    other.bytes (entry.copy source target) = other.bytes source := by
  by_cases own : entry = other
  · subst own
    exact entry.bytes_copy_self source target
  · rw [← same]
    cases entry <;> cases other <;> first | rfl | exact absurd rfl own

/-- The members are all of the permanent part. -/
theorem perm_eq_of_bytes (same : ∀ entry : Entry, entry.bytes target = entry.bytes source) :
    target = source := by
  have words {first second : UInt32} (bytes : le32 first = le32 second) : first = second := by
    rw [← word32_le32 first, bytes, word32_le32]
  have doubles {first second : Int64} (bytes : le64 first.toUInt64 = le64 second.toUInt64) :
      first = second := by
    have unsigned : first.toUInt64 = second.toUInt64 := by
      rw [← word64_le64 first.toUInt64, bytes, word64_le64]
    simpa using congrArg UInt64.toInt64 unsigned
  obtain ⟨checksum, ⟨uniqueId, latitude, longitude⟩, dsChecksum⟩ := target
  obtain ⟨sourceChecksum, ⟨sourceId, sourceLatitude, sourceLongitude⟩, sourceDs⟩ := source
  obtain rfl := words (same .checksum)
  obtain rfl := words (same .uniqueId)
  obtain rfl := doubles (same .latitude)
  obtain rfl := doubles (same .longitude)
  obtain rfl := words (same .dsChecksum)
  rfl

end Entry

/-- A type for members of `size` bytes. -/
def NvsType.Fits (size : Nat) : NvsType → Prop
  | .int type => type.width = size
  | .blob => True
  | .str | .any => False

structure MapperEntry.Fits (entry : MapperEntry) : Prop where
  size : entry.entrySize = entry.entryDbPtr.size
  type : entry.entryType.Fits entry.entrySize

/-- The key of the entry has the value of its member. -/
def MapperEntry.Kept (source : Perm) (nvs : Nvs) (entry : MapperEntry) : Prop :=
  nvs.get entry.entryType entry.key entry.entrySize = .ok (entry.entryDbPtr.bytes source)

/-- A read depends on the value of its key only. -/
theorem MapperEntry.Kept.of_same {source : Perm} {first second : Nvs} {entry : MapperEntry}
    (kept : entry.Kept source first) (same : second.staged entry.key = first.staged entry.key) :
    entry.Kept source second := by
  unfold MapperEntry.Kept Nvs.get at kept ⊢
  rw [same]
  exact kept

section One

variable {entry : MapperEntry} {database : Database} {nvs : Nvs}

theorem Entry.size_pos (entry : Entry) : entry.size ≠ 0 := by
  cases entry <;> decide

theorem loadInt_size (entry : Entry) (database : Database) {type : IntType}
    (width : type.width = entry.size) :
    ∃ bytes : Vector UInt8 type.width, entry.loadInt type database = .ok (.int type bytes) ∧
      bytes.toList = entry.bytes database.perm := by
  have sized : (entry.bytes database.perm).toArray.size = type.width := by simp [width]
  refine ⟨⟨(entry.bytes database.perm).toArray, sized⟩, ?_, rfl⟩
  have loaded : entry.load type.width database = .ok (entry.bytes database.perm) := by
    rw [width]
    exact entry.load_size database
  rw [Entry.loadInt, loaded]
  exact dif_pos sized

theorem process_write (fits : entry.Fits) :
    ∃ item, entry.process .nvsWrite database nvs = .ok (.ok, database, nvs.set entry.key item) ∧
      entry.Kept database.perm (nvs.set entry.key item) := by
  obtain ⟨ptr, size, type, key, storageSection, isUsed⟩ := entry
  obtain rfl : size = ptr.size := fits.size
  have fits := fits.type
  unfold MapperEntry.process processDbEntry MapperEntry.Kept
  dsimp only
  rw [if_neg ptr.size_pos]
  cases type with
  | int type =>
      have width : type.width = ptr.size := fits
      obtain ⟨bytes, loaded, same⟩ := loadInt_size ptr database width
      refine ⟨.int type bytes, ?_, ?_⟩
      · dsimp only
        rw [if_neg (not_not.mpr width.symm), loaded]
        rfl
      · simp [Nvs.get, Nvs.set, same]
  | blob =>
      refine ⟨.blob (ptr.bytes database.perm), ?_, ?_⟩
      · dsimp only
        rw [ptr.load_size]
        rfl
      · simp [Nvs.get, Nvs.set]
  | str => exact fits.elim
  | any => exact fits.elim

theorem process_read {source : Perm} (fits : entry.Fits) (kept : entry.Kept source nvs) :
    entry.process .nvsRead database nvs =
      .ok (.ok, { database with perm := entry.entryDbPtr.copy source database.perm }, nvs) := by
  obtain ⟨ptr, size, type, key, storageSection, isUsed⟩ := entry
  obtain rfl : size = ptr.size := fits.size
  have fits := fits.type
  have delivered : deliver ptr (.ok (ptr.bytes source)) database nvs =
      .ok (.ok, { database with perm := ptr.copy source database.perm }, nvs) := by
    rw [deliver, ptr.store_bytes]
    rfl
  unfold MapperEntry.Kept at kept
  unfold MapperEntry.process processDbEntry
  dsimp only at kept ⊢
  rw [if_neg ptr.size_pos]
  cases type with
  | int type =>
      have width : type.width = ptr.size := fits
      dsimp only
      rw [if_neg (not_not.mpr width.symm), width, kept, delivered]
  | blob =>
      dsimp only
      rw [kept, delivered]
  | str => exact fits.elim
  | any => exact fits.elim

end One

/-! ### The whole table -/

/-- What makes a table write and read back the permanent part. -/
structure WellFormed (mapper : List MapperEntry) : Prop where
  fits : ∀ entry ∈ mapper, entry.isUsed = true → entry.Fits
  keys : (mapper.map MapperEntry.key).Nodup
  covers : ∀ ptr, ∃ entry ∈ mapper, entry.isUsed = true ∧ entry.entryDbPtr = ptr

/-- Every used entry has the value of its member, and other keys are as before. -/
theorem writeDbEntries_ok {mapper : List MapperEntry} (database : Database) (nvs : Nvs)
    (fits : ∀ entry ∈ mapper, entry.isUsed = true → entry.Fits)
    (keys : (mapper.map MapperEntry.key).Nodup) :
    ∃ after, writeDbEntries mapper database nvs = .ok (database, after) ∧
      (∀ entry ∈ mapper, entry.isUsed = true → entry.Kept database.perm after) ∧
      ∀ key, (∀ entry ∈ mapper, entry.isUsed = true → entry.key ≠ key) →
        after.staged key = nvs.staged key := by
  unfold writeDbEntries
  induction mapper generalizing nvs with
  | nil => exact ⟨nvs, rfl, List.forall_mem_nil _, fun _ _ => rfl⟩
  | cons entry rest ih =>
      obtain ⟨headFits, restFits⟩ := List.forall_mem_cons.mp fits
      obtain ⟨fresh, restKeys⟩ := List.nodup_cons.mp keys
      cases used : entry.isUsed with
      | false =>
          obtain ⟨after, written, kept, others⟩ := ih nvs restFits restKeys
          refine ⟨after, ?_, ?_, ?_⟩
          · rw [processDbEntries, used]
            exact written
          · refine List.forall_mem_cons.mpr ⟨?_, kept⟩
            intro used'
            rw [used] at used'
            cases used'
          · intro key away
            exact others key (List.forall_mem_cons.mp away).2
      | true =>
          obtain ⟨item, processed, held⟩ := process_write (headFits used)
          obtain ⟨after, written, kept, others⟩ := ih (nvs.set entry.key item) restFits restKeys
          refine ⟨after, ?_, ?_, ?_⟩
          · rw [processDbEntries, if_pos used, processed]
            exact written
          · refine List.forall_mem_cons.mpr ⟨fun _ => ?_, kept⟩
            -- the later entries have other keys
            refine held.of_same (others entry.key fun later inside _ same => fresh ?_)
            rw [← same]
            exact List.mem_map_of_mem inside
          · intro key away
            obtain ⟨headAway, restAway⟩ := List.forall_mem_cons.mp away
            rw [others key restAway]
            exact Function.update_of_ne (headAway used).symm _ _

/-- The members of the used entries are those of the source. -/
theorem readDbEntries_ok {mapper : List MapperEntry} {source : Perm} {nvs : Nvs}
    (fits : ∀ entry ∈ mapper, entry.isUsed = true → entry.Fits)
    (kept : ∀ entry ∈ mapper, entry.isUsed = true → entry.Kept source nvs)
    (database : Database) :
    ∃ perm, readDbEntries mapper database nvs = .ok ({ database with perm }, nvs) ∧
      (∀ entry ∈ mapper, entry.isUsed = true →
        entry.entryDbPtr.bytes perm = entry.entryDbPtr.bytes source) ∧
      ∀ ptr : Entry, ptr.bytes database.perm = ptr.bytes source →
        ptr.bytes perm = ptr.bytes source := by
  unfold readDbEntries
  induction mapper generalizing database with
  | nil => exact ⟨database.perm, rfl, List.forall_mem_nil _, fun _ same => same⟩
  | cons entry rest ih =>
      obtain ⟨headFits, restFits⟩ := List.forall_mem_cons.mp fits
      obtain ⟨headKept, restKept⟩ := List.forall_mem_cons.mp kept
      cases used : entry.isUsed with
      | false =>
          obtain ⟨perm, read, own, others⟩ := ih restFits restKept database
          refine ⟨perm, ?_, List.forall_mem_cons.mpr ⟨?_, own⟩, others⟩
          · rw [processDbEntries, used]
            exact read
          · intro used'
            rw [used] at used'
            cases used'
      | true =>
          let copied := { database with perm := entry.entryDbPtr.copy source database.perm }
          have processed : entry.process .nvsRead database nvs = .ok (.ok, copied, nvs) :=
            process_read (headFits used) (headKept used)
          obtain ⟨perm, read, own, others⟩ := ih restFits restKept copied
          refine ⟨perm, ?_, List.forall_mem_cons.mpr ⟨fun _ => ?_, own⟩, ?_⟩
          · rw [processDbEntries, if_pos used, processed]
            exact read
          · exact others _ (entry.entryDbPtr.bytes_copy_self source database.perm)
          · intro ptr same
            exact others ptr (Entry.bytes_copy_of_eq _ _ source database.perm same)

section Clear

variable {mapper : List MapperEntry} {nvs : Nvs} {key : String}

theorem clearUnusedDbEntries_kept
    (used : ∀ entry ∈ mapper, entry.isUsed = false → entry.key ≠ key) :
    (clearUnusedDbEntries mapper nvs).staged key = nvs.staged key := by
  induction mapper generalizing nvs with
  | nil => rfl
  | cons entry rest ih =>
      obtain ⟨headUsed, restUsed⟩ := List.forall_mem_cons.mp used
      rw [clearUnusedDbEntries, ih restUsed]
      split
      · rfl
      · next unused =>
          have other := headUsed (Bool.not_eq_true _ ▸ unused)
          exact Function.update_of_ne other.symm _ _

theorem clearUnusedDbEntries_none (absent : nvs.staged key = none) :
    (clearUnusedDbEntries mapper nvs).staged key = none := by
  induction mapper generalizing nvs with
  | nil => exact absent
  | cons entry rest ih =>
      rw [clearUnusedDbEntries]
      split
      · exact ih absent
      · refine ih ?_
        by_cases same : key = entry.key
        · subst same
          exact Function.update_self _ _ _
        · exact (Function.update_of_ne same _ _).trans absent

theorem clearUnusedDbEntries_erased {entry : MapperEntry} (inside : entry ∈ mapper)
    (unused : entry.isUsed = false) : (clearUnusedDbEntries mapper nvs).staged entry.key = none := by
  induction mapper generalizing nvs with
  | nil => cases inside
  | cons head rest ih =>
      rw [clearUnusedDbEntries]
      rcases List.mem_cons.mp inside with rfl | later
      · rw [if_neg (by simp [unused])]
        exact clearUnusedDbEntries_none (Function.update_self _ _ _)
      · exact ih later

end Clear

/-- What is dumped is read by the next start, over any earlier content of NVS. -/
theorem restart_of_wellFormed {mapper : List MapperEntry} (formed : WellFormed mapper)
    (database : Database) (earlier : Nvs) :
    ∃ dumped after, storageForceDumpPanic mapper database earlier = .ok dumped ∧
      storageInit mapper true dumped.restarted =
        .ok ({ factoryConfig with perm := database.perm }, after) ∧
      ∀ entry ∈ mapper, entry.isUsed = false → after.staged entry.key = none := by
  obtain ⟨written, wrote, kept, -⟩ := writeDbEntries_ok database earlier formed.fits formed.keys
  let cleared := clearUnusedDbEntries mapper written.commit.restarted
  have keptOn : ∀ entry ∈ mapper, entry.isUsed = true → entry.Kept database.perm cleared := by
    intro entry inside used
    refine (kept entry inside used).of_same ?_
    refine clearUnusedDbEntries_kept ?_
    intro other otherInside unused same
    obtain rfl := List.inj_on_of_nodup_map formed.keys otherInside inside same
    rw [used] at unused
    cases unused
  obtain ⟨perm, read, own, -⟩ := readDbEntries_ok formed.fits keptOn factoryConfig
  obtain rfl : perm = database.perm := by
    refine Entry.perm_eq_of_bytes database.perm perm fun ptr => ?_
    obtain ⟨entry, inside, used, rfl⟩ := formed.covers ptr
    exact own entry inside used
  refine ⟨written.commit, cleared, ?_, read, ?_⟩
  · rw [storageForceDumpPanic, saveDatabase, wrote]
    rfl
  · intro entry inside unused
    exact clearUnusedDbEntries_erased inside unused

/-- A dump leaves the key of an unused entry as it is. -/
theorem dump_leaves_unused {mapper : List MapperEntry} (formed : WellFormed mapper)
    (database : Database) (nvs : Nvs) {entry : MapperEntry} (inside : entry ∈ mapper)
    (unused : entry.isUsed = false) :
    ∃ dumped, storageForceDumpPanic mapper database nvs = .ok dumped ∧
      dumped.durable entry.key = nvs.staged entry.key := by
  obtain ⟨written, wrote, -, others⟩ := writeDbEntries_ok database nvs formed.fits formed.keys
  refine ⟨written.commit, ?_, others entry.key ?_⟩
  · rw [storageForceDumpPanic, saveDatabase, wrote]
    rfl
  · intro other otherInside used same
    obtain rfl := List.inj_on_of_nodup_map formed.keys otherInside inside same
    rw [used] at unused
    cases unused

theorem nvsMapper_wellFormed : WellFormed nvsMapper where
  fits := by
    intro entry inside _
    fin_cases inside <;> exact ⟨rfl, rfl⟩
  keys := by decide
  covers := by
    intro ptr
    cases ptr <;> simp [nvsMapper]

/-- Every entry is dumped with the section of its member. -/
theorem nvsMapper_section : ∀ entry ∈ nvsMapper,
    entry.storageSection = entry.entryDbPtr.storageSection := by
  decide

/-- The permanent part of the database survives a restart, everything else is that of the factory,
and no unused key is left.  In any other table the unused keys are left out by the next start, and
by the next dump also in the flash. -/
theorem settings_survive_restart (database : Database) (earlier : Nvs) :
    (∃ dumped after nvs, storageForceDumpPanic nvsMapper database earlier = .ok dumped ∧
      storageInit nvsMapper true dumped.restarted = .ok (after, nvs) ∧
      after = { factoryConfig with perm := database.perm } ∧
      ∀ entry ∈ nvsMapper, entry.isUsed = false →
        nvs.staged entry.key = none ∧ nvs.durable entry.key = none) ∧
    ∀ mapper, WellFormed mapper →
      ∃ dumped nvs, storageForceDumpPanic mapper database earlier = .ok dumped ∧
        storageInit mapper true dumped.restarted =
          .ok ({ factoryConfig with perm := database.perm }, nvs) ∧
        ∀ entry ∈ mapper, entry.isUsed = false → nvs.staged entry.key = none ∧
          ∀ later, ∃ again, storageForceDumpPanic mapper later nvs = .ok again ∧
            again.durable entry.key = none := by
  constructor
  · obtain ⟨dumped, nvs, wrote, read, erased⟩ :=
      restart_of_wellFormed nvsMapper_wellFormed database earlier
    refine ⟨dumped, _, nvs, wrote, read, rfl, ?_⟩
    intro entry inside unused
    have used : ∀ entry ∈ nvsMapper, entry.isUsed = true := by decide
    rw [used entry inside] at unused
    cases unused
  · intro mapper formed
    obtain ⟨dumped, nvs, wrote, read, erased⟩ := restart_of_wellFormed formed database earlier
    refine ⟨dumped, nvs, wrote, read, fun entry inside unused => ?_⟩
    have gone := erased entry inside unused
    refine ⟨gone, fun later => ?_⟩
    obtain ⟨again, saved, left⟩ := dump_leaves_unused formed later nvs inside unused
    exact ⟨again, saved, left.trans gone⟩

end EsInverter.Storage
