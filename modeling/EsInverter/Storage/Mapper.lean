import EsInverter.Storage.Commit
import EsInverter.Storage.History

/-!
# The entries of the storage in NVS

NVS maps keys to typed values.  A value that is set replaces whatever its key held
before, and a value is read only as the type it was set with.  What was set is kept
over a restart when it was committed.  The calls of NVS succeed here, except that a
read fails where there is nothing to read.
-/

set_option autoImplicit false

namespace EsInverter.Storage

open Lib.Wire

/-! ### NVS -/

/-- The integer types of `nvs_type_t`. -/
inductive IntType
  | u8
  | i8
  | u16
  | i16
  | u32
  | i32
  | u64
  | i64
  deriving DecidableEq, Repr

def IntType.width : IntType → Nat
  | u8 | i8 => 1
  | u16 | i16 => 2
  | u32 | i32 => 4
  | u64 | i64 => 8

/-- `nvs_type_t` -/
inductive NvsType
  | int (type : IntType)
  | str
  | blob
  | any
  deriving DecidableEq, Repr

/-- A value with the bytes it has in memory. -/
inductive NvsItem
  | int (type : IntType) (bytes : Vector UInt8 type.width)
  | str (bytes : List UInt8)
  | blob (bytes : List UInt8)

/-- What the storage does with a return code: only `ESP_OK` and `ESP_ERR_NVS_NOT_FOUND` are told
from the rest. -/
inductive NvsRet
  | ok
  | notFound
  | typeMismatch
  | invalidLength
  | invalidArg
  | notSupported
  deriving DecidableEq, Repr

/-- What an open handle sees, and what a restart keeps of it. -/
structure Nvs where
  staged : String → Option NvsItem
  durable : String → Option NvsItem

namespace Nvs

def set (key : String) (item : NvsItem) (nvs : Nvs) : Nvs :=
  { nvs with staged := Function.update nvs.staged key (some item) }

def eraseKey (key : String) (nvs : Nvs) : Nvs :=
  { nvs with staged := Function.update nvs.staged key none }

def commit (nvs : Nvs) : Nvs := { nvs with durable := nvs.staged }

def restarted (nvs : Nvs) : Nvs := { nvs with staged := nvs.durable }

/-- The bytes that a call of `nvs_get_*` copies into a buffer of `len` bytes. -/
def get (nvsType : NvsType) (key : String) (len : Nat) (nvs : Nvs) : Except NvsRet (List UInt8) :=
  match nvs.staged key, nvsType with
  | none, _ => .error .notFound
  | some (.int stored bytes), .int type =>
      if stored = type then .ok bytes.toList else .error .typeMismatch
  | some (.str bytes), .str | some (.blob bytes), .blob =>
      if bytes.length ≤ len then .ok bytes else .error .invalidLength
  | some _, _ => .error .typeMismatch

end Nvs

/-! ### The database -/

/-- `database_t` -/
structure Database where
  perm : Perm
  histories : Histories
  energyMeasType : UInt16
  energyRefEnergy : UInt64
  deriving DecidableEq, Repr

/-- `factory_config` -/
def factoryConfig : Database :=
  { perm := factoryPerm, histories := .factory, energyMeasType := 0, energyRefEnergy := 0 }

/-- The integer of a member, low byte first. -/
def word32 (bytes : List UInt8) : UInt32 :=
  match (Reader.uint32le : Reader Unit UInt32) (Reader.ofBytes bytes fun _ => 0) .start with
  | (.ok value, _) => value
  | (.error _, _) => 0

def word64 (bytes : List UInt8) : UInt64 :=
  match (Reader.uint64le : Reader Unit UInt64) (Reader.ofBytes bytes fun _ => 0) .start with
  | (.ok value, _) => value
  | (.error _, _) => 0

namespace Entry

/-- The bytes of the member that `entry_db_ptr` points to. -/
def bytes (perm : Perm) : Entry → List UInt8
  | checksum => le32 perm.checksum
  | uniqueId => le32 perm.device.uniqueId
  | latitude => le64 perm.device.latitude.toUInt64
  | longitude => le64 perm.device.longitude.toUInt64
  | dsChecksum => le32 perm.dsChecksum

/-- `sizeof` of the member. -/
def size : Entry → Nat
  | checksum | uniqueId | dsChecksum => 4
  | latitude | longitude => 8

/-- The member is overwritten with bytes of its size. -/
def assign (bytes : List UInt8) (perm : Perm) : Entry → Perm
  | checksum => { perm with checksum := word32 bytes }
  | uniqueId => { perm with device := { perm.device with uniqueId := word32 bytes } }
  | latitude => { perm with device := { perm.device with latitude := (word64 bytes).toInt64 } }
  | longitude => { perm with device := { perm.device with longitude := (word64 bytes).toInt64 } }
  | dsChecksum => { perm with dsChecksum := word32 bytes }

/-- The bytes at the start of the member, as many as are read through the pointer. -/
def load (entry : Entry) (count : Nat) (database : Database) : Except Fault (List UInt8) :=
  if count ≤ entry.size then .ok ((entry.bytes database.perm).take count) else .error .outOfBounds

def loadInt (entry : Entry) (type : IntType) (database : Database) : Except Fault NvsItem := do
  let bytes ← entry.load type.width database
  if sized : bytes.toArray.size = type.width then return .int type ⟨bytes.toArray, sized⟩
  else .error .outOfBounds

/-- The string at the member, up to and with its terminating zero. -/
def loadStr (entry : Entry) (database : Database) : Except Fault NvsItem :=
  match (entry.bytes database.perm).findIdx? (· = 0) with
  | some last => .ok (.str ((entry.bytes database.perm).take (last + 1)))
  | none => .error .outOfBounds

def store (entry : Entry) (received : List UInt8) (database : Database) : Except Fault Database :=
  if received.length ≤ entry.size then
    let bytes := received ++ (entry.bytes database.perm).drop received.length
    .ok { database with perm := entry.assign bytes database.perm }
  else .error .outOfBounds

end Entry

/-- `struct nvs_mapper_s` -/
structure MapperEntry where
  entryDbPtr : Entry
  entrySize : Nat
  entryType : NvsType
  key : String
  storageSection : Section
  isUsed : Bool
  deriving DecidableEq, Repr

def nvsMapper : List MapperEntry :=
  [{ entryDbPtr := .checksum, entrySize := Entry.size .checksum, entryType := .int .u32,
     key := "d/crc", storageSection := .device, isUsed := true },
   { entryDbPtr := .uniqueId, entrySize := Entry.size .uniqueId, entryType := .int .u32,
     key := "d/unique_id", storageSection := .device, isUsed := true },
   { entryDbPtr := .latitude, entrySize := Entry.size .latitude, entryType := .int .i64,
     key := "d/c/lat", storageSection := .device, isUsed := true },
   { entryDbPtr := .longitude, entrySize := Entry.size .longitude, entryType := .int .i64,
     key := "d/c/long", storageSection := .device, isUsed := true },
   { entryDbPtr := .dsChecksum, entrySize := Entry.size .dsChecksum, entryType := .int .u32,
     key := "ds/crc", storageSection := .ds, isUsed := true }]

/-- `nvs_db_action_t` -/
inductive NvsDbAction
  | nvsRead
  | nvsWrite
  deriving DecidableEq, Repr

/-- The bytes of a call that succeeds are written to the member. -/
def deliver (entryDbPtr : Entry) (result : Except NvsRet (List UInt8)) (database : Database)
    (nvs : Nvs) : Except Fault (NvsRet × Database × Nvs) :=
  match result with
  | .error ret => .ok (ret, database, nvs)
  | .ok bytes => do
      let database ← entryDbPtr.store bytes database
      return (.ok, database, nvs)

/-- `process_db_entry` -/
def processDbEntry (entryDbPtr : Entry) (entrySize : Nat) (key : String) (nvsType : NvsType)
    (action : NvsDbAction) (database : Database) (nvs : Nvs) :
    Except Fault (NvsRet × Database × Nvs) :=
  if entrySize = 0 then .ok (.invalidArg, database, nvs)
  else
    match nvsType with
    | .int type =>
        if entrySize ≠ type.width then .error (.assertion .entrySize)
        else
          match action with
          | .nvsWrite => do
              let item ← entryDbPtr.loadInt type database
              return (.ok, database, nvs.set key item)
          | .nvsRead => deliver entryDbPtr (nvs.get nvsType key type.width) database nvs
    | .str =>
        match action with
        | .nvsWrite => do
            let item ← entryDbPtr.loadStr database
            return (.ok, database, nvs.set key item)
        | .nvsRead => deliver entryDbPtr (nvs.get nvsType key entrySize) database nvs
    | .blob =>
        match action with
        | .nvsWrite => do
            let bytes ← entryDbPtr.load entrySize database
            return (.ok, database, nvs.set key (.blob bytes))
        | .nvsRead => deliver entryDbPtr (nvs.get nvsType key entrySize) database nvs
    | .any => .ok (.notSupported, database, nvs)

def MapperEntry.process (action : NvsDbAction) (database : Database) (nvs : Nvs)
    (entry : MapperEntry) : Except Fault (NvsRet × Database × Nvs) :=
  processDbEntry entry.entryDbPtr entry.entrySize entry.key entry.entryType action database nvs

/-- `clear_unused_db_entries` -/
def clearUnusedDbEntries : List MapperEntry → Nvs → Nvs
  | [], nvs => nvs
  | entry :: rest, nvs =>
      clearUnusedDbEntries rest (if entry.isUsed then nvs else nvs.eraseKey entry.key)

/-- The loop of `read_db_entries` and `write_db_entries`; a failing entry is only logged. -/
def processDbEntries (action : NvsDbAction) :
    List MapperEntry → Database → Nvs → Except Fault (Database × Nvs)
  | [], database, nvs => .ok (database, nvs)
  | entry :: rest, database, nvs =>
      if entry.isUsed then do
        let (_, database, nvs) ← entry.process action database nvs
        processDbEntries action rest database nvs
      else processDbEntries action rest database nvs

def readDbEntries : List MapperEntry → Database → Nvs → Except Fault (Database × Nvs) :=
  processDbEntries .nvsRead

def writeDbEntries : List MapperEntry → Database → Nvs → Except Fault (Database × Nvs) :=
  processDbEntries .nvsWrite

def saveDatabase (mapper : List MapperEntry) (database : Database) (nvs : Nvs) :
    Except Fault Nvs := do
  let (_, nvs) ← writeDbEntries mapper database nvs
  return nvs.commit

def storageForceDumpPanic (mapper : List MapperEntry) (database : Database) (nvs : Nvs) :
    Except Fault Nvs :=
  saveDatabase mapper database nvs

/-- `storage_init`; `opened` is false when `nvs_open` does not find the namespace. -/
def storageInit (mapper : List MapperEntry) (opened : Bool) (nvs : Nvs) :
    Except Fault (Database × Nvs) :=
  if opened then readDbEntries mapper factoryConfig (clearUnusedDbEntries mapper nvs)
  else .ok (factoryConfig, nvs)

end EsInverter.Storage
