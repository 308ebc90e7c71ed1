import EsInverter.Fault
import EsInverter.Lib.Transition
import EsInverter.Lib.Wire

/-!
# Dumping the storage

A setter changes the database and stages the changed entries under the mutex;
`dump_check`, started by the scheduler some time after the last setter, computes
the checksum under the mutex and commits after it has given the mutex back.  The
CRC function of the ROM is a parameter.
-/

set_option autoImplicit false

namespace EsInverter.Storage

open Lib Lib.Wire

/-- The members of `flash_device_t` behind the checksum. -/
structure DeviceData where
  uniqueId : UInt32
  latitude : Int64
  longitude : Int64
  deriving DecidableEq, Repr

/-- What the structure looks like in memory: it is packed. -/
def DeviceData.bytes (data : DeviceData) : List UInt8 :=
  le32 data.uniqueId ++ le64 data.latitude.toUInt64 ++ le64 data.longitude.toUInt64

/-- The permanent part of the database, or the values of its keys in NVS; a key that NVS does not
hold stands for the value of the factory configuration that a restart gives it. -/
structure Perm where
  checksum : UInt32
  device : DeviceData
  dsChecksum : UInt32
  deriving DecidableEq, Repr

/-- `storage_section_t` -/
inductive Section
  | device
  | ds
  deriving DecidableEq, Repr

/-- `1U << section` -/
def Section.bit : Section → UInt32
  | device => 2
  | ds => 4

/-- `STORAGE_MASK` -/
def storageMask : UInt32 := Section.device.bit ||| Section.ds.bit

/-- The used entries of `nvs_mapper`. -/
inductive Entry
  | checksum
  | uniqueId
  | latitude
  | longitude
  | dsChecksum
  deriving DecidableEq, Repr

namespace Entry

def storageSection : Entry → Section
  | checksum | uniqueId | latitude | longitude => .device
  | dsChecksum => .ds

/-- An entry is written from one place to the other. -/
def copy (source target : Perm) : Entry → Perm
  | checksum => { target with checksum := source.checksum }
  | uniqueId => { target with device := { target.device with uniqueId := source.device.uniqueId } }
  | latitude => { target with device := { target.device with latitude := source.device.latitude } }
  | longitude => { target with device := { target.device with longitude := source.device.longitude } }
  | dsChecksum => { target with dsChecksum := source.dsChecksum }

end Entry

/-- Where `dump_check` is: behind which of its statements. -/
inductive DumpPc
  | idle
  | entered
  | unlocked
  | opened
  | savedDevice
  | savedDs
  | cleared
  | committed
  /-- The next of the on-changed callbacks. -/
  | calling (next : Nat)
  deriving DecidableEq, Repr

/-- `awaited` are the callbacks that have not run since a setter last changed the section. -/
structure Store where
  ram : Perm
  staged : Perm
  durable : Perm
  dumpRequest : UInt32
  scheduled : Bool
  pc : DumpPc
  setterRan : Bool
  awaited : List Nat
  deriving DecidableEq, Repr

/-- After `storage_init`: the database was read from NVS. -/
def Store.initial (perm : Perm) : Store :=
  { ram := perm, staged := perm, durable := perm, dumpRequest := 0, scheduled := false,
    pc := .idle, setterRan := false, awaited := [] }

def sectionDumpRequest (dumped : Section) (store : Store) : Store :=
  { store with dumpRequest := store.dumpRequest ||| dumped.bit, scheduled := true }

/-- The entry is staged and a dump requested, unless the NVS write fails. -/
def storageSaveDbEntry (written : Bool) (entry : Entry) (store : Store) : Store :=
  if written then
    sectionDumpRequest entry.storageSection { store with staged := entry.copy store.ram store.staged }
  else store

def setDevice (device : DeviceData) (store : Store) : Store :=
  { store with ram := { store.ram with device } }

def storageSetDeviceUniqueId (written : Bool) (uniqueId : UInt32) (store : Store) : Store :=
  storageSaveDbEntry written .uniqueId
    (setDevice { store.ram.device with uniqueId } store)

def storageSetCoordinates (longWritten latWritten : Bool) (latitude longitude : Int64)
    (store : Store) : Store :=
  let store := storageSaveDbEntry longWritten .longitude
    (setDevice { store.ram.device with longitude } store)
  storageSaveDbEntry latWritten .latitude (setDevice { store.ram.device with latitude } store)

variable (crc32 : List UInt8 → UInt32)

/-- A section whose checksum is unchanged is not dumped. -/
def checkDevice (store : Store) : Store :=
  if store.dumpRequest &&& Section.device.bit = 0 then store
  else if crc32 store.ram.device.bytes = store.ram.checksum then
    { store with dumpRequest := store.dumpRequest &&& ~~~Section.device.bit }
  else { store with ram := { store.ram with checksum := crc32 store.ram.device.bytes } }

/-- `flash_ds_t` has no member behind its checksum. -/
def checkDs (store : Store) : Store :=
  if store.dumpRequest &&& Section.ds.bit = 0 then store
  else if crc32 [] = store.ram.dsChecksum then
    { store with dumpRequest := store.dumpRequest &&& ~~~Section.ds.bit }
  else { store with ram := { store.ram with dsChecksum := crc32 [] } }

/-- The part under the mutex. -/
def lockedPart (store : Store) : Store :=
  if store.dumpRequest &&& storageMask = 0 then { store with pc := .idle }
  else
    let store := checkDs crc32 (checkDevice crc32 store)
    if store.dumpRequest = 0 then { store with pc := .idle } else { store with pc := .unlocked }

/-- The case of `STORAGE_DS` falls through to the return. -/
def saveCrcOfSection (saved : Section) (store : Store) : Store :=
  match saved with
  | .device => { store with staged := Entry.checksum.copy store.ram store.staged }
  | .ds => store

def saveCrcIfRequested (saved : Section) (store : Store) : Store :=
  if store.dumpRequest &&& saved.bit = 0 then store else saveCrcOfSection saved store

/-- The next statement, where `callbacks` is the number of registered callbacks. -/
def dumpStatement (callbacks : Nat) (store : Store) : Option Store :=
  match store.pc with
  | .idle => none
  | .entered => some (lockedPart crc32 store)
  | .unlocked => some { store with pc := .opened }
  | .opened => some { saveCrcIfRequested .device store with pc := .savedDevice }
  | .savedDevice => some { saveCrcIfRequested .ds store with pc := .savedDs }
  | .savedDs => some { store with dumpRequest := 0, pc := .cleared }
  | .cleared => some { store with durable := store.staged, pc := .committed }
  | .committed => some { store with pc := .calling 0 }
  | .calling next =>
      if next < callbacks then
        some { store with awaited := store.awaited.filter (· ≠ next), pc := .calling (next + 1) }
      else some { store with pc := .idle }

inductive Event
  | setUniqueId (uniqueId : UInt32)
  | setCoordinates (latitude longitude : Int64)
  /-- The timer of `dump_check` expires. -/
  | expire
  /-- The next statement of `dump_check`. -/
  | statement
  deriving DecidableEq, Repr

/-- A setter has run. -/
def Store.noteSetter (callbacks : Nat) (before : DeviceData) (store : Store) : Store :=
  { store with
    setterRan := true
    awaited := if store.ram.device = before then store.awaited else List.range callbacks }

def Store.step (callbacks : Nat) (store : Store) : Event → Option Store
  | .setUniqueId uniqueId =>
      some ((storageSetDeviceUniqueId true uniqueId store).noteSetter callbacks store.ram.device)
  | .setCoordinates latitude longitude =>
      some ((storageSetCoordinates true true latitude longitude store).noteSetter callbacks
        store.ram.device)
  | .expire =>
      provided (store.scheduled = true ∧ store.pc = .idle)
        { store with scheduled := false, pc := .entered }
  | .statement => dumpStatement crc32 callbacks store

/-- The storage with a number of registered callbacks. -/
def storage (callbacks : Nat) : Machine Store Event := ⟨Store.step crc32 callbacks⟩

end EsInverter.Storage
