import EsInverter.Ble.Gatt

/-!
# Scan results over BLE

A record of the driver goes through `em_wifi_ap_t` to the bytes of the AP characteristic.  The
encoder stores the sizes of `rssi` and `channel` and measures the SSID with `strlen`.
-/

set_option autoImplicit false

namespace EsInverter.Wifi

open Ble Lib

/-- The members of `wifi_ap_record_t` that `scan_done_handler` reads. -/
structure ApRecord where
  ssid : Vector UInt8 33
  primary : UInt8
  rssi : Int8
  deriving DecidableEq, Repr

/-- One turn of the loop of `scan_done_handler`.  The copy of the SSID runs one byte over its
array into `rssi`, which is stored after it. -/
def ApRecord.toAp (record : ApRecord) : WifiAp :=
  { ssid := overlay (record.ssid.toList.take 32) (zeros 32)
    rssi := record.rssi
    channel := record.primary }

/-- `scan_done_handler`, up to the list that it posts. -/
def scanDoneHandler (getApRecords eventPost : Bool) (records : List ApRecord) :
    Except Fault WifiApList := do
  espErrorCheck getApRecords
  if room : (records.map ApRecord.toAp).length ≤ configEmWifiMaxScanRecords then
    espErrorCheck eventPost
    return ⟨records.map ApRecord.toAp, room⟩
  else throw (.assertion .maxLen)

/-- A scan, a write to the AP-id characteristic, and a read of the AP characteristic. -/
def readAp (gatt : Gatt) (records : List ApRecord) (id : UInt8) : Except Fault Answer := do
  let found ← scanDoneHandler true true records
  let (selected, _) ← writeChr .fine { gatt with svc := wifiScanDoneHnd gatt.svc found } .apId [id]
  let (_, answer) ← readChr selected .aps true
  return answer

/-! ### Access points -/

structure AccessPoint where
  ssid : List UInt8
  rssi : Int8
  channel : UInt8
  deriving DecidableEq, Repr

/-- `[RSSI][CHANNEL][SSID_LENGTH][SSID]` -/
def AccessPoint.bytes (ap : AccessPoint) : List UInt8 :=
  [ap.rssi.toUInt8, ap.channel, UInt8.ofNat ap.ssid.length] ++ ap.ssid

def decodeAp : List UInt8 → Option AccessPoint
  | rssi :: channel :: ssidLength :: ssid =>
      if ssid.length = ssidLength.toNat then some { ssid, rssi := rssi.toInt8, channel } else none
  | _ => none

theorem decodeAp_bytes {ap : AccessPoint} (short : ap.ssid.length ≤ 32) :
    decodeAp ap.bytes = some ap := by
  have small : ap.ssid.length < 256 := by omega
  rw [AccessPoint.bytes, List.cons_append, List.cons_append, List.cons_append, List.nil_append,
    decodeAp, UInt8.toNat_ofNat_of_lt' small, if_pos rfl]
  rfl

/-- The record holds the data of an access point, with a NUL behind the SSID. -/
structure ApRecord.Holds (record : ApRecord) (ap : AccessPoint) : Prop where
  ssid : ap.ssid ++ [0] <+: record.ssid.toList
  rssi : record.rssi = ap.rssi
  primary : record.primary = ap.channel

/-- What a scan finds, and the records of it. -/
structure ScanResult where
  aps : List AccessPoint
  records : List ApRecord
  holds : List.Forall₂ ApRecord.Holds records aps
  few : records.length ≤ configEmWifiMaxScanRecords

/-- The client reads the access point of the id that it selected, and three zeros behind the last
one. -/
def Readable (gatt : Gatt) (result : ScanResult) (id : UInt8) : Prop :=
  match result.aps[id.toNat]? with
  | some ap => ∃ answer, readAp gatt result.records id = .ok answer ∧ answer.value = ap.bytes ∧
      decodeAp answer.value = some ap
  | none => ∃ answer, readAp gatt result.records id = .ok answer ∧ answer.value = [0, 0, 0]

/-- The access points that come out as they are. -/
structure AccessPoint.Plain (ap : AccessPoint) : Prop where
  rssi : ap.rssi = 1
  channel : ap.channel = 1
  ssid : ap.ssid.length < 32
  noNul : ∀ byte ∈ ap.ssid, byte ≠ 0

/-! ### The SSID -/

variable {record : ApRecord} {ap : AccessPoint}

theorem ApRecord.Holds.length_le (holds : record.Holds ap) : ap.ssid.length ≤ 32 := by
  have short := holds.ssid.length_le
  rw [List.length_append, Vector.length_toList, List.length_singleton] at short
  omega

/-- `strlen` counts up to the first NUL of the SSID. -/
theorem ApRecord.Holds.text_ssid (holds : record.Holds ap) :
    text record.toAp.ssid = ap.ssid.takeWhile (· ≠ 0) := by
  obtain ⟨rest, whole⟩ := holds.ssid
  have copied : record.toAp.ssid.toList = (ap.ssid ++ [0] ++ rest).take 32 := by
    have room : (record.ssid.toList.take 32).length = 32 := by simp
    rw [toAp, toList_overlay _ room.le, room, whole, zeros, Vector.toList_replicate,
      List.drop_of_length_le (by simp), List.append_nil]
  have stops : (ap.ssid ++ [0] ++ rest).takeWhile (· ≠ 0) = ap.ssid.takeWhile (· ≠ 0) := by
    rw [List.append_assoc, List.takeWhile_append]
    split
    · next plain =>
        rw [(List.takeWhile_prefix _).eq_of_length plain]
        simp
    · rfl
  rw [text, copied, ← List.take_takeWhile, stops]
  exact List.take_of_length_le ((List.takeWhile_prefix _).length_le.trans holds.length_le)

/-- The encoder gives the bytes of the plain access points and of no others. -/
theorem ApRecord.Holds.bytes_iff (holds : record.Holds ap) :
    (text record.toAp.ssid).length < 32 ∧
        [1, 1, UInt8.ofNat (text record.toAp.ssid).length] ++ text record.toAp.ssid = ap.bytes ↔
      ap.Plain := by
  rw [holds.text_ssid, AccessPoint.bytes]
  constructor
  · rintro ⟨short, same⟩
    obtain ⟨header, whole⟩ := List.append_inj same rfl
    obtain ⟨rssi, header⟩ := List.cons.inj header
    obtain ⟨channel, -⟩ := List.cons.inj header
    refine ⟨?_, channel.symm, ?_, ?_⟩
    · have again := congrArg UInt8.toInt8 rssi
      rw [Int8.toInt8_toUInt8] at again
      exact again.symm
    · rw [whole] at short
      exact short
    · rw [List.takeWhile_eq_self_iff] at whole
      simpa using whole
  · intro plain
    have whole : ap.ssid.takeWhile (· ≠ 0) = ap.ssid := by
      rw [List.takeWhile_eq_self_iff]
      simpa using plain.noNul
    rw [whole, plain.rssi, plain.channel]
    exact ⟨plain.ssid, rfl⟩

theorem readAp_eq (gatt : Gatt) (result : ScanResult) (id : UInt8) :
    ∃ svc : ProvSvc, svc.apList.val = result.records.map ApRecord.toAp ∧
      svc.selectedApId = id ∧
      readAp gatt result.records id = (readChrHandler svc .aps).map fun outcome =>
        readAnswer (overlay outcome.2 (overlay [id] gatt.chrOpBuffer)) outcome.1 true := by
  have room : (result.records.map ApRecord.toAp).length ≤ configEmWifiMaxScanRecords := by
    rw [List.length_map]
    exact result.few
  have allowed : ¬ ([id].length < minChrLen ∨ maxChrLen < [id].length) := by
    simp [minChrLen, maxChrLen]
  have scanned : scanDoneHandler true true result.records =
      .ok ⟨result.records.map ApRecord.toAp, room⟩ := by
    rw [scanDoneHandler]
    simp only [espErrorCheck, if_true, dif_pos room, bind, Except.bind, pure, Except.pure]
  refine ⟨{ gatt.svc with apList := ⟨_, room⟩, selectedApId := id }, rfl, rfl, ?_⟩
  rw [readAp, scanned]
  dsimp only [bind, Except.bind]
  rw [writeChr_eq _ _ _ allowed]
  dsimp only [writeChrHandler, Except.map]
  rw [readChr_eq]
  dsimp only [wifiScanDoneHnd]
  cases readChrHandler { gatt.svc with apList := ⟨_, room⟩, selectedApId := id } .aps <;> rfl

section Selected

variable {result : ScanResult} {svc : ProvSvc} {id : UInt8}

theorem readChrHandler_beyond (listed : svc.apList.val = result.records.map ApRecord.toAp)
    (selected : svc.selectedApId = id) (beyond : result.aps[id.toNat]? = none) :
    readChrHandler svc .aps = .ok (3, [0, 0, 0]) := by
  have unrecorded : result.records[id.toNat]? = none := by
    rw [List.getElem?_eq_none_iff] at beyond ⊢
    rw [result.holds.length_eq]
    exact beyond
  rw [readChrHandler, listed, selected, List.getElem?_map, unrecorded]
  rfl

theorem readChrHandler_found (listed : svc.apList.val = result.records.map ApRecord.toAp)
    (selected : svc.selectedApId = id) (found : result.aps[id.toNat]? = some ap) :
    ∃ record : ApRecord, record.Holds ap ∧
      readChrHandler svc .aps =
        if (text record.toAp.ssid).length < 32 then
          .ok (3 + (text record.toAp.ssid).length,
            [1, 1, UInt8.ofNat (text record.toAp.ssid).length] ++ text record.toAp.ssid)
        else .error .outOfBounds := by
  obtain ⟨inside, rfl⟩ := List.getElem?_eq_some_iff.mp found
  have recorded : id.toNat < result.records.length := by
    rw [result.holds.length_eq]
    exact inside
  rw [readChrHandler, listed, selected, List.getElem?_map, List.getElem?_eq_getElem recorded]
  exact ⟨_, result.holds.get recorded inside, rfl⟩

end Selected

variable {result : ScanResult}

/-- A value that the handler stores whole is what is read. -/
theorem readAp_of_stored {gatt : Gatt} {records : List ApRecord} {id : UInt8}
    {handled : Except Fault (Int × List UInt8)} {chrLen : Int} {stored : List UInt8}
    (read : readAp gatt records id = handled.map fun outcome =>
      readAnswer (overlay outcome.2 (overlay [id] gatt.chrOpBuffer)) outcome.1 true)
    (ran : handled = .ok (chrLen, stored)) (whole : chrLen = stored.length)
    (positive : 0 < stored.length) (room : stored.length ≤ maxChrLen) :
    readAp gatt records id = .ok { status := 0, value := stored } := by
  subst whole
  rw [read, ran]
  dsimp only [Except.map]
  rw [readAnswer, if_neg (by omega), if_pos rfl, Int.toNat_natCast, take_overlay _ le_rfl room,
    List.take_length]

theorem readable_beyond (gatt : Gatt) {id : UInt8} (beyond : result.aps[id.toNat]? = none) :
    Readable gatt result id := by
  obtain ⟨svc, listed, selected, read⟩ := readAp_eq gatt result id
  have handled := readChrHandler_beyond listed selected beyond
  rw [Readable, beyond]
  exact ⟨_, readAp_of_stored read handled rfl (by decide) (by decide), rfl⟩

theorem readable_found (gatt : Gatt) {id : UInt8} (found : result.aps[id.toNat]? = some ap) :
    Readable gatt result id ↔ ap.Plain := by
  obtain ⟨svc, listed, selected, read⟩ := readAp_eq gatt result id
  obtain ⟨record, holds, handled⟩ := readChrHandler_found listed selected found
  rw [Readable, found, ← holds.bytes_iff]
  generalize text record.toAp.ssid = ssid at handled ⊢
  have length : ([1, 1, UInt8.ofNat ssid.length] ++ ssid).length = 3 + ssid.length :=
    List.length_append
  by_cases short : ssid.length < 32
  · rw [if_pos short] at handled
    have answered := readAp_of_stored read handled (by rw [length, Nat.cast_add]; rfl)
      (by omega) (by rw [length, maxChrLen]; omega)
    constructor
    · rintro ⟨answer, again, value, -⟩
      rw [answered] at again
      cases again
      exact ⟨short, value⟩
    · rintro ⟨-, same⟩
      rw [same] at answered
      exact ⟨_, answered, rfl, decodeAp_bytes holds.length_le⟩
  · rw [if_neg short] at handled
    rw [handled] at read
    refine iff_of_false ?_ fun fine => short fine.1
    rintro ⟨answer, answered, -⟩
    cases read.symm.trans answered

/-- An id behind the last access point reads three zeros; an access point is read as it is if and
only if it is plain. -/
theorem readable_iff (gatt : Gatt) (result : ScanResult) (id : UInt8) :
    Readable gatt result id ↔ ∀ ap, result.aps[id.toNat]? = some ap → ap.Plain := by
  cases found : result.aps[id.toNat]? with
  | none =>
      refine iff_of_true (readable_beyond gatt found) ?_
      intro ap absent
      cases absent
  | some ap =>
      rw [readable_found gatt found]
      constructor
      · intro plain other same
        rw [← Option.some.inj same]
        exact plain
      · intro all
        exact all ap rfl

/-- An access point with one letter, at -60 dBm on channel 6. -/
theorem not_readable_letter : ∃ result : ScanResult,
    result.aps = [{ ssid := [0x61], rssi := -60, channel := 6 }] ∧
      ¬ Readable (.initial 0) result 0 := by
  have holds : ApRecord.Holds { ssid := overlay [0x61] (zeros 33), rssi := -60, primary := 6 }
      { ssid := [0x61], rssi := -60, channel := 6 } := by
    refine ⟨⟨List.replicate 31 0, ?_⟩, rfl, rfl⟩
    rw [toList_overlay _ (by decide), zeros, Vector.toList_replicate]
    rfl
  refine ⟨⟨_, _, .cons holds .nil, by decide⟩, rfl, ?_⟩
  rw [readable_found _ rfl]
  intro plain
  exact absurd plain.channel (by decide)

end EsInverter.Wifi
