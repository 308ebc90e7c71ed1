import EsInverter.Ble.Gatt

/-!
# Confidentiality of the password

Two runs that differ in the bytes written to the password characteristic differ
in the stored password and in the cells of the buffer that a password write was
the last to fill.  A read that is answered without filling the buffer shows two
of these cells.  A connect with a password that fills its array stops the device
if there is no NUL in it, and goes on with a NUL.
-/

set_option autoImplicit false

namespace EsInverter.Ble

open Lib Wifi

/-! ### Confidentiality -/

/-- Equal events, or two writes of passwords of the same length. -/
inductive SameButPassword : Event → Event → Prop
  | same (event : Event) : SameButPassword event event
  | password {packet other : List UInt8} (number : packet.length = other.length)
      (driver : Driver) :
      SameButPassword (.writeChr .pass packet driver) (.writeChr .pass other driver)

/-- With no other passwords does the run leave an array, behind which nothing is known of what it
answers, and no other passwords change the answers to the reads. -/
def Confidential (devId : UInt64) (events : List Event) : Prop :=
  ∀ others, List.Forall₂ SameButPassword events others →
    ending Gatt.step (.initial devId) others ≠ some .outOfBounds ∧
      reads devId events = reads devId others

/-! ### What depends on the bytes of a password -/

structure Secrets where
  /-- For each cell of the buffer, whether the last write to it was a write of a password. -/
  cells : Vector Bool maxChrLen
  /-- The password was written with as many bytes as its array has. -/
  full : Bool
  /-- The assertion on the length was left to the bytes of a full password. -/
  judged : Bool

def Secrets.initial : Secrets :=
  { cells := Vector.replicate maxChrLen false, full := false, judged := false }

/-- A write to the connection characteristic reaches the assertion on the password. -/
def Connects (svc : ProvSvc) : Prop :=
  svc.wifiCredentials.ssidSet = true ∧ svc.wifiCredentials.passwordSet = true ∧
    (text svc.wifiCredentials.ssid).length < 32

instance (svc : ProvSvc) : Decidable (Connects svc) := inferInstanceAs (Decidable (_ ∧ _ ∧ _))

def mark (gatt : Gatt) (secrets : Secrets) : Event → Secrets
  | .readChr attr _ =>
      match readChrHandler gatt.svc attr with
      | .error _ => secrets
      | .ok (_, stored) =>
          { secrets with cells := overlay (List.replicate stored.length false) secrets.cells }
  | .writeChr attr packet _ =>
      if packet.length < minChrLen ∨ maxChrLen < packet.length then secrets
      else
        { cells := overlay (List.replicate packet.length (decide (attr = .pass))) secrets.cells
          full := if attr = .pass then decide (packet.length = 64) else secrets.full
          judged := secrets.judged ||
            decide (attr = .connection ∧ Connects gatt.svc) && secrets.full }
  | .wifiDisconnected _ | .wifiConnected _ | .wifiScanDone _ | .wifiBits _ _ _ => secrets

/-- The event leaves no array: a credential that is taken fits, and an SSID that is read has a
NUL behind it. -/
def Inside (gatt : Gatt) : Event → Prop
  | .readChr .aps _ => ∀ ap, gatt.svc.apList.val[gatt.svc.selectedApId.toNat]? = some ap →
      (text ap.ssid).length < 32
  | .writeChr .ssid packet _ => packet.length ≤ 32 ∨ maxChrLen < packet.length
  | .writeChr .pass packet _ => packet.length ≤ 64 ∨ maxChrLen < packet.length
  | _ => True

/-- A read comes before the assertion was left to a password, and if it is refused and answered,
it finds no byte of a password in the first two cells. -/
def Concealing (gatt : Gatt) (secrets : Secrets) : Event → Prop
  | .readChr attr appended => secrets.judged = false ∧
      (appended = true → Refused gatt.svc attr →
        secrets.cells[0] = false ∧ secrets.cells[1] = false)
  | _ => True

/-- The event with zeros for the bytes of a password. -/
def blank : Event → Event
  | .writeChr .pass packet driver => .writeChr .pass (List.replicate packet.length 0) driver
  | event => event

/-- In the run with blank passwords every access is inside its array and every read concealing. -/
def Concealed (devId : UInt64) (events : List Event) : Prop :=
  Along Gatt.step mark
    (fun gatt secrets event => Inside gatt event ∧ Concealing gatt secrets event)
    (.initial devId) .initial (events.map blank)

/-! ### The handlers on what is visible of the service -/

/-- The service without the password. -/
def ProvSvc.visible (svc : ProvSvc) : ProvSvc :=
  { svc with
    wifiCredentials := { svc.wifiCredentials with password := zeros 64 }
    station := { svc.station with sta := { svc.station.sta with password := zeros 64 } } }

theorem readChrHandler_visible (svc : ProvSvc) (attr : Chr) :
    readChrHandler svc.visible attr = readChrHandler svc attr := by
  cases attr <;> rfl

theorem readChrHandler_eq_of_visible {svc other : ProvSvc} (same : svc.visible = other.visible)
    (attr : Chr) : readChrHandler svc attr = readChrHandler other attr := by
  rw [← readChrHandler_visible svc, same, readChrHandler_visible]

/-- The result of a handler with what is visible of the service after it. -/
def visibleResult (result : Except Fault (Int × ProvSvc)) : Except Fault (Int × ProvSvc) :=
  result.map fun outcome => (outcome.1, outcome.2.visible)

theorem writeChrHandler_visible (driver : Driver) (svc : ProvSvc) {attr : Chr}
    (plain : attr ≠ .pass) (still : attr ≠ .connection) (value : List UInt8) :
    visibleResult (writeChrHandler driver svc.visible attr value) =
      visibleResult (writeChrHandler driver svc attr value) := by
  cases attr with
  | pass => exact absurd rfl plain
  | connection => exact absurd rfl still
  | ssid =>
      rw [writeChrHandler, writeChrHandler, memcpy]
      split <;> rfl
  | apId =>
      rcases value with _ | ⟨selected, _ | ⟨_, _⟩⟩ <;> rfl
  | devId | aps | unknown => rfl

theorem writeChrHandler_pass (driver : Driver) (svc : ProvSvc) (value : List UInt8) :
    writeChrHandler driver svc .pass value =
      if value.length ≤ 64 then
        .ok (0, { svc with
          wifiCredentials := { svc.wifiCredentials with
            password := overlay value (zeros 64), passwordSet := true } })
      else .error .outOfBounds := by
  rw [writeChrHandler, memcpy]
  split <;> rfl

/-! ### Two runs -/

/-- Equal events, or a write of a blank password and one whose bytes are no zeros, unless any will
do. -/
inductive Twin (loose : Prop) : Event → Event → Prop
  | visible {event : Event} (plain : ∀ packet driver, event ≠ .writeChr .pass packet driver) :
      Twin loose event event
  | password {packet other : List UInt8} (driver : Driver) (blank : ∀ byte ∈ packet, byte = 0)
      (number : packet.length = other.length) (plain : loose ∨ ∀ byte ∈ other, byte ≠ 0) :
      Twin loose (.writeChr .pass packet driver) (.writeChr .pass other driver)

/-- The cells of a password hold different bytes, unless any will do, and all others the same. -/
structure CellAlike (loose : Prop) (secret : Bool) (cell other : UInt8) : Prop where
  plain : secret = false → cell = other
  secret : secret = true → loose ∨ cell ≠ other

/-- Two services that differ in the password: the first has none. -/
structure SvcAlike (loose : Prop) (full : Bool) (svc other : ProvSvc) : Prop where
  visible : svc.visible = other.visible
  blank : text svc.wifiCredentials.password = []
  short : full = false → (text other.wifiCredentials.password).length < 64
  full : full = true → loose ∨ 64 ≤ (text other.wifiCredentials.password).length

structure Alike (loose : Prop) (secrets : Secrets) (gatt other : Gatt) : Prop where
  cells : ∀ index (inside : index < maxChrLen),
    CellAlike loose secrets.cells[index] gatt.chrOpBuffer[index] other.chrOpBuffer[index]
  svc : SvcAlike loose secrets.full gatt.svc other.svc
  judged : secrets.judged = true → loose

section

variable {loose : Prop} {secrets : Secrets} {gatt other : Gatt}

theorem cellAlike_self (bytes : List UInt8) :
    List.Forall₂ (CellAlike loose false) bytes bytes :=
  List.forall₂_same.mpr fun _ _ => ⟨fun _ => rfl, Bool.noConfusion⟩

/-- A cell with the same byte in both runs holds no byte of a password. -/
theorem plain_of_eq {secret : Bool} {cell other : UInt8}
    (alike : CellAlike False secret cell other) (same : cell = other) : secret = false := by
  cases secret with
  | false => rfl
  | true => exact absurd same ((alike.secret rfl).resolve_left id)

/-- A copy of the same bytes into both buffers. -/
theorem Alike.cells_overlay (alike : Alike loose secrets gatt other) (bytes : List UInt8)
    (index : Nat) (inside : index < maxChrLen) :
    CellAlike loose (overlay (List.replicate bytes.length false) secrets.cells)[index]
      (overlay bytes gatt.chrOpBuffer)[index] (overlay bytes other.chrOpBuffer)[index] :=
  overlay_related (CellAlike loose) alike.cells (cellAlike_self bytes) index inside

theorem step_readChr_paired (alike : Alike loose secrets gatt other) (attr : Chr)
    (appended : Bool) :
    Paired (Alike loose (mark gatt secrets (.readChr attr appended)))
      ((mark gatt secrets (.readChr attr appended)).judged = true)
      (gatt.step (.readChr attr appended)) (other.step (.readChr attr appended)) := by
  have handlers := readChrHandler_eq_of_visible alike.svc.visible attr
  rw [Gatt.step, Gatt.step, readChr_eq, readChr_eq, mark, ← handlers]
  cases readChrHandler gatt.svc attr with
  | error fault => exact .stop fault fault
  | ok outcome =>
      apply Paired.go ⟨alike.cells_overlay outcome.2, alike.svc, alike.judged⟩
      rw [List.length_singleton, List.length_singleton]

/-- The service after a write, which shows nothing to a reader. -/
def silently (result : Except Fault (Int × ProvSvc)) : Except Fault (ProvSvc × List Answer) :=
  result.map fun outcome => (outcome.2, [])

/-- What a write leaves of two services: a password is stored, judged or left alone. -/
abbrev HandledPaired (loose : Prop) (gatt other : Gatt) (after : Secrets) (attr : Chr)
    (packet twin : List UInt8) (driver : Driver) : Prop :=
  Paired (fun svc next => SvcAlike loose after.full svc next ∧ (after.judged = true → loose))
    (after.judged = true) (silently (writeChrHandler driver gatt.svc attr packet))
    (silently (writeChrHandler driver other.svc attr twin))

theorem writeChrHandler_password {driver : Driver} {svc next : ProvSvc} {attr : Chr}
    {value : List UInt8} {err : Int} (plain : attr ≠ .pass)
    (handled : writeChrHandler driver svc attr value = .ok (err, next)) :
    next.wifiCredentials.password = svc.wifiCredentials.password := by
  cases attr with
  | pass => exact absurd rfl plain
  | ssid =>
      obtain ⟨ssid, -, last⟩ := bind_ok handled
      cases last
      rfl
  | connection =>
      rw [writeChrHandler] at handled
      split at handled
      · cases handled
        rfl
      · obtain ⟨station, -, last⟩ := bind_ok handled
        cases last
        rfl
  | apId =>
      rcases value with _ | ⟨selected, _ | ⟨_, _⟩⟩ <;> cases handled <;> rfl
  | devId | aps | unknown =>
      cases handled
      rfl

theorem handled_plain (alike : Alike loose secrets gatt other) {after : Secrets} {attr : Chr}
    (plain : attr ≠ .pass) (still : attr ≠ .connection) (full : after.full = secrets.full)
    (judged : after.judged = secrets.judged) (packet : List UInt8) (driver : Driver) :
    HandledPaired loose gatt other after attr packet packet driver := by
  have results : visibleResult (writeChrHandler driver gatt.svc attr packet) =
      visibleResult (writeChrHandler driver other.svc attr packet) := by
    rw [← writeChrHandler_visible driver gatt.svc plain still, alike.svc.visible,
      writeChrHandler_visible driver other.svc plain still]
  rw [HandledPaired, full, judged]
  cases left : writeChrHandler driver gatt.svc attr packet with
  | error fault =>
      cases right : writeChrHandler driver other.svc attr packet with
      | error fault' => exact .stop fault fault'
      | ok outcome =>
          rw [left, right] at results
          cases results
  | ok outcome =>
      cases right : writeChrHandler driver other.svc attr packet with
      | error fault =>
          rw [left, right] at results
          cases results
      | ok outcome' =>
          rw [left, right] at results
          have same : outcome.2.visible = outcome'.2.visible :=
            congrArg Prod.snd (Except.ok.inj results)
          have mine := writeChrHandler_password plain left
          have others := writeChrHandler_password plain right
          refine .go ⟨⟨same, ?_, ?_, ?_⟩, alike.judged⟩ rfl
          · rw [mine]
            exact alike.svc.blank
          · rw [others]
            exact alike.svc.short
          · rw [others]
            exact alike.svc.full

theorem handled_pass (alike : Alike loose secrets gatt other) {after : Secrets}
    {packet twin : List UInt8} (blank : ∀ byte ∈ packet, byte = 0)
    (number : packet.length = twin.length) (plain : loose ∨ ∀ byte ∈ twin, byte ≠ 0)
    (full : after.full = decide (packet.length = 64)) (judged : after.judged = secrets.judged)
    (driver : Driver) :
    HandledPaired loose gatt other after .pass packet twin driver := by
  rw [HandledPaired, full, judged, writeChrHandler_pass, writeChrHandler_pass, number]
  by_cases room : twin.length ≤ 64
  · have visible := congrArg (fun svc : ProvSvc => { svc with
      wifiCredentials := { svc.wifiCredentials with passwordSet := true } }) alike.svc.visible
    rw [if_pos room, if_pos room]
    refine .go ⟨⟨visible, text_overlay_blank blank (number ▸ room), ?_, ?_⟩, alike.judged⟩ rfl
    · intro partly
      have less : twin.length ≠ 64 := of_decide_eq_false partly
      exact (length_text_overlay room).trans_lt (by omega)
    · intro whole
      have all : twin.length = 64 := of_decide_eq_true whole
      refine plain.imp_right fun letters => ?_
      show 64 ≤ (text (overlay twin (zeros 64))).length
      rw [text_overlay_zeros letters room, all]
  · rw [if_neg room, if_neg room]
    exact .stop _ _

/-- The services behind a connect of both. -/
theorem visible_connected {svc other : ProvSvc} (same : svc.visible = other.visible)
    (password passwordOther : List UInt8) :
    ProvSvc.visible { svc with
        wifiConnResult := connectionInProgress
        station := svc.station.configured (text svc.wifiCredentials.ssid) password
        wifiConnStatus := overlay connectingStatusString (zeros 36) } =
      ProvSvc.visible { other with
        wifiConnResult := connectionInProgress
        station := other.station.configured (text other.wifiCredentials.ssid) passwordOther
        wifiConnStatus := overlay connectingStatusString (zeros 36) } := by
  simp only [ProvSvc.visible, ProvSvc.mk.injEq, WifiCredentials.mk.injEq, Station.mk.injEq] at same
  simp only [ProvSvc.visible, Station.configured, same]

theorem SvcAlike.ssidSet {full : Bool} {svc next : ProvSvc} (alike : SvcAlike loose full svc next) :
    next.wifiCredentials.ssidSet = svc.wifiCredentials.ssidSet :=
  (congrArg (fun svc : ProvSvc => svc.wifiCredentials.ssidSet) alike.visible).symm

theorem SvcAlike.passwordSet {full : Bool} {svc next : ProvSvc}
    (alike : SvcAlike loose full svc next) :
    next.wifiCredentials.passwordSet = svc.wifiCredentials.passwordSet :=
  (congrArg (fun svc : ProvSvc => svc.wifiCredentials.passwordSet) alike.visible).symm

/-- A connect with a full password may stop the second run alone. -/
theorem handled_connect (alike : Alike loose secrets gatt other) {after : Secrets}
    (full : after.full = secrets.full)
    (judged : after.judged = (secrets.judged || decide (Connects gatt.svc) && secrets.full))
    (ssidSet : gatt.svc.wifiCredentials.ssidSet = true)
    (passwordSet : gatt.svc.wifiCredentials.passwordSet = true) (packet : List UInt8)
    (driver : Driver) :
    HandledPaired loose gatt other after .connection packet packet driver := by
  have same := alike.svc.visible
  have ssid : other.svc.wifiCredentials.ssid = gatt.svc.wifiCredentials.ssid :=
    (congrArg (fun svc : ProvSvc => svc.wifiCredentials.ssid) same).symm
  rw [HandledPaired, full, writeChrHandler_connection driver packet ssidSet passwordSet,
    writeChrHandler_connection driver packet (alike.svc.ssidSet.trans ssidSet)
      (alike.svc.passwordSet.trans passwordSet),
    emWifiStaConnect_eq, emWifiStaConnect_eq, ssid, alike.svc.blank]
  by_cases long : 32 ≤ (text gatt.svc.wifiCredentials.ssid).length
  · rw [if_pos long, if_pos long]
    exact .stop _ _
  have connects : Connects gatt.svc := ⟨ssidSet, passwordSet, Nat.not_le.mp long⟩
  have answer : driver.answer other.svc.station = driver.answer gatt.svc.station :=
    (congrArg (fun svc : ProvSvc => driver.answer svc.station) same).symm
  rw [if_neg long, if_neg long, if_neg (by decide), answer]
  by_cases letters : 64 ≤ (text other.svc.wifiCredentials.password).length
  · rw [if_pos letters]
    have whole : secrets.full = true := by
      by_contra partly
      have short := alike.svc.short (Bool.eq_false_iff.mpr partly)
      omega
    cases driver.answer gatt.svc.station with
    | error fault => exact .stop _ _
    | ok _ =>
        refine .part _ ?_
        rw [judged, decide_eq_true connects, whole, Bool.and_self, Bool.or_true]
  · rw [if_neg letters]
    cases driver.answer gatt.svc.station with
    | error fault => exact .stop _ _
    | ok _ =>
        refine .go ⟨⟨?_, alike.svc.blank, alike.svc.short, alike.svc.full⟩, ?_⟩ rfl
        · have visible := visible_connected same [] (text other.svc.wifiCredentials.password)
          rw [ssid] at visible
          exact visible
        · intro left
          rw [judged, Bool.or_eq_true, Bool.and_eq_true] at left
          rcases left with before | ⟨-, whole⟩
          · exact alike.judged before
          · exact (alike.svc.full whole).resolve_right letters

/-- Without both credentials nothing is connected. -/
theorem handled_unset (alike : Alike loose secrets gatt other) {after : Secrets}
    (full : after.full = secrets.full) (judged : after.judged = secrets.judged)
    (unset : gatt.svc.wifiCredentials.ssidSet = false ∨
      gatt.svc.wifiCredentials.passwordSet = false) (packet : List UInt8) (driver : Driver) :
    HandledPaired loose gatt other after .connection packet packet driver := by
  have unsetOther : other.svc.wifiCredentials.ssidSet = false ∨
      other.svc.wifiCredentials.passwordSet = false := by
    rw [alike.svc.ssidSet, alike.svc.passwordSet]
    exact unset
  rw [HandledPaired, full, judged, writeChrHandler, if_pos unset, writeChrHandler,
    if_pos unsetOther]
  exact .go ⟨alike.svc, alike.judged⟩ rfl

theorem handled_connection (alike : Alike loose secrets gatt other) {after : Secrets}
    (full : after.full = secrets.full)
    (judged : after.judged = (secrets.judged || decide (Connects gatt.svc) && secrets.full))
    (packet : List UInt8) (driver : Driver) :
    HandledPaired loose gatt other after .connection packet packet driver := by
  by_cases set : gatt.svc.wifiCredentials.ssidSet = true ∧
      gatt.svc.wifiCredentials.passwordSet = true
  · exact handled_connect alike full judged set.1 set.2 packet driver
  · have apart : ¬ Connects gatt.svc := fun connects => set ⟨connects.1, connects.2.1⟩
    rw [decide_eq_false apart, Bool.false_and, Bool.or_false] at judged
    rw [not_and_or, Bool.not_eq_true, Bool.not_eq_true] at set
    exact handled_unset alike full judged set packet driver

theorem step_writeChr (gatt : Gatt) {attr : Chr} {packet : List UInt8} (driver : Driver)
    (length : ¬ (packet.length < minChrLen ∨ maxChrLen < packet.length)) :
    gatt.step (.writeChr attr packet driver) =
      (silently (writeChrHandler driver gatt.svc attr packet)).map
        (Prod.map (Gatt.mk (overlay packet gatt.chrOpBuffer)) id) := by
  rw [Gatt.step, writeChr_eq driver gatt attr length]
  cases writeChrHandler driver gatt.svc attr packet <;> rfl

/-- What two writes copy into the cells of the buffer. -/
theorem Twin.copied {attr : Chr} {packet twin : List UInt8} {driver : Driver}
    (twins : Twin loose (.writeChr attr packet driver) (.writeChr attr twin driver)) :
    List.Forall₂ (CellAlike loose (decide (attr = .pass))) packet twin := by
  cases twins with
  | visible plain =>
      have notPass : attr ≠ .pass := fun pass => plain packet driver (by rw [pass])
      rw [decide_eq_false notPass]
      exact cellAlike_self packet
  | password _ blank number plain =>
      rw [List.forall₂_iff_get]
      refine ⟨number, fun index left right => ⟨Bool.noConfusion, fun _ => ?_⟩⟩
      refine plain.imp_right fun letters same => ?_
      apply letters _ (List.get_mem twin ⟨index, right⟩)
      rw [← same]
      exact blank _ (List.get_mem packet ⟨index, left⟩)

theorem step_writeChr_paired {attr : Chr} {packet twin : List UInt8} {driver : Driver}
    (alike : Alike loose secrets gatt other)
    (twins : Twin loose (.writeChr attr packet driver) (.writeChr attr twin driver)) :
    Paired (Alike loose (mark gatt secrets (.writeChr attr packet driver)))
      ((mark gatt secrets (.writeChr attr packet driver)).judged = true)
      (gatt.step (.writeChr attr packet driver)) (other.step (.writeChr attr twin driver)) := by
  have number : packet.length = twin.length := twins.copied.length_eq
  by_cases length : packet.length < minChrLen ∨ maxChrLen < packet.length
  · have lengthOther := length
    rw [number] at lengthOther
    rw [mark, if_pos length, Gatt.step, Gatt.step, writeChr, writeChr, if_pos length,
      if_pos lengthOther]
    exact .go alike rfl
  · have lengthOther := length
    rw [number] at lengthOther
    have marked : mark gatt secrets (.writeChr attr packet driver) = _ := if_neg length
    have full := congrArg Secrets.full marked
    have judged := congrArg Secrets.judged marked
    dsimp only at full judged
    have handled : HandledPaired loose gatt other
        (mark gatt secrets (.writeChr attr packet driver)) attr packet twin driver := by
      cases twins with
      | visible plain =>
          have notPass : attr ≠ .pass := fun pass => plain packet driver (by rw [pass])
          rw [if_neg notPass] at full
          by_cases connection : attr = .connection
          · subst connection
            simp only [true_and] at judged
            exact handled_connection alike full judged packet driver
          · simp only [connection, false_and, decide_false, Bool.false_and, Bool.or_false]
              at judged
            exact handled_plain alike notPass connection full judged packet driver
      | password _ blank number plain =>
          rw [if_pos rfl] at full
          simp only [reduceCtorEq, false_and, decide_false, Bool.false_and, Bool.or_false]
            at judged
          exact handled_pass alike blank number plain full judged driver
    rw [step_writeChr gatt driver length, step_writeChr other driver lengthOther]
    refine handled.map _ _ fun svc next related => ⟨?_, related.1, related.2⟩
    rw [congrArg Secrets.cells marked]
    exact overlay_related (CellAlike loose) alike.cells twins.copied

/-- One event keeps two runs alike, or stops the second alone. -/
theorem step_paired {event twin : Event} (alike : Alike loose secrets gatt other)
    (twins : Twin loose event twin) :
    Paired (Alike loose (mark gatt secrets event)) ((mark gatt secrets event).judged = true)
      (gatt.step event) (other.step twin) := by
  cases event with
  | readChr attr appended =>
      cases twins
      exact step_readChr_paired alike attr appended
  | writeChr attr packet driver =>
      cases twins with
      | visible plain => exact step_writeChr_paired alike (.visible plain)
      | password _ blank number plain =>
          exact step_writeChr_paired alike (.password driver blank number plain)
  | wifiDisconnected reason =>
      cases twins
      have after := congrArg (wifiDisconnectedHnd · reason) alike.svc.visible
      exact .go ⟨alike.cells, { alike.svc with visible := after }, alike.judged⟩ rfl
  | wifiConnected localIp =>
      cases twins
      have after := congrArg (fun svc : ProvSvc => { svc with
        wifiConnStatus := overlay (connectedStatus localIp ++ [0]) (zeros 36)
        wifiConnResult := connectionSuccessful }) alike.svc.visible
      rw [Gatt.step, Gatt.step, wifiConnectedHnd_eq, wifiConnectedHnd_eq]
      exact .go ⟨alike.cells, { alike.svc with visible := after }, alike.judged⟩ rfl
  | wifiScanDone found =>
      cases twins
      have after := congrArg (wifiScanDoneHnd · found) alike.svc.visible
      exact .go ⟨alike.cells, { alike.svc with visible := after }, alike.judged⟩ rfl
  | wifiBits disconnectDemand provisioned connected =>
      cases twins
      have after := congrArg (fun svc : ProvSvc => { svc with
        station := { svc.station with
          disconnectDemand := disconnectDemand
          provisioned := provisioned
          connected := connected } }) alike.svc.visible
      exact .go ⟨alike.cells, { alike.svc with visible := after }, alike.judged⟩ rfl

end

/-! ### Accesses outside an array -/

section

variable {gatt : Gatt} {event : Event}

theorem writeChrHandler_ssid (driver : Driver) (svc : ProvSvc) (value : List UInt8) :
    writeChrHandler driver svc .ssid value =
      if value.length ≤ 32 then
        .ok (0, { svc with
          wifiCredentials := { svc.wifiCredentials with
            ssid := overlay value (zeros 32), ssidSet := true } })
      else .error .outOfBounds := by
  rw [writeChrHandler, memcpy]
  split <;> rfl

theorem emWifiStaConnect_ne_outOfBounds (driver : Driver) (ssid : Vector UInt8 32)
    (password : Vector UInt8 64) (station : Station) :
    emWifiStaConnect driver ssid password station ≠ .error .outOfBounds := by
  rw [emWifiStaConnect_eq]
  have calls := driver.answer_ne_outOfBounds station
  split
  · simp
  · split
    · simp
    · cases answer : driver.answer station with
      | error fault =>
          intro same
          exact calls (answer.trans (congrArg Except.error (Except.error.inj same)))
      | ok _ => simp [Except.map]

/-- A write that is taken is inside its array if and only if the handler is. -/
theorem inside_writeChr_iff {attr : Chr} {packet : List UInt8} (driver : Driver)
    (length : ¬ (packet.length < minChrLen ∨ maxChrLen < packet.length)) :
    Inside gatt (.writeChr attr packet driver) ↔
      writeChrHandler driver gatt.svc attr packet ≠ .error .outOfBounds := by
  have taken : ¬ maxChrLen < packet.length := fun long => length (.inr long)
  cases attr with
  | ssid =>
      rw [writeChrHandler_ssid, Inside, or_iff_left taken]
      split <;> simp [*]
  | pass =>
      rw [writeChrHandler_pass, Inside, or_iff_left taken]
      split <;> simp [*]
  | connection =>
      refine iff_of_true trivial ?_
      rw [writeChrHandler]
      split
      · simp
      · have connects := emWifiStaConnect_ne_outOfBounds driver gatt.svc.wifiCredentials.ssid
          gatt.svc.wifiCredentials.password gatt.svc.station
        dsimp only
        cases called : emWifiStaConnect driver gatt.svc.wifiCredentials.ssid
            gatt.svc.wifiCredentials.password gatt.svc.station with
        | error fault =>
            intro same
            exact connects (called.trans (congrArg Except.error (Except.error.inj same)))
        | ok station => simp [bind, Except.bind, pure, Except.pure]
  | apId =>
      rcases packet with _ | ⟨selected, _ | ⟨_, _⟩⟩ <;> simp [Inside, writeChrHandler]
  | devId | aps | unknown => simp [Inside, writeChrHandler]

/-- The only fault of a read. -/
theorem readChrHandler_error {svc : ProvSvc} {attr : Chr} {fault : Fault}
    (handled : readChrHandler svc attr = .error fault) : fault = .outOfBounds ∧ attr = .aps := by
  cases attr with
  | aps =>
      rw [readChrHandler] at handled
      split at handled
      · cases handled
      · dsimp only at handled
        split at handled
        · cases handled
        · cases handled
          exact ⟨rfl, rfl⟩
  | ssid | apId =>
      rw [readChrHandler] at handled
      try dsimp only at handled
      split at handled <;> cases handled
  | pass | connection | devId | unknown => cases handled

theorem inside_readChr_iff {attr : Chr} (appended : Bool) :
    Inside gatt (.readChr attr appended) ↔
      ∃ outcome, readChrHandler gatt.svc attr = .ok outcome := by
  cases attr with
  | aps =>
      rw [Inside, readChrHandler]
      cases found : gatt.svc.apList.val[gatt.svc.selectedApId.toNat]? with
      | none => simp
      | some ap =>
          dsimp only
          split <;> simp [*]
  | ssid | pass | connection | devId | apId | unknown =>
      refine iff_of_true trivial ?_
      cases handled : readChrHandler gatt.svc _ with
      | error fault => exact Chr.noConfusion (readChrHandler_error handled).2
      | ok outcome => exact ⟨outcome, rfl⟩

theorem inside_iff : Inside gatt event ↔ gatt.step event ≠ .error .outOfBounds := by
  cases event with
  | readChr attr appended =>
      rw [inside_readChr_iff, Gatt.step, readChr_eq]
      cases handled : readChrHandler gatt.svc attr with
      | error fault =>
          obtain ⟨rfl, -⟩ := readChrHandler_error handled
          simp [Except.map, bind, Except.bind]
      | ok outcome => simp [Except.map, bind, Except.bind, pure, Except.pure]
  | writeChr attr packet driver =>
      by_cases length : packet.length < minChrLen ∨ maxChrLen < packet.length
      · have refused : gatt.step (.writeChr attr packet driver) = .ok (gatt, []) := by
          rw [Gatt.step, writeChr, if_pos length]
          rfl
        rw [refused]
        refine iff_of_true ?_ (by simp)
        have short : packet.length ≤ 32 ∨ maxChrLen < packet.length := by
          rcases length with none | long
          · exact .inl (none.le.trans (by decide))
          · exact .inr long
        cases attr with
        | ssid => exact short
        | pass => exact short.imp_left fun fits => fits.trans (by decide)
        | connection | devId | aps | apId | unknown => trivial
      · rw [inside_writeChr_iff driver length, step_writeChr gatt driver length, silently]
        cases writeChrHandler driver gatt.svc attr packet <;> simp [Except.map]
  | wifiConnected localIp =>
      refine iff_of_true trivial ?_
      rw [Gatt.step, wifiConnectedHnd_eq]
      simp [bind, Except.bind, pure, Except.pure]
  | wifiDisconnected _ | wifiScanDone _ | wifiBits _ _ _ =>
      exact iff_of_true trivial (by simp [Gatt.step])

/-- The lengths and the access points are the same in both runs. -/
theorem Alike.inside {loose : Prop} {secrets : Secrets} {other : Gatt} {twin : Event}
    (alike : Alike loose secrets gatt other) (twins : Twin loose event twin)
    (inside : Inside gatt event) : Inside other twin := by
  cases event with
  | readChr attr appended =>
      cases twins
      rw [inside_readChr_iff] at inside ⊢
      rw [← readChrHandler_eq_of_visible alike.svc.visible]
      exact inside
  | writeChr attr packet driver =>
      cases twins with
      | visible _ => cases attr <;> exact inside
      | password _ _ number _ =>
          rw [Inside] at inside ⊢
          rw [← number]
          exact inside
  | wifiDisconnected _ | wifiConnected _ | wifiScanDone _ | wifiBits _ _ _ =>
      cases twins
      trivial

end

/-! ### The answers to one read -/

theorem step_readChr (gatt : Gatt) (attr : Chr) (appended : Bool) {chrLen : Int}
    {stored : List UInt8} (handled : readChrHandler gatt.svc attr = .ok (chrLen, stored)) :
    gatt.step (.readChr attr appended) =
      .ok ({ gatt with chrOpBuffer := overlay stored gatt.chrOpBuffer },
        [readAnswer (overlay stored gatt.chrOpBuffer) chrLen appended]) := by
  rw [Gatt.step, readChr_eq, handled]
  rfl

theorem shown_writeChr {gatt next : Gatt} {attr : Chr} {packet : List UInt8} {driver : Driver}
    {shown : List Answer} (stepped : gatt.step (.writeChr attr packet driver) = .ok (next, shown)) :
    shown = [] := by
  obtain ⟨_, -, last⟩ := bind_ok stepped
  cases last
  rfl

/-- Only a read shows something. -/
theorem shown_of_not_read {gatt next : Gatt} {event : Event} {shown : List Answer}
    (silent : ∀ attr appended, event ≠ .readChr attr appended)
    (stepped : gatt.step event = .ok (next, shown)) : shown = [] := by
  cases event with
  | readChr attr appended => exact absurd rfl (silent attr appended)
  | writeChr attr packet driver => exact shown_writeChr stepped
  | wifiConnected localIp =>
      rw [Gatt.step, wifiConnectedHnd_eq] at stepped
      cases stepped
      rfl
  | wifiDisconnected _ | wifiScanDone _ | wifiBits _ _ _ =>
      cases stepped
      rfl

/-- The answer to a read depends on the bytes in front of its length only. -/
theorem readAnswer_congr {cells others : Vector UInt8 maxChrLen} {chrLen : Int} {appended : Bool}
    (same : appended = true → cells.toList.take chrLen.toNat = others.toList.take chrLen.toNat) :
    readAnswer cells chrLen appended = readAnswer others chrLen appended := by
  cases appended with
  | false => rfl
  | true => rw [readAnswer, readAnswer, same rfl]

theorem getElem_take_two (cells : Vector UInt8 maxChrLen) :
    cells.toList.take 2 = [cells[0], cells[1]] := by
  apply List.ext_getElem
  · rw [List.length_take, Vector.length_toList]
    rfl
  · intro index left right
    rw [List.getElem_take, Vector.getElem_toList]
    match index, right with
    | 0, _ => rfl
    | 1, _ => rfl

theorem overlay_nil {size : Nat} (cells : Vector UInt8 size) : overlay [] cells = cells := by
  ext index inside
  exact congrArg _ (getElem_overlay_right cells inside (Nat.zero_le index))

section

variable {loose : Prop} {secrets : Secrets} {gatt other : Gatt}

theorem answers_agree {attr : Chr} {appended : Bool} {chrLen : Int} {stored : List UInt8}
    (alike : Alike loose secrets gatt other)
    (concealing : Concealing gatt secrets (.readChr attr appended))
    (handled : readChrHandler gatt.svc attr = .ok (chrLen, stored)) :
    readAnswer (overlay stored gatt.chrOpBuffer) chrLen appended =
      readAnswer (overlay stored other.chrOpBuffer) chrLen appended := by
  obtain ⟨room, -, outcome⟩ := readChrHandler_stored handled
  apply readAnswer_congr
  intro answered
  rcases outcome with ⟨refused, code, none⟩ | ⟨-, short⟩
  · -- Two cells of the buffer are shown as they were.
    obtain ⟨first, second⟩ := concealing.2 answered refused
    have two : chrLen.toNat = 2 := by rw [code]; rfl
    rw [none, overlay_nil, overlay_nil, two, getElem_take_two, getElem_take_two,
      (alike.cells 0 (by decide)).plain first, (alike.cells 1 (by decide)).plain second]
  · have fits : chrLen.toNat ≤ stored.length := by omega
    rw [take_overlay _ fits room, take_overlay _ fits room]

/-- A concealing event has the same answers in both runs. -/
theorem step_agree {event twin : Event} {next nextOther : Gatt} {shown seen : List Answer}
    (alike : Alike loose secrets gatt other) (twins : Twin loose event twin)
    (concealing : Concealing gatt secrets event) (left : gatt.step event = .ok (next, shown))
    (right : other.step twin = .ok (nextOther, seen)) : shown = seen := by
  by_cases read : ∃ attr appended, event = .readChr attr appended
  · obtain ⟨attr, appended, rfl⟩ := read
    cases twins
    have handlers := readChrHandler_eq_of_visible alike.svc.visible attr
    cases handled : readChrHandler gatt.svc attr with
    | error fault =>
        rw [Gatt.step, readChr_eq, handled] at left
        cases left
    | ok outcome =>
        rw [step_readChr gatt attr appended handled] at left
        rw [step_readChr other attr appended (handlers ▸ handled)] at right
        obtain ⟨-, rfl⟩ := Prod.mk.inj (Except.ok.inj left)
        obtain ⟨-, rfl⟩ := Prod.mk.inj (Except.ok.inj right)
        rw [answers_agree alike concealing handled]
  · have silent : ∀ attr appended, event ≠ .readChr attr appended :=
      fun attr appended same => read ⟨attr, appended, same⟩
    have silentTwin : ∀ attr appended, twin ≠ .readChr attr appended := by
      intro attr appended same
      cases twins with
      | visible _ => exact silent attr appended same
      | password _ _ _ _ => cases same
    rw [shown_of_not_read silent left, shown_of_not_read silentTwin right]

theorem judged_mark (gatt : Gatt) (event : Event) (judged : secrets.judged = true) :
    (mark gatt secrets event).judged = true := by
  cases event with
  | readChr attr appended =>
      rw [mark]
      split <;> exact judged
  | writeChr attr packet driver =>
      rw [mark]
      split
      · exact judged
      · rw [judged, Bool.true_or]
  | wifiDisconnected _ | wifiConnected _ | wifiScanDone _ | wifiBits _ _ _ => exact judged

/-- With the assertion left to a password, no concealing event shows anything. -/
theorem shown_judged {event : Event} {next : Gatt} {shown : List Answer}
    (judged : secrets.judged = true) (concealing : Concealing gatt secrets event)
    (stepped : gatt.step event = .ok (next, shown)) : shown = [] := by
  refine shown_of_not_read ?_ stepped
  intro attr appended read
  rw [read] at concealing
  cases judged.symm.trans concealing.1

/-- A read that is not concealing has an answer. -/
theorem step_heard {event : Event}
    (revealing : ¬ (Inside gatt event → Concealing gatt secrets event)) :
    ∃ next shown, gatt.step event = .ok (next, shown) ∧ shown ≠ [] := by
  rw [Classical.not_imp] at revealing
  obtain ⟨inside, revealing⟩ := revealing
  cases event with
  | readChr attr appended =>
      obtain ⟨outcome, handled⟩ := (inside_readChr_iff appended).mp inside
      exact ⟨_, _, step_readChr gatt attr appended handled, by simp⟩
  | writeChr _ _ _ | wifiDisconnected _ | wifiConnected _ | wifiScanDone _ | wifiBits _ _ _ =>
      exact absurd trivial revealing

/-- A refused read of a cell of a password tells no password from another. -/
theorem step_differ {event twin : Event} (alike : Alike False secrets gatt other)
    (twins : Twin False event twin)
    (revealing : ¬ (Inside gatt event → Concealing gatt secrets event)) :
    ∃ next nextOther shown seen, gatt.step event = .ok (next, shown) ∧
      other.step twin = .ok (nextOther, seen) ∧ shown ≠ seen := by
  rw [Classical.not_imp] at revealing
  obtain ⟨-, revealing⟩ := revealing
  cases event with
  | readChr attr appended =>
      cases twins
      have before : secrets.judged = false := by
        by_contra judged
        exact alike.judged (Bool.not_eq_false _ ▸ judged)
      rw [Concealing, not_and, Classical.not_imp, Classical.not_imp] at revealing
      obtain ⟨answered, refused, uncovered⟩ := revealing before
      subst answered
      have handled : readChrHandler gatt.svc attr = .ok (bleAttErrReadNotPermitted, []) := by
        rcases refused with rfl | ⟨rfl, large⟩
        · rfl
        · rw [readChrHandler, if_pos large]
      have handledOther := readChrHandler_eq_of_visible alike.svc.visible attr ▸ handled
      refine ⟨_, _, _, _, step_readChr gatt attr true handled,
        step_readChr other attr true handledOther, ?_⟩
      intro same
      have value := congrArg Answer.value (List.singleton_inj.mp same)
      rw [overlay_nil, overlay_nil] at value
      have cells : [gatt.chrOpBuffer[0], gatt.chrOpBuffer[1]] =
          [other.chrOpBuffer[0], other.chrOpBuffer[1]] := by
        rw [← getElem_take_two, ← getElem_take_two]
        exact value
      have first : gatt.chrOpBuffer[0] = other.chrOpBuffer[0] := (List.cons.inj cells).1
      have second : gatt.chrOpBuffer[1] = other.chrOpBuffer[1] :=
        (List.cons.inj (List.cons.inj cells).2).1
      exact uncovered ⟨plain_of_eq (alike.cells 0 (by decide)) first,
        plain_of_eq (alike.cells 1 (by decide)) second⟩
  | writeChr _ _ _ | wifiDisconnected _ | wifiConnected _ | wifiScanDone _ | wifiBits _ _ _ =>
      exact absurd trivial revealing

end

/-! ### Confidentiality -/

/-- The event with letters for the bytes of a password. -/
def letters : Event → Event
  | .writeChr .pass packet driver => .writeChr .pass (List.replicate packet.length 0x61) driver
  | event => event

theorem alike_initial (loose : Prop) (devId : UInt64) :
    Alike loose .initial (.initial devId) (.initial devId) := by
  have none : text (zeros 64) = [] := takeWhile_zeros 64
  refine ⟨fun index inside => ⟨fun _ => rfl, fun secret => ?_⟩,
    ⟨rfl, none, fun _ => ?_, Bool.noConfusion⟩, Bool.noConfusion⟩
  · simp [Secrets.initial] at secret
  · show (text (zeros 64)).length < 64
    rw [none]
    decide

theorem sameButPassword_of_map {change : Event → Event}
    (others : ∀ event, SameButPassword event (change event)) (events : List Event) :
    List.Forall₂ SameButPassword events (events.map change) := by
  rw [List.forall₂_map_right_iff]
  exact List.forall₂_same.mpr fun event _ => others event

theorem sameButPassword_blank (event : Event) : SameButPassword event (blank event) := by
  cases event with
  | writeChr attr packet driver =>
      cases attr with
      | pass => exact .password List.length_replicate.symm driver
      | ssid | connection | devId | aps | apId | unknown => exact .same _
  | readChr _ _ | wifiDisconnected _ | wifiConnected _ | wifiScanDone _ | wifiBits _ _ _ =>
      exact .same _

theorem sameButPassword_letters (event : Event) : SameButPassword event (letters event) := by
  cases event with
  | writeChr attr packet driver =>
      cases attr with
      | pass => exact .password List.length_replicate.symm driver
      | ssid | connection | devId | aps | apId | unknown => exact .same _
  | readChr _ _ | wifiDisconnected _ | wifiConnected _ | wifiScanDone _ | wifiBits _ _ _ =>
      exact .same _

theorem blank_of_mem {number : Nat} : ∀ byte ∈ List.replicate number (0 : UInt8), byte = 0 :=
  fun _ inside => List.eq_of_mem_replicate inside

/-- The run of blank passwords next to any other. -/
theorem twin_blank {event other : Event} (same : SameButPassword event other) :
    Twin True (blank event) other := by
  cases same with
  | password number driver =>
      exact .password driver blank_of_mem (List.length_replicate.trans number) (.inl trivial)
  | same =>
      cases event with
      | writeChr attr packet driver =>
          cases attr with
          | pass => exact .password driver blank_of_mem List.length_replicate (.inl trivial)
          | ssid | connection | devId | aps | apId | unknown =>
              exact .visible fun _ _ same => by cases same
      | readChr _ _ | wifiDisconnected _ | wifiConnected _ | wifiScanDone _ | wifiBits _ _ _ =>
          exact .visible fun _ _ same => by cases same

/-- The run of blank passwords next to that of letters. -/
theorem twin_letters (event : Event) : Twin False (blank event) (letters event) := by
  cases event with
  | writeChr attr packet driver =>
      cases attr with
      | pass =>
          refine .password driver blank_of_mem (by simp) (.inr fun byte inside => ?_)
          rw [List.eq_of_mem_replicate inside]
          decide
      | ssid | connection | devId | aps | apId | unknown =>
          exact .visible fun _ _ same => by cases same
  | readChr _ _ | wifiDisconnected _ | wifiConnected _ | wifiScanDone _ | wifiBits _ _ _ =>
      exact .visible fun _ _ same => by cases same

/-- A run without accesses outside an array that is not concealed tells letters from blanks. -/
theorem reads_ne_of_revealed {devId : UInt64} {events : List Event}
    (revealed : ¬ Along Gatt.step mark (fun gatt secrets event =>
      Inside gatt event → Concealing gatt secrets event) (.initial devId) .initial
      (events.map blank)) :
    reads devId (events.map blank) ≠ reads devId (events.map letters) := by
  have twins : List.Forall₂ (Twin False) (events.map blank) (events.map letters) := by
    rw [List.forall₂_map_left_iff, List.forall₂_map_right_iff]
    exact List.forall₂_same.mpr fun event _ => twin_letters event
  exact outputs_ne_of_not_along Gatt.step mark _ (Alike False)
    (fun secrets => secrets.judged = true) (Twin False)
    (fun _ _ _ _ _ alike twins => step_paired alike twins)
    (fun _ _ _ _ _ alike twins revealing => step_differ alike twins revealing)
    (fun _ _ _ _ revealing => step_heard revealing)
    (fun _ gatt event judged => judged_mark gatt event judged) twins (alike_initial _ devId)
    revealed

/-- A run that is concealed with blank passwords gives the same answers with any others, and none
of its accesses leaves an array. -/
theorem reads_eq_of_concealed {devId : UInt64} {events others : List Event}
    (concealed : Concealed devId events) (same : List.Forall₂ SameButPassword events others) :
    ending Gatt.step (.initial devId) others ≠ some .outOfBounds ∧
      reads devId (events.map blank) = reads devId others := by
  have twins : List.Forall₂ (Twin True) (events.map blank) others := by
    rw [List.forall₂_map_left_iff]
    exact same.imp fun _ _ pair => twin_blank pair
  constructor
  · exact ending_ne_of_along Gatt.step mark _ (Alike True) (fun secrets => secrets.judged = true)
      (Twin True) (fun _ _ _ _ _ alike twins => step_paired alike twins)
      (fun _ _ _ _ _ alike twins allowed => inside_iff.mp (alike.inside twins allowed.1)) twins
      (alike_initial _ devId) concealed
  · exact outputs_eq_of_along Gatt.step mark _ (Alike True) (fun secrets => secrets.judged = true)
      (Twin True) (fun _ _ _ _ _ alike twins => step_paired alike twins)
      (fun _ _ _ _ _ _ _ _ _ alike twins allowed left right =>
        step_agree alike twins allowed.2 left right)
      (fun _ gatt event _ _ judged allowed stepped =>
        ⟨shown_judged judged allowed.2 stepped, judged_mark gatt event judged⟩) twins
      (alike_initial _ devId) concealed

/-- The password stays confidential in exactly the runs whose run with blank passwords has no
access outside an array, no refused read that is answered from a cell a password was last written
to, and no read behind a connect with a password that fills its array. -/
theorem confidential_iff (devId : UInt64) (events : List Event) :
    Confidential devId events ↔ Concealed devId events := by
  constructor
  · intro confidential
    obtain ⟨ends, blanks⟩ := confidential _ (sameButPassword_of_map sameButPassword_blank events)
    obtain ⟨-, others⟩ := confidential _ (sameButPassword_of_map sameButPassword_letters events)
    have inside := along_of_ending_ne Gatt.step mark
      (fun gatt event outside => not_not.mp (inside_iff.not.mp outside)) Secrets.initial ends
    refine Along.both Gatt.step mark inside ?_
    by_contra revealed
    exact reads_ne_of_revealed revealed (blanks.symm.trans others)
  · intro concealed others same
    obtain ⟨ends, equal⟩ := reads_eq_of_concealed concealed same
    obtain ⟨-, blanks⟩ := reads_eq_of_concealed concealed
      (List.forall₂_same.mpr fun event _ => SameButPassword.same event)
    exact ⟨ends, blanks.symm.trans equal⟩

-- A read behind a connect with 64 zeros, and with 64 letters.
example :
    let events := [.writeChr .ssid [0x61] .fine, .writeChr .pass (List.replicate 64 0x61) .fine,
      .writeChr .connection [1] .fine, .readChr .ssid true]
    reads 0 (events.map blank) ≠ reads 0 (events.map letters) := by
  decide +kernel

/-- The first two bytes of the password, read back from the characteristic of the AP number. -/
theorem apId_reveals_password :
    ¬ Confidential 0 [.writeChr .apId [200] .fine, .writeChr .pass [0x73, 0x65, 0x63] .fine,
      .readChr .apId true] := by
  intro confidential
  obtain ⟨-, same⟩ := confidential [.writeChr .apId [200] .fine,
    .writeChr .pass [0x68, 0x69, 0x64] .fine, .readChr .apId true]
    (.cons (.same _) (.cons (.password (by rfl) _) (.cons (.same _) .nil)))
  exact absurd same (by decide +kernel)

end EsInverter.Ble
