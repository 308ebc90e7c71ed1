import EsInverter.Ble.Gatt

/-!
# Provisioned credentials

The lengths of a credential are limited by the characteristic, by the array it is copied to, by
`strnlen` and by the assertions of `set_credentials`.  Only the array is not checked, and the
assertion on the SSID leaves no room for one that fills its array.
-/

set_option autoImplicit false

namespace EsInverter.Wifi

open Ble Lib

/-! ### Writes of credentials -/

inductive Credential
  | ssid
  | password
  deriving DecidableEq, Repr

namespace Credential

def attr : Credential → Chr
  | ssid => .ssid
  | password => .pass

/-- The size of the array in `em_wifi_credentials_t`. -/
def size : Credential → Nat
  | ssid => 32
  | password => 64

/-- The service with a value in the array of the credential and its flag set. -/
def store (credential : Credential) (value : List UInt8) (svc : ProvSvc) : ProvSvc :=
  match credential with
  | ssid => { svc with
      wifiCredentials := { svc.wifiCredentials with
        ssid := overlay value (zeros 32), ssidSet := true } }
  | password => { svc with
      wifiCredentials := { svc.wifiCredentials with
        password := overlay value (zeros 64), passwordSet := true } }

/-- Only the credential and its flag change. -/
def Only (credential : Credential) (svc next : ProvSvc) : Prop :=
  match credential with
  | ssid => next = { svc with
      wifiCredentials := { svc.wifiCredentials with
        ssid := next.wifiCredentials.ssid, ssidSet := next.wifiCredentials.ssidSet } }
  | password => next = { svc with
      wifiCredentials := { svc.wifiCredentials with
        password := next.wifiCredentials.password,
        passwordSet := next.wifiCredentials.passwordSet } }

end Credential

structure CredentialWrite where
  credential : Credential
  value : List UInt8
  deriving DecidableEq, Repr

namespace CredentialWrite

/-- The lengths that the characteristic takes. -/
def Taken (write : CredentialWrite) : Prop :=
  minChrLen ≤ write.value.length ∧ write.value.length ≤ maxChrLen

def Fits (write : CredentialWrite) : Prop := write.value.length ≤ write.credential.size

instance (write : CredentialWrite) : Decidable write.Fits := Nat.decLe _ _

def perform (driver : Driver) (gatt : Gatt) (write : CredentialWrite) :
    Except Fault (Gatt × Answer) :=
  writeChr driver gatt write.credential.attr write.value

end CredentialWrite

def performAll (driver : Driver) : Gatt → List CredentialWrite → Except Fault Gatt
  | gatt, [] => .ok gatt
  | gatt, write :: rest => do
      let (next, _) ← write.perform driver gatt
      performAll driver next rest

/-! ### Provisioning -/

/-- The SSID and the password of a client, written in one of the two orders behind any writes of
credentials. -/
structure Provisioning where
  earlier : List CredentialWrite
  ssid : List UInt8
  password : List UInt8
  ssidFirst : Bool
  taken : ∀ write ∈ earlier, write.Taken
  ssidPlain : ∀ byte ∈ ssid, byte ≠ 0
  ssidLength : 1 ≤ ssid.length ∧ ssid.length ≤ 32
  passwordPlain : ∀ byte ∈ password, byte ≠ 0
  passwordLength : 8 ≤ password.length ∧ password.length ≤ 63

def Provisioning.last (provisioning : Provisioning) : List CredentialWrite :=
  let ssid := CredentialWrite.mk .ssid provisioning.ssid
  let password := CredentialWrite.mk .password provisioning.password
  if provisioning.ssidFirst then [ssid, password] else [password, ssid]

def Provisioning.writes (provisioning : Provisioning) : List CredentialWrite :=
  provisioning.earlier ++ provisioning.last

/-- A write changes its credential only, and a value longer than its array is refused. -/
def Framed (driver : Driver) (gatt : Gatt) (write : CredentialWrite) : Prop :=
  ∃ next answer, write.perform driver gatt = .ok (next, answer) ∧
    write.credential.Only gatt.svc next.svc ∧
    (¬ write.Fits → answer.status ≠ 0 ∧ next.svc = gatt.svc)

/-- The station stores the credentials with nothing but zeros behind them. -/
def Provisioning.Stored (provisioning : Provisioning) (sta : StaConfig) : Prop :=
  sta.ssid.toList =
      provisioning.ssid ++ List.replicate (32 - provisioning.ssid.length) 0 ∧
    sta.password.toList =
      provisioning.password ++ List.replicate (64 - provisioning.password.length) 0

structure Intact (gatt : Gatt) (provisioning : Provisioning) : Prop where
  framed : ∀ driver before write after middle, provisioning.writes = before ++ write :: after →
    performAll driver gatt before = .ok middle → Framed driver middle write
  stored : ∀ driver packet, driver.Working → minChrLen ≤ packet.length →
    packet.length ≤ maxChrLen →
    ∃ written next answer, performAll driver gatt provisioning.writes = .ok written ∧
      writeChr driver written .connection packet = .ok (next, answer) ∧
      provisioning.Stored next.svc.station.sta

/-! ### One write -/

variable {driver : Driver} {gatt middle final : Gatt} {write : CredentialWrite}
variable {writes : List CredentialWrite}

theorem writeChrHandler_credential (driver : Driver) (svc : ProvSvc) (credential : Credential)
    (value : List UInt8) :
    writeChrHandler driver svc credential.attr value =
      if value.length ≤ credential.size then .ok (0, credential.store value svc)
      else .error .outOfBounds := by
  by_cases room : value.length ≤ credential.size
  · rw [if_pos room]
    cases credential with
    | ssid =>
        rw [Credential.attr, writeChrHandler, memcpy_of_le (show value.length ≤ 32 from room)]
        rfl
    | password =>
        rw [Credential.attr, writeChrHandler, memcpy_of_le (show value.length ≤ 64 from room)]
        rfl
  · rw [if_neg room]
    cases credential with
    | ssid =>
        rw [Credential.attr, writeChrHandler, memcpy, if_neg (show ¬ value.length ≤ 32 from room)]
        rfl
    | password =>
        rw [Credential.attr, writeChrHandler, memcpy, if_neg (show ¬ value.length ≤ 64 from room)]
        rfl

theorem CredentialWrite.Taken.inRange (taken : write.Taken) :
    ¬ (write.value.length < minChrLen ∨ maxChrLen < write.value.length) := by
  obtain ⟨long, short⟩ := taken
  omega

/-- A value that fits is stored, and a longer one is copied beyond its array. -/
theorem CredentialWrite.perform_eq (driver : Driver) (gatt : Gatt) (taken : write.Taken) :
    write.perform driver gatt =
      if write.Fits then
        .ok ({ chrOpBuffer := overlay write.value gatt.chrOpBuffer
               svc := write.credential.store write.value gatt.svc }, { status := 0, value := [] })
      else .error .outOfBounds := by
  rw [perform, writeChr_eq driver gatt _ taken.inRange, writeChrHandler_credential]
  by_cases fits : write.Fits
  · rw [if_pos fits, if_pos (show write.value.length ≤ write.credential.size from fits)]
    rfl
  · rw [if_neg fits, if_neg (show ¬ write.value.length ≤ write.credential.size from fits)]
    rfl

theorem Credential.only_store (credential : Credential) (value : List UInt8) (svc : ProvSvc) :
    credential.Only svc (credential.store value svc) := by
  cases credential <;> rfl

theorem framed_of_fits (driver : Driver) (gatt : Gatt) (taken : write.Taken)
    (fits : write.Fits) : Framed driver gatt write := by
  refine ⟨_, _, (write.perform_eq driver gatt taken).trans (if_pos fits), ?_, ?_⟩
  · exact write.credential.only_store write.value gatt.svc
  · intro long
    exact absurd fits long

/-! ### Sequences of writes -/

theorem performAll_append (driver : Driver) (gatt : Gatt) (first second : List CredentialWrite) :
    performAll driver gatt (first ++ second) = (do
      let middle ← performAll driver gatt first
      performAll driver middle second) := by
  induction first generalizing gatt with
  | nil => rfl
  | cons write rest ih =>
      rw [List.cons_append, performAll, performAll]
      cases performed : write.perform driver gatt with
      | error fault => rfl
      | ok result => exact ih result.1

/-- Values that fit are stored one over the other. -/
theorem performAll_of_fits (taken : ∀ write ∈ writes, write.Taken)
    (fits : ∀ write ∈ writes, write.Fits) (driver : Driver) (gatt : Gatt) :
    ∃ final, performAll driver gatt writes = .ok final ∧
      final.svc = writes.foldl (fun svc write => write.credential.store write.value svc)
        gatt.svc := by
  induction writes generalizing gatt with
  | nil => exact ⟨gatt, rfl, rfl⟩
  | cons write rest ih =>
      obtain ⟨head, tail⟩ := List.forall_mem_cons.mp taken
      obtain ⟨fitsHead, fitsTail⟩ := List.forall_mem_cons.mp fits
      rw [performAll, write.perform_eq driver gatt head, if_pos fitsHead]
      exact ih tail fitsTail _

/-- A value that does not fit ends the run. -/
theorem fits_of_performAll (taken : ∀ write ∈ writes, write.Taken)
    (performed : performAll driver gatt writes = .ok final) : ∀ write ∈ writes, write.Fits := by
  induction writes generalizing gatt with
  | nil => exact List.forall_mem_nil _
  | cons write rest ih =>
      obtain ⟨head, tail⟩ := List.forall_mem_cons.mp taken
      rw [performAll, write.perform_eq driver gatt head] at performed
      by_cases fits : write.Fits
      · rw [if_pos fits] at performed
        exact List.forall_mem_cons.mpr ⟨fits, ih tail performed⟩
      · rw [if_neg fits] at performed
        cases performed

/-! ### The last writes and the connection -/

namespace Provisioning

variable (provisioning : Provisioning)

theorem last_taken : ∀ write ∈ provisioning.last, write.Taken := by
  intro write inside
  have ssid := provisioning.ssidLength
  have password := provisioning.passwordLength
  rw [last] at inside
  split at inside
  all_goals
    rw [List.mem_cons, List.mem_singleton] at inside
    rw [CredentialWrite.Taken, minChrLen, maxChrLen]
    rcases inside with rfl | rfl <;> dsimp only <;> omega

theorem last_fits : ∀ write ∈ provisioning.last, write.Fits := by
  intro write inside
  have ssid := provisioning.ssidLength
  have password := provisioning.passwordLength
  rw [last] at inside
  split at inside
  all_goals
    rw [List.mem_cons, List.mem_singleton] at inside
    rcases inside with rfl | rfl
  all_goals
    unfold CredentialWrite.Fits Credential.size
    dsimp only
    omega

theorem writes_taken : ∀ write ∈ provisioning.writes, write.Taken := by
  intro write inside
  rcases List.mem_append.mp inside with earlier | last
  · exact provisioning.taken write earlier
  · exact provisioning.last_taken write last

/-- What the two writes leave, in either order and whatever was there. -/
def stored : WifiCredentials :=
  { ssid := overlay provisioning.ssid (zeros 32)
    password := overlay provisioning.password (zeros 64)
    ssidSet := true
    passwordSet := true }

theorem performAll_last (driver : Driver) (gatt : Gatt) :
    ∃ final, performAll driver gatt provisioning.last = .ok final ∧
      final.svc.wifiCredentials = provisioning.stored := by
  obtain ⟨final, performed, svc⟩ := performAll_of_fits provisioning.last_taken
    provisioning.last_fits driver gatt
  refine ⟨final, performed, ?_⟩
  rw [svc, last]
  cases provisioning.ssidFirst <;> rfl

end Provisioning

theorem toList_overlay_zeros {size : Nat} {bytes : List UInt8} (room : bytes.length ≤ size) :
    (overlay bytes (zeros size)).toList = bytes ++ List.replicate (size - bytes.length) 0 := by
  rw [toList_overlay _ room, zeros, Vector.toList_replicate, List.drop_replicate]

section Provisioned

variable {packet : List UInt8} {provisioning : Provisioning}

/-- The connection behind the two writes: the assertion on the SSID is all that can fail. -/
theorem connect_provisioned (working : driver.Working) (long : minChrLen ≤ packet.length)
    (short : packet.length ≤ maxChrLen)
    (credentials : gatt.svc.wifiCredentials = provisioning.stored) :
    (provisioning.ssid.length = 32 ∧
        writeChr driver gatt .connection packet = .error (.assertion .staSsid)) ∨
      (provisioning.ssid.length < 32 ∧
        ∃ next answer, writeChr driver gatt .connection packet = .ok (next, answer) ∧
          provisioning.Stored next.svc.station.sta) := by
  obtain ⟨-, fitsSsid⟩ := provisioning.ssidLength
  obtain ⟨-, shortPassword⟩ := provisioning.passwordLength
  have fitsPassword : provisioning.password.length ≤ 64 := shortPassword.trans (by omega)
  rw [writeChr_eq driver gatt _ (by omega), writeChrHandler_connection driver packet
    (congrArg WifiCredentials.ssidSet credentials)
    (congrArg WifiCredentials.passwordSet credentials), credentials, emWifiStaConnect_eq,
    driver.answer_working working, Provisioning.stored]
  dsimp only
  rw [text_overlay_zeros provisioning.ssidPlain fitsSsid,
    text_overlay_zeros provisioning.passwordPlain fitsPassword]
  rcases Nat.lt_or_eq_of_le fitsSsid with below | full
  · rw [if_neg (Nat.not_le.mpr below), if_neg (by omega)]
    exact .inr ⟨below, _, _, rfl, toList_overlay_zeros fitsSsid,
      toList_overlay_zeros fitsPassword⟩
  · rw [if_pos full.ge]
    exact .inl ⟨full, rfl⟩

/-- A run of all the writes that ends leaves the credentials of the client. -/
theorem credentials_of_performAll
    (performed : performAll driver gatt provisioning.writes = .ok final) :
    (∀ write ∈ provisioning.earlier, write.Fits) ∧
      final.svc.wifiCredentials = provisioning.stored := by
  rw [Provisioning.writes, performAll_append] at performed
  obtain ⟨middle, earlier, last⟩ := bind_ok performed
  obtain ⟨reached, again, credentials⟩ := provisioning.performAll_last driver middle
  obtain rfl := Except.ok.inj (again.symm.trans last)
  exact ⟨fits_of_performAll provisioning.taken earlier, credentials⟩

theorem room_of_intact (intact : Intact gatt provisioning) :
    (∀ write ∈ provisioning.earlier, write.Fits) ∧ provisioning.ssid.length < 32 := by
  have working : Driver.fine.Working := ⟨rfl, rfl, rfl, by decide⟩
  have long : minChrLen ≤ ([0] : List UInt8).length := by decide
  have short : ([0] : List UInt8).length ≤ maxChrLen := by decide
  obtain ⟨written, next, answer, performed, connected, -⟩ :=
    intact.stored .fine [0] working long short
  obtain ⟨fits, credentials⟩ := credentials_of_performAll performed
  refine ⟨fits, ?_⟩
  rcases connect_provisioned working long short credentials with
    ⟨-, stopped⟩ | ⟨below, -⟩
  · rw [stopped] at connected
    cases connected
  · exact below

theorem intact_of_room (fits : ∀ write ∈ provisioning.earlier, write.Fits)
    (below : provisioning.ssid.length < 32) : Intact gatt provisioning := by
  have allFit : ∀ write ∈ provisioning.writes, write.Fits := by
    intro write inside
    rcases List.mem_append.mp inside with earlier | last
    · exact fits write earlier
    · exact provisioning.last_fits write last
  refine ⟨?_, ?_⟩
  · intro driver before write after middle split _
    have inside : write ∈ provisioning.writes := by
      rw [split]
      exact List.mem_append_cons_self
    exact framed_of_fits driver middle (provisioning.writes_taken write inside) (allFit write inside)
  · intro driver packet working long short
    obtain ⟨written, performed, -⟩ := performAll_of_fits provisioning.writes_taken allFit driver
      gatt
    obtain ⟨-, credentials⟩ := credentials_of_performAll performed
    rcases connect_provisioned working long short credentials with
      ⟨full, -⟩ | ⟨-, next, answer, connected, stored⟩
    · exact absurd full below.ne
    · exact ⟨written, next, answer, performed, connected, stored⟩

end Provisioned

/-- Credentials arrive intact if and only if the SSID leaves room for a NUL and no earlier value
was longer than its array. -/
theorem intact_iff (gatt : Gatt) (provisioning : Provisioning) :
    Intact gatt provisioning ↔
      (∀ write ∈ provisioning.earlier, write.Fits) ∧ provisioning.ssid.length < 32 :=
  ⟨room_of_intact, fun room => intact_of_room room.1 room.2⟩

/-- An SSID of 32 characters stops the device. -/
theorem not_intact_full : ∃ provisioning : Provisioning, provisioning.earlier = [] ∧
    provisioning.ssid = List.replicate 32 0x61 ∧
    provisioning.password = List.replicate 8 0x62 ∧ ¬ Intact (.initial 0) provisioning := by
  refine ⟨⟨[], List.replicate 32 0x61, List.replicate 8 0x62, true, List.forall_mem_nil _, ?_, ?_,
    ?_, ?_⟩, rfl, rfl, rfl, ?_⟩
  · intro byte inside
    rw [List.eq_of_mem_replicate inside]
    decide
  · decide
  · intro byte inside
    rw [List.eq_of_mem_replicate inside]
    decide
  · decide
  · intro intact
    exact Nat.lt_irrefl 32 (room_of_intact intact).2

end EsInverter.Wifi
