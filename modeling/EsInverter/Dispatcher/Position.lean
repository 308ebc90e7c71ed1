import EsInverter.Dispatcher.Network
import EsInverter.Dispatcher.Scalers
import EsInverter.Storage.Coordinates
import EsInverter.TcpProtocol.Capacities
import EsInverter.TcpProtocol.RoundTrip

/-!
# The position of the device

A position comes as fixed-point numbers, is checked in whole degrees and stored,
and a query reports it back through narrower parameters.
-/

set_option autoImplicit false

namespace EsInverter.Dispatcher

open TcpProtocol Storage

/-! ### The handler with the storage behind it -/

/-- What a call of the handler does to the storage. -/
def storageCall (long lat : NvsAnswers) (keyed : Keyed) : Call → Except Fault Keyed
  | .setCoordinates latitude longitude => keyed.storageSetCoordinates long lat latitude longitude
  | _ => .ok keyed

def setPosition (services : Services) (long lat : NvsAnswers) (msg : EnvironmentPositionMsg)
    (app : App) (keyed : Keyed) : Except Fault (App × Keyed × Int32) := do
  let (after, code) ← environmentSetPositionHandler services [.parsed .environmentPosition msg] app
  let keyed ← (after.calls.drop app.calls.length).foldlM (storageCall long lat) keyed
  return (after, keyed, code)

/-- A query for the position sends a message that decodes to these coordinates. -/
def Reports (services : Services) (app : App) (keyed : Keyed) (latitude longitude : Int64) : Prop :=
  ∃ (sent : Int32 × Int32) (sending : Sending),
    getHandler
        { services with
          latitude := keyed.database.perm.device.latitude
          longitude := keyed.database.perm.device.longitude }
        [.parsed .get { type := MsgType.get, rqType := MsgType.environmentPosition }] app =
      espOk (app.call [.sendEnvironmentPosition sent.1 sent.2]) ∧
    protocolSendEnvironmentPosition sent.1 sent.2 = .ok sending ∧
    CodecKind.environmentPosition.Answers sending.bytes
      { type := MsgType.environmentPosition, latitude, longitude }

/-! ### The ranges -/

/-- The coordinates in units of `10 ^ -5` degrees. -/
def InRange (msg : EnvironmentPositionMsg) : Prop :=
  |msg.latitude.toInt| ≤ 90 * 10 ^ 5 ∧ |msg.longitude.toInt| ≤ 180 * 10 ^ 5

/-- The range in whole degrees, truncated toward zero. -/
def Admitted (msg : EnvironmentPositionMsg) : Prop :=
  |msg.latitude.toInt| < 91 * 10 ^ 5 ∧ |msg.longitude.toInt| < 181 * 10 ^ 5

theorem admitted_of_inRange {msg : EnvironmentPositionMsg} (inside : InRange msg) :
    Admitted msg := by
  obtain ⟨latitude, longitude⟩ := inside
  exact ⟨by omega, by omega⟩

theorem decode_coordinatesFixedFactor :
    emUtilsDecodeScaler coordinatesFixedFactor = (1, 100000) := by decide

/-- The quotient of the handler. -/
theorem toInt_degrees (coordinate : Int64) :
    (coordinate * (1 : Int32).toInt64 / (100000 : Int32).toInt64).toInt =
      coordinate.toInt.tdiv 100000 := by
  have unit : coordinate * (1 : Int32).toInt64 = coordinate := Int64.mul_one coordinate
  have divisor : (100000 : Int32).toInt64.toInt = 100000 := by decide
  rw [unit, Int64.toInt_div_of_ne_right _ _ (by decide), divisor]

theorem degrees_outside_iff (coordinate limit : Int64) (bound : Int)
    (limitAt : limit.toInt = bound) (negated : (-limit).toInt = -bound) (positive : 0 ≤ bound) :
    (coordinate * (1 : Int32).toInt64 / (100000 : Int32).toInt64 < -limit ∨
        limit < coordinate * (1 : Int32).toInt64 / (100000 : Int32).toInt64) ↔
      ¬ |coordinate.toInt| < (bound + 1) * 100000 := by
  rw [Int64.lt_iff_toInt_lt, Int64.lt_iff_toInt_lt, toInt_degrees, limitAt, negated, abs_lt]
  rcases Int.le_total 0 coordinate.toInt with sign | sign
  · have truncated : coordinate.toInt.tdiv 100000 = coordinate.toInt / 100000 :=
      Int.tdiv_eq_ediv_of_nonneg sign
    omega
  · have truncated : coordinate.toInt.tdiv 100000 = -(-coordinate.toInt / 100000) := by
      rw [← Int.tdiv_eq_ediv_of_nonneg (Int.neg_nonneg_of_nonpos sign), Int.neg_tdiv, Int.neg_neg]
    omega

variable (services : Services) (app : App)

/-- What the handler does with a message. -/
theorem environmentSetPositionHandler_eq (msg : EnvironmentPositionMsg) :
    (Admitted msg → environmentSetPositionHandler services [.parsed .environmentPosition msg] app =
      espOk (app.call [.setCoordinates msg.latitude msg.longitude])) ∧
    (¬ Admitted msg → environmentSetPositionHandler services [.parsed .environmentPosition msg] app =
      .ok (app, EspErr.invalidArg.code)) := by
  have cast_ : castTo .environmentPosition [.parsed .environmentPosition msg] = .ok msg := rfl
  have lat := degrees_outside_iff msg.latitude 90 90 rfl rfl (by decide)
  have long := degrees_outside_iff msg.longitude 180 180 rfl rfl (by decide)
  rw [environmentSetPositionHandler, cast_, ok_bind, decode_coordinatesFixedFactor]
  dsimp only
  constructor
  · rintro ⟨latitude, longitude⟩
    refine if_neg fun outside => ?_
    rw [← or_assoc, lat, long] at outside
    exact outside.elim (absurd latitude) (absurd longitude)
  · intro outside
    refine if_pos ?_
    rw [← or_assoc, lat, long, ← not_and_or]
    exact outside

theorem setPosition_admitted {msg : EnvironmentPositionMsg} (admitted : Admitted msg)
    (long lat : NvsAnswers) (keyed : Keyed) :
    setPosition services long lat msg app keyed =
      (keyed.storageSetCoordinates long lat msg.latitude msg.longitude).map fun after =>
        (app.call [.setCoordinates msg.latitude msg.longitude], after, EspErr.ok.code) := by
  have handled := (environmentSetPositionHandler_eq services app msg).1 admitted
  have calls : (app.call [.setCoordinates msg.latitude msg.longitude]).calls.drop
      app.calls.length = [.setCoordinates msg.latitude msg.longitude] := List.drop_left
  rw [setPosition, handled, espOk, ok_bind]
  dsimp only
  rw [calls, List.foldlM_cons, storageCall]
  cases keyed.storageSetCoordinates long lat msg.latitude msg.longitude with
  | error fault => rfl
  | ok after => rfl

theorem setPosition_refused {msg : EnvironmentPositionMsg} (outside : ¬ Admitted msg)
    (long lat : NvsAnswers) (keyed : Keyed) :
    setPosition services long lat msg app keyed = .ok (app, keyed, EspErr.invalidArg.code) := by
  have handled := (environmentSetPositionHandler_eq services app msg).2 outside
  rw [setPosition, handled, ok_bind]
  dsimp only
  rw [List.drop_length]
  rfl

/-! ### The reply -/

/-- The narrower parameters of the sender hold every coordinate that is admitted. -/
theorem toInt64_toInt32 {coordinate : Int64} (small : |coordinate.toInt| < 2 ^ 31) :
    coordinate.toInt32.toInt64 = coordinate := by
  obtain ⟨low, high⟩ := abs_lt.mp small
  apply Int64.toInt_inj.mp
  rw [Int32.toInt_toInt64, Int64.toInt_toInt32]
  exact Int.bmod_eq_of_le (by norm_num; omega) (by norm_num; omega)

theorem getHandler_position (msg : GetMsg) (asks : msg.rqType = MsgType.environmentPosition) :
    getHandler services [.parsed .get msg] app =
      espOk (app.call
        [.sendEnvironmentPosition services.latitude.toInt32 services.longitude.toInt32]) := by
  have cast_ : castTo .get [.parsed .get msg] = .ok msg := rfl
  rw [getHandler, cast_, ok_bind, asks, if_neg (by decide), if_neg (by decide),
    if_neg (by decide), if_neg (by decide), if_neg (by decide), if_neg (by decide), if_pos rfl]

theorem reports_of_admitted {msg : EnvironmentPositionMsg} (admitted : Admitted msg)
    {keyed : Keyed} (latitude : keyed.database.perm.device.latitude = msg.latitude)
    (longitude : keyed.database.perm.device.longitude = msg.longitude) :
    Reports services app keyed msg.latitude msg.longitude := by
  have lat : msg.latitude.toInt32.toInt64 = msg.latitude :=
    toInt64_toInt32 (lt_trans admitted.1 (by norm_num))
  have long : msg.longitude.toInt32.toInt64 = msg.longitude :=
    toInt64_toInt32 (lt_trans admitted.2 (by norm_num))
  have sent : protocolSendEnvironmentPosition msg.latitude.toInt32 msg.longitude.toInt32 =
      .ok ⟨sizeof EnvironmentPositionMsg, serializeEnvironmentPositionMsg
        { type := MsgType.environmentPosition, latitude := msg.latitude.toInt32.toInt64,
          longitude := msg.longitude.toInt32.toInt64 }⟩ :=
    sendSerialized_of_lt (by decide) _
  rw [lat, long] at sent
  refine ⟨(msg.latitude.toInt32, msg.longitude.toInt32), _, ?_, sent, position_answers _⟩
  rw [latitude, longitude]
  exact getHandler_position _ app _ rfl

/-! ### The range check -/

/-- The products of the handler are exact. -/
def ExactProducts (msg : EnvironmentPositionMsg) : Prop :=
  (decodeScaler coordinatesFixedFactor).1.overflowed = false ∧
    (decodeScaler coordinatesFixedFactor).2.overflowed = false ∧
    ∀ coordinate ∈ [msg.latitude, msg.longitude],
      -2 ^ 63 ≤ coordinate.toInt * (emUtilsDecodeScaler coordinatesFixedFactor).1.toInt ∧
        coordinate.toInt * (emUtilsDecodeScaler coordinatesFixedFactor).1.toInt < 2 ^ 63

theorem exactProducts (msg : EnvironmentPositionMsg) : ExactProducts msg := by
  refine ⟨by decide, by decide, fun coordinate _ => ?_⟩
  have unit : (emUtilsDecodeScaler coordinatesFixedFactor).1.toInt = 1 := by decide
  rw [unit, Int.mul_one]
  exact ⟨coordinate.le_toInt, coordinate.toInt_lt⟩

/-- A message is stored or refused as its range says, and what is stored is reported. -/
structure RangeChecked (msg : EnvironmentPositionMsg) : Prop where
  stored : InRange msg → ∀ services app keyed, ∀ long lat : NvsAnswers, long.Opens → lat.Opens →
    ∃ asked after, setPosition services long lat msg app keyed =
        .ok (asked, after, EspErr.ok.code) ∧
      StoredApart long lat msg.latitude msg.longitude keyed after
  refused : ¬ InRange msg → ∀ services app keyed, ∀ long lat : NvsAnswers,
    setPosition services long lat msg app keyed = .ok (app, keyed, EspErr.invalidArg.code)
  reported : ∀ services app keyed, ∀ long lat : NvsAnswers, ∀ asked after,
    setPosition services long lat msg app keyed = .ok (asked, after, EspErr.ok.code) →
      Reports services asked after msg.latitude msg.longitude
  exact_ : ExactProducts msg

theorem reports_of_setPosition {msg : EnvironmentPositionMsg} {keyed after : Keyed} {asked : App}
    {long lat : NvsAnswers}
    (ran : setPosition services long lat msg app keyed = .ok (asked, after, EspErr.ok.code)) :
    Reports services asked after msg.latitude msg.longitude := by
  by_cases admitted : Admitted msg
  · rw [setPosition_admitted services app admitted] at ran
    cases stored : keyed.storageSetCoordinates long lat msg.latitude msg.longitude with
    | error fault =>
        rw [stored] at ran
        cases ran
    | ok written =>
        rw [stored] at ran
        cases ran
        have ram := (Keyed.storedApart stored).ram
        exact reports_of_admitted services _ admitted (by rw [ram]; rfl) (by rw [ram]; rfl)
  · rw [setPosition_refused services app admitted] at ran
    cases ran

/-- Less than a whole degree outside of the range is accepted and stored. -/
theorem setPosition_of_admitted {msg : EnvironmentPositionMsg} (admitted : Admitted msg)
    {long lat : NvsAnswers} (longOpens : long.Opens) (latOpens : lat.Opens) (keyed : Keyed) :
    ∃ asked after, setPosition services long lat msg app keyed =
        .ok (asked, after, EspErr.ok.code) ∧
      StoredApart long lat msg.latitude msg.longitude keyed after := by
  obtain ⟨after, stored⟩ := Keyed.setCoordinates_returns longOpens latOpens msg.latitude
    msg.longitude keyed
  refine ⟨app.call [.setCoordinates msg.latitude msg.longitude], after, ?_,
    Keyed.storedApart stored⟩
  rw [setPosition_admitted services app admitted, stored]
  rfl

theorem opens_ok : NvsAnswers.Opens ⟨.ok, .ok⟩ := .inl rfl

theorem not_rangeChecked {msg : EnvironmentPositionMsg} (outside : ¬ InRange msg)
    (admitted : Admitted msg) : ¬ RangeChecked msg := by
  intro checked
  obtain ⟨asked, after, stored, _⟩ :=
    setPosition_of_admitted .idle .initial admitted opens_ok opens_ok blank
  have refused := checked.refused outside .idle .initial blank ⟨.ok, .ok⟩ ⟨.ok, .ok⟩
  rw [stored] at refused
  cases refused

/-- A message is checked as it should be exactly if it is in the range, or outside of it by a whole
degree. -/
theorem rangeChecked_iff (msg : EnvironmentPositionMsg) :
    RangeChecked msg ↔ InRange msg ∨ ¬ Admitted msg := by
  constructor
  · intro checked
    by_contra neither
    obtain ⟨outside, admitted⟩ := not_or.mp neither
    exact not_rangeChecked outside (not_not.mp admitted) checked
  · intro decided
    refine ⟨fun inside services app keyed long lat longOpens latOpens => ?_,
      fun outside services app keyed long lat => ?_,
      fun services app keyed long lat asked after ran => reports_of_setPosition services app ran,
      exactProducts msg⟩
    · exact setPosition_of_admitted services app (admitted_of_inRange inside) longOpens latOpens
        keyed
    · have beyond : ¬ Admitted msg := decided.resolve_left outside
      exact setPosition_refused services app beyond long lat keyed

/-- A latitude that is `10 ^ -5` degrees beyond the pole. -/
def beyondPole : EnvironmentPositionMsg :=
  { type := MsgType.environmentSetPosition, latitude := 9000001, longitude := 0 }

theorem beyondPole_not_rangeChecked :
    ¬ InRange beyondPole ∧
      (∃ asked after, setPosition .idle ⟨.ok, .ok⟩ ⟨.ok, .ok⟩ beyondPole .initial blank =
        .ok (asked, after, EspErr.ok.code) ∧
          after.database.perm.device.latitude = 9000001) ∧
      ¬ RangeChecked beyondPole := by
  have outside : ¬ InRange beyondPole := fun inside => absurd inside.1 (by decide)
  have admitted : Admitted beyondPole := ⟨by decide, by decide⟩
  obtain ⟨asked, after, stored, apart⟩ :=
    setPosition_of_admitted .idle .initial admitted opens_ok opens_ok blank
  refine ⟨outside, ⟨asked, after, stored, ?_⟩, not_rangeChecked outside admitted⟩
  rw [apart.ram]
  rfl

end EsInverter.Dispatcher
