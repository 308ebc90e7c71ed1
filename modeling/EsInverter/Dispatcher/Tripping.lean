import EsInverter.Dispatcher.Handlers

/-!
# Packets that stop the device

An assertion of the dispatcher, a parser or a handler fails exactly on a packet
of one of a few kinds, which the sender chooses freely.
-/

set_option autoImplicit false

namespace EsInverter.Dispatcher

open TcpProtocol Lib.Wire

/-! ### The update module -/

section Update

open Update

variable (device : Device) (updater : Updater)

theorem not_stops_strtoul (array : List UInt8) : ¬ Stops (strtoul array) := by
  unfold strtoul
  dsimp only
  repeat' split
  all_goals first
    | exact not_stops_ok _
    | exact not_stops_outOfBounds

theorem not_stops_updateNumericFwVer : ¬ Stops (updateNumericFwVer device) :=
  not_stops_bind (not_stops_strtoul _) fun _ _ =>
    not_stops_bind (not_stops_strtoul _) fun _ _ =>
      not_stops_bind (not_stops_strtoul _) fun _ _ => not_stops_ok _

theorem not_stops_sendUpdateStatus : ¬ Stops (sendUpdateStatus device updater) := by
  refine not_stops_bind ?_ fun _ _ => not_stops_ok _
  split
  · exact not_stops_updateNumericFwVer device
  · exact not_stops_ok _

theorem not_stops_setNewFwUrl (newUrl : Option (List UInt8)) (fwUrlLen : UInt16) :
    ¬ Stops (setNewFwUrl newUrl fwUrlLen updater) := by
  unfold setNewFwUrl
  repeat' split
  all_goals first
    | exact not_stops_ok _
    | exact not_stops_outOfBounds

/-- A URL that was taken over begins with a slash. -/
theorem setNewFwUrl_slash {newUrl : Option (List UInt8)} {fwUrlLen : UInt16}
    {stored : Updater} (taken : setNewFwUrl newUrl fwUrlLen updater = .ok (stored, true)) :
    ∃ rest, stored.state.newFwImageUrl = 47 :: rest := by
  unfold setNewFwUrl at taken
  repeat' split at taken
  all_goals try cases taken
  next positive _ first rest slash _ _ =>
    obtain rfl := not_not.mp slash
    obtain ⟨count, same⟩ : ∃ count, fwUrlLen.toNat = count + 1 := by
      refine Nat.exists_eq_succ_of_ne_zero fun none => positive ?_
      exact UInt16.toNat_inj.mp none
    rw [same]
    exact ⟨_, rfl⟩

theorem not_stops_updateStart (task : Ota.State) (request : StartRequest) :
    ¬ Stops (updateStart device (httpOtaSubmitStart task) request updater) := by
  unfold updateStart
  refine not_stops_ite (not_stops_ok _) ?_
  refine not_stops_ite (not_stops_ok _) ?_
  refine not_stops_bind (not_stops_updateNumericFwVer device) fun installedFw _ => ?_
  refine not_stops_ite (not_stops_ok _) ?_
  refine not_stops_bind (not_stops_setNewFwUrl _ _ _) ?_
  rintro ⟨stored, valid⟩ taken
  cases valid with
  | false => exact not_stops_ok _
  | true =>
      obtain ⟨rest, url⟩ := setNewFwUrl_slash updater taken
      refine not_stops_bind ?_ fun started _ => not_stops_ite (not_stops_ok _) (not_stops_ok _)
      dsimp only
      rw [url, httpOtaSubmitStart]
      exact not_stops_ok _

end Update

section Handlers

variable (services : Services) (data : List Received) (app : App)

theorem not_stops_castTo (kind : ParserKind) : ¬ Stops (castTo kind data) := by
  unfold castTo
  split
  · split
    · exact not_stops_ok _
    · exact not_stops_outOfBounds
  · exact not_stops_outOfBounds

variable {data} in
theorem not_stops_cast {kind : ParserKind} {next : kind.Msg → Except Fault (App × Int32)}
    (continues : ∀ msg, ¬ Stops (next msg)) : ¬ Stops (castTo kind data >>= next) :=
  not_stops_bind (not_stops_castTo data kind) fun msg _ => continues msg

theorem not_stops_connectionStatusHandler :
    ¬ Stops (connectionStatusHandler services data app) := by
  refine not_stops_cast fun msg => ?_
  dsimp only
  split
  · rintro ⟨failed, ran⟩
    cases ran
  · exact not_stops_ok _

theorem not_stops_updateApplyHandler : ¬ Stops (updateApplyHandler services data app) :=
  not_stops_cast fun _ => not_stops_ok _

theorem not_stops_wirelessEnableHandle : ¬ Stops (wirelessEnableHandle services data app) := by
  refine not_stops_cast fun msg => ?_
  repeat' split
  all_goals exact not_stops_ok _

theorem not_stops_wirelessSetCredentialsHandle :
    ¬ Stops (wirelessSetCredentialsHandle services data app) := by
  refine not_stops_cast fun msg => ?_
  split <;> exact not_stops_ok _

theorem not_stops_wirelessSetTxPowerHandle :
    ¬ Stops (wirelessSetTxPowerHandle services data app) := by
  refine not_stops_cast fun msg => ?_
  dsimp only
  repeat' split
  all_goals exact not_stops_ok _

theorem not_stops_wirelessSetChannelHandle :
    ¬ Stops (wirelessSetChannelHandle services data app) := by
  refine not_stops_cast fun msg => ?_
  split <;> exact not_stops_ok _

theorem not_stops_environmentSetPositionHandler :
    ¬ Stops (environmentSetPositionHandler services data app) := by
  refine not_stops_cast fun msg => ?_
  dsimp only
  split <;> exact not_stops_ok _

theorem not_stops_statusHandler : ¬ Stops (statusHandler services data app) := by
  refine not_stops_cast fun msg => ?_
  dsimp only
  repeat' split
  all_goals exact not_stops_ok _

theorem not_stops_getHandler : ¬ Stops (getHandler services data app) := by
  refine not_stops_cast fun msg => ?_
  have status : ¬ Stops (Update.sendUpdateStatus services.device app.updater >>=
      fun updater => espOk { app with updater }) :=
    not_stops_bind (not_stops_sendUpdateStatus services.device app.updater)
      fun _ _ => not_stops_ok _
  repeat' first
    | exact not_stops_ok _
    | exact status
    | apply not_stops_ite
    | split

/-- The stored URL begins as `http_ota_submit_start` asserts. -/
theorem not_stops_updateStartHandler : ¬ Stops (updateStartHandler services data app) := by
  refine not_stops_cast fun msg => ?_
  exact not_stops_bind (not_stops_updateStart _ _ _ _) fun _ _ => not_stops_ok _

end Handlers

/-- Only the identify handler can stop at an assertion. -/
theorem not_stops_mapper {type : MsgType} {handler : Handler} (mem : (type, handler) ∈ mapper)
    (other : type ≠ MsgType.identify) (services : Services) (data : List Received) (app : App) :
    ¬ Stops (handler services data app) := by
  simp only [mapper, List.mem_cons, Prod.mk.injEq, List.not_mem_nil, or_false] at mem
  rcases mem with ⟨_, rfl⟩ | ⟨_, rfl⟩ | ⟨_, rfl⟩ | ⟨same, _⟩ | ⟨_, rfl⟩ | ⟨_, rfl⟩ | ⟨_, rfl⟩ |
    ⟨_, rfl⟩ | ⟨_, rfl⟩ | ⟨_, rfl⟩ | ⟨_, rfl⟩ | ⟨_, rfl⟩ | ⟨_, rfl⟩ | ⟨_, rfl⟩ | ⟨_, rfl⟩
  · exact not_stops_connectionStatusHandler services data app
  · exact not_stops_ok _
  · exact not_stops_ok _
  · exact absurd same other
  · exact not_stops_updateStartHandler services data app
  · exact not_stops_updateApplyHandler services data app
  · exact not_stops_wirelessEnableHandle services data app
  · exact not_stops_wirelessSetCredentialsHandle services data app
  · exact not_stops_wirelessSetTxPowerHandle services data app
  · exact not_stops_wirelessSetChannelHandle services data app
  · exact not_stops_ok _
  · exact not_stops_environmentSetPositionHandler services data app
  · exact not_stops_ok _
  · exact not_stops_statusHandler services data app
  · exact not_stops_getHandler services data app

theorem not_stops_dispatcherHandler {type : MsgType} (other : type ≠ MsgType.identify)
    (services : Services) (data : List Received) (app : App) :
    ¬ Stops (dispatcherHandler services type data app) := by
  unfold dispatcherHandler
  split
  · next handler found =>
      obtain ⟨before, after, split_, _⟩ := List.lookup_eq_some_iff.mp found
      exact not_stops_mapper (by simp [split_]) other services data app
  · exact not_stops_ok _

theorem identifyScene_type (msg : IdentifyMsg) (mode : UInt8) :
    (identifyScene msg).type = mode.toUInt32 + 1 ↔ msg.mode = mode := by
  have small := msg.mode.toNat_lt
  have small' := mode.toNat_lt
  rw [identifyScene, ← UInt32.toNat_inj, ← UInt8.toNat_inj]
  simp only [UInt32.toNat_add, UInt8.toNat_toUInt32, UInt32.reduceToNat]
  omega

theorem identifyScene_timed_iff (msg : IdentifyMsg) :
    (identifyScene msg).blink.Timed ↔ msg.count ≠ 0 := by
  have positive : 0 < msg.count.toUInt16 ↔ msg.count ≠ 0 := by
    rw [UInt16.lt_iff_toNat_lt, ← UInt8.toNat_inj.ne, UInt8.toNat_toUInt16]
    exact Nat.pos_iff_ne_zero
  rw [Led.Blink.Timed, identifyScene]
  simp [positive]

theorem identifyScene_fits_iff (msg : IdentifyMsg) :
    (identifyScene msg).blink.Fits ↔ msg.count < 17 := by
  have small := msg.count.toNat_lt
  rw [Led.Blink.Fits, identifyScene, UInt32.lt_iff_toNat_lt, UInt8.lt_iff_toNat_lt]
  simp only [UInt32.toNat_mul, UInt32.toNat_add, UInt16.toNat_toUInt32, UInt8.toNat_toUInt16,
    UInt16.reduceToNat, UInt8.reduceToNat, Nat.reduceAdd, Nat.reducePow, Nat.reduceMod]
  rw [Nat.mod_eq_of_lt (by omega)]
  omega

/-- The identify messages whose scene passes the assertions: a count above 16 does not fit into the
period. -/
theorem identifyScene_playable_iff (msg : IdentifyMsg) :
    (identifyScene msg).Playable ↔
      ¬ (msg.mode = 1 ∧ msg.count = 0) ∧ ¬ (msg.mode = 2 ∧ (msg.count = 0 ∨ 17 ≤ msg.count)) := by
  have pink : Led.rgbLedPink ≠ Led.rgbLedsOff := by decide
  have visible : (identifyScene msg).color ≠ Led.rgbLedsOff := pink
  have once : (identifyScene msg).type = Led.SceneType.blinkOnce ↔ msg.mode = 1 :=
    identifyScene_type msg 1
  have periodic : (identifyScene msg).type = Led.SceneType.blinkPeriodic ↔ msg.mode = 2 :=
    identifyScene_type msg 2
  have timed := identifyScene_timed_iff msg
  have fits := identifyScene_fits_iff msg
  constructor
  · intro playable
    refine ⟨fun stops => ?_, fun stops => ?_⟩
    · exact timed.mp (playable.once (once.mpr stops.1)).1 stops.2
    · obtain ⟨some_, few, _⟩ := playable.periodic (periodic.mpr stops.1)
      rcases stops.2 with none | many
      · exact timed.mp some_ none
      · exact UInt8.not_le.mpr (fits.mp few) many
  · rintro ⟨notOnce, notPeriodic⟩
    refine ⟨fun isOnce => ⟨?_, visible⟩, fun isPeriodic => ⟨?_, ?_, visible⟩⟩
    · exact timed.mpr fun none => notOnce ⟨once.mp isOnce, none⟩
    · exact timed.mpr fun none => notPeriodic ⟨periodic.mp isPeriodic, .inl none⟩
    · refine fits.mpr (UInt8.not_le.mp fun many => ?_)
      exact notPeriodic ⟨periodic.mp isPeriodic, .inr many⟩

theorem ledEvtIdentifyMsgHandler_stops_iff (services : Services) (msg : IdentifyMsg)
    (older : List Received) (app : App) :
    Stops (dispatcherHandler services MsgType.identify (.parsed .identify msg :: older) app) ↔
      ¬ (identifyScene msg).Playable := by
  have ran : dispatcherHandler services MsgType.identify (.parsed .identify msg :: older) app =
      (Led.ledSceneTrigger (identifyScene msg) app.player >>=
        fun player => espOk { app with player }) := rfl
  rw [ran]
  constructor
  · rintro stops playable
    refine not_stops_bind ?_ (fun _ _ => not_stops_ok _) stops
    exact not_stops_of_returns (Led.ledSceneTrigger_ok playable app.player)
  · intro unplayable
    obtain ⟨failed, stopped⟩ := Led.ledSceneTrigger_failed unplayable app.player
    exact ⟨failed, by rw [stopped]; rfl⟩

/-! ### Packets -/

/-- The packets that stop the device. -/
inductive Tripping (packet : Packet) : Prop
  | tooLong (long : msgBufferSize < packet.length)
  | updateStart (type : typeOf packet = MsgType.updateStart)
      (whole : packet.length = updateStartFixedSize + fieldAt (memoryOf packet) 18)
      (long : imageUrlMaxLen ≤ fieldAt (memoryOf packet) 18)
  | wirelessCredentials (type : typeOf packet = MsgType.wirelessSetCredentials)
      (long : 7 ≤ packet.length)
  | relaySchedule (type : typeOf packet = MsgType.relaySetSchedule) (long : 88 ≤ packet.length)
      (partly : fieldAt (memoryOf packet) 2 ≠ 84)
  | environmentCloudCover (type : typeOf packet = MsgType.environmentCloudCover)
      (long : 14 ≤ packet.length) (partly : fieldAt (memoryOf packet) 12 ≠ 96)
  | identifyOnce (type : typeOf packet = MsgType.identify) (whole : packet.length = 4)
      (mode : packet.bytes[2]? = some 1) (count : packet.bytes[3]? = some 0)
  | identifyPeriodic {count : UInt8} (type : typeOf packet = MsgType.identify)
      (whole : packet.length = 4) (mode : packet.bytes[2]? = some 2)
      (counted : packet.bytes[3]? = some count)
      (range : count = 0 ∨ 17 ≤ count)

section Packets

variable {packet : Packet} (services : Services) (receiver : Receiver) (app : App)

/-- The parser of the packet's type trips. -/
theorem tripping_of_trips {kind : ParserKind} (found : formOf (typeOf packet) = some (.parsed kind))
    (trips : kind.Trips packet.length (memoryOf packet)) : Tripping packet := by
  cases kind with
  | updateStart => exact .updateStart (label_unique found rfl) trips.1 trips.2
  | wirelessCredentials => exact .wirelessCredentials (label_unique found rfl) trips
  | relaySchedule => exact .relaySchedule (label_unique found rfl) trips.1 trips.2
  | environmentCloudCover => exact .environmentCloudCover (label_unique found rfl) trips.1 trips.2
  | _ => exact trips.elim

/-- Among the packets that fit, those whose parser trips and the identify messages whose scene
cannot be played. -/
theorem tripping_cases (tripping : Tripping packet) (fits : packet.length ≤ msgBufferSize) :
    (∃ kind, formOf (typeOf packet) = some (.parsed kind) ∧
      kind.Trips packet.length (memoryOf packet)) ∨
    typeOf packet = MsgType.identify ∧ packet.length = 4 ∧
      ∃ mode count, packet.bytes[2]? = some mode ∧ packet.bytes[3]? = some count ∧
        ¬ (identifyScene { type := typeOf packet, mode, count }).Playable := by
  cases tripping with
  | tooLong long => exact absurd fits (Nat.not_le_of_lt long)
  | updateStart type whole long => exact .inl ⟨.updateStart, by rw [type]; rfl, whole, long⟩
  | wirelessCredentials type long => exact .inl ⟨.wirelessCredentials, by rw [type]; rfl, long⟩
  | relaySchedule type long partly => exact .inl ⟨.relaySchedule, by rw [type]; rfl, long, partly⟩
  | environmentCloudCover type long partly =>
      exact .inl ⟨.environmentCloudCover, by rw [type]; rfl, long, partly⟩
  | identifyOnce type whole mode count =>
      refine .inr ⟨type, whole, 1, 0, mode, count, fun playable => ?_⟩
      exact ((identifyScene_playable_iff _).mp playable).1 ⟨rfl, rfl⟩
  | identifyPeriodic type whole mode counted range =>
      refine .inr ⟨type, whole, 2, _, mode, counted, fun playable => ?_⟩
      exact ((identifyScene_playable_iff _).mp playable).2 ⟨rfl, range⟩

theorem tripping_of_unplayable {mode count : UInt8} (type : typeOf packet = MsgType.identify)
    (whole : packet.length = 4) (moded : packet.bytes[2]? = some mode)
    (counted : packet.bytes[3]? = some count)
    (unplayable : ¬ (identifyScene { type := typeOf packet, mode, count }).Playable) :
    Tripping packet := by
  rw [identifyScene_playable_iff] at unplayable
  by_cases once : mode = 1 ∧ count = 0
  · exact .identifyOnce type whole (once.1 ▸ moded) (once.2 ▸ counted)
  · by_cases periodic : mode = 2 ∧ (count = 0 ∨ 17 ≤ count)
    · exact .identifyPeriodic type whole (periodic.1 ▸ moded) counted periodic.2
    · exact absurd ⟨once, periodic⟩ unplayable

/-- An identify message of the right length is handed on as its bytes say. -/
theorem parseMessage_identify (type : typeOf packet = MsgType.identify)
    (whole : packet.length = 4) {mode count : UInt8} (moded : packet.bytes[2]? = some mode)
    (counted : packet.bytes[3]? = some count) (msgBuffer : List Received) :
    parseMessage (some packet) msgBuffer =
      .ok ⟨.ok, MsgType.identify,
        .parsed .identify { type := typeOf packet, mode, count } :: msgBuffer⟩ := by
  have fits : packet.length ≤ msgBufferSize := by
    rw [whole]
    decide
  obtain ⟨bytes, behind⟩ := packet
  obtain ⟨first, second, third, fourth, rfl⟩ : ∃ first second third fourth,
      bytes = [first, second, third, fourth] := List.length_eq_four.mp whole
  cases moded
  cases counted
  let identify : Packet := ⟨[first, second, mode, count], behind⟩
  have known : typeOf identify ≠ MsgType.invalid := by
    rw [type]
    decide
  have ran : (ParserKind.identify.parse identify.length (memoryOf identify) Cursor.start).1 =
      .ok { type := typeOf identify, mode, count } := rfl
  have found : formOf (typeOf identify) = some (.parsed .identify) := by
    rw [type]
    rfl
  rw [parseMessage_known msgBuffer fits known, found]
  dsimp only
  rw [ran, ← type]
  exact if_neg known

theorem not_stops_identify (type : typeOf packet = MsgType.identify)
    (other : packet.length ≠ 4) (fits : packet.length ≤ msgBufferSize) :
    ¬ Stops (protocolReceiverDispatcher (some (dispatcherHandler services)) (some packet) receiver
      app) := by
  have found : formOf (typeOf packet) = some (.parsed .identify) := by
    rw [type]
    rfl
  refine not_stops_dispatcher fits ?_ fun outcome ran accepted => ?_
  · rw [parseMessage_stops_iff fits]
    rintro ⟨kind, found', trips⟩
    cases found.symm.trans found'
    exact trips
  · rw [parseMessage_known _ fits (by rw [type]; decide), found] at ran
    have zero : (ParserKind.identify.parse packet.length (memoryOf packet) Cursor.start).1 =
        .ok Message.zero := by
      rw [ParserKind.parse, parseIdentifyMsg, parseExact, if_pos (by exact other)]
      rfl
    dsimp only at ran
    rw [zero] at ran
    cases ran
    cases accepted

/-- A packet in the hands of the dispatcher stops the device exactly if it is one of these. -/
theorem dispatcher_stops_iff :
    Stops (protocolReceiverDispatcher (some (dispatcherHandler services)) (some packet) receiver
      app) ↔ Tripping packet := by
  by_cases fits : packet.length ≤ msgBufferSize
  case neg =>
    rw [protocolReceiverDispatcher, if_neg (by exact fits)]
    exact iff_of_true ⟨_, rfl⟩ (.tooLong (Nat.lt_of_not_le fits))
  constructor
  · intro stops
    by_contra harmless
    have given : lengthOf (some packet) ≤ msgBufferSize := fits
    have parsed : ¬ Stops (parseMessage (some packet) receiver.msgBuffer) := by
      rw [parseMessage_stops_iff fits]
      rintro ⟨kind, found, trips⟩
      exact harmless (tripping_of_trips found trips)
    by_cases type : typeOf packet = MsgType.identify
    case neg =>
      refine not_stops_dispatcher given parsed (fun outcome ran _ => ?_) stops
      rw [outType_parseMessage _ fits ran]
      exact not_stops_dispatcherHandler type services _ app
    by_cases whole : packet.length = 4
    case neg => exact not_stops_identify services receiver app type whole fits stops
    have four : packet.bytes.length = 4 := whole
    obtain ⟨mode, moded⟩ : ∃ mode, packet.bytes[2]? = some mode :=
      ⟨_, List.getElem?_eq_getElem (by omega)⟩
    obtain ⟨count, counted⟩ : ∃ count, packet.bytes[3]? = some count :=
      ⟨_, List.getElem?_eq_getElem (by omega)⟩
    refine not_stops_dispatcher given parsed (fun outcome ran _ => ?_) stops
    rw [parseMessage_identify type whole moded counted] at ran
    cases ran
    intro unplayable
    rw [callBack] at unplayable
    exact harmless (tripping_of_unplayable type whole moded counted
      ((ledEvtIdentifyMsgHandler_stops_iff services _ _ app).mp unplayable))
  · intro tripping
    rcases tripping_cases tripping fits with trips |
      ⟨type, whole, mode, count, moded, counted, unplayable⟩
    · exact stops_dispatcher_of_parse fits ((parseMessage_stops_iff fits _).mpr trips)
    · refine stops_dispatcher_of_callback fits
        (parseMessage_identify type whole moded counted receiver.msgBuffer) rfl ?_
      exact (ledEvtIdentifyMsgHandler_stops_iff services _ _ app).mpr unplayable

end Packets

end EsInverter.Dispatcher
