import EsInverter.Dispatcher.Tripping
import EsInverter.Lib.Transition
import EsInverter.Slip.Sweep

/-!
# Bytes from the network

`rx_task` gives what it reads to the decoder and the packet that comes out to
the dispatcher, while other tasks work on the LED and the update module.  A
device whose assertion failed takes no further step.
-/

set_option autoImplicit false

namespace EsInverter.Dispatcher

open TcpProtocol Slip

structure Device where
  codec : SlipCodec
  receiver : Receiver
  app : App
  fault : Option Fault

def Device.initial : Device := ⟨.initial, .initial, .initial, none⟩

inductive Event
  /-- `rx_task` reads from the socket; `behind` lies in the decoder's buffer behind the packet. -/
  | read (chunk : List UInt8) (behind : Lib.Wire.Memory) (services : Services)
  /-- What the other tasks left behind. -/
  | elsewhere (app : App)

/-- The packet of a result at its address. -/
def packetOf (result : DecoderResult) (behind : Lib.Wire.Memory) : Option Packet :=
  result.dataOut.map fun bytes => ⟨bytes, behind⟩

/-- A turn of `rx_task` behind `read_socket_data`. -/
def rxTask (chunk : List UInt8) (behind : Lib.Wire.Memory) (services : Services)
    (device : Device) : Device :=
  match slipStaticDataDecoder device.codec chunk with
  | .error fault => { device with fault := some fault }
  | .ok result =>
      let device := { device with codec := result.codec }
      if result.ret ≠ .ok then device
      else
        match protocolReceiverDispatcher (some (dispatcherHandler services))
            (packetOf result behind) device.receiver device.app with
        | .error fault => { device with fault := some fault }
        | .ok (_, receiver, app) => { device with receiver, app }

def network : Lib.Machine Device Event where
  step device event :=
    match device.fault, event with
    | some _, _ => none
    | none, .read chunk behind services => some (rxTask chunk behind services device)
    | none, .elsewhere app => some { device with app }

/-- An assertion failed. -/
def Device.Asserted (device : Device) : Prop :=
  ∃ failed, device.fault = some (.assertion failed)

/-- `read_socket_data` returned at least one byte and at most the size of its buffer. -/
def Event.Sized : Event → Prop
  | read chunk _ _ => chunk ≠ [] ∧ chunk.length ≤ tcpRxBufferSize
  | elsewhere _ => True

instance : (event : Event) → Decidable event.Sized
  | .read _ _ _ => inferInstanceAs (Decidable (_ ∧ _))
  | .elsewhere _ => inferInstanceAs (Decidable True)

/-- What is handed on from a read: a packet, and none that stops the device. -/
structure Harmless (handed : Option Packet) : Prop where
  packet : handed ≠ none
  harmless : ∀ packet, handed = some packet → ¬ Tripping packet

/-- The flags of the decoder say how the read is taken. -/
def Device.Spared (device : Device) : Event → Prop
  | .read chunk behind _ =>
      let result := sweep 15 device.codec.insideOfPacket device.codec.escActive [] none chunk
      result.ret = .ok → Harmless (packetOf result behind)
  | .elsewhere _ => True

/-- Nothing is left of a read but the flags. -/
def Device.Cleared (device : Device) : Prop :=
  device.codec = ⟨[], [], device.codec.insideOfPacket, device.codec.escActive⟩

theorem sweep_cleared (cuts : Nat) (insideOfPacket escActive : Bool) (decoded : List UInt8)
    (dataOut : Option (List UInt8)) (bytes : List UInt8) :
    let codec := (sweep cuts insideOfPacket escActive decoded dataOut bytes).codec
    codec = ⟨[], [], codec.insideOfPacket, codec.escActive⟩ := by
  induction bytes generalizing cuts insideOfPacket escActive decoded dataOut with
  | nil => rfl
  | cons byte rest ih =>
      unfold sweep
      split
      · exact ih ..
      · rfl
      · exact ih ..
      · exact ih ..
      · rfl

/-- A turn of `rx_task` on a read that its buffer holds. -/
theorem rxTask_sweep {device : Device} (cleared : device.Cleared) {chunk : List UInt8}
    {behind : Lib.Wire.Memory} {services : Services}
    (sized : (Event.read chunk behind services).Sized) :
    rxTask chunk behind services device =
      let result := sweep 15 device.codec.insideOfPacket device.codec.escActive [] none chunk
      let device := { device with codec := result.codec }
      if result.ret ≠ .ok then device
      else
        match protocolReceiverDispatcher (some (dispatcherHandler services))
            (packetOf result behind) device.receiver device.app with
        | .error fault => { device with fault := some fault }
        | .ok (_, receiver, app) => { device with receiver, app } := by
  have fits : chunk.length ≤ encodedDataBufSize := Nat.le_trans sized.2 (by decide)
  have ran : slipStaticDataDecoder device.codec chunk =
      .ok (sweep 15 device.codec.insideOfPacket device.codec.escActive [] none chunk) := by
    rw [cleared]
    exact slipStaticDataDecoder_sweep sized.1 fits _ _
  rw [rxTask, ran]

/-- What becomes of a device whose dispatcher was called. -/
theorem asserted_dispatched_iff {device : Device} (running : device.fault = none)
    (codec : SlipCodec) (dispatched : Except Fault (EspErr × Receiver × App)) :
    Device.Asserted (match dispatched with
      | .error fault => { device with codec, fault := some fault }
      | .ok (_, receiver, app) => { device with codec, receiver, app }) ↔ Stops dispatched := by
  cases dispatched with
  | error fault =>
      constructor
      · rintro ⟨failed, same⟩
        cases same
        exact ⟨failed, rfl⟩
      · rintro ⟨failed, same⟩
        cases same
        exact ⟨failed, rfl⟩
  | ok result =>
      refine iff_of_false ?_ (not_stops_ok result)
      rintro ⟨failed, same⟩
      cases running.symm.trans same

theorem harmless_iff (packet : Packet) : Harmless (some packet) ↔ ¬ Tripping packet := by
  constructor
  · intro harmless
    exact harmless.harmless packet rfl
  · intro spared
    refine ⟨Option.some_ne_none packet, fun other same => ?_⟩
    cases same
    exact spared

/-- A turn of `rx_task` fails an assertion exactly when the read is harmful. -/
theorem asserted_rxTask_iff {device : Device} (cleared : device.Cleared)
    (running : device.fault = none) {chunk : List UInt8} {behind : Lib.Wire.Memory}
    {services : Services} (sized : (Event.read chunk behind services).Sized) :
    (rxTask chunk behind services device).Asserted ↔
      ¬ device.Spared (.read chunk behind services) := by
  rw [rxTask_sweep cleared sized, Device.Spared]
  generalize sweep 15 device.codec.insideOfPacket device.codec.escActive [] none chunk = handed
  dsimp only
  by_cases accepted : handed.ret = .ok
  case neg =>
    rw [if_pos accepted]
    refine iff_of_false ?_ (not_not_intro fun same => absurd same accepted)
    rintro ⟨failed, same⟩
    cases running.symm.trans same
  rw [if_neg (not_not_intro accepted), asserted_dispatched_iff running, Classical.not_imp,
    and_iff_right accepted]
  cases packetOf handed behind with
  | none => exact iff_of_true ⟨.dataOut, rfl⟩ fun harmless => harmless.packet rfl
  | some packet =>
      rw [harmless_iff, not_not]
      exact dispatcher_stops_iff services device.receiver device.app

theorem cleared_rxTask {device : Device} (cleared : device.Cleared) {chunk : List UInt8}
    {behind : Lib.Wire.Memory} {services : Services}
    (sized : (Event.read chunk behind services).Sized) :
    (rxTask chunk behind services device).Cleared := by
  have left := sweep_cleared 15 device.codec.insideOfPacket device.codec.escActive [] none chunk
  rw [rxTask_sweep cleared sized]
  dsimp only at left ⊢
  split
  · exact left
  · split
    · exact left
    · exact left

theorem step_running {device next : Device} {event : Event}
    (stepped : network.step device event = some next) : device.fault = none := by
  cases fault : device.fault with
  | none => rfl
  | some _ =>
      simp only [network, fault] at stepped
      cases stepped

theorem step_read {device next : Device} {chunk : List UInt8} {behind : Lib.Wire.Memory}
    {services : Services}
    (stepped : network.step device (.read chunk behind services) = some next) :
    next = rxTask chunk behind services device := by
  have running := step_running stepped
  simp only [network, running, Option.some.injEq] at stepped
  exact stepped.symm

theorem step_elsewhere {device next : Device} {app : App}
    (stepped : network.step device (.elsewhere app) = some next) :
    next = { device with app } := by
  have running := step_running stepped
  simp only [network, running, Option.some.injEq] at stepped
  rw [← stepped, running]

/-- A step fails an assertion exactly when it is a harmful read. -/
theorem asserted_step_iff {device next : Device} {event : Event} (cleared : device.Cleared)
    (sized : event.Sized) (stepped : network.step device event = some next) :
    next.Asserted ↔ ¬ device.Spared event := by
  have running := step_running stepped
  cases event with
  | read chunk behind services =>
      rw [step_read stepped]
      exact asserted_rxTask_iff cleared running sized
  | elsewhere app =>
      rw [step_elsewhere stepped]
      refine iff_of_false ?_ (not_not_intro trivial)
      rintro ⟨failed, same⟩
      cases running.symm.trans same

theorem cleared_step {device next : Device} {event : Event} (sized : event.Sized)
    (cleared : device.Cleared) (stepped : network.step device event = some next) :
    next.Cleared := by
  cases event with
  | read chunk behind services =>
      rw [step_read stepped]
      exact cleared_rxTask cleared sized
  | elsewhere app =>
      rw [step_elsewhere stepped]
      exact cleared

section Run

variable {trace : List (Device × Event)} {finish : Device}

theorem cleared_run (run : network.Run Device.initial trace finish)
    (sized : ∀ taken ∈ trace, taken.2.Sized) : finish.Cleared := by
  induction run with
  | nil => rfl
  | @snoc trace device next event run stepped ih =>
      refine cleared_step (sized (device, event) (by simp)) (ih fun taken inside => ?_) stepped
      exact sized taken (List.mem_append_left _ inside)

/-- No assertion fails in a run exactly when every read is spared by the device that takes it. -/
theorem unasserted_iff_spared (run : network.Run Device.initial trace finish)
    (sized : ∀ taken ∈ trace, taken.2.Sized) :
    ¬ finish.Asserted ↔ ∀ taken ∈ trace, taken.1.Spared taken.2 := by
  induction run with
  | nil =>
      refine iff_of_true ?_ (by simp)
      rintro ⟨failed, same⟩
      cases same
  | @snoc trace device next event run stepped ih =>
      have before : ∀ taken ∈ trace, taken.2.Sized :=
        fun taken inside => sized taken (List.mem_append_left _ inside)
      have last : event.Sized := sized (device, event) (List.mem_append_right _ (by simp))
      -- A device that took another step had no assertion fail.
      have unasserted : ¬ device.Asserted := by
        rintro ⟨failed, same⟩
        cases (step_running stepped).symm.trans same
      have earlier := (ih before).mp unasserted
      rw [asserted_step_iff (cleared_run run before) last stepped, not_not]
      simp only [List.forall_mem_append, List.forall_mem_singleton]
      exact ⟨fun spared => ⟨earlier, spared⟩, And.right⟩

end Run

/-- Services that have nothing to answer. -/
def Services.idle : Services :=
  { device := ⟨0, 0, []⟩, otaTask := .initial, authPosted := true, random := 0, bleProvStart := 0
    setTxPower := 0, setChannel := 0, localIpAddr := 0, rssi := none, staSsid := none
    txPower := none, channel := none, latitude := 0, longitude := 0 }

/-- A request to identify, and one to restart: the byte that a read leaves behind the begin of a
packet is dropped and comes again. -/
def restartEvents : List Event :=
  [.read [0xCF, 0x13, 0x00, 0x01, 0x03, 0xC0] (fun _ => 0) .idle,
    .read [0xCF, 0x10] (fun _ => 0) .idle, .elsewhere .initial,
    .read [0x10, 0x00, 0xC0] (fun _ => 0) .idle]

theorem unasserted_iff_spared_restart :
    ∃ trace finish, network.Run Device.initial trace finish ∧ trace.length = 4 ∧
      finish.receiver.statuses = [(MsgType.identify, 0), (MsgType.reboot, 0)] ∧
      ∀ taken ∈ trace, taken.1.Spared taken.2 := by
  have executed : (network.exec .initial restartEvents).isSome = true := by decide +kernel
  obtain ⟨finish, reached⟩ := Option.isSome_iff_exists.mp executed
  have facts : (network.exec .initial restartEvents).map (fun device =>
      (device.fault, device.receiver.statuses)) =
      some (none, [(MsgType.identify, 0), (MsgType.reboot, 0)]) := by decide +kernel
  rw [reached] at facts
  obtain ⟨fine, statuses⟩ := Prod.mk.inj (Option.some.inj facts)
  have four : (network.tracing .initial restartEvents).length = 4 := by decide +kernel
  have sized : ∀ taken ∈ network.tracing .initial restartEvents, taken.2.Sized := by
    decide +kernel
  have unasserted : ¬ finish.Asserted := by
    rintro ⟨failed, same⟩
    cases fine.symm.trans same
  have run := Lib.Machine.run_of_exec reached
  exact ⟨_, finish, run, four, statuses, (unasserted_iff_spared run sized).mp unasserted⟩

theorem run_read (chunk : List UInt8) (behind : Lib.Wire.Memory) (services : Services) :
    network.Run Device.initial [(Device.initial, .read chunk behind services)]
      (rxTask chunk behind services Device.initial) :=
  Lib.Machine.Run.snoc .nil rfl

/-- Blinking no times in a packet of four bytes. -/
theorem identify_asserted :
    ∃ finish, network.Run Device.initial
        [(Device.initial, .read [0xCF, 0x13, 0x00, 0x01, 0x00, 0xC0] (fun _ => 0) .idle)] finish ∧
      (Event.read [0xCF, 0x13, 0x00, 0x01, 0x00, 0xC0] (fun _ => 0) .idle).Sized ∧
      finish.fault = some (.assertion .blinkTimes) :=
  ⟨_, run_read _ _ _, ⟨by simp, by decide⟩, by decide +kernel⟩

end EsInverter.Dispatcher
