import EsInverter.Lib.Layout
import EsInverter.TcpProtocol.Messages

/-!
# Sizes of the message structures

The members of the structures of `messages.h` with their types, from which
`sizeof` follows; a `time_t` has 64 bits.
-/

set_option autoImplicit false

namespace EsInverter.TcpProtocol

open Lib

/-- How a structure is declared. -/
class Declared (α : Type) where
  members : Layout
  packed : Bool := false

/-- `sizeof(α)` -/
def sizeof (α : Type) [Declared α] : Nat :=
  if Declared.packed α then (Declared.members α).packedSize else (Declared.members α).size

instance : Declared MsgType := ⟨[.uint16], false⟩

instance : Declared ClientInfoMsg where
  members := [.uint16, .uint16, .uint64, .uint32, .uint32, .uint8, .uint32, .uint8, .uint8, .uint8,
    .uint16, .uint32]
  packed := true

instance : Declared ConnectionStatusMsg :=
  ⟨[.uint16, .uint64, .uint32, .uint16, .uint16, .uint32], false⟩
instance : Declared IdentifyMsg := ⟨[.uint16, .uint8, .uint8], false⟩
instance : Declared InstalledFwMsg := ⟨[.uint16, .uint32, .uint32, .uint8, .uint64], false⟩
instance : Declared UpdateStartMsg :=
  ⟨[.uint16, .uint16, .uint8, .uint32, .uint32, .uint32, .uint8, .uint16,
    .uint8s (imageUrlMaxLen + 1)], false⟩
instance : Declared UpdateStatusMsg := ⟨[.uint16, .uint32, .uint8, .uint8, .uint8], false⟩
instance : Declared UpdateInstallMsg := ⟨[.uint16, .uint32, .uint32], false⟩
instance : Declared UpdateStopMsg := ⟨[.uint16], false⟩
instance : Declared MeterCurrentLimitMsg := ⟨[.uint16, .uint32], false⟩
instance : Declared MeterAlarmsMsg := ⟨[.uint16, .uint64], false⟩
instance : Declared EnergyPriceDayMsg :=
  ⟨[.uint16, .uint16, .uint64, .uint8, .uint16, .uint16s quartersInDay], false⟩
instance : Declared EnergyPriceDayGetMsg := ⟨[.uint16, .uint16, .uint64], false⟩
instance : Declared EnergyPriceThresholdMsg := ⟨[.uint16, .uint32], false⟩
instance : Declared EnergyPriceCheapPeriodMsg := ⟨[.uint16, .uint8], false⟩
instance : Declared EnergyPriceActivePriceLimitMsg := ⟨[.uint16, .uint32], false⟩
instance : Declared EnergyPriceTariffMsg := ⟨[.uint16, .uint16], false⟩
instance : Declared WirelessEnableMsg := ⟨[.uint16, .uint8, .uint8], false⟩
instance : Declared WirelessCredentialsMsg :=
  ⟨[.uint16, .uint8, .uint16, .uint8s 32, .uint16, .uint8s 64], false⟩
instance : Declared WirelessTxPowerMsg := ⟨[.uint16, .uint8, .uint16], false⟩
instance : Declared WirelessChannelMsg := ⟨[.uint16, .uint8, .uint8], false⟩
instance : Declared RelayModeMsg := ⟨[.uint16, .uint8], false⟩
instance : Declared RelayStateMsg := ⟨[.uint16, .uint8], false⟩
instance : Declared RelayDefaultStateMsg := ⟨[.uint16, .uint8], false⟩
instance : Declared RelayPwmMsg := ⟨[.uint16, .uint8, .uint16, .uint8], false⟩
instance : Declared RelayInvertedOutputMsg := ⟨[.uint16, .uint8], false⟩
instance : Declared RelayOneShotMsg := ⟨[.uint16, .uint8, .uint64, .uint64, .uint8], false⟩
instance : Declared RelayButtonConfigMsg := ⟨[.uint16, .uint16, .uint8s maxDefinedModes], false⟩
instance : Declared RelayScheduleMsg :=
  ⟨[.uint16, .uint16, .uint8s (quartersInDay * 7 / 8)], false⟩
instance : Declared EnvironmentSunnyTimeMsg := ⟨[.uint16, .uint8], false⟩
instance : Declared EnvironmentCloudCoverMsg :=
  ⟨[.uint16, .uint64, .uint16, .uint16, .uint16s quartersInDay], false⟩
instance : Declared EnvironmentPositionMsg := ⟨[.uint16, .uint64, .uint64], false⟩
instance : Declared DiagCoredumpStartMsg := ⟨[.uint16, .uint32, .uint32], false⟩
instance : Declared DiagCoredumpBodyMsg :=
  ⟨[.uint16, .uint32, .uint16, .uint8s coredumpBlockMaxSize], false⟩
instance : Declared DiagCoredumpEndMsg := ⟨[.uint16, .uint32], false⟩
instance : Declared DiagDebugInfoMsg := ⟨[.uint16, .uint16, .uint8s coredumpBlockMaxSize], false⟩
instance : Declared DiagLogsSettingsMsg := ⟨[.uint16, .uint8, .uint64s 6], false⟩
instance : Declared DiagSetLogsSettingsMsg := ⟨[.uint16, .uint8, .uint8, .uint64], false⟩
instance : Declared StatusMsg := ⟨[.uint16, .uint8, .uint16], false⟩
instance : Declared GetMsg := ⟨[.uint16, .uint16, .uint32], false⟩

/-- A structure holds its members, packed or not. -/
theorem packedSize_le_sizeof (α : Type) [Declared α] :
    (Declared.members α).packedSize ≤ sizeof α := by
  rw [sizeof]
  split
  · exact le_rfl
  · exact Layout.packedSize_le_size _

end EsInverter.TcpProtocol
