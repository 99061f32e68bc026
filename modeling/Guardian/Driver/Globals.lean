import Guardian.Store.Policy
import Guardian.Store.Route
import Guardian.Enforce.Dns

/-!
# The statics of the driver image

One record for the static and global variables of all modules, with the values they have when the
image is loaded.
-/

namespace Guardian

/-- The four callouts, by key. -/
inductive CalloutKey where
  | authConnectV4
  | authConnectV6
  | flowEstablishedV4
  | flowEstablishedV6
  deriving DecidableEq

/-- The statics of `manager.c`, and the callouts the filter engine holds for the driver. -/
structure CalloutState where
  registered : Bool
  registeredCount : UInt32
  engine : List CalloutKey
  deriving DecidableEq

/-- The statics of `filters.c`. -/
structure HybridState where
  mode : Mode
  ndisFilterCount : UInt32
  ndisPollGeneration : UInt32
  coordinatorActive : Bool
  deriving DecidableEq

structure Globals where
  policy : PolicyTable
  route : RouteTable
  killSwitch : KillSwitchState
  telemetry : TelemetryState
  dns : DnsState
  callout : CalloutState
  hybrid : HybridState
  /-- `g_RecoveryGeneration` of `guardian_state_mgr.c` -/
  recoveryGeneration : UInt32
  /-- `g_FilterCount` of `guardian_state_mgr.c` -/
  filterCount : UInt32
  /-- `g_RecoveryStatus` of `recovery.c` -/
  recoveryStatus : UInt32
  /-- `g_GuardianAllowedServicePid` of `security.c`; `0` is `NULL` -/
  allowedServicePid : UInt32
  /-- `g_GuardianWdmDevice != NULL` -/
  wdmDevice : Bool
  driverState : DriverStateV1
  deriving DecidableEq

def DriverStateV1.zero : DriverStateV1 := ⟨0, 0, 0, 0, 0, 0, 0, 0, 0, 0, 0, 0, Vector.replicate 12 0⟩

/-- The image as loaded. -/
def imageGlobals : Globals where
  policy := Table.fresh
  route := Table.fresh
  killSwitch := ⟨.off, 0⟩
  telemetry := telemetryInitialize
  dns := ⟨DnsConfigV1.zero, DnsStatsV1.zero⟩
  callout := ⟨false, 0, []⟩
  hybrid := ⟨.wfp, 0, 0, false⟩
  recoveryGeneration := 0
  filterCount := 0
  recoveryStatus := recoveryStatusOk
  allowedServicePid := 0
  wdmDevice := false
  driverState := DriverStateV1.zero

end Guardian
