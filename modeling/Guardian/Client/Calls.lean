import Guardian.Client.Types

/-!
# The calls of the usermode client (`ioctl.rs`, `client_impl.rs`)

* `Ioctl` : what a call hands to `DeviceIoControl`; `setAppPolicy`, `setRoute`, `setKillSwitch`,
  `dnsSetConfig` send a structure, `setGuardianMode` a number, `clearRoute` an id, the others ask for
  a structure;
* `readResponse` : the short-read check and the unaligned read of the answer; `driverState`,
  `telemetry`, `perfStats`, `exportState`, `reconcile` are the calls that end so.
-/

namespace Guardian.Client
open Bytes

/-! ## Control codes -/

def guardianIoctlDeviceType : UInt32 := 0x8010
def fileReadData : UInt32 := 0x0001
def fileWriteData : UInt32 := 0x0002
def methodBuffered : UInt32 := 0

def ctlCode (deviceType function method access : UInt32) : UInt32 :=
  (deviceType <<< 16) ||| (access <<< 14) ||| (function <<< 2) ||| method

def ioctlGuardianGetDriverState : UInt32 :=
  ctlCode guardianIoctlDeviceType 0x800 methodBuffered fileReadData
def ioctlGuardianSetAppPolicy : UInt32 :=
  ctlCode guardianIoctlDeviceType 0x801 methodBuffered fileWriteData
def ioctlGuardianSetRoute : UInt32 :=
  ctlCode guardianIoctlDeviceType 0x803 methodBuffered fileWriteData
def ioctlGuardianClearRoute : UInt32 :=
  ctlCode guardianIoctlDeviceType 0x804 methodBuffered fileWriteData
def ioctlGuardianSetKillSwitch : UInt32 :=
  ctlCode guardianIoctlDeviceType 0x806 methodBuffered fileWriteData
def ioctlGuardianGetTelemetry : UInt32 :=
  ctlCode guardianIoctlDeviceType 0x807 methodBuffered fileReadData
def ioctlGuardianExportState : UInt32 :=
  ctlCode guardianIoctlDeviceType 0x808 methodBuffered fileReadData
def ioctlGuardianReconcile : UInt32 :=
  ctlCode guardianIoctlDeviceType 0x80A methodBuffered fileWriteData
def ioctlGuardianDnsSetConfig : UInt32 :=
  ctlCode guardianIoctlDeviceType 0x80B methodBuffered fileWriteData
def ioctlGuardianGetPerfStats : UInt32 :=
  ctlCode guardianIoctlDeviceType 0x80C methodBuffered fileReadData
def ioctlGuardianSetGuardianMode : UInt32 :=
  ctlCode guardianIoctlDeviceType 0x80E methodBuffered fileWriteData

/-! ## Calls -/

inductive GuardianMode where
  | wfp
  | ndis
  | hybrid
  deriving DecidableEq

/-- `mode as u32` -/
def GuardianMode.toUInt32 : GuardianMode → UInt32
  | .wfp => 0
  | .ndis => 1
  | .hybrid => 2

def GuardianMode.fromU32 (value : UInt32) : Option GuardianMode :=
  if value = 0 then some .wfp
  else if value = 1 then some .ndis
  else if value = 2 then some .hybrid
  else none

/-- The mode of a received driver state. -/
def DriverStateV1.mode (state : DriverStateV1) : Option GuardianMode :=
  GuardianMode.fromU32 state.guardianMode

/-- The arguments of `GuardianDevice::ioctl`. -/
structure Ioctl where
  code : UInt32
  input : Option (List UInt8)
  outputLength : Nat

def setAppPolicy (policy : AppPolicyV1) : Ioctl :=
  ⟨ioctlGuardianSetAppPolicy, some policy.bytes, 0⟩

def setRoute (route : RouteAssignmentV1) : Ioctl := ⟨ioctlGuardianSetRoute, some route.bytes, 0⟩

/-- `appId` are the bytes of the UUID. -/
def clearRoute (appId : Vector UInt8 16) : Ioctl := ⟨ioctlGuardianClearRoute, some appId.toList, 0⟩

def setGuardianMode (mode : GuardianMode) : Ioctl :=
  ⟨ioctlGuardianSetGuardianMode, some (bytesU32 mode.toUInt32), 0⟩

def setKillSwitch (config : KillSwitchV1) : Ioctl :=
  ⟨ioctlGuardianSetKillSwitch, some config.bytes, 0⟩

def dnsSetConfig (config : DnsConfigV1) : Ioctl :=
  ⟨ioctlGuardianDnsSetConfig, some config.bytes, 0⟩

def getDriverState : Ioctl := ⟨ioctlGuardianGetDriverState, none, DriverStateV1.size⟩
def getTelemetry : Ioctl := ⟨ioctlGuardianGetTelemetry, none, TelemetryV1.size⟩
def getPerfStats : Ioctl := ⟨ioctlGuardianGetPerfStats, none, PerfStatsV1.size⟩
def getExportState : Ioctl := ⟨ioctlGuardianExportState, none, StateBlobHeaderV1.size⟩
def getReconcile : Ioctl := ⟨ioctlGuardianReconcile, none, ReconcileResponseV1.size⟩

/-! ## Answers -/

/-- `GuardianError`, of a call on an open device. -/
inductive GuardianError where
  | windows (code : UInt32)
  | shortRead (n : UInt32)
  | invalidVersion
  deriving DecidableEq

/-- What `GuardianDevice::ioctl` returns: the number of bytes, with the buffer behind it. -/
abbrev Answer := Except GuardianError (UInt32 × Memory)

/-- The structure of `size` bytes in the buffer, unless fewer bytes were returned. -/
def readResponse {α : Type} (size : Nat) (read : Memory → α) (answer : Answer) :
    Except GuardianError α :=
  match answer with
  | .error e => .error e
  | .ok (n, buf) => if n < UInt32.ofNat size then .error (.shortRead n) else .ok (read buf)

def driverState (answer : Answer) : Except GuardianError DriverStateV1 :=
  match readResponse DriverStateV1.size DriverStateV1.read answer with
  | .error e => .error e
  | .ok state =>
    if state.version ≠ guardianDriverStateVersion then .error .invalidVersion else .ok state

def telemetry (answer : Answer) : Except GuardianError TelemetryV1 :=
  readResponse TelemetryV1.size TelemetryV1.read answer

def perfStats (answer : Answer) : Except GuardianError PerfStatsV1 :=
  readResponse PerfStatsV1.size PerfStatsV1.read answer

def exportState (answer : Answer) : Except GuardianError StateBlobHeaderV1 :=
  readResponse StateBlobHeaderV1.size StateBlobHeaderV1.read answer

def reconcile (answer : Answer) : Except GuardianError ReconcileResponseV1 :=
  readResponse ReconcileResponseV1.size ReconcileResponseV1.read answer

theorem readResponse_ok {α : Type} {size : Nat} {n : UInt32} (h : UInt32.ofNat size ≤ n)
    (read : Memory → α) (buf : Memory) : readResponse size read (.ok (n, buf)) = .ok (read buf) := by
  have hlt : ¬ n < UInt32.ofNat size := UInt32.not_lt.mpr h
  rw [readResponse, if_neg hlt]

end Guardian.Client
