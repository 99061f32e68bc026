import Guardian.Lib.Bytes
import Guardian.Nt

/-!
# The shared protocol structures

The packed structures of `shared/structures` and `shared/protocol`, their sizes, versions and
limits, and the reads of the input structures at their packed offsets.
-/

namespace Guardian
open Bytes

/-- The 16 bytes of an application id. -/
abbrev AppId := Vector UInt8 16

/-! ## Policies (`app_policy.h`) -/

def appPolicyVersion : UInt32 := 1
def maxExePathChars : Nat := 520
def maxPackageFamilyChars : Nat := 128
def sha256Bytes : Nat := 32
def maxSidBytes : Nat := 68
def maxSyncPolicies : Nat := 256

def policyAllow : UInt32 := 0
def policyBlock : UInt32 := 1
def policyRoute : UInt32 := 2
def policyObserve : UInt32 := 3

def matchNone : UInt32 := 0
def matchProcessPath : UInt32 := 1
def matchExeHash : UInt32 := 2
def matchSid : UInt32 := 3
def matchPackageFamily : UInt32 := 4

structure AppPolicyV1 where
  version : UInt32
  appId : AppId
  action : UInt32
  matchKind : UInt32
  exePathLengthChars : UInt32
  exePath : Vector UInt16 maxExePathChars
  exeHashSha256 : Vector UInt8 sha256Bytes
  sidLengthBytes : UInt32
  sidBytes : Vector UInt8 maxSidBytes
  packageFamilyName : Vector UInt16 maxPackageFamilyChars
  profileId : UInt64
  interfaceLuid : UInt64
  deriving DecidableEq

/-- `sizeof(GUARDIAN_APP_POLICY_V1)` -/
def AppPolicyV1.size : Nat := 1448

/-- A policy without any setting but the version. -/
def AppPolicyV1.blank : AppPolicyV1 where
  version := appPolicyVersion
  appId := Vector.replicate 16 0
  action := policyAllow
  matchKind := matchNone
  exePathLengthChars := 0
  exePath := Vector.replicate maxExePathChars 0
  exeHashSha256 := Vector.replicate sha256Bytes 0
  sidLengthBytes := 0
  sidBytes := Vector.replicate maxSidBytes 0
  packageFamilyName := Vector.replicate maxPackageFamilyChars 0
  profileId := 0
  interfaceLuid := 0

def AppPolicyV1.read (m : Memory) (off : Nat) : AppPolicyV1 where
  version := readU32 m off
  appId := readU8s m (off + 4) 16
  action := readU32 m (off + 20)
  matchKind := readU32 m (off + 24)
  exePathLengthChars := readU32 m (off + 28)
  exePath := readU16s m (off + 32) maxExePathChars
  exeHashSha256 := readU8s m (off + 1072) sha256Bytes
  sidLengthBytes := readU32 m (off + 1104)
  sidBytes := readU8s m (off + 1108) maxSidBytes
  packageFamilyName := readU16s m (off + 1176) maxPackageFamilyChars
  profileId := readU64 m (off + 1432)
  interfaceLuid := readU64 m (off + 1440)

/-! ## Routes (`route_assignment.h`) -/

def routeAssignmentVersion : UInt32 := 1
def maxSyncRoutes : Nat := 512

def routeDirect : UInt32 := 0
def routeVpn : UInt32 := 1
def routeTailnet : UInt32 := 2
def routeTor : UInt32 := 3
def routeAnonymous : UInt32 := 4
def routeBlocked : UInt32 := 5
def routeProxy : UInt32 := 6
def routeChain : UInt32 := 7

structure RouteAssignmentV1 where
  version : UInt32
  appId : AppId
  routeKind : UInt32
  profileId : UInt64
  interfaceLuid : UInt64
  socksPort : UInt16
  reserved : Vector UInt8 6
  deriving DecidableEq

/-- `sizeof(GUARDIAN_ROUTE_ASSIGNMENT_V1)` -/
def RouteAssignmentV1.size : Nat := 48

/-- A direct route without any setting but the version. -/
def RouteAssignmentV1.blank : RouteAssignmentV1 where
  version := routeAssignmentVersion
  appId := Vector.replicate 16 0
  routeKind := routeDirect
  profileId := 0
  interfaceLuid := 0
  socksPort := 0
  reserved := Vector.replicate 6 0

def RouteAssignmentV1.read (m : Memory) (off : Nat) : RouteAssignmentV1 where
  version := readU32 m off
  appId := readU8s m (off + 4) 16
  routeKind := readU32 m (off + 20)
  profileId := readU64 m (off + 24)
  interfaceLuid := readU64 m (off + 32)
  socksPort := readU16 m (off + 40)
  reserved := readU8s m (off + 42) 6

/-- Offset of the array in `GUARDIAN_SYNC_POLICIES_V1` and `GUARDIAN_SYNC_ROUTES_V1`, behind
`Version` and the count. -/
def syncHeaderSize : Nat := 8

/-! ## Kill switch (`killswitch.h`) -/

def killSwitchVersion : UInt32 := 1

inductive KillSwitchMode where
  | off
  | blockAll
  | allowVpnOnly
  | restore
  deriving DecidableEq

def KillSwitchMode.toUInt32 : KillSwitchMode → UInt32
  | .off => 0
  | .blockAll => 1
  | .allowVpnOnly => 2
  | .restore => 3

/-- The enumerator of a 32-bit value; `none` beyond `GuardianKsRestore`. -/
def KillSwitchMode.ofUInt32 (value : UInt32) : Option KillSwitchMode :=
  if value = 0 then some .off
  else if value = 1 then some .blockAll
  else if value = 2 then some .allowVpnOnly
  else if value = 3 then some .restore
  else none

structure KillSwitchV1 where
  version : UInt32
  mode : UInt32
  vpnInterfaceLuid : UInt64
  deriving DecidableEq

/-- `sizeof(GUARDIAN_KILL_SWITCH_V1)` -/
def KillSwitchV1.size : Nat := 16

def KillSwitchV1.read (m : Memory) (off : Nat) : KillSwitchV1 where
  version := readU32 m off
  mode := readU32 m (off + 4)
  vpnInterfaceLuid := readU64 m (off + 8)

/-! ## DNS (`dns.h`) -/

def dnsConfigVersion : UInt32 := 1
def dnsCapObserve : UInt32 := 1

structure DnsConfigV1 where
  version : UInt32
  capabilities : UInt32
  enabled : UInt8
  observeOnly : UInt8
  reserved : Vector UInt8 2
  proxyPort : UInt16
  excludedPidCount : UInt32
  excludedPids : Vector UInt32 16
  deriving DecidableEq

/-- `sizeof(GUARDIAN_DNS_CONFIG_V1)` -/
def DnsConfigV1.size : Nat := 82

def DnsConfigV1.read (m : Memory) (off : Nat) : DnsConfigV1 where
  version := readU32 m off
  capabilities := readU32 m (off + 4)
  enabled := readU8 m (off + 8)
  observeOnly := readU8 m (off + 9)
  reserved := readU8s m (off + 10) 2
  proxyPort := readU16 m (off + 12)
  excludedPidCount := readU32 m (off + 14)
  excludedPids := readU32s m (off + 18) 16

structure DnsStatsV1 where
  version : UInt32
  observedV4 : UInt64
  observedV6 : UInt64
  skippedLoopback : UInt64
  skippedExcluded : UInt64
  skippedDisabled : UInt64
  errors : UInt64
  deriving DecidableEq

/-- `sizeof(GUARDIAN_DNS_STATS_V1)` -/
def DnsStatsV1.size : Nat := 52

/-! ## Telemetry (`telemetry.h`) -/

def telemetryVersion : UInt32 := 1
def perfStatsVersion : UInt32 := 1

structure TelemetryV1 where
  version : UInt32
  classifyCount : UInt64
  blockCount : UInt64
  routeCount : UInt64
  permitCount : UInt64
  observeCount : UInt64
  errorCount : UInt64
  dnsObserveCount : UInt64
  avgClassifyLatency100ns : UInt64
  maxClassifyLatency100ns : UInt64
  deriving DecidableEq

/-- `sizeof(GUARDIAN_TELEMETRY_V1)` -/
def TelemetryV1.size : Nat := 76

structure PerfStatsV1 where
  version : UInt32
  ipcDispatchCount : UInt64
  ipcRejectCount : UInt64
  avgIpcLatency100ns : UInt64
  maxIpcLatency100ns : UInt64
  deferredWorkCount : UInt64
  activePolicyCount : UInt32
  activeRouteCount : UInt32
  deriving DecidableEq

/-- `sizeof(GUARDIAN_PERF_STATS_V1)` -/
def PerfStatsV1.size : Nat := 52

/-! ## Driver state (`guardian_state.h`) -/

def driverStateVersion : UInt32 := 1
def driverVersionMajor : UInt32 := 0
def driverVersionMinor : UInt32 := 1
def driverVersionPatch : UInt32 := 0
def driverBuildStamp : UInt32 := 2026062101

def lifecycleStopped : UInt32 := 0
def lifecycleStarting : UInt32 := 1
def lifecycleRunning : UInt32 := 2
def lifecycleRecovering : UInt32 := 3
def lifecycleFailed : UInt32 := 4

/-- `GUARDIAN_MODE` -/
inductive Mode where
  | wfp
  | ndis
  | hybrid
  deriving DecidableEq

def Mode.toUInt32 : Mode → UInt32
  | .wfp => 0
  | .ndis => 1
  | .hybrid => 2

/-- The enumerator of a 32-bit value; `none` beyond `GuardianModeHybrid`. -/
def Mode.ofUInt32 (value : UInt32) : Option Mode :=
  if value = 0 then some .wfp
  else if value = 1 then some .ndis
  else if value = 2 then some .hybrid
  else none

structure DriverStateV1 where
  version : UInt32
  versionMajor : UInt32
  versionMinor : UInt32
  versionPatch : UInt32
  buildStamp : UInt32
  lifecycleState : UInt32
  calloutsRegistered : UInt32
  filterCount : UInt32
  recoveryGeneration : UInt32
  killSwitchMode : UInt32
  lastError : NTSTATUS
  guardianMode : UInt32
  reserved : Vector UInt8 12
  deriving DecidableEq

/-- `sizeof(GUARDIAN_DRIVER_STATE_V1)` -/
def DriverStateV1.size : Nat := 60

/-! ## Messages (`guardian_message.h`) -/

def stateBlobVersion : UInt32 := 1
def maxExportBytes : Nat := 4 * 1024 * 1024

/-- `sizeof(GUARDIAN_MESSAGE_HEADER)` -/
def messageHeaderSize : Nat := 24

structure StateBlobHeaderV1 where
  version : UInt32
  policyCount : UInt32
  routeCount : UInt32
  killSwitchMode : UInt32
  recoveryGeneration : UInt32
  reserved : UInt32
  deriving DecidableEq

/-- `sizeof(GUARDIAN_STATE_BLOB_HEADER_V1)` -/
def StateBlobHeaderV1.size : Nat := 24

def StateBlobHeaderV1.read (m : Memory) (off : Nat) : StateBlobHeaderV1 where
  version := readU32 m off
  policyCount := readU32 m (off + 4)
  routeCount := readU32 m (off + 8)
  killSwitchMode := readU32 m (off + 12)
  recoveryGeneration := readU32 m (off + 16)
  reserved := readU32 m (off + 20)

structure ReconcileResponseV1 where
  version : UInt32
  removedOrphans : UInt32
  recoveryGeneration : UInt32
  recoveryStatus : UInt32
  deriving DecidableEq

/-- `sizeof(GUARDIAN_RECONCILE_RESPONSE_V1)` -/
def ReconcileResponseV1.size : Nat := 16

def recoveryStatusOk : UInt32 := 0

/-! ## IOCTL codes (`guardian_ioctl.h`) -/

inductive IoctlCode where
  | getDriverState
  | setAppPolicy
  | syncPolicies
  | setRoute
  | clearRoute
  | syncRoutes
  | setKillSwitch
  | getTelemetry
  | exportState
  | importState
  | reconcile
  | dnsSetConfig
  | getPerfStats
  | getDnsStats
  | setGuardianMode
  deriving DecidableEq

/-- `CTL_CODE(DeviceType, Function, METHOD_BUFFERED, Access)` -/
def ctlCode (deviceType function access : UInt32) : UInt32 :=
  (deviceType <<< 16) ||| (access <<< 14) ||| (function <<< 2)

def ioctlDeviceType : UInt32 := 0x8010
def fileReadData : UInt32 := 1
def fileWriteData : UInt32 := 2

def IoctlCode.toUInt32 : IoctlCode → UInt32
  | .getDriverState => ctlCode ioctlDeviceType 0x800 fileReadData
  | .setAppPolicy => ctlCode ioctlDeviceType 0x801 fileWriteData
  | .syncPolicies => ctlCode ioctlDeviceType 0x802 fileWriteData
  | .setRoute => ctlCode ioctlDeviceType 0x803 fileWriteData
  | .clearRoute => ctlCode ioctlDeviceType 0x804 fileWriteData
  | .syncRoutes => ctlCode ioctlDeviceType 0x805 fileWriteData
  | .setKillSwitch => ctlCode ioctlDeviceType 0x806 fileWriteData
  | .getTelemetry => ctlCode ioctlDeviceType 0x807 fileReadData
  | .exportState => ctlCode ioctlDeviceType 0x808 fileReadData
  | .importState => ctlCode ioctlDeviceType 0x809 fileWriteData
  | .reconcile => ctlCode ioctlDeviceType 0x80A fileWriteData
  | .dnsSetConfig => ctlCode ioctlDeviceType 0x80B fileWriteData
  | .getPerfStats => ctlCode ioctlDeviceType 0x80C fileReadData
  | .getDnsStats => ctlCode ioctlDeviceType 0x80D fileReadData
  | .setGuardianMode => ctlCode ioctlDeviceType 0x80E fileWriteData

def IoctlCode.all : List IoctlCode :=
  [.getDriverState, .setAppPolicy, .syncPolicies, .setRoute, .clearRoute, .syncRoutes,
    .setKillSwitch, .getTelemetry, .exportState, .importState, .reconcile, .dnsSetConfig,
    .getPerfStats, .getDnsStats, .setGuardianMode]

/-- The case a `switch` on the 32-bit code takes; `none` is its `default`. -/
def IoctlCode.ofUInt32 (code : UInt32) : Option IoctlCode :=
  IoctlCode.all.find? (fun c => c.toUInt32 = code)

def maxIoctlBuffer : Nat := maxExportBytes + messageHeaderSize

/-- The codes are distinct: each one selects its own case. -/
@[simp] theorem IoctlCode.ofUInt32_toUInt32 (c : IoctlCode) :
    IoctlCode.ofUInt32 c.toUInt32 = some c := by cases c <;> decide

theorem IoctlCode.toUInt32_of_ofUInt32 {code : UInt32} {c : IoctlCode}
    (h : IoctlCode.ofUInt32 code = some c) : c.toUInt32 = code := by
  simpa using List.find?_some h

theorem KillSwitchMode.ofUInt32_toUInt32 (mode : KillSwitchMode) :
    KillSwitchMode.ofUInt32 mode.toUInt32 = some mode := by cases mode <;> rfl

theorem KillSwitchMode.toUInt32_of_ofUInt32 {value : UInt32} {mode : KillSwitchMode}
    (h : KillSwitchMode.ofUInt32 value = some mode) : mode.toUInt32 = value := by
  unfold KillSwitchMode.ofUInt32 at h
  split_ifs at h with h0 h1 h2 h3 <;> cases h <;> simp [KillSwitchMode.toUInt32, *]

end Guardian
