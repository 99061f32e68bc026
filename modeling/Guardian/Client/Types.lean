import Guardian.Shared

/-!
# The structures of the usermode client (`types.rs`)

The client declares the packed structures a second time. Of those that it sends, `bytes` is the memory
of a value: the fields in the order of their declaration, without padding. Of those that it receives,
`read` takes each field from behind the ones declared before it.

* `AppPolicyV1`, `RouteAssignmentV1`, `KillSwitchV1`, `DnsConfigV1` : sent; `toKernel` is the value of
  the C structure with the same fields; `RouteAssignmentV1.newVpn`, `newProxy`, `newProxyChain`,
  `KillSwitchV1.blockAll`, `restore` are the constructors;
* `DriverStateV1`, `TelemetryV1`, `PerfStatsV1`, `StateBlobHeaderV1`, `ReconcileResponseV1` : received;
  `ofKernel` is the value with the fields of the C structure.
-/

namespace Guardian.Client
open Bytes

def guardianDriverStateVersion : UInt32 := 1
def guardianRouteAssignmentVersion : UInt32 := 1
def guardianKillSwitchVersion : UInt32 := 1
def guardianMaxExePathChars : Nat := 520
def guardianMaxPackageFamilyChars : Nat := 128
def guardianSha256Bytes : Nat := 32
def guardianMaxSidBytes : Nat := 68

def guardianRouteKindVpn : UInt32 := 1
def guardianRouteKindProxy : UInt32 := 6
def guardianRouteKindChain : UInt32 := 7

/-! ## Sent -/

structure AppPolicyV1 where
  version : UInt32
  appId : Vector UInt8 16
  action : UInt32
  matchKind : UInt32
  exePathLengthChars : UInt32
  exePath : Vector UInt16 guardianMaxExePathChars
  exeHashSha256 : Vector UInt8 guardianSha256Bytes
  sidLengthBytes : UInt32
  sidBytes : Vector UInt8 guardianMaxSidBytes
  packageFamilyName : Vector UInt16 guardianMaxPackageFamilyChars
  profileId : UInt64
  interfaceLuid : UInt64

def AppPolicyV1.bytes (p : AppPolicyV1) : List UInt8 :=
  bytesU32 p.version ++ p.appId.toList ++ bytesU32 p.action ++ bytesU32 p.matchKind ++
    bytesU32 p.exePathLengthChars ++ bytesU16s p.exePath ++ p.exeHashSha256.toList ++
    bytesU32 p.sidLengthBytes ++ p.sidBytes.toList ++ bytesU16s p.packageFamilyName ++
    bytesU64 p.profileId ++ bytesU64 p.interfaceLuid

def AppPolicyV1.toKernel (p : AppPolicyV1) : Guardian.AppPolicyV1 where
  version := p.version
  appId := p.appId
  action := p.action
  matchKind := p.matchKind
  exePathLengthChars := p.exePathLengthChars
  exePath := p.exePath
  exeHashSha256 := p.exeHashSha256
  sidLengthBytes := p.sidLengthBytes
  sidBytes := p.sidBytes
  packageFamilyName := p.packageFamilyName
  profileId := p.profileId
  interfaceLuid := p.interfaceLuid

structure RouteAssignmentV1 where
  version : UInt32
  appId : Vector UInt8 16
  routeKind : UInt32
  profileId : UInt64
  interfaceLuid : UInt64
  socksPort : UInt16
  reserved : Vector UInt8 6

def RouteAssignmentV1.bytes (r : RouteAssignmentV1) : List UInt8 :=
  bytesU32 r.version ++ r.appId.toList ++ bytesU32 r.routeKind ++ bytesU64 r.profileId ++
    bytesU64 r.interfaceLuid ++ bytesU16 r.socksPort ++ r.reserved.toList

def RouteAssignmentV1.toKernel (r : RouteAssignmentV1) : Guardian.RouteAssignmentV1 where
  version := r.version
  appId := r.appId
  routeKind := r.routeKind
  profileId := r.profileId
  interfaceLuid := r.interfaceLuid
  socksPort := r.socksPort
  reserved := r.reserved

/-- A route that a constructor makes; `appId` are the bytes of the UUID. -/
def RouteAssignmentV1.ofKind (routeKind : UInt32) (appId : Vector UInt8 16)
    (profileId interfaceLuid : UInt64) (socksPort : UInt16) : RouteAssignmentV1 where
  version := guardianRouteAssignmentVersion
  appId := appId
  routeKind := routeKind
  profileId := profileId
  interfaceLuid := interfaceLuid
  socksPort := socksPort
  reserved := Vector.replicate 6 0

def RouteAssignmentV1.newVpn (appId : Vector UInt8 16) (profileId interfaceLuid : UInt64) :
    RouteAssignmentV1 := .ofKind guardianRouteKindVpn appId profileId interfaceLuid 0

def RouteAssignmentV1.newProxy (appId : Vector UInt8 16) (profileId : UInt64) (socksPort : UInt16) :
    RouteAssignmentV1 := .ofKind guardianRouteKindProxy appId profileId 0 socksPort

def RouteAssignmentV1.newProxyChain (appId : Vector UInt8 16) (chainId : UInt64)
    (socksPort : UInt16) : RouteAssignmentV1 := .ofKind guardianRouteKindChain appId chainId 0 socksPort

structure KillSwitchV1 where
  version : UInt32
  mode : UInt32
  vpnInterfaceLuid : UInt64

def KillSwitchV1.bytes (k : KillSwitchV1) : List UInt8 :=
  bytesU32 k.version ++ bytesU32 k.mode ++ bytesU64 k.vpnInterfaceLuid

def KillSwitchV1.toKernel (k : KillSwitchV1) : Guardian.KillSwitchV1 where
  version := k.version
  mode := k.mode
  vpnInterfaceLuid := k.vpnInterfaceLuid

def KillSwitchV1.blockAll : KillSwitchV1 := ⟨guardianKillSwitchVersion, 1, 0⟩

def KillSwitchV1.restore : KillSwitchV1 := ⟨guardianKillSwitchVersion, 3, 0⟩

structure DnsConfigV1 where
  version : UInt32
  capabilities : UInt32
  enabled : UInt8
  observeOnly : UInt8
  reserved : Vector UInt8 2
  proxyPort : UInt16
  excludedPidCount : UInt32
  excludedPids : Vector UInt32 16

def DnsConfigV1.bytes (c : DnsConfigV1) : List UInt8 :=
  bytesU32 c.version ++ bytesU32 c.capabilities ++ [c.enabled] ++ [c.observeOnly] ++
    c.reserved.toList ++ bytesU16 c.proxyPort ++ bytesU32 c.excludedPidCount ++
    bytesU32s c.excludedPids

def DnsConfigV1.toKernel (c : DnsConfigV1) : Guardian.DnsConfigV1 where
  version := c.version
  capabilities := c.capabilities
  enabled := c.enabled
  observeOnly := c.observeOnly
  reserved := c.reserved
  proxyPort := c.proxyPort
  excludedPidCount := c.excludedPidCount
  excludedPids := c.excludedPids

/-! ## Received -/

structure DriverStateV1 where
  version : UInt32
  versionMajor : UInt32
  versionMinor : UInt32
  versionPatch : UInt32
  buildStamp : UInt32
  lifecycleState : UInt32
  calloutsRegistered : UInt32
  filterCount : UInt32
  recoveryGeneration : UInt32
  killSwitchMode : UInt32
  lastError : Int32
  guardianMode : UInt32
  reserved : Vector UInt8 12

/-- `size_of::<GuardianDriverStateV1>()` -/
def DriverStateV1.size : Nat := 12 * 4 + 12

def DriverStateV1.read (m : Memory) : DriverStateV1 where
  version := readU32 m 0
  versionMajor := readU32 m 4
  versionMinor := readU32 m 8
  versionPatch := readU32 m 12
  buildStamp := readU32 m 16
  lifecycleState := readU32 m 20
  calloutsRegistered := readU32 m 24
  filterCount := readU32 m 28
  recoveryGeneration := readU32 m 32
  killSwitchMode := readU32 m 36
  lastError := (readU32 m 40).toInt32
  guardianMode := readU32 m 44
  reserved := readU8s m 48 12

def DriverStateV1.ofKernel (s : Guardian.DriverStateV1) : DriverStateV1 where
  version := s.version
  versionMajor := s.versionMajor
  versionMinor := s.versionMinor
  versionPatch := s.versionPatch
  buildStamp := s.buildStamp
  lifecycleState := s.lifecycleState
  calloutsRegistered := s.calloutsRegistered
  filterCount := s.filterCount
  recoveryGeneration := s.recoveryGeneration
  killSwitchMode := s.killSwitchMode
  lastError := s.lastError.toInt32
  guardianMode := s.guardianMode
  reserved := s.reserved

structure TelemetryV1 where
  version : UInt32
  classifyCount : UInt64
  blockCount : UInt64
  routeCount : UInt64
  permitCount : UInt64
  observeCount : UInt64
  errorCount : UInt64
  dnsObserveCount : UInt64
  avgClassifyLatency100ns : UInt64
  maxClassifyLatency100ns : UInt64

/-- `size_of::<GuardianTelemetryV1>()` -/
def TelemetryV1.size : Nat := 4 + 9 * 8

def TelemetryV1.read (m : Memory) : TelemetryV1 where
  version := readU32 m 0
  classifyCount := readU64 m 4
  blockCount := readU64 m 12
  routeCount := readU64 m 20
  permitCount := readU64 m 28
  observeCount := readU64 m 36
  errorCount := readU64 m 44
  dnsObserveCount := readU64 m 52
  avgClassifyLatency100ns := readU64 m 60
  maxClassifyLatency100ns := readU64 m 68

def TelemetryV1.ofKernel (t : Guardian.TelemetryV1) : TelemetryV1 where
  version := t.version
  classifyCount := t.classifyCount
  blockCount := t.blockCount
  routeCount := t.routeCount
  permitCount := t.permitCount
  observeCount := t.observeCount
  errorCount := t.errorCount
  dnsObserveCount := t.dnsObserveCount
  avgClassifyLatency100ns := t.avgClassifyLatency100ns
  maxClassifyLatency100ns := t.maxClassifyLatency100ns

structure PerfStatsV1 where
  version : UInt32
  ipcDispatchCount : UInt64
  ipcRejectCount : UInt64
  avgIpcLatency100ns : UInt64
  maxIpcLatency100ns : UInt64
  deferredWorkCount : UInt64
  activePolicyCount : UInt32
  activeRouteCount : UInt32

/-- `size_of::<GuardianPerfStatsV1>()` -/
def PerfStatsV1.size : Nat := 4 + 5 * 8 + 2 * 4

def PerfStatsV1.read (m : Memory) : PerfStatsV1 where
  version := readU32 m 0
  ipcDispatchCount := readU64 m 4
  ipcRejectCount := readU64 m 12
  avgIpcLatency100ns := readU64 m 20
  maxIpcLatency100ns := readU64 m 28
  deferredWorkCount := readU64 m 36
  activePolicyCount := readU32 m 44
  activeRouteCount := readU32 m 48

def PerfStatsV1.ofKernel (p : Guardian.PerfStatsV1) : PerfStatsV1 where
  version := p.version
  ipcDispatchCount := p.ipcDispatchCount
  ipcRejectCount := p.ipcRejectCount
  avgIpcLatency100ns := p.avgIpcLatency100ns
  maxIpcLatency100ns := p.maxIpcLatency100ns
  deferredWorkCount := p.deferredWorkCount
  activePolicyCount := p.activePolicyCount
  activeRouteCount := p.activeRouteCount

structure StateBlobHeaderV1 where
  version : UInt32
  policyCount : UInt32
  routeCount : UInt32
  killSwitchMode : UInt32
  recoveryGeneration : UInt32
  reserved : UInt32

/-- `size_of::<GuardianStateBlobHeaderV1>()` -/
def StateBlobHeaderV1.size : Nat := 6 * 4

def StateBlobHeaderV1.read (m : Memory) : StateBlobHeaderV1 where
  version := readU32 m 0
  policyCount := readU32 m 4
  routeCount := readU32 m 8
  killSwitchMode := readU32 m 12
  recoveryGeneration := readU32 m 16
  reserved := readU32 m 20

def StateBlobHeaderV1.ofKernel (h : Guardian.StateBlobHeaderV1) : StateBlobHeaderV1 where
  version := h.version
  policyCount := h.policyCount
  routeCount := h.routeCount
  killSwitchMode := h.killSwitchMode
  recoveryGeneration := h.recoveryGeneration
  reserved := h.reserved

structure ReconcileResponseV1 where
  version : UInt32
  removedOrphans : UInt32
  recoveryGeneration : UInt32
  recoveryStatus : UInt32

/-- `size_of::<GuardianReconcileResponseV1>()` -/
def ReconcileResponseV1.size : Nat := 4 * 4

def ReconcileResponseV1.read (m : Memory) : ReconcileResponseV1 where
  version := readU32 m 0
  removedOrphans := readU32 m 4
  recoveryGeneration := readU32 m 8
  recoveryStatus := readU32 m 12

def ReconcileResponseV1.ofKernel (r : Guardian.ReconcileResponseV1) : ReconcileResponseV1 where
  version := r.version
  removedOrphans := r.removedOrphans
  recoveryGeneration := r.recoveryGeneration
  recoveryStatus := r.recoveryStatus

end Guardian.Client
