import Guardian.Driver.Managers

/-!
# IOCTL validation and dispatch (`ioctl_dispatch.c`)

* `IoctlRequest` : a request and what the system answers while it is served;
* `validateIoctlBuffer` : `GuardianValidateIoctlBuffer`, with `*requiredOutput`; `requireInput` and
  `requireSync` are its two length rules, `validateIoctlBuffer_success` what acceptance means;
* `ioctlHandler` : the `switch` of `GuardianEvtIoDeviceControl`;
* `evtIoDeviceControl` : the whole callback, up to the completion of the request;
* `served_cases` : a request is `Admitted` and its handler runs, or it leaves early;
* `ioctlHandler_frame`, `evtIoDeviceControl_telemetry` : what handlers write, what a request records.

The memory from the input buffer's address on is total: beyond `InputBufferLength` it holds whatever
lies behind the buffer.
-/

namespace Guardian
open Bytes

structure IoctlRequest where
  ioControlCode : UInt32
  inputBufferLength : Nat
  outputBufferLength : Nat
  /-- The memory from the address of the input buffer on. -/
  inputMemory : Memory
  caller : Caller
  retrieveInputBuffer : NTSTATUS
  retrieveOutputBuffer : NTSTATUS
  /-- Whether the `i`-th pool allocation of the request succeeds. -/
  alloc : Nat → Bool
  ndisPoll : NdisPoll
  start : PerformanceCounter
  stop : PerformanceCounter

/-- The structure written through the output buffer. -/
inductive Output where
  | driverState (value : DriverStateV1)
  | telemetry (value : TelemetryV1)
  | stateBlob (value : StateBlobHeaderV1)
  | reconcile (value : ReconcileResponseV1)
  | perfStats (value : PerfStatsV1)
  | dnsStats (value : DnsStatsV1)
  deriving DecidableEq

/-! ## Validation -/

/-- `PolicyCount` or `RouteCount` of a sync header. -/
def syncCount (input : Memory) : UInt32 := readU32 input 4

/-- `inputBuffer == NULL || inputLength < size` is refused; `*requiredOutput` is `0`. -/
def requireInput (inputLength : Nat) (inputBuffer : Option Memory) (size : Nat) : NTSTATUS × Nat :=
  if inputBuffer.isNone || inputLength < size then (statusInvalidParameter, 0)
  else (statusSuccess, 0)

/-- A Sync needs its header, and a count up to `maxCount`. -/
def requireSync (inputLength : Nat) (inputBuffer : Option Memory) (maxCount : Nat) : NTSTATUS × Nat :=
  match inputBuffer with
  | none => (statusInvalidParameter, 0)
  | some input =>
    if inputLength < 4 * 2 then (statusInvalidParameter, 0)
    else if (syncCount input).toNat > maxCount then (statusInvalidParameter, 0)
    else (statusSuccess, 0)

/-- The `switch` of the validation. -/
def validateIoctlCode (code : IoctlCode) (inputLength outputLength : Nat)
    (inputBuffer : Option Memory) : NTSTATUS × Nat :=
  match code with
  | .getDriverState => (statusSuccess, DriverStateV1.size)
  | .setAppPolicy => requireInput inputLength inputBuffer AppPolicyV1.size
  | .syncPolicies => requireSync inputLength inputBuffer maxSyncPolicies
  | .setRoute => requireInput inputLength inputBuffer RouteAssignmentV1.size
  | .clearRoute => requireInput inputLength inputBuffer 16
  | .syncRoutes => requireSync inputLength inputBuffer maxSyncRoutes
  | .setKillSwitch => requireInput inputLength inputBuffer KillSwitchV1.size
  | .getTelemetry => (statusSuccess, TelemetryV1.size)
  | .exportState => (statusSuccess, StateBlobHeaderV1.size)
  | .importState => requireInput inputLength inputBuffer StateBlobHeaderV1.size
  | .reconcile =>
    if outputLength < ReconcileResponseV1.size then (statusBufferTooSmall, 0)
    else (statusSuccess, ReconcileResponseV1.size)
  | .dnsSetConfig => requireInput inputLength inputBuffer DnsConfigV1.size
  | .getPerfStats => (statusSuccess, PerfStatsV1.size)
  | .getDnsStats => (statusSuccess, DnsStatsV1.size)
  | .setGuardianMode => requireInput inputLength inputBuffer 4

/-- The status and `*requiredOutput`; `inputBuffer = none` is `NULL`. -/
def validateIoctlBuffer (ioControlCode : UInt32) (inputLength outputLength : Nat)
    (inputBuffer : Option Memory) : NTSTATUS × Nat :=
  if inputLength > maxIoctlBuffer ∨ outputLength > maxIoctlBuffer then (statusInvalidBufferSize, 0)
  else
    match IoctlCode.ofUInt32 ioControlCode with
    | some code => validateIoctlCode code inputLength outputLength inputBuffer
    | none => (statusInvalidDeviceRequest, 0)

theorem requireInput_success {inputLength : Nat} {inputBuffer : Option Memory} {size : Nat}
    (h : ntSuccess (requireInput inputLength inputBuffer size).1 = true) :
    inputBuffer.isSome = true ∧ size ≤ inputLength := by
  unfold requireInput at h
  split at h
  · cases h
  · next hc => simpa [Option.isSome_iff_ne_none] using hc

theorem requireSync_success {inputLength : Nat} {inputBuffer : Option Memory} {maxCount : Nat}
    (h : ntSuccess (requireSync inputLength inputBuffer maxCount).1 = true) :
    ∃ input, inputBuffer = some input ∧ syncHeaderSize ≤ inputLength ∧
      (syncCount input).toNat ≤ maxCount := by
  cases inputBuffer with
  | none => cases h
  | some input =>
    unfold requireSync at h
    simp only at h
    split at h
    · cases h
    · next hlen =>
      split at h
      · cases h
      · next hcount => exact ⟨input, rfl, Nat.not_lt.mp hlen, Nat.not_lt.mp hcount⟩

theorem validateIoctlBuffer_eq {ioControlCode : UInt32} {inputLength outputLength : Nat}
    {inputBuffer : Option Memory} {code : IoctlCode}
    (hc : IoctlCode.ofUInt32 ioControlCode = some code)
    (h : ntSuccess (validateIoctlBuffer ioControlCode inputLength outputLength inputBuffer).1 =
      true) : validateIoctlBuffer ioControlCode inputLength outputLength inputBuffer =
        validateIoctlCode code inputLength outputLength inputBuffer := by
  unfold validateIoctlBuffer at h ⊢
  split at h
  · cases h
  · next hlen => rw [if_neg hlen, hc]

theorem validateIoctlBuffer_success {ioControlCode : UInt32} {inputLength outputLength : Nat}
    {inputBuffer : Option Memory} {code : IoctlCode}
    (hc : IoctlCode.ofUInt32 ioControlCode = some code)
    (h : ntSuccess (validateIoctlBuffer ioControlCode inputLength outputLength inputBuffer).1 =
      true) : ntSuccess (validateIoctlCode code inputLength outputLength inputBuffer).1 = true := by
  rwa [validateIoctlBuffer_eq hc h] at h

theorem validateIoctlBuffer_length {ioControlCode : UInt32} {inputLength outputLength : Nat}
    {inputBuffer : Option Memory}
    (h : ntSuccess (validateIoctlBuffer ioControlCode inputLength outputLength inputBuffer).1 =
      true) : inputLength ≤ maxIoctlBuffer ∧ outputLength ≤ maxIoctlBuffer := by
  unfold validateIoctlBuffer at h
  split at h
  · cases h
  · omega

theorem validateIoctlBuffer_code {ioControlCode : UInt32} {inputLength outputLength : Nat}
    {inputBuffer : Option Memory}
    (h : ntSuccess (validateIoctlBuffer ioControlCode inputLength outputLength inputBuffer).1 =
      true) : ∃ code, IoctlCode.ofUInt32 ioControlCode = some code := by
  unfold validateIoctlBuffer at h
  split at h
  · cases h
  · cases hc : IoctlCode.ofUInt32 ioControlCode with
    | some code => exact ⟨code, rfl⟩
    | none =>
      rw [hc] at h
      cases h

/-! ## Handlers -/

/-- What the handler of a request leaves at the label `Complete`. -/
structure Served where
  status : NTSTATUS
  bytesReturned : Nat
  output : Option Output
  globals : Globals

/-- `Policies` of a `GUARDIAN_SYNC_POLICIES_V1` at the buffer, `count` elements. -/
def syncPolicies (input : Memory) (count : UInt32) : List AppPolicyV1 :=
  (List.range count.toNat).map fun i => AppPolicyV1.read input (syncHeaderSize + AppPolicyV1.size * i)

/-- `Routes` of a `GUARDIAN_SYNC_ROUTES_V1` at the buffer, `count` elements. -/
def syncRoutes (input : Memory) (count : UInt32) : List RouteAssignmentV1 :=
  (List.range count.toNat).map fun i =>
    RouteAssignmentV1.read input (syncHeaderSize + RouteAssignmentV1.size * i)

/-- Store a `UINT32` through the address of a `size_t`: the low half is replaced. -/
def storeLow32 (old : Nat) (value : UInt32) : Nat := old / 2 ^ 32 * 2 ^ 32 + value.toNat

/-- `outputBuffer` tells whether the output pointer is non-`NULL`. -/
def ioctlHandler (code : IoctlCode) (rq : IoctlRequest) (inputBuffer : Option Memory)
    (outputBuffer : Bool) (g : Globals) : Served :=
  match code with
  | .getDriverState =>
    ⟨statusSuccess, DriverStateV1.size, some (.driverState g.driverState), g⟩
  | .setAppPolicy =>
    let (status, policy) := appPolicySet (inputBuffer.map (AppPolicyV1.read · 0)) (rq.alloc 0) g.policy
    ⟨status, 0, none, { g with policy := policy }⟩
  | .syncPolicies =>
    let (status, policy) := appPolicySync
      (inputBuffer.map fun input => syncPolicies input (syncCount input)) rq.alloc g.policy
    ⟨status, 0, none, { g with policy := policy }⟩
  | .setRoute =>
    let (status, route) := routeSet (inputBuffer.map (RouteAssignmentV1.read · 0)) (rq.alloc 0) g.route
    ⟨status, 0, none, { g with route := route }⟩
  | .clearRoute =>
    match inputBuffer with
    | none => ⟨statusInvalidParameter, 0, none, g⟩ -- never reached: the validation asks for 16 bytes
    | some input =>
      let (status, route) := routeClear (readU8s input 0 16) g.route
      ⟨status, 0, none, { g with route := route }⟩
  | .syncRoutes =>
    let (status, route) := routeSync
      (inputBuffer.map fun input => syncRoutes input (syncCount input)) rq.alloc g.route
    ⟨status, 0, none, { g with route := route }⟩
  | .setKillSwitch =>
    let (status, killSwitch) := killSwitchSet (inputBuffer.map (KillSwitchV1.read · 0)) g.killSwitch
    let g := { g with killSwitch := killSwitch }
    let g := if ntSuccess status then
        { g with driverState := { g.driverState with
          killSwitchMode := (killSwitchGetMode g.killSwitch).toUInt32 } }
      else g
    ⟨status, 0, none, g⟩
  | .getTelemetry =>
    ⟨statusSuccess, TelemetryV1.size, some (.telemetry (telemetryGet g.telemetry)), g⟩
  | .exportState =>
    match stateManagerExport outputBuffer (UInt32.ofNat rq.outputBufferLength) g with
    | (status, some (header, written)) =>
      ⟨status, storeLow32 0 written, some (.stateBlob header), g⟩
    | (status, none) => ⟨status, 0, none, g⟩
  | .importState =>
    let (status, g) := stateManagerImport (inputBuffer.map (StateBlobHeaderV1.read · 0))
      (UInt32.ofNat rq.inputBufferLength) g
    ⟨status, 0, none, g⟩
  | .reconcile =>
    let knownCount := match inputBuffer with
      | some input => readU32 input 4
      | none => 0
    match recoveryReconcile knownCount outputBuffer g with
    | (status, response) =>
      ⟨status, if ntSuccess status then ReconcileResponseV1.size else 0,
        response.map Output.reconcile, g⟩
  | .dnsSetConfig =>
    let (status, dns) := dnsLayerSetConfig (inputBuffer.map (DnsConfigV1.read · 0)) g.dns
    ⟨status, 0, none, { g with dns := dns }⟩
  | .getPerfStats =>
    ⟨statusSuccess, PerfStatsV1.size, some (.perfStats (perfStatsGet
      (appPolicyActiveCount g.policy) (routeActiveCount g.route) g.telemetry)), g⟩
  | .getDnsStats =>
    ⟨statusSuccess, DnsStatsV1.size, some (.dnsStats (dnsLayerGetStats g.dns)), g⟩
  | .setGuardianMode =>
    match inputBuffer with
    | none => ⟨statusInvalidParameter, 0, none, g⟩ -- never reached: the validation asks for 4 bytes
    | some input =>
      let (status, g) := hybridSetMode (readU32 input 0) rq.ndisPoll g
      ⟨status, 0, none, g⟩

/-! ## The callback -/

/-- The input pointer after retrieval. -/
def IoctlRequest.inputBuffer (rq : IoctlRequest) : Option Memory :=
  if rq.inputBufferLength > 0 then some rq.inputMemory else none

/-- The output pointer after retrieval is non-`NULL`. -/
def IoctlRequest.outputBuffer (rq : IoctlRequest) : Bool := rq.outputBufferLength > 0

/-- `goto Complete` with a failing status. -/
def Served.early (status : NTSTATUS) (g : Globals) : Served := ⟨status, 0, none, g⟩

/-- The callback up to the label `Complete`. -/
def served (rq : IoctlRequest) (g : Globals) : Served :=
  let (status, pid) := securityPolicyVerifyCaller (some rq.caller) g.allowedServicePid
  let g := { g with allowedServicePid := pid }
  if !ntSuccess status then .early status g
  else if rq.inputBufferLength > 0 ∧ ntSuccess rq.retrieveInputBuffer = false then
    .early rq.retrieveInputBuffer g
  else if rq.outputBufferLength > 0 ∧ ntSuccess rq.retrieveOutputBuffer = false then
    .early rq.retrieveOutputBuffer g
  else
    let (status, requiredOutput) := validateIoctlBuffer rq.ioControlCode rq.inputBufferLength
      rq.outputBufferLength rq.inputBuffer
    if !ntSuccess status then .early status g
    else if requiredOutput > rq.outputBufferLength then .early statusBufferTooSmall g
    else
      match IoctlCode.ofUInt32 rq.ioControlCode with
      | some code => ioctlHandler code rq rq.inputBuffer rq.outputBuffer g
      | none => .early statusInvalidDeviceRequest g

/-- The completion of a request: `WdfRequestCompleteWithInformation` and the output bytes. -/
structure Completion where
  status : NTSTATUS
  information : Nat
  output : Option Output
  deriving DecidableEq

def evtIoDeviceControl (rq : IoctlRequest) (g : Globals) : Completion × Globals :=
  let start := rq.start.quadPart
  let s := served rq g
  let stop := rq.stop.quadPart
  (⟨s.status, s.bytesReturned, s.output⟩,
    { s.globals with
      telemetry := perfRecordIpc (!ntSuccess s.status) (stop - start) s.globals.telemetry })

/-! ## What a request can do -/

/-- The request gets as far as its handler. -/
structure Admitted (rq : IoctlRequest) (g : Globals) : Prop where
  caller : ntSuccess (securityPolicyVerifyCaller (some rq.caller) g.allowedServicePid).1 = true
  input : rq.inputBufferLength > 0 → ntSuccess rq.retrieveInputBuffer = true
  output : rq.outputBufferLength > 0 → ntSuccess rq.retrieveOutputBuffer = true
  validated : ntSuccess (validateIoctlBuffer rq.ioControlCode rq.inputBufferLength
    rq.outputBufferLength rq.inputBuffer).1 = true
  outputFits : (validateIoctlBuffer rq.ioControlCode rq.inputBufferLength
    rq.outputBufferLength rq.inputBuffer).2 ≤ rq.outputBufferLength

/-- The state after the caller check, which may pin the caller. -/
def callerChecked (rq : IoctlRequest) (g : Globals) : Globals :=
  { g with
    allowedServicePid := (securityPolicyVerifyCaller (some rq.caller) g.allowedServicePid).2 }

/-- What the handlers can write. -/
theorem ioctlHandler_frame (code : IoctlCode) (rq : IoctlRequest) (input : Option Memory)
    (out : Bool) (g : Globals) :
    ∃ p r k d h n state, (ioctlHandler code rq input out g).globals = { g with
      policy := p
      route := r
      killSwitch := k
      dns := d
      hybrid := h
      recoveryGeneration := n
      driverState := state } := by
  cases code with
  | setKillSwitch =>
    simp only [ioctlHandler]
    split <;> exact ⟨_, _, _, _, _, _, _, rfl⟩
  | exportState =>
    simp only [ioctlHandler]
    split <;> exact ⟨_, _, _, _, _, _, _, rfl⟩
  | importState =>
    obtain ⟨r, state, heq⟩ := stateManagerImport_frame
      (input.map (StateBlobHeaderV1.read · 0)) (UInt32.ofNat rq.inputBufferLength) g
    simp only [ioctlHandler, heq]
    exact ⟨_, _, _, _, _, _, _, rfl⟩
  | setGuardianMode =>
    cases input with
    | none => exact ⟨_, _, _, _, _, _, _, rfl⟩
    | some input =>
      obtain ⟨h, m, n, hf⟩ := hybridSetMode_frame (readU32 input 0) rq.ndisPoll g
      simp only [ioctlHandler, hf]
      exact ⟨_, _, _, _, _, _, _, rfl⟩
  | clearRoute => cases input <;> exact ⟨_, _, _, _, _, _, _, rfl⟩
  | _ => exact ⟨_, _, _, _, _, _, _, rfl⟩

/-- An admitted request is served by the handler of its code, every other one leaves early with a
failing status. -/
theorem served_cases (rq : IoctlRequest) (g : Globals) :
    (¬ Admitted rq g ∧ ∃ status, ntSuccess status = false ∧
      served rq g = .early status (callerChecked rq g)) ∨
    (Admitted rq g ∧ ∃ code, IoctlCode.ofUInt32 rq.ioControlCode = some code ∧
      served rq g = ioctlHandler code rq rq.inputBuffer rq.outputBuffer (callerChecked rq g)) := by
  unfold served
  simp only
  split
  · next h =>
    exact Or.inl ⟨fun ha => by simp [ha.caller] at h, _, by simpa using h, rfl⟩
  · next hcaller =>
    split
    · next h => exact Or.inl ⟨fun ha => by simp [ha.input h.1] at h, _, h.2, rfl⟩
    · next hin =>
      split
      · next h => exact Or.inl ⟨fun ha => by simp [ha.output h.1] at h, _, h.2, rfl⟩
      · next hout =>
        split
        · next h => exact Or.inl ⟨fun ha => by simp [ha.validated] at h, _, by simpa using h, rfl⟩
        · next hv =>
          split
          · next h => exact Or.inl ⟨fun ha => absurd ha.outputFits (by omega), _, rfl, rfl⟩
          · next hfits =>
            have hv' : ntSuccess (validateIoctlBuffer rq.ioControlCode rq.inputBufferLength
                rq.outputBufferLength rq.inputBuffer).1 = true := by simpa using hv
            obtain ⟨code, hc⟩ := validateIoctlBuffer_code hv'
            refine Or.inr ⟨⟨by simpa using hcaller, fun h => ?_, fun h => ?_, hv', by omega⟩,
              code, hc, ?_⟩
            · simpa [h] using hin
            · simpa [h] using hout
            · rw [hc]
              rfl

theorem served_frame (rq : IoctlRequest) (g : Globals) :
    ∃ p r k d h n state, (served rq g).globals = { callerChecked rq g with
      policy := p
      route := r
      killSwitch := k
      dns := d
      hybrid := h
      recoveryGeneration := n
      driverState := state } := by
  rcases served_cases rq g with ⟨-, status, -, hs⟩ | ⟨-, code, -, hs⟩
  · rw [hs]
    exact ⟨_, _, _, _, _, _, _, rfl⟩
  · rw [hs]
    exact ioctlHandler_frame code rq rq.inputBuffer rq.outputBuffer (callerChecked rq g)

theorem served_telemetry (rq : IoctlRequest) (g : Globals) :
    (served rq g).globals.telemetry = g.telemetry := by
  obtain ⟨p, r, k, d, h, n, state, hf⟩ := served_frame rq g
  rw [hf]
  rfl

/-- A request is recorded once, with the status and the counter readings of its completion. -/
theorem evtIoDeviceControl_telemetry (rq : IoctlRequest) (g : Globals) :
    (evtIoDeviceControl rq g).2.telemetry =
      perfRecordIpc (!ntSuccess (evtIoDeviceControl rq g).1.status)
        (rq.stop.quadPart - rq.start.quadPart) g.telemetry := by
  show perfRecordIpc _ _ (served rq g).globals.telemetry = _
  rw [served_telemetry]
  rfl

end Guardian
