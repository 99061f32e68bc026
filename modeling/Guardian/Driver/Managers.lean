import Guardian.Driver.Globals

/-!
# State manager, recovery, hybrid coordinator and caller verification

The modules that write more than their own statics: `guardian_state_mgr.c`, `recovery.c`,
`filters.c`, `security.c` and the registration half of `manager.c`.
-/

namespace Guardian

/-! ## State manager (`guardian_state_mgr.c`) -/

def stateManagerInitialize (g : Globals) : NTSTATUS × Globals :=
  (statusSuccess, { g with
    policy := appPolicyInitialize g.policy
    route := routeInitialize g.route
    recoveryGeneration := 0
    filterCount := 0 })

def stateManagerShutdown (g : Globals) : Globals :=
  { g with route := routeShutdown g.route, policy := appPolicyShutdown g.policy }

/-- The header written to the buffer, with the value of `*bytesWritten`; `buffer` tells whether
the buffer pointer is non-`NULL`. -/
def stateManagerExport (buffer : Bool) (bufferBytes : UInt32) (g : Globals) :
    NTSTATUS × Option (StateBlobHeaderV1 × UInt32) :=
  if !buffer then (statusInvalidParameter, none)
  else if bufferBytes.toNat < StateBlobHeaderV1.size then (statusBufferTooSmall, none)
  else
    (statusSuccess, some (
      { version := stateBlobVersion
        policyCount := appPolicyActiveCount g.policy
        routeCount := routeActiveCount g.route
        killSwitchMode := (killSwitchGetMode g.killSwitch).toUInt32
        recoveryGeneration := g.recoveryGeneration
        reserved := 0 },
      UInt32.ofNat StateBlobHeaderV1.size))

/-- `header` is the structure at the buffer pointer; `none` is `NULL`. -/
def stateManagerImport (header : Option StateBlobHeaderV1) (bufferBytes : UInt32) (g : Globals) :
    NTSTATUS × Globals :=
  match header with
  | none => (statusInvalidParameter, g)
  | some header =>
    if bufferBytes.toNat < StateBlobHeaderV1.size then (statusInvalidParameter, g)
    else if header.version ≠ stateBlobVersion then (statusInvalidParameter, g)
    else
      (statusSuccess, { g with
        recoveryGeneration := header.recoveryGeneration
        driverState := { g.driverState with
          recoveryGeneration := header.recoveryGeneration
          killSwitchMode := header.killSwitchMode } })

/-- An import takes a blob of the supported version, writing the generation twice and the mirrored
mode, and refuses every other one without effect. -/
theorem stateManagerImport_eq (header : StateBlobHeaderV1) {bytes : UInt32}
    (hbytes : StateBlobHeaderV1.size ≤ bytes.toNat) (g : Globals) :
    stateManagerImport (some header) bytes g =
      if header.version = stateBlobVersion then
        (statusSuccess, { g with
          recoveryGeneration := header.recoveryGeneration
          driverState := { g.driverState with
            recoveryGeneration := header.recoveryGeneration
            killSwitchMode := header.killSwitchMode } })
      else (statusInvalidParameter, g) := by
  unfold stateManagerImport
  simp only
  rw [if_neg (by omega)]
  by_cases hv : header.version = stateBlobVersion
  · rw [if_neg (not_not.mpr hv), if_pos hv]
  · rw [if_pos hv, if_neg hv]

theorem stateManagerImport_frame (header : Option StateBlobHeaderV1) (bytes : UInt32)
    (g : Globals) : ∃ r state, (stateManagerImport header bytes g).2 =
      { g with recoveryGeneration := r, driverState := state } := by
  cases header with
  | none => exact ⟨g.recoveryGeneration, g.driverState, rfl⟩
  | some header =>
    unfold stateManagerImport
    simp only
    split
    · exact ⟨g.recoveryGeneration, g.driverState, rfl⟩
    · split
      · exact ⟨g.recoveryGeneration, g.driverState, rfl⟩
      · exact ⟨_, _, rfl⟩

theorem stateManagerImport_failed {header : Option StateBlobHeaderV1} {bytes : UInt32}
    {g : Globals} (h : ntSuccess (stateManagerImport header bytes g).1 = false) :
    (stateManagerImport header bytes g).2 = g := by
  unfold stateManagerImport at h ⊢
  cases header with
  | none => rfl
  | some header =>
    simp only at h ⊢
    split at h
    · next hb => rw [if_pos hb]
    · next hb =>
      split at h
      · next hv => rw [if_neg hb, if_pos hv]
      · cases h

def stateManagerRecoveryGeneration (g : Globals) : UInt32 := g.recoveryGeneration

def stateManagerSetRecoveryGeneration (generation : UInt32) (g : Globals) : Globals :=
  { g with
    recoveryGeneration := generation
    driverState := { g.driverState with recoveryGeneration := generation } }

def stateManagerFilterCount (g : Globals) : UInt32 := g.filterCount

/-! ## Recovery (`recovery.c`) -/

def recoveryManagerInitialize (g : Globals) : NTSTATUS × Globals :=
  (statusSuccess, { g with recoveryStatus := recoveryStatusOk })

def recoveryManagerBegin (g : Globals) : NTSTATUS × Globals :=
  let generation := stateManagerRecoveryGeneration g + 1
  let g := stateManagerSetRecoveryGeneration generation g
  (statusSuccess, { g with
    driverState := { g.driverState with recoveryGeneration := generation }
    recoveryStatus := recoveryStatusOk })

/-- `response` tells whether the response pointer is non-`NULL`; the known filter ids and their
number are ignored. -/
def recoveryReconcile (_knownCount : UInt32) (response : Bool) (g : Globals) :
    NTSTATUS × Option ReconcileResponseV1 :=
  if !response then (statusInvalidParameter, none)
  else
    (statusSuccess, some {
      version := 1
      removedOrphans := 0
      recoveryGeneration := stateManagerRecoveryGeneration g
      recoveryStatus := g.recoveryStatus })

/-! ## Hybrid coordinator (`filters.c`) -/

/-- What the NDIS driver answers to one poll. -/
structure NdisPoll where
  createStatus : NTSTATUS
  ioctlStatus : NTSTATUS
  filterAttached : UInt32

/-- The status and `*filterCount`. -/
def ndisQueryFilterCountViaIoctl (poll : NdisPoll) : NTSTATUS × UInt32 :=
  if !ntSuccess poll.createStatus then (poll.createStatus, 0)
  else if !ntSuccess poll.ioctlStatus then (poll.ioctlStatus, 0)
  else (statusSuccess, poll.filterAttached)

def hybridGetCombinedFilterCount (g : Globals) : UInt32 :=
  let wfpCount := stateManagerFilterCount g
  match g.hybrid.mode with
  | .hybrid => wfpCount + g.hybrid.ndisFilterCount
  | .ndis => g.hybrid.ndisFilterCount
  | .wfp => wfpCount

/-- `g_GuardianDriverState.FilterCount = GuardianHybridGetCombinedFilterCount()` -/
def refreshFilterCount (g : Globals) : Globals :=
  { g with driverState := { g.driverState with filterCount := hybridGetCombinedFilterCount g } }

def hybridPollNdisState (poll : NdisPoll) (g : Globals) : NTSTATUS × Globals :=
  let (status, polledCount) := ndisQueryFilterCountViaIoctl poll
  let hybrid := if ntSuccess status then { g.hybrid with ndisFilterCount := polledCount }
    else g.hybrid
  let hybrid := { hybrid with ndisPollGeneration := hybrid.ndisPollGeneration + 1 }
  (status, refreshFilterCount { g with hybrid := hybrid })

def hybridSetNdisFilterCount (filterCount : UInt32) (g : Globals) : Globals :=
  refreshFilterCount { g with hybrid := { g.hybrid with ndisFilterCount := filterCount } }

def filtersInitialize : NTSTATUS := statusSuccess

def hybridCoordinatorInitialize (poll : NdisPoll) (g : Globals) : NTSTATUS × Globals :=
  if !ntSuccess filtersInitialize then (filtersInitialize, g)
  else
    let g := { g with hybrid := { g.hybrid with coordinatorActive := true } }
    let (_, g) := hybridPollNdisState poll g
    (statusSuccess, refreshFilterCount g)

def hybridCoordinatorShutdown (g : Globals) : Globals :=
  if !g.hybrid.coordinatorActive then g
  else { g with hybrid := { g.hybrid with coordinatorActive := false } }

/-- `GuardianHybridSetMode` from the assignment of `g_GuardianMode` on. -/
def hybridEnterMode (mode : Mode) (poll : NdisPoll) (g : Globals) : NTSTATUS × Globals :=
  let g := { g with
    hybrid := { g.hybrid with mode := mode }
    driverState := { g.driverState with guardianMode := mode.toUInt32 } }
  if mode = .hybrid ∧ g.hybrid.coordinatorActive = false then hybridCoordinatorInitialize poll g
  else
    let g := if mode = .ndis then (hybridPollNdisState poll g).2 else g
    (statusSuccess, refreshFilterCount g)

/-- The mode is any 32-bit value; one beyond `GuardianModeHybrid` is not valid. -/
def hybridSetMode (mode : UInt32) (poll : NdisPoll) (g : Globals) : NTSTATUS × Globals :=
  match Mode.ofUInt32 mode with
  | none => (statusInvalidParameter, g)
  | some mode =>
    hybridEnterMode mode poll
      (if g.hybrid.coordinatorActive ∧ mode ≠ .hybrid then hybridCoordinatorShutdown g else g)

theorem hybridCoordinatorShutdown_eq (g : Globals) : hybridCoordinatorShutdown g =
    { g with hybrid := { g.hybrid with coordinatorActive := false } } := by
  unfold hybridCoordinatorShutdown
  by_cases ha : g.hybrid.coordinatorActive = true
  · rw [ha]
    rfl
  · rw [if_pos (by simpa using ha), ← (Bool.not_eq_true _).mp ha]

theorem hybridCoordinatorShutdown_frame (g : Globals) :
    ∃ h, hybridCoordinatorShutdown g = { g with hybrid := h } :=
  ⟨_, hybridCoordinatorShutdown_eq g⟩

theorem hybridEnterMode_frame (mode : Mode) (poll : NdisPoll) (g : Globals) :
    (hybridEnterMode mode poll g).1 = statusSuccess ∧
      ∃ h n, (hybridEnterMode mode poll g).2 = { g with
        hybrid := h
        driverState := { g.driverState with guardianMode := mode.toUInt32, filterCount := n } } := by
  unfold hybridEnterMode
  simp only
  split
  · exact ⟨rfl, _, _, rfl⟩
  · split
    · exact ⟨rfl, _, _, rfl⟩
    · exact ⟨rfl, _, _, rfl⟩

theorem hybridSetMode_frame (mode : UInt32) (poll : NdisPoll) (g : Globals) :
    ∃ h m n, (hybridSetMode mode poll g).2 = { g with
      hybrid := h
      driverState := { g.driverState with guardianMode := m, filterCount := n } } := by
  unfold hybridSetMode
  cases Mode.ofUInt32 mode with
  | none => exact ⟨g.hybrid, g.driverState.guardianMode, g.driverState.filterCount, rfl⟩
  | some mode =>
    simp only
    split
    · obtain ⟨h, hs⟩ := hybridCoordinatorShutdown_frame g
      obtain ⟨-, h', n, he⟩ := hybridEnterMode_frame mode poll (hybridCoordinatorShutdown g)
      exact ⟨h', mode.toUInt32, n, by rw [he, hs]⟩
    · obtain ⟨-, h', n, he⟩ := hybridEnterMode_frame mode poll g
      exact ⟨h', mode.toUInt32, n, he⟩

theorem hybridSetMode_succeeds {mode : UInt32} {m : Mode} (h : Mode.ofUInt32 mode = some m)
    (poll : NdisPoll) (g : Globals) : ntSuccess (hybridSetMode mode poll g).1 = true := by
  unfold hybridSetMode
  simp only [h, (hybridEnterMode_frame m poll _).1, ntSuccess_success]

theorem hybridSetMode_failed {mode : UInt32} {poll : NdisPoll} {g : Globals}
    (h : ntSuccess (hybridSetMode mode poll g).1 = false) : (hybridSetMode mode poll g).2 = g := by
  cases hm : Mode.ofUInt32 mode with
  | none =>
    unfold hybridSetMode
    rw [hm]
  | some m =>
    rw [hybridSetMode_succeeds hm] at h
    cases h

/-! ## Caller verification (`security.c`) -/

/-- What the framework and the process manager tell about the sender of a request. -/
structure Caller where
  /-- `WdfRequestWdmGetIrp` returns an IRP. -/
  irp : Bool
  /-- `IoGetRequestorProcessId`; `0` is `NULL`. -/
  pid : UInt32
  /-- The session of the live process that `PsLookupProcessByProcessId` finds. -/
  lookupProcess : UInt32 → Option UInt32

/-- The status and the pinned process id after it; `caller = none` is a `NULL` request. -/
def securityPolicyVerifyCaller (caller : Option Caller) (allowedServicePid : UInt32) :
    NTSTATUS × UInt32 :=
  match caller with
  | none => (statusSuccess, allowedServicePid)
  | some caller =>
    if !caller.irp then (statusAccessDenied, allowedServicePid)
    else if caller.pid = 0 then (statusAccessDenied, allowedServicePid)
    else
      match caller.lookupProcess caller.pid with
      | none => (statusAccessDenied, allowedServicePid)
      | some callerSession =>
        if allowedServicePid = 0 then (statusSuccess, caller.pid)
        else if caller.pid = allowedServicePid then (statusSuccess, allowedServicePid)
        else
          match caller.lookupProcess allowedServicePid with
          | none => (statusAccessDenied, allowedServicePid)
          | some serviceSession =>
            if callerSession = serviceSession then (statusSuccess, allowedServicePid)
            else (statusAccessDenied, allowedServicePid)

/-- The verification lets the caller through, where `pid` is pinned: its process is alive, and nothing
is pinned, or its own id is, or a process of its session has the pinned id. -/
def Admits (caller : Caller) (pid : UInt32) : Prop :=
  caller.irp = true ∧ caller.pid ≠ 0 ∧ ∃ session, caller.lookupProcess caller.pid = some session ∧
    (pid = 0 ∨ caller.pid = pid ∨ caller.lookupProcess pid = some session)

theorem verifyCaller_admits {caller : Caller} {pid : UInt32} (h : Admits caller pid) :
    securityPolicyVerifyCaller (some caller) pid =
      (statusSuccess, if pid = 0 then caller.pid else pid) := by
  obtain ⟨hirp, hpid, session, hcaller, hpin⟩ := h
  unfold securityPolicyVerifyCaller
  simp only [hirp, hpid, hcaller, Bool.not_true, Bool.false_eq_true, if_false]
  by_cases h0 : pid = 0
  · simp only [h0, if_true]
  · rw [if_neg h0, if_neg h0]
    by_cases hown : caller.pid = pid
    · rw [if_pos hown]
    · rw [if_neg hown]
      simp only [(hpin.resolve_left h0).resolve_left hown, if_true]

theorem verifyCaller_denies {caller : Caller} {pid : UInt32} (h : ¬ Admits caller pid) :
    securityPolicyVerifyCaller (some caller) pid = (statusAccessDenied, pid) := by
  unfold securityPolicyVerifyCaller
  simp only
  split
  · rfl
  · next hirp =>
    split
    · rfl
    · next hpid =>
      cases hcaller : caller.lookupProcess caller.pid with
      | none => rfl
      | some session =>
        have hno : ¬ (pid = 0 ∨ caller.pid = pid ∨ caller.lookupProcess pid = some session) := by
          intro hpin
          exact h ⟨by simpa using hirp, hpid, session, hcaller, hpin⟩
        simp only [not_or] at hno
        simp only [if_neg hno.1, if_neg hno.2.1]
        cases hservice : caller.lookupProcess pid with
        | none => rfl
        | some serviceSession =>
          have hne : session ≠ serviceSession := by
            rintro rfl
            exact hno.2.2 hservice
          simp only [if_neg hne]

/-- The verification succeeds for the callers it admits, and denies the others. -/
theorem ntSuccess_verifyCaller_iff (caller : Caller) (pid : UInt32) :
    ntSuccess (securityPolicyVerifyCaller (some caller) pid).1 = true ↔ Admits caller pid := by
  by_cases h : Admits caller pid
  · simp [verifyCaller_admits h, h]
  · simp [verifyCaller_denies h, h]

/-! ## Callout registration (`manager.c`) -/

/-- `FwpsCalloutRegister1` registers a fresh key where the engine's own status allows it. -/
def fwpsCalloutRegister (status : NTSTATUS) (key : CalloutKey) (engine : List CalloutKey) :
    NTSTATUS × List CalloutKey :=
  if key ∈ engine then (statusFwpAlreadyExists, engine)
  else if ntSuccess status then (status, engine ++ [key])
  else (status, engine)

/-- The registrations in order; the first failing one returns. -/
def calloutRegisterAll (engineStatus : CalloutKey → NTSTATUS) :
    List CalloutKey → CalloutState → NTSTATUS × CalloutState
  | [], s => (statusSuccess, { s with registered := true })
  | key :: keys, s =>
    let (status, engine) := fwpsCalloutRegister (engineStatus key) key s.engine
    if !ntSuccess status then (status, { s with engine := engine })
    else
      calloutRegisterAll engineStatus keys
        { s with engine := engine, registeredCount := s.registeredCount + 1 }

def calloutManagerRegister (engineStatus : CalloutKey → NTSTATUS) (g : Globals) :
    NTSTATUS × Globals :=
  if g.callout.registered then (statusSuccess, g)
  else
    let g := { g with dns := dnsLayerInitialize }
    if !g.wdmDevice then (statusDeviceNotReady, g)
    else
      let (status, callout) := calloutRegisterAll engineStatus
        [.authConnectV4, .authConnectV6, .flowEstablishedV4, .flowEstablishedV6] g.callout
      (status, { g with callout := callout })

def calloutManagerUnregister (g : Globals) : Globals :=
  if !g.callout.registered then g
  else
    let engine := [CalloutKey.authConnectV4, .authConnectV6, .flowEstablishedV4,
      .flowEstablishedV6].foldl (fun engine key => engine.filter (· ≠ key)) g.callout.engine
    { g with callout := ⟨false, 0, engine⟩ }

def calloutManagerRegisteredCount (g : Globals) : UInt32 := g.callout.registeredCount

end Guardian
