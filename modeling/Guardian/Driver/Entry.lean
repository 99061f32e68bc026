import Guardian.Driver.Managers

/-!
# Driver load (`driver.c`, `device.c`)

`driverEntry` runs the initialisers of all modules on the loaded image. What the framework, the
filter engine and the registry answer is given by a `Boot`.
-/

namespace Guardian

/-- What the framework calls of `GuardianCreateDevice` answer, in their order. -/
structure DeviceBoot where
  deviceInitAllocate : Bool
  assignName : NTSTATUS
  deviceCreate : NTSTATUS
  symbolicLink : NTSTATUS
  queueCreate : NTSTATUS

/-- What the system answers during a driver load. -/
structure Boot where
  registryPath : Option RegistryKey
  driverCreate : NTSTATUS
  device : DeviceBoot
  calloutRegister : CalloutKey → NTSTATUS
  ndisPoll : NdisPoll

def regGuardianMode : String := "GuardianMode"

def initializeDriverState (g : Globals) : Globals :=
  { g with driverState := { DriverStateV1.zero with
      version := driverStateVersion
      versionMajor := driverVersionMajor
      versionMinor := driverVersionMinor
      versionPatch := driverVersionPatch
      buildStamp := driverBuildStamp
      lifecycleState := lifecycleStarting
      guardianMode := Mode.wfp.toUInt32 } }

def readRegistryGuardianMode (registryPath : Option RegistryKey) : UInt32 :=
  match registryPath with
  | none => Mode.wfp.toUInt32
  | some key =>
    if !ntSuccess key.openStatus then Mode.wfp.toUInt32
    else
      let mode := key.queryValue regGuardianMode Mode.wfp.toUInt32
      if mode > Mode.hybrid.toUInt32 then Mode.wfp.toUInt32 else mode

def createDevice (boot : DeviceBoot) (g : Globals) : NTSTATUS × Globals :=
  if !boot.deviceInitAllocate then (statusInsufficientResources, g)
  else if !ntSuccess boot.assignName then (boot.assignName, g)
  else if !ntSuccess boot.deviceCreate then (boot.deviceCreate, g)
  else if !ntSuccess boot.symbolicLink then (boot.symbolicLink, g)
  else if !ntSuccess boot.queueCreate then (boot.queueCreate, g)
  else (statusSuccess, { g with wdmDevice := true })

/-- `LastError = status; LifecycleState = GuardianLifecycleFailed` -/
def loadFailed (status : NTSTATUS) (g : Globals) : Globals :=
  { g with driverState := { g.driverState with
      lastError := status
      lifecycleState := lifecycleFailed } }

/-- The initialisers that run before the first framework call. -/
def initializeModules (boot : Boot) (g : Globals) : Globals :=
  let g := initializeDriverState g
  let g := { g with driverState := { g.driverState with
    guardianMode := readRegistryGuardianMode boot.registryPath } }
  let g := { g with telemetry := telemetryInitialize }
  let g := (stateManagerInitialize g).2
  let g := { g with killSwitch := (killSwitchInitialize boot.registryPath).2 }
  (recoveryManagerInitialize g).2

def driverEntry (boot : Boot) (g : Globals) : NTSTATUS × Globals :=
  let g := initializeModules boot g
  if !ntSuccess boot.driverCreate then (boot.driverCreate, loadFailed boot.driverCreate g)
  else
    let (status, g) := createDevice boot.device g
    if !ntSuccess status then (status, loadFailed status g)
    else
      let (status, g) := calloutManagerRegister boot.calloutRegister g
      if !ntSuccess status then (status, loadFailed status g)
      else
        let g := { g with driverState := { g.driverState with
          calloutsRegistered := calloutManagerRegisteredCount g
          lifecycleState := lifecycleRecovering } }
        let (status, g) := hybridSetMode g.driverState.guardianMode boot.ndisPoll g
        if !ntSuccess status then (status, loadFailed status g)
        else
          let (status, g) := recoveryManagerBegin g
          if !ntSuccess status then (status, loadFailed status g)
          else
            (statusSuccess, { g with driverState := { g.driverState with
              lifecycleState := lifecycleRunning
              lastError := statusSuccess } })

def evtDriverUnload (g : Globals) : Globals :=
  let g := { g with driverState := { g.driverState with lifecycleState := lifecycleStopped } }
  let g := hybridCoordinatorShutdown g
  let g := calloutManagerUnregister g
  stateManagerShutdown g

/-! ## What a load leaves -/

theorem createDevice_frame (boot : DeviceBoot) (g : Globals) :
    ∃ w, (createDevice boot g).2 = { g with wdmDevice := w } := by
  unfold createDevice
  split_ifs <;> exact ⟨_, rfl⟩

theorem calloutManagerRegister_frame (engineStatus : CalloutKey → NTSTATUS) (g : Globals) :
    ∃ d c, (calloutManagerRegister engineStatus g).2 = { g with dns := d, callout := c } := by
  unfold calloutManagerRegister
  simp only
  split
  · exact ⟨g.dns, g.callout, rfl⟩
  · split
    · exact ⟨dnsLayerInitialize, g.callout, rfl⟩
    · exact ⟨_, _, rfl⟩

/-- After the initialisers of the modules, a load writes neither the tables nor the kill switch nor
the mirrored mode, whatever its exit; the generation is mirrored, and a load that succeeds sets it
to `1`. -/
theorem driverEntry_frame (boot : Boot) (g : Globals) :
    ∃ w d c h r s state, (driverEntry boot g).2 = { initializeModules boot g with
        wdmDevice := w
        dns := d
        callout := c
        hybrid := h
        recoveryGeneration := r
        recoveryStatus := s
        driverState := state } ∧
      state.killSwitchMode = 0 ∧ state.recoveryGeneration = r ∧
      (ntSuccess (driverEntry boot g).1 = true → r = 1) := by
  -- an exit with a failure owes nothing about the generation
  have hfailed : ∀ {status : NTSTATUS} {r : UInt32}, (!ntSuccess status) = true →
      ntSuccess status = true → r = 1 := by
    intro status r hf hs
    rw [hs] at hf
    cases hf
  unfold driverEntry
  simp only
  obtain ⟨w, hw⟩ := createDevice_frame boot.device (initializeModules boot g)
  obtain ⟨d, c, hc⟩ := calloutManagerRegister_frame boot.calloutRegister
    { initializeModules boot g with wdmDevice := w }
  split
  · next hf => exact ⟨_, _, _, _, _, _, _, rfl, rfl, rfl, hfailed hf⟩
  · rw [hw]
    split
    · next hf => exact ⟨_, _, _, _, _, _, _, rfl, rfl, rfl, hfailed hf⟩
    · rw [hc]
      split
      · next hf => exact ⟨_, _, _, _, _, _, _, rfl, rfl, rfl, hfailed hf⟩
      · obtain ⟨h, m, n, hm⟩ := hybridSetMode_frame
          (initializeModules boot g).driverState.guardianMode boot.ndisPoll
          { initializeModules boot g with
            wdmDevice := w
            dns := d
            callout := c
            driverState := { (initializeModules boot g).driverState with
              calloutsRegistered := c.registeredCount
              lifecycleState := lifecycleRecovering } }
        simp only [calloutManagerRegisteredCount, hm]
        split
        · next hf => exact ⟨_, _, _, _, _, _, _, rfl, rfl, rfl, hfailed hf⟩
        · split
          · next hf => exact ⟨_, _, _, _, _, _, _, rfl, rfl, rfl, hfailed hf⟩
          · exact ⟨_, _, _, _, _, _, _, rfl, rfl, rfl, fun _ => rfl⟩

theorem driverEntry_modes (boot : Boot) (g : Globals) :
    (driverEntry boot g).2.killSwitch = ⟨registryKillSwitchMode boot.registryPath, 0⟩ ∧
      (driverEntry boot g).2.driverState.killSwitchMode = 0 := by
  obtain ⟨w, d, c, h, r, s, state, heq, hmode, -⟩ := driverEntry_frame boot g
  rw [heq]
  exact ⟨congrArg Prod.snd (killSwitchInitialize_eq boot.registryPath), hmode⟩

theorem driverEntry_tables (boot : Boot) (g : Globals) :
    (driverEntry boot g).2.policy = Table.fresh ∧ (driverEntry boot g).2.route = Table.fresh := by
  obtain ⟨w, d, c, h, r, s, state, heq, -⟩ := driverEntry_frame boot g
  rw [heq]
  exact ⟨rfl, rfl⟩

theorem driverEntry_mirrored (boot : Boot) (g : Globals) :
    (driverEntry boot g).2.driverState.recoveryGeneration =
      (driverEntry boot g).2.recoveryGeneration := by
  obtain ⟨w, d, c, h, r, s, state, heq, -, hmirror, -⟩ := driverEntry_frame boot g
  rw [heq]
  exact hmirror

/-- A load that succeeds sets the generation to `1`, whatever was loaded before. -/
theorem driverEntry_generation {boot : Boot} {g : Globals}
    (hs : ntSuccess (driverEntry boot g).1 = true) :
    (driverEntry boot g).2.recoveryGeneration = 1 := by
  obtain ⟨w, d, c, h, r, s, state, heq, -, -, hone⟩ := driverEntry_frame boot g
  rw [heq]
  exact hone hs

end Guardian
