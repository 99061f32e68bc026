import Guardian.Driver.Callouts
import Guardian.Ipc.Outputs
import Guardian.Runs.Accounting
import Guardian.Runs.Hybrid
import Guardian.Runs.KillSwitch

/-!
# The reported driver state

* `Control` : what the reports of a loaded driver depend on, besides its tables and counters;
  `Control.accept` is what an accepted request sets, `lastControl` the outcome of a run, computed from
  its events and their answers alone;
* `Follows` : the statics hold a control; `ioctlHandler_follows`, `driverStep_follows`,
  `loaded_follows`;
* `Output.Agrees`, `reports_observed` : what every report of every run says.
-/

namespace Guardian
open Bytes

/-- What accepted requests control. -/
structure Control where
  mode : Mode
  ndisFilterCount : UInt32
  recoveryGeneration : UInt32
  /-- The reported mode of the kill switch, which need not be the enforced one. -/
  killSwitchMode : UInt32

/-- The mode that a SET_KILL_SWITCH stores; Restore stores Off. -/
def storedKillSwitchMode (value : UInt32) : KillSwitchMode :=
  match KillSwitchMode.ofUInt32 value with
  | none => .off
  | some .restore => .off
  | some mode => mode

namespace Control

/-- What an accepted request sets, given the memory at its input buffer and the answer of the NDIS
driver. -/
def accept (c : Control) (code : IoctlCode) (input : Memory) (poll : NdisPoll) : Control :=
  match code with
  | .setKillSwitch =>
    { c with killSwitchMode := (storedKillSwitchMode (KillSwitchV1.read input 0).mode).toUInt32 }
  | .importState =>
    { c with
      recoveryGeneration := (StateBlobHeaderV1.read input 0).recoveryGeneration
      killSwitchMode := (StateBlobHeaderV1.read input 0).killSwitchMode }
  | .setGuardianMode =>
    let call := HybridCall.setMode (readU32 input 0) poll
    { c with
      mode := call.modeAfter c.mode
      ndisFilterCount := (call.told c.mode).getD c.ndisFilterCount }
  | _ => c

/-- What a request sets that is completed with `status`. -/
def answer (c : Control) (rq : IoctlRequest) (status : NTSTATUS) : Control :=
  match IoctlCode.ofUInt32 rq.ioControlCode with
  | some code => if ntSuccess status then c.accept code rq.inputMemory rq.ndisPoll else c
  | none => c

def observe (c : Control) : Event × Response → Control
  | (.ioctl rq, .completed completion) => c.answer rq completion.status
  | _ => c

/-- After a load: the mode of the registry, entered from WFP mode, and the first generation. -/
def initial (boot : Boot) : Control :=
  let call := HybridCall.setMode (readRegistryGuardianMode boot.registryPath) boot.ndisPoll
  { mode := call.modeAfter .wfp
    ndisFilterCount := (call.told .wfp).getD 0
    recoveryGeneration := 1
    killSwitchMode := 0 }

/-- The structure that GET_DRIVER_STATE reports: a running driver with its four callouts. The driver
has no filters of its own, so the combined count is that of the NDIS driver, if the mode asks it. -/
def driverState (c : Control) : DriverStateV1 where
  version := driverStateVersion
  versionMajor := driverVersionMajor
  versionMinor := driverVersionMinor
  versionPatch := driverVersionPatch
  buildStamp := driverBuildStamp
  lifecycleState := lifecycleRunning
  calloutsRegistered := 4
  filterCount := if c.mode = .wfp then 0 else c.ndisFilterCount
  recoveryGeneration := c.recoveryGeneration
  killSwitchMode := c.killSwitchMode
  lastError := statusSuccess
  guardianMode := c.mode.toUInt32
  reserved := Vector.replicate 12 0

end Control

/-- The control after a run. -/
def lastControl (boot : Boot) (es : List Event) : Control :=
  (driver.trace (loaded boot) es).foldl Control.observe (Control.initial boot)

/-! ## The statics -/

/-- The statics hold the control. No request adds a filter, sets the recovery status or counts a DNS
query. -/
structure Follows (g : Globals) (c : Control) : Prop where
  mode : g.hybrid.mode = c.mode
  ndisFilterCount : g.hybrid.ndisFilterCount = c.ndisFilterCount
  active : g.hybrid.coordinatorActive = decide (c.mode = .hybrid)
  driverState : g.driverState = c.driverState
  recoveryGeneration : g.recoveryGeneration = c.recoveryGeneration
  recoveryStatus : g.recoveryStatus = recoveryStatusOk
  filterCount : g.filterCount = 0
  dnsStats : g.dns.stats = dnsLayerInitialize.stats

theorem killSwitchSet_stores {config : KillSwitchV1} {s : KillSwitchState}
    (h : ntSuccess (killSwitchSet (some config) s).1 = true) :
    (killSwitchSet (some config) s).2.mode = storedKillSwitchMode config.mode := by
  unfold killSwitchSet at h ⊢
  unfold storedKillSwitchMode
  by_cases hv : config.version = killSwitchVersion
  · simp only [hv, ne_eq, not_true_eq_false, if_false] at h ⊢
    cases hm : KillSwitchMode.ofUInt32 config.mode with
    | none =>
      rw [hm] at h
      cases h
    | some mode => cases mode <;> rfl
  · simp only [hv, ne_eq, not_false_eq_true, if_true] at h
    cases h

theorem refreshFilterCount_eq {g : Globals} (h : g.filterCount = 0) :
    refreshFilterCount g = { g with driverState := { g.driverState with
      filterCount := if g.hybrid.mode = .wfp then 0 else g.hybrid.ndisFilterCount } } := by
  have hcount : hybridGetCombinedFilterCount g =
      if g.hybrid.mode = .wfp then 0 else g.hybrid.ndisFilterCount := by
    unfold hybridGetCombinedFilterCount stateManagerFilterCount
    cases g.hybrid.mode with
    | wfp => exact h
    | ndis => rfl
    | hybrid =>
      show g.filterCount + g.hybrid.ndisFilterCount = g.hybrid.ndisFilterCount
      rw [h, UInt32.zero_add]
  rw [refreshFilterCount, hcount]

section

variable {g : Globals} {c : Control}

theorem Follows.setMode (h : Follows g c) (value : UInt32) (poll : NdisPoll) :
    let call := HybridCall.setMode value poll
    Follows (hybridSetMode value poll g).2 { c with
      mode := call.modeAfter c.mode
      ndisFilterCount := (call.told c.mode).getD c.ndisFilterCount } := by
  intro call
  cases hv : Mode.ofUInt32 value with
  | none =>
    rw [hybridSetMode_invalid hv]
    simp only [call, HybridCall.modeAfter, HybridCall.told, hv, Option.getD_none]
    exact h
  | some mode =>
    have hactive : g.hybrid.coordinatorActive = decide (g.hybrid.mode = .hybrid) := by
      rw [h.active, h.mode]
    obtain ⟨generation, hs⟩ := hybridSetMode_eq hactive hv poll
    have hafter : call.modeAfter c.mode = mode := by
      simp only [call, HybridCall.modeAfter, hv, Option.getD_some]
    rw [hs, refreshFilterCount_eq, hafter, h.mode, h.ndisFilterCount, h.driverState]
    · exact ⟨rfl, rfl, rfl, rfl, h.recoveryGeneration, h.recoveryStatus, h.filterCount, h.dnsStats⟩
    · exact h.filterCount

/-- A handler leaves the control that its request asks for, if it succeeds, and the old one else. -/
theorem ioctlHandler_follows (h : Follows g c) (code : IoctlCode) (rq : IoctlRequest) (out : Bool) :
    Follows (ioctlHandler code rq rq.inputBuffer out g).globals
      (if ntSuccess (ioctlHandler code rq rq.inputBuffer out g).status then
        c.accept code rq.inputMemory rq.ndisPoll else c) := by
  have hinput : rq.inputBuffer = none ∨ rq.inputBuffer = some rq.inputMemory := by
    unfold IoctlRequest.inputBuffer
    split
    · exact Or.inr rfl
    · exact Or.inl rfl
  cases code with
  | setKillSwitch =>
    rcases hinput with hin | hin
    · simp only [ioctlHandler, hin, Option.map_none, killSwitchSet, ntSuccess_invalidParameter,
        Bool.false_eq_true, if_false]
      exact h
    · simp only [ioctlHandler, hin, Option.map_some]
      cases hs : ntSuccess (killSwitchSet (some (KillSwitchV1.read rq.inputMemory 0))
          g.killSwitch).1 with
      | false =>
        simp only [Bool.false_eq_true, if_false]
        exact ⟨h.mode, h.ndisFilterCount, h.active, h.driverState, h.recoveryGeneration,
          h.recoveryStatus, h.filterCount, h.dnsStats⟩
      | true =>
        refine ⟨h.mode, h.ndisFilterCount, h.active, ?_, h.recoveryGeneration, h.recoveryStatus,
          h.filterCount, h.dnsStats⟩
        simp only [if_true, killSwitchGetMode, killSwitchSet_stores hs, h.driverState,
          Control.driverState, Control.accept]
  | importState =>
    rcases hinput with hin | hin
    · simp only [ioctlHandler, hin, Option.map_none, stateManagerImport, ntSuccess_invalidParameter,
        Bool.false_eq_true, if_false]
      exact h
    · simp only [ioctlHandler, hin, Option.map_some, stateManagerImport]
      split
      · exact h
      · split
        · exact h
        · refine ⟨h.mode, h.ndisFilterCount, h.active, ?_, rfl, h.recoveryStatus, h.filterCount,
            h.dnsStats⟩
          simp only [ntSuccess_success, if_true, h.driverState, Control.driverState, Control.accept]
  | setGuardianMode =>
    rcases hinput with hin | hin
    · rw [hin]
      exact h
    · rw [hin]
      show Follows (hybridSetMode (readU32 rq.inputMemory 0) rq.ndisPoll g).2
        (if ntSuccess (hybridSetMode (readU32 rq.inputMemory 0) rq.ndisPoll g).1 then
          c.accept .setGuardianMode rq.inputMemory rq.ndisPoll else c)
      cases hs : ntSuccess (hybridSetMode (readU32 rq.inputMemory 0) rq.ndisPoll g).1 with
      | false =>
        rw [hybridSetMode_failed hs]
        exact h
      | true => exact h.setMode (readU32 rq.inputMemory 0) rq.ndisPoll
  | dnsSetConfig =>
    have hdns : ∀ config, (dnsLayerSetConfig config g.dns).2.stats = dnsLayerInitialize.stats := by
      intro config
      rw [← h.dnsStats]
      unfold dnsLayerSetConfig
      cases config with
      | none => rfl
      | some config =>
        simp only
        split <;> rfl
    simp only [Control.accept, ite_self]
    exact ⟨h.mode, h.ndisFilterCount, h.active, h.driverState, h.recoveryGeneration,
      h.recoveryStatus, h.filterCount, hdns _⟩
  | setAppPolicy | syncPolicies | setRoute | syncRoutes =>
    simp only [Control.accept, ite_self]
    exact ⟨h.mode, h.ndisFilterCount, h.active, h.driverState, h.recoveryGeneration,
      h.recoveryStatus, h.filterCount, h.dnsStats⟩
  | clearRoute =>
    simp only [Control.accept, ite_self]
    rcases hinput with hin | hin
    · rw [hin]
      exact h
    · rw [hin]
      exact ⟨h.mode, h.ndisFilterCount, h.active, h.driverState, h.recoveryGeneration,
        h.recoveryStatus, h.filterCount, h.dnsStats⟩
  | exportState =>
    simp only [Control.accept, ite_self]
    obtain ⟨status, bytes, output, hserved⟩ : ∃ status bytes output,
        ioctlHandler .exportState rq rq.inputBuffer out g = ⟨status, bytes, output, g⟩ := by
      unfold ioctlHandler
      simp only
      split <;> exact ⟨_, _, _, rfl⟩
    rw [hserved]
    exact h
  | getDriverState | getTelemetry | reconcile | getPerfStats | getDnsStats =>
    simp only [Control.accept, ite_self]
    exact h

theorem driverStep_follows (g : Globals) (c : Control) (e : Event) (h : Follows g c) :
    Follows (driverStep g e).2 (c.observe (e, (driverStep g e).1)) := by
  have htelemetry : ∀ {g : Globals} {c : Control} (t : TelemetryState), Follows g c →
      Follows { g with telemetry := t } c := by
    intro g c t h
    exact ⟨h.mode, h.ndisFilterCount, h.active, h.driverState, h.recoveryGeneration,
      h.recoveryStatus, h.filterCount, h.dnsStats⟩
  cases e with
  | authConnectV4 values clock out | authConnectV6 values clock out =>
    exact driverStep_classify_keeps (P := fun g => Follows g c) (fun t => htelemetry t h) (by nofun)
  | ioctl rq =>
    have hchecked : Follows (callerChecked rq g) c := ⟨h.mode, h.ndisFilterCount, h.active,
      h.driverState, h.recoveryGeneration, h.recoveryStatus, h.filterCount, h.dnsStats⟩
    show Follows (evtIoDeviceControl rq g).2 (c.answer rq (served rq g).status)
    obtain ⟨t, ht⟩ := evtIoDeviceControl_frame rq g
    rw [ht]
    apply htelemetry
    rcases served_cases rq g with ⟨-, status, hfail, hs⟩ | ⟨-, code, hcode, hs⟩
    · have hkept : c.answer rq status = c := by
        unfold Control.answer
        cases IoctlCode.ofUInt32 rq.ioControlCode with
        | none => rfl
        | some code => simp only [hfail, Bool.false_eq_true, if_false]
      rw [hs]
      show Follows (callerChecked rq g) (c.answer rq status)
      rw [hkept]
      exact hchecked
    · rw [hs, Control.answer, hcode]
      exact ioctlHandler_follows hchecked code rq rq.outputBuffer

end

theorem calloutManagerRegister_all {engineStatus : CalloutKey → NTSTATUS}
    (h : ∀ key, ntSuccess (engineStatus key) = true) {g : Globals}
    (hc : g.callout = ⟨false, 0, []⟩) (hd : g.wdmDevice = true) :
    ntSuccess (calloutManagerRegister engineStatus g).1 = true ∧
      (calloutManagerRegister engineStatus g).2 =
        { g with dns := dnsLayerInitialize, callout := ⟨true, 4, calloutKeys⟩ } := by
  have htaken := (taken_eq_keys_iff engineStatus).mpr h
  obtain ⟨hcallout, hstatus⟩ := calloutManagerRegister_fresh engineStatus hc hd
  refine ⟨hstatus.mpr htaken, ?_⟩
  rw [htaken] at hcallout
  have hframe : (calloutManagerRegister engineStatus g).2 = { g with
      dns := dnsLayerInitialize
      callout := (calloutManagerRegister engineStatus g).2.callout } := by
    unfold calloutManagerRegister
    simp only [hc, hd, Bool.false_eq_true, if_false, Bool.not_true]
  rw [hframe, hcallout]
  rfl

/-- The state before the mode of the registry is entered. -/
def recovering (g : Globals) : Globals :=
  { g with driverState := { g.driverState with
      calloutsRegistered := calloutManagerRegisteredCount g
      lifecycleState := lifecycleRecovering } }

/-- The last steps of a load: the generation goes up, and the driver runs. -/
def running (g : Globals) : Globals :=
  { (recoveryManagerBegin g).2 with driverState := { (recoveryManagerBegin g).2.driverState with
      lifecycleState := lifecycleRunning
      lastError := statusSuccess } }

theorem finishLoad_registered (boot : Boot) {r : NTSTATUS × Globals} {mode : Mode}
    (hr : ntSuccess r.1 = true) (hmode : Mode.ofUInt32 r.2.driverState.guardianMode = some mode) :
    (finishLoad boot r).2 =
      running (hybridSetMode r.2.driverState.guardianMode boot.ndisPoll (recovering r.2)).2 := by
  unfold finishLoad running recovering
  simp only [hr, hybridSetMode_succeeds hmode, Bool.not_true, Bool.false_eq_true, if_false]
  rfl

theorem loaded_follows {boot : Boot} (hload : ntSuccess (driverEntry boot imageGlobals).1 = true) :
    Follows (loaded boot) (Control.initial boot) := by
  obtain ⟨hup, hkeys⟩ := (driverEntry_success_iff boot).mp hload
  obtain ⟨mode, hmode⟩ := readRegistryGuardianMode_known boot.registryPath
  let g := { initializeModules boot imageGlobals with wdmDevice := true }
  obtain ⟨hs, hr⟩ := calloutManagerRegister_all hkeys (g := g) rfl rfl
  have hknown : Mode.ofUInt32
      (calloutManagerRegister boot.calloutRegister g).2.driverState.guardianMode = some mode := by
    rw [hr]
    exact hmode
  have hinitial : Control.initial boot = ⟨mode, ((HybridCall.setMode
      (readRegistryGuardianMode boot.registryPath) boot.ndisPoll).told .wfp).getD 0, 1, 0⟩ := by
    simp only [Control.initial, HybridCall.modeAfter, hmode, Option.getD_some]
  rw [loaded, driverEntry_eq_finishLoad hup, finishLoad_registered boot hs hknown, hr, hinitial]
  -- the coordinator is still in WFP mode when the mode of the registry is entered
  obtain ⟨generation, hset⟩ := hybridSetMode_eq (g := recovering { g with
    dns := dnsLayerInitialize, callout := ⟨true, 4, calloutKeys⟩ }) rfl hmode boot.ndisPoll
  rw [refreshFilterCount_eq rfl] at hset
  have hstate : (hybridSetMode (readRegistryGuardianMode boot.registryPath) boot.ndisPoll
    (recovering { g with dns := dnsLayerInitialize, callout := ⟨true, 4, calloutKeys⟩ })).2 = _ :=
    congrArg Prod.snd hset
  show Follows (running (hybridSetMode (readRegistryGuardianMode boot.registryPath) boot.ndisPoll
    (recovering { g with dns := dnsLayerInitialize, callout := ⟨true, 4, calloutKeys⟩ })).2) _
  rw [hstate]
  exact ⟨rfl, rfl, rfl, rfl, rfl, rfl, rfl, rfl⟩

/-! ## Runs -/

/-- The control that is computed from the answers of a run is the one its state holds. -/
theorem follows_lastControl {boot : Boot} (hload : ntSuccess (driverEntry boot imageGlobals).1 = true)
    (es : List Event) : Follows (driver.final (loaded boot) es) (lastControl boot es) :=
  driver.final_observe Control.observe Follows driverStep_follows (loaded_follows hload) es

theorem driverStep_uncounted (g : Globals) (e : Event) :
    (driverStep g e).2.telemetry.dnsObserveCount = g.telemetry.dnsObserveCount ∧
      (driverStep g e).2.telemetry.deferredWorkCount = g.telemetry.deferredWorkCount := by
  have hclassify : ∀ values clock out,
      (authConnectClassifyV4 values clock out g).2.telemetry.dnsObserveCount =
        g.telemetry.dnsObserveCount ∧
      (authConnectClassifyV4 values clock out g).2.telemetry.deferredWorkCount =
        g.telemetry.deferredWorkCount := by
    intro values clock out
    rw [authConnectClassifyV4_frame values clock out g, classifyConnection_telemetry]
    split
    · obtain ⟨n, b, r, p, o, sum, samples, max, hf⟩ := telemetryRecordClassify_frame
        (classifyConnection values clock g).2.1.action clock.latency g.telemetry
      rw [hf]
      exact ⟨rfl, rfl⟩
    · exact ⟨rfl, rfl⟩
  cases e with
  | authConnectV4 values clock out | authConnectV6 values clock out =>
    exact hclassify values clock out
  | ioctl rq =>
    show (evtIoDeviceControl rq g).2.telemetry.dnsObserveCount = _ ∧
      (evtIoDeviceControl rq g).2.telemetry.deferredWorkCount = _
    rw [evtIoDeviceControl_telemetry]
    unfold perfRecordIpc
    split <;> exact ⟨rfl, rfl⟩

/-- What a report owes to the control, and what it never shows: a removed orphan, a failed recovery,
an observed DNS query or deferred work. -/
def Output.Agrees (c : Control) : Output → Prop
  | .driverState state => state = c.driverState
  | .stateBlob header => header.recoveryGeneration = c.recoveryGeneration
  | .reconcile response => response = ⟨1, 0, c.recoveryGeneration, recoveryStatusOk⟩
  | .telemetry t => t.dnsObserveCount = 0
  | .perfStats stats => stats.deferredWorkCount = 0
  | .dnsStats stats => stats = { DnsStatsV1.zero with version := dnsConfigVersion }

/-- **Every report is accounted for by the accepted requests**: after a load and any run, what a
request reports of the driver state, the recovery and the DNS layer is what the registry, the NDIS
polls and the accepted requests of the run have set, and nothing else. -/
theorem reports_observed (boot : Boot) (hload : ntSuccess (driverEntry boot imageGlobals).1 = true)
    (es : List Event) (rq : IoctlRequest) (o : Output)
    (h : (evtIoDeviceControl rq (driver.final (loaded boot) es)).1.output = some o) :
    o.Agrees (lastControl boot es) := by
  have hfollows := follows_lastControl hload es
  have hreport := evtIoDeviceControl_report h
  obtain ⟨hdns, hdeferred⟩ := driver.final_inv
    (fun g => g.telemetry.dnsObserveCount = 0 ∧ g.telemetry.deferredWorkCount = 0)
    (fun g e hg => by
      obtain ⟨h1, h2⟩ := driverStep_uncounted g e
      exact ⟨h1.trans hg.1, h2.trans hg.2⟩)
    (s := loaded boot) (by rw [loaded_telemetry]; exact ⟨rfl, rfl⟩) es
  cases o with
  | driverState state =>
    cases hreport
    exact hfollows.driverState
  | stateBlob header =>
    cases hreport
    exact hfollows.recoveryGeneration
  | reconcile response =>
    cases hreport
    show (⟨1, 0, _, _⟩ : ReconcileResponseV1) = _
    rw [hfollows.recoveryGeneration, hfollows.recoveryStatus]
  | telemetry t =>
    cases hreport
    exact hdns
  | perfStats stats =>
    cases hreport
    exact hdeferred
  | dnsStats stats =>
    cases hreport
    exact hfollows.dnsStats

/-- A SET_GUARDIAN_MODE of NDIS mode, whose poll finds three filters. -/
def setNdisMode : IoctlRequest :=
  { plainRequest .setGuardianMode [1, 0, 0, 0] 0 with
    ndisPoll := ⟨statusSuccess, statusSuccess, 3⟩ }

theorem reports_observed_ndis :
    let es := [Event.ioctl setNdisMode]
    ∃ state, (evtIoDeviceControl (plainRequest .getDriverState [] 60)
        (driver.final (loaded (quietBoot none)) es)).1.output = some (.driverState state) ∧
      state = (lastControl (quietBoot none) es).driverState ∧ state.filterCount = 3 := by
  intro es
  refine ⟨_, rfl, ?_, by decide⟩
  exact reports_observed (quietBoot none) (by decide) es (plainRequest .getDriverState [] 60) _ rfl

end Guardian
