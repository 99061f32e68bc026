import Guardian.Runs.Driver

/-!
# Rejected requests

* `ioctlHandler_failed` : a handler that fails, the two Syncs aside, has written nothing;
* `served_failed` : the same for a whole request, up to the pinned caller;
* `evtIoDeviceControl_failed` : only the IPC counters and the pinned caller can differ.
-/

namespace Guardian
open Bytes

variable {code : IoctlCode}

/-- A handler that fails leaves everything as it was, unless it is a Sync. -/
theorem ioctlHandler_failed (hp : code ≠ .syncPolicies) (hr : code ≠ .syncRoutes)
    {rq : IoctlRequest} {input : Option Memory} {out : Bool} {g : Globals}
    (h : ntSuccess (ioctlHandler code rq input out g).status = false) :
    (ioctlHandler code rq input out g).globals = g := by
  cases code with
  | syncPolicies => exact absurd rfl hp
  | syncRoutes => exact absurd rfl hr
  | setAppPolicy =>
    have hset := Table.set_failed appPolicyKind h
    simp only [ioctlHandler, appPolicySet, hset]
  | setRoute =>
    have hset := Table.set_failed routeKind h
    simp only [ioctlHandler, routeSet, hset]
  | clearRoute =>
    cases input with
    | none => rfl
    | some input =>
      have hclear := Table.remove_failed routeKind h
      simp only [ioctlHandler, routeClear, hclear]
  | setKillSwitch =>
    have hfail : ntSuccess (killSwitchSet (input.map (KillSwitchV1.read · 0)) g.killSwitch).1 =
        false := h
    simp only [ioctlHandler, hfail, killSwitchSet_failed hfail, Bool.false_eq_true, if_false]
  | exportState =>
    simp only [ioctlHandler]
    split <;> rfl
  | importState => exact stateManagerImport_failed h
  | dnsSetConfig =>
    have hdns := dnsLayerSetConfig_failed h
    simp only [ioctlHandler, hdns]
  | setGuardianMode =>
    cases input with
    | none => rfl
    | some input => exact hybridSetMode_failed h
  | getDriverState | getTelemetry | reconcile | getPerfStats | getDnsStats => rfl

theorem served_failed {rq : IoctlRequest} {g : Globals}
    (hp : rq.ioControlCode ≠ IoctlCode.syncPolicies.toUInt32)
    (hr : rq.ioControlCode ≠ IoctlCode.syncRoutes.toUInt32)
    (h : ntSuccess (served rq g).status = false) :
    (served rq g).globals = callerChecked rq g := by
  rcases served_cases rq g with ⟨-, status, -, hs⟩ | ⟨-, code, hc, hs⟩
  · rw [hs]
    rfl
  · rw [hs] at h ⊢
    have hcode := IoctlCode.toUInt32_of_ofUInt32 hc
    apply ioctlHandler_failed _ _ h
    · rintro rfl
      exact hp hcode.symm
    · rintro rfl
      exact hr hcode.symm

/-- **A request other than a Sync that completes with a failure changes nothing**: it counts as
dispatched and rejected, its latency is recorded, and its caller may be the one that gets pinned. -/
theorem evtIoDeviceControl_failed (rq : IoctlRequest) (g : Globals)
    (hp : rq.ioControlCode ≠ IoctlCode.syncPolicies.toUInt32)
    (hr : rq.ioControlCode ≠ IoctlCode.syncRoutes.toUInt32)
    (h : ntSuccess (evtIoDeviceControl rq g).1.status = false) :
    ∃ pid latencySum latencySamples maxLatency, (evtIoDeviceControl rq g).2 = { g with
      allowedServicePid := pid
      telemetry := { g.telemetry with
        ipcDispatchCount := g.telemetry.ipcDispatchCount + 1
        ipcRejectCount := g.telemetry.ipcRejectCount + 1
        ipcLatencySum100ns := latencySum
        ipcLatencySamples := latencySamples
        maxIpcLatency100ns := maxLatency } } := by
  have hfail : ntSuccess (served rq g).status = false := h
  have hkept := served_failed hp hr hfail
  unfold evtIoDeviceControl
  simp only [hfail, hkept, callerChecked, perfRecordIpc, Bool.not_false, if_true]
  exact ⟨_, _, _, _, rfl⟩

theorem evtIoDeviceControl_failed_unknown :
    ntSuccess (evtIoDeviceControl { plainRequest .getTelemetry [] 0 with ioControlCode := 7 }
      (loaded (quietBoot none))).1.status = false ∧
    ∃ pid latencySum latencySamples maxLatency,
      (evtIoDeviceControl { plainRequest .getTelemetry [] 0 with ioControlCode := 7 }
        (loaded (quietBoot none))).2 = { loaded (quietBoot none) with
          allowedServicePid := pid
          telemetry := { (loaded (quietBoot none)).telemetry with
            ipcDispatchCount := (loaded (quietBoot none)).telemetry.ipcDispatchCount + 1
            ipcRejectCount := (loaded (quietBoot none)).telemetry.ipcRejectCount + 1
            ipcLatencySum100ns := latencySum
            ipcLatencySamples := latencySamples
            maxIpcLatency100ns := maxLatency } } :=
  ⟨by decide, evtIoDeviceControl_failed _ _ (by decide) (by decide) (by decide)⟩

end Guardian
