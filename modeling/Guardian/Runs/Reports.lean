import Guardian.Ipc.Outputs
import Guardian.Runs.Driver

/-!
# Agreement of the reports

The recovery generation is kept twice, and the counters of the tables apart from the lists.

* `GenerationMirrored` : both copies of the generation are the same; `reachable_mirrored`;
* `reports_agree` : what the reporting requests say of one state.
-/

namespace Guardian
open Bytes

/-- The generation in the driver state is that of the state manager. -/
def GenerationMirrored (g : Globals) : Prop :=
  g.driverState.recoveryGeneration = g.recoveryGeneration

theorem stateManagerImport_mirrored (header : Option StateBlobHeaderV1) (bytes : UInt32)
    {g : Globals} (h : GenerationMirrored g) :
    GenerationMirrored (stateManagerImport header bytes g).2 := by
  cases header with
  | none => exact h
  | some header =>
    unfold stateManagerImport
    simp only
    split
    · exact h
    · split
      · exact h
      · exact rfl

theorem ioctlHandler_mirrored {g : Globals} (h : GenerationMirrored g) (code : IoctlCode)
    (rq : IoctlRequest) (input : Option Memory) (out : Bool) :
    GenerationMirrored (ioctlHandler code rq input out g).globals := by
  cases code with
  | importState => exact stateManagerImport_mirrored _ _ h
  | setKillSwitch =>
    simp only [ioctlHandler]
    split
    · exact h
    · exact h
  | setGuardianMode =>
    cases input with
    | none => exact h
    | some input =>
      obtain ⟨hybrid, m, n, hf⟩ := hybridSetMode_frame (readU32 input 0) rq.ndisPoll g
      simp only [ioctlHandler, hf]
      exact h
  | exportState =>
    simp only [ioctlHandler]
    split
    · exact h
    · exact h
  | clearRoute => cases input <;> exact h
  | _ => exact h

theorem driverStep_mirrored (g : Globals) (e : Event) (h : GenerationMirrored g) :
    GenerationMirrored (driverStep g e).2 := by
  apply driverStep_inv _ _ _ g e h
  · intro g t h
    exact h
  · intro g pid h
    exact h
  · intro code rq input out g h
    exact ioctlHandler_mirrored h code rq input out

theorem reachable_mirrored {g : Globals} (h : Reachable g) : GenerationMirrored g := by
  obtain ⟨boot, es, -, rfl⟩ := h
  apply driver.final_inv GenerationMirrored driverStep_mirrored
  exact driverEntry_mirrored boot imageGlobals

/-- **The reports of a state agree**: GET_DRIVER_STATE, EXPORT_STATE and RECONCILE on the recovery
generation, EXPORT_STATE and GET_PERF_STATS on the policy and route counts, which are the numbers of
entries in the tables. -/
theorem reports_agree {g : Globals} (h : Reachable g)
    (rqState rqExport rqReconcile rqPerf : IoctlRequest) {state : DriverStateV1}
    {header : StateBlobHeaderV1} {response : ReconcileResponseV1} {stats : PerfStatsV1}
    (hstate : (evtIoDeviceControl rqState g).1.output = some (.driverState state))
    (hexport : (evtIoDeviceControl rqExport g).1.output = some (.stateBlob header))
    (hreconcile : (evtIoDeviceControl rqReconcile g).1.output = some (.reconcile response))
    (hperf : (evtIoDeviceControl rqPerf g).1.output = some (.perfStats stats)) :
    state.recoveryGeneration = header.recoveryGeneration ∧
    response.recoveryGeneration = header.recoveryGeneration ∧
    stats.activePolicyCount = header.policyCount ∧
    stats.activeRouteCount = header.routeCount ∧
    header.policyCount.toNat = g.policy.list.length ∧
    header.routeCount.toNat = g.route.list.length := by
  have hmirrored := reachable_mirrored h
  have hvalid := reachable_tablesValid h
  cases evtIoDeviceControl_report hstate
  cases evtIoDeviceControl_report hexport
  cases evtIoDeviceControl_report hreconcile
  cases evtIoDeviceControl_report hperf
  exact ⟨hmirrored, rfl, rfl, rfl, hvalid.policy.count_eq, hvalid.route.count_eq⟩

/-- After a load and the import of a blob of generation 7. -/
def importedSeven : List Event :=
  [.ioctl (plainRequest .importState (1 :: List.replicate 15 0 ++ [7, 0, 0, 0, 0, 0, 0, 0]) 0)]

theorem reports_agree_imported :
    ∃ state header,
      (evtIoDeviceControl (plainRequest .getDriverState [] 60)
        (driver.final (loaded (quietBoot none)) importedSeven)).1.output =
          some (.driverState state) ∧
      (evtIoDeviceControl (plainRequest .exportState [] 24)
        (driver.final (loaded (quietBoot none)) importedSeven)).1.output =
          some (.stateBlob header) ∧
      state.recoveryGeneration = header.recoveryGeneration ∧ header.recoveryGeneration = 7 := by
  have hreachable : Reachable (driver.final (loaded (quietBoot none)) importedSeven) :=
    ⟨quietBoot none, importedSeven, by decide, rfl⟩
  refine ⟨_, _, rfl, rfl, ?_, by decide⟩
  exact (reports_agree hreachable (plainRequest .getDriverState [] 60)
    (plainRequest .exportState [] 24) (plainRequest .reconcile [] 16)
    (plainRequest .getPerfStats [] 52) rfl rfl rfl rfl).1

end Guardian
