import Guardian.Ipc.Outputs
import Guardian.Runs.Driver

/-!
# State export and import

* `StateBlobHeaderV1.read_of_holds` : the exported bytes are read back as the header they encode;
* `exported_eq`, `export_admitted` : EXPORT_STATE reports the header of the state;
* `imported` : the state after an import; `import_admitted`;
* `exportState_importState` : what a blob carries from one state to another.
-/

namespace Guardian
open Bytes

theorem StateBlobHeaderV1.read_of_holds {m : Memory} {off : Nat} {header : StateBlobHeaderV1}
    (h : Holds m off header.bytes) : StateBlobHeaderV1.read m off = header := by
  simp only [StateBlobHeaderV1.bytes, holds_append, List.length_append, length_bytesU32] at h
  obtain ⟨⟨⟨⟨⟨h0, h4⟩, h8⟩, h12⟩, h16⟩, h20⟩ := h
  rw [StateBlobHeaderV1.read, readU32_of_holds h0, readU32_of_holds h4, readU32_of_holds h8,
    readU32_of_holds h12, readU32_of_holds h16, readU32_of_holds h20]

/-! ## Export -/

theorem export_admitted {rq : IoctlRequest} {g : Globals} (h : Admitted rq g)
    (hc : IoctlCode.ofUInt32 rq.ioControlCode = some .exportState) :
    (evtIoDeviceControl rq g).1 =
      ⟨statusSuccess, StateBlobHeaderV1.size, some (.stateBlob (stateBlob g))⟩ :=
  h.reported (o := .stateBlob (stateBlob g)) hc rfl

/-- Whatever request reports a state blob, it is the header of the state. -/
theorem exported_eq {rq : IoctlRequest} {g : Globals} {header : StateBlobHeaderV1}
    (h : (evtIoDeviceControl rq g).1.output = some (.stateBlob header)) : header = stateBlob g := by
  have hreport := evtIoDeviceControl_report h
  simpa [IoctlCode.report, Output.code] using hreport.symm

/-! ## Import -/

/-- The import of a blob as a step on the state. -/
def imported (header : StateBlobHeaderV1) (g : Globals) : Globals :=
  { g with
    recoveryGeneration := header.recoveryGeneration
    driverState := { g.driverState with
      recoveryGeneration := header.recoveryGeneration
      killSwitchMode := header.killSwitchMode } }

theorem import_admitted {rq : IoctlRequest} {g : Globals} {header : StateBlobHeaderV1}
    (h : Admitted rq g) (hc : IoctlCode.ofUInt32 rq.ioControlCode = some .importState)
    (hblob : Holds rq.inputMemory 0 header.bytes) (hv : header.version = stateBlobVersion) :
    (evtIoDeviceControl rq g).1.status = statusSuccess ∧
      ∃ t, (evtIoDeviceControl rq g).2 =
        { imported header (callerChecked rq g) with telemetry := t } := by
  obtain ⟨hin, hbytes⟩ := h.importState_input hc
  rcases served_cases rq g with ⟨hno, -⟩ | ⟨-, code, hcode, hs⟩
  · exact absurd h hno
  · obtain rfl : code = .importState := Option.some.inj (hcode.symm.trans hc)
    have himport := stateManagerImport_eq header hbytes (callerChecked rq g)
    rw [if_pos hv] at himport
    unfold evtIoDeviceControl
    simp only [hs, ioctlHandler, hin, Option.map_some, StateBlobHeaderV1.read_of_holds hblob, himport]
    exact ⟨trivial, _, rfl⟩

/-! ## From one state to another -/

/-- **What a blob carries**: importing into `t` the blob exported in `s` succeeds, and the next export
has the version and the recovery generation of `s` and the counts of `t`'s own tables, which no blob
holds; where the tables of `t` are as long as those of `s` and the kill switch has the same mode, it
is the same blob byte for byte. -/
theorem exportState_importState (s t : Globals) (rqS rqI rqT : IoctlRequest)
    (header : StateBlobHeaderV1)
    (hS : (evtIoDeviceControl rqS s).1.output = some (.stateBlob header))
    (hcI : IoctlCode.ofUInt32 rqI.ioControlCode = some .importState) (hI : Admitted rqI t)
    (hblob : Holds rqI.inputMemory 0 header.bytes)
    (hcT : IoctlCode.ofUInt32 rqT.ioControlCode = some .exportState)
    (hT : Admitted rqT (evtIoDeviceControl rqI t).2) :
    (evtIoDeviceControl rqI t).1.status = statusSuccess ∧
    ∃ next, (evtIoDeviceControl rqT (evtIoDeviceControl rqI t).2).1 =
        ⟨statusSuccess, StateBlobHeaderV1.size, some (.stateBlob next)⟩ ∧
      next.version = header.version ∧ next.recoveryGeneration = s.recoveryGeneration ∧
      next.reserved = header.reserved ∧
      next.policyCount = appPolicyActiveCount t.policy ∧
      next.routeCount = routeActiveCount t.route ∧
      (appPolicyActiveCount t.policy = appPolicyActiveCount s.policy →
        routeActiveCount t.route = routeActiveCount s.route →
        t.killSwitch.mode = s.killSwitch.mode → next.bytes = header.bytes) := by
  obtain rfl := exported_eq hS
  obtain ⟨hstatus, telemetry, hstate⟩ := import_admitted hI hcI hblob rfl
  refine ⟨hstatus, _, export_admitted hT hcT, ?_⟩
  rw [hstate]
  refine ⟨rfl, rfl, rfl, rfl, rfl, ?_⟩
  intro hpolicy hroute hmode
  have hnext : stateBlob { imported (stateBlob s) (callerChecked rqI t) with telemetry := telemetry } =
      stateBlob s := by
    simp only [stateBlob, imported, callerChecked, killSwitchGetMode, hpolicy, hroute, hmode]
  rw [hnext]

/-- The blob of the driver after a load. -/
def loadedBlob : StateBlobHeaderV1 := ⟨1, 0, 0, 0, 1, 0⟩

/-- SET_ROUTE with a direct route for the application id of zeros. -/
def setOneRoute : IoctlRequest := plainRequest .setRoute (1 :: List.replicate 47 0) 0

/-- The state after an import of the generation 7 and one route. -/
def routedState : Globals :=
  driver.final (loaded (quietBoot none))
    [.ioctl (plainRequest .importState { loadedBlob with recoveryGeneration := 7 }.bytes 0),
      .ioctl setOneRoute]

/-- Its blob, imported right after a load, brings the generation 7 and no route. -/
theorem exportState_importState_loaded :
    let t := loaded (quietBoot none)
    let header := { loadedBlob with recoveryGeneration := 7, routeCount := 1 }
    let rqI := plainRequest .importState header.bytes 0
    (evtIoDeviceControl (plainRequest .exportState [] 24) routedState).1.output =
        some (.stateBlob header) ∧
      (evtIoDeviceControl rqI t).1.status = statusSuccess ∧
      ∃ next, (evtIoDeviceControl (plainRequest .exportState [] 24) (evtIoDeviceControl rqI t).2).1 =
          ⟨statusSuccess, 24, some (.stateBlob next)⟩ ∧
        next.version = 1 ∧ next.recoveryGeneration = 7 ∧ next.policyCount = 0 ∧
        next.routeCount = 0 := by
  intro t header rqI
  have hexported : (evtIoDeviceControl (plainRequest .exportState [] 24) routedState).1.output =
      some (.stateBlob header) := by decide
  obtain ⟨hstatus, next, hnext, hversion, hgeneration, -, hpolicy, hroute, -⟩ :=
    exportState_importState routedState t (plainRequest .exportState [] 24) rqI
      (plainRequest .exportState [] 24) header hexported (by decide)
      ⟨by decide, by decide, by decide, by decide, by decide⟩ (by decide) (by decide)
      ⟨by decide, by decide, by decide, by decide, by decide⟩
  exact ⟨hexported, hstatus, next, hnext, hversion, hgeneration.trans (by decide),
    hpolicy.trans (by decide), hroute.trans (by decide)⟩

/-- A blob exported with one route and imported right after a load is not exported again: the next
one counts no route. -/
theorem not_forall_exportState_importState :
    ¬ ∀ s t, Reachable s → Reachable t → ∀ (rqS rqI rqT : IoctlRequest)
        (header next : StateBlobHeaderV1),
      (evtIoDeviceControl rqS s).1.output = some (.stateBlob header) →
      IoctlCode.ofUInt32 rqI.ioControlCode = some .importState → Admitted rqI t →
      Holds rqI.inputMemory 0 header.bytes →
      (evtIoDeviceControl rqT (evtIoDeviceControl rqI t).2).1.output = some (.stateBlob next) →
      next.bytes = header.bytes := by
  intro h
  let header : StateBlobHeaderV1 := { loadedBlob with routeCount := 1 }
  have hlost := h (driver.final (loaded (quietBoot none)) [.ioctl setOneRoute])
    (loaded (quietBoot none)) ⟨quietBoot none, [.ioctl setOneRoute], by decide, rfl⟩
    ⟨quietBoot none, [], by decide, rfl⟩ (plainRequest .exportState [] 24)
    (plainRequest .importState header.bytes 0) (plainRequest .exportState [] 24) header loadedBlob
    (by decide) (by decide) ⟨by decide, by decide, by decide, by decide, by decide⟩ (by decide)
    (by decide)
  exact absurd hlost (by decide)

end Guardian
