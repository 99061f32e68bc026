import Guardian.Ipc.Dispatch

/-!
# The output bytes of a request

* `Output.bytes`, `Output.size` : the packed bytes of a reported structure and their number;
* `IoctlCode.reporting`, `Output.code` : the codes that report, and the code each structure is for;
* `Reported` : what a handler owes its caller about status, length and structure;
  `served_reported`;
* `Admitted.output_fits` : the structure of an admitted request fits its output buffer;
* `evtIoDeviceControl_output` : the output of every request stays inside its buffer;
* `IoctlCode.report` : the structure a code reports of a state (`stateBlob` the exported header);
  `evtIoDeviceControl_report`, `Admitted.reported`.
-/

namespace Guardian
open Bytes

/-! ## Packed structures -/

def DriverStateV1.bytes (s : DriverStateV1) : List UInt8 :=
  bytesU32 s.version ++ bytesU32 s.versionMajor ++ bytesU32 s.versionMinor ++
    bytesU32 s.versionPatch ++ bytesU32 s.buildStamp ++ bytesU32 s.lifecycleState ++
    bytesU32 s.calloutsRegistered ++ bytesU32 s.filterCount ++ bytesU32 s.recoveryGeneration ++
    bytesU32 s.killSwitchMode ++ bytesU32 s.lastError ++ bytesU32 s.guardianMode ++
    s.reserved.toList

def TelemetryV1.bytes (t : TelemetryV1) : List UInt8 :=
  bytesU32 t.version ++ bytesU64 t.classifyCount ++ bytesU64 t.blockCount ++
    bytesU64 t.routeCount ++ bytesU64 t.permitCount ++ bytesU64 t.observeCount ++
    bytesU64 t.errorCount ++ bytesU64 t.dnsObserveCount ++ bytesU64 t.avgClassifyLatency100ns ++
    bytesU64 t.maxClassifyLatency100ns

def StateBlobHeaderV1.bytes (h : StateBlobHeaderV1) : List UInt8 :=
  bytesU32 h.version ++ bytesU32 h.policyCount ++ bytesU32 h.routeCount ++
    bytesU32 h.killSwitchMode ++ bytesU32 h.recoveryGeneration ++ bytesU32 h.reserved

def ReconcileResponseV1.bytes (r : ReconcileResponseV1) : List UInt8 :=
  bytesU32 r.version ++ bytesU32 r.removedOrphans ++ bytesU32 r.recoveryGeneration ++
    bytesU32 r.recoveryStatus

def PerfStatsV1.bytes (p : PerfStatsV1) : List UInt8 :=
  bytesU32 p.version ++ bytesU64 p.ipcDispatchCount ++ bytesU64 p.ipcRejectCount ++
    bytesU64 p.avgIpcLatency100ns ++ bytesU64 p.maxIpcLatency100ns ++
    bytesU64 p.deferredWorkCount ++ bytesU32 p.activePolicyCount ++ bytesU32 p.activeRouteCount

def DnsStatsV1.bytes (d : DnsStatsV1) : List UInt8 :=
  bytesU32 d.version ++ bytesU64 d.observedV4 ++ bytesU64 d.observedV6 ++
    bytesU64 d.skippedLoopback ++ bytesU64 d.skippedExcluded ++ bytesU64 d.skippedDisabled ++
    bytesU64 d.errors

/-- The bytes written from the output buffer's address on. -/
def Output.bytes : Output → List UInt8
  | .driverState value => value.bytes
  | .telemetry value => value.bytes
  | .stateBlob value => value.bytes
  | .reconcile value => value.bytes
  | .perfStats value => value.bytes
  | .dnsStats value => value.bytes

/-- `sizeof` of the reported structure. -/
def Output.size : Output → Nat
  | .driverState _ => DriverStateV1.size
  | .telemetry _ => TelemetryV1.size
  | .stateBlob _ => StateBlobHeaderV1.size
  | .reconcile _ => ReconcileResponseV1.size
  | .perfStats _ => PerfStatsV1.size
  | .dnsStats _ => DnsStatsV1.size

@[simp] theorem Output.length_bytes (o : Output) : o.bytes.length = o.size := by
  cases o <;>
    simp [Output.bytes, Output.size, DriverStateV1.bytes, DriverStateV1.size, TelemetryV1.bytes,
      TelemetryV1.size, StateBlobHeaderV1.bytes, StateBlobHeaderV1.size, ReconcileResponseV1.bytes,
      ReconcileResponseV1.size, PerfStatsV1.bytes, PerfStatsV1.size, DnsStatsV1.bytes,
      DnsStatsV1.size]

/-- The code whose requests report this structure. -/
def Output.code : Output → IoctlCode
  | .driverState _ => .getDriverState
  | .telemetry _ => .getTelemetry
  | .stateBlob _ => .exportState
  | .reconcile _ => .reconcile
  | .perfStats _ => .getPerfStats
  | .dnsStats _ => .getDnsStats

/-- The codes whose requests report a structure. -/
def IoctlCode.reporting : IoctlCode → Bool
  | .getDriverState | .getTelemetry | .exportState | .reconcile | .getPerfStats | .getDnsStats => true
  | _ => false

/-! ## What a handler reports -/

/-- A failure reports nothing; a success reports the structure of its code and its size, or nothing
where the code does not report. -/
structure Reported (code : IoctlCode) (s : Served) : Prop where
  failed : ntSuccess s.status = false → s.bytesReturned = 0 ∧ s.output = none
  reporting : ntSuccess s.status = true → code.reporting = true →
    ∃ o, s.output = some o ∧ o.code = code ∧ s.bytesReturned = o.size
  silent : ntSuccess s.status = true → code.reporting = false →
    s.bytesReturned = 0 ∧ s.output = none

theorem reported_silent {code : IoctlCode} (h : code.reporting = false) (status : NTSTATUS)
    (g : Globals) : Reported code ⟨status, 0, none, g⟩ where
  failed _ := ⟨rfl, rfl⟩
  reporting _ hr := absurd (h.symm.trans hr) Bool.false_ne_true
  silent _ _ := ⟨rfl, rfl⟩

theorem reported_failed {status : NTSTATUS} (h : ntSuccess status = false) (code : IoctlCode)
    (g : Globals) : Reported code ⟨status, 0, none, g⟩ where
  failed _ := ⟨rfl, rfl⟩
  reporting hs _ := absurd (h.symm.trans hs) Bool.false_ne_true
  silent _ _ := ⟨rfl, rfl⟩

theorem reported_output {o : Output} (h : o.code.reporting = true) (g : Globals) :
    Reported o.code ⟨statusSuccess, o.size, some o, g⟩ where
  failed hf := absurd hf.symm Bool.false_ne_true
  reporting _ _ := ⟨o, rfl, rfl, rfl⟩
  silent _ hs := absurd (hs.symm.trans h) Bool.false_ne_true

theorem ioctlHandler_reported (code : IoctlCode) (rq : IoctlRequest) (input : Option Memory)
    (out : Bool) (g : Globals) : Reported code (ioctlHandler code rq input out g) := by
  cases code with
  | getDriverState => exact reported_output (o := .driverState _) rfl g
  | getTelemetry => exact reported_output (o := .telemetry _) rfl g
  | getPerfStats => exact reported_output (o := .perfStats _) rfl g
  | getDnsStats => exact reported_output (o := .dnsStats _) rfl g
  | exportState =>
    cases out with
    | false => exact reported_failed rfl _ g
    | true =>
      simp only [ioctlHandler, stateManagerExport, Bool.not_true, Bool.false_eq_true, if_false]
      split_ifs
      · exact reported_failed rfl _ g
      · exact reported_output (o := .stateBlob _) rfl g
  | reconcile =>
    cases out with
    | false => exact reported_failed rfl _ g
    | true => exact reported_output (o := .reconcile _) rfl g
  | clearRoute => cases input <;> exact reported_silent rfl _ _
  | setGuardianMode => cases input <;> exact reported_silent rfl _ _
  | _ => exact reported_silent rfl _ _

theorem served_reported (rq : IoctlRequest) (g : Globals) :
    (ntSuccess (served rq g).status = false ∧ (served rq g).bytesReturned = 0 ∧
      (served rq g).output = none) ∨
    (Admitted rq g ∧ ∃ code, IoctlCode.ofUInt32 rq.ioControlCode = some code ∧
      Reported code (served rq g)) := by
  rcases served_cases rq g with ⟨-, status, hfail, hs⟩ | ⟨hadm, code, hc, hs⟩
  · rw [hs]
    exact Or.inl ⟨hfail, rfl, rfl⟩
  · rw [hs]
    exact Or.inr ⟨hadm, code, hc, ioctlHandler_reported code rq _ _ _⟩

/-! ## The required output -/

theorem validateIoctlCode_required (o : Output) {inputLength outputLength : Nat}
    {inputBuffer : Option Memory}
    (h : ntSuccess (validateIoctlCode o.code inputLength outputLength inputBuffer).1 = true) :
    (validateIoctlCode o.code inputLength outputLength inputBuffer).2 = o.size := by
  cases o with
  | reconcile value =>
    unfold Output.code validateIoctlCode at h ⊢
    simp only at h ⊢
    split at h
    · cases h
    · next hlen =>
      rw [if_neg hlen]
      rfl
  | _ => rfl

theorem Admitted.output_fits {rq : IoctlRequest} {g : Globals} (h : Admitted rq g) {o : Output}
    (hc : IoctlCode.ofUInt32 rq.ioControlCode = some o.code) : o.size ≤ rq.outputBufferLength := by
  have hfits := h.outputFits
  have hsuccess := validateIoctlBuffer_success hc h.validated
  rw [validateIoctlBuffer_eq hc h.validated, validateIoctlCode_required o hsuccess] at hfits
  exact hfits

theorem Output.size_pos (o : Output) : 0 < o.size := by
  cases o <;> exact Nat.succ_pos _

/-- **The output of every request stays inside its buffer**: the bytes go through a non-`NULL` pointer
to offsets below the buffer's length, the completed length does not exceed it, a failure reports
nothing, and a success reports the structure of its code with its own size, or nothing. -/
theorem evtIoDeviceControl_output (rq : IoctlRequest) (g : Globals) :
    let r := (evtIoDeviceControl rq g).1
    (∀ o, r.output = some o → rq.outputBuffer = true ∧
      ∀ i < o.bytes.length, i < rq.outputBufferLength) ∧
    r.information ≤ rq.outputBufferLength ∧
    (ntSuccess r.status = false → r.information = 0 ∧ r.output = none) ∧
    (ntSuccess r.status = true → ∀ code, IoctlCode.ofUInt32 rq.ioControlCode = some code →
      if code.reporting then ∃ o, r.output = some o ∧ o.code = code ∧ r.information = o.bytes.length
      else r.information = 0 ∧ r.output = none) := by
  intro r
  have hr : r = ⟨(served rq g).status, (served rq g).bytesReturned, (served rq g).output⟩ := rfl
  simp only [hr]
  rcases served_reported rq g with ⟨hfail, hbytes, hnone⟩ | ⟨hadm, code, hc, hrep⟩
  · rw [hfail, hbytes, hnone]
    exact ⟨nofun, Nat.zero_le _, fun _ => ⟨rfl, rfl⟩, nofun⟩
  · cases hs : ntSuccess (served rq g).status with
    | false =>
      obtain ⟨hbytes, hnone⟩ := hrep.failed hs
      rw [hbytes, hnone]
      exact ⟨nofun, Nat.zero_le _, fun _ => ⟨rfl, rfl⟩, nofun⟩
    | true =>
      cases hcode : code.reporting with
      | false =>
        obtain ⟨hbytes, hnone⟩ := hrep.silent hs hcode
        rw [hbytes, hnone]
        refine ⟨nofun, Nat.zero_le _, nofun, ?_⟩
        intro _ code' hc'
        obtain rfl : code = code' := Option.some.inj (hc.symm.trans hc')
        rw [hcode]
        exact ⟨rfl, rfl⟩
      | true =>
        obtain ⟨o, hout, hocode, hbytes⟩ := hrep.reporting hs hcode
        subst hocode
        have hfits := hadm.output_fits hc
        have hpos := o.size_pos
        rw [hbytes, hout]
        refine ⟨?_, hfits, nofun, ?_⟩
        · rintro o' ho'
          obtain rfl : o = o' := Option.some.inj ho'
          refine ⟨decide_eq_true (by omega), ?_⟩
          rw [o.length_bytes]
          omega
        · intro _ code' hc'
          obtain rfl : o.code = code' := Option.some.inj (hc.symm.trans hc')
          rw [hcode]
          exact ⟨o, rfl, rfl, o.length_bytes.symm⟩

/-! ## The reported values -/

/-- The header that a state is exported as. -/
def stateBlob (g : Globals) : StateBlobHeaderV1 where
  version := stateBlobVersion
  policyCount := appPolicyActiveCount g.policy
  routeCount := routeActiveCount g.route
  killSwitchMode := (killSwitchGetMode g.killSwitch).toUInt32
  recoveryGeneration := g.recoveryGeneration
  reserved := 0

/-- The structure that a code reports of a state. -/
def IoctlCode.report (g : Globals) : IoctlCode → Option Output
  | .getDriverState => some (.driverState g.driverState)
  | .getTelemetry => some (.telemetry (telemetryGet g.telemetry))
  | .exportState => some (.stateBlob (stateBlob g))
  | .reconcile => some (.reconcile ⟨1, 0, g.recoveryGeneration, g.recoveryStatus⟩)
  | .getPerfStats => some (.perfStats (perfStatsGet (appPolicyActiveCount g.policy)
      (routeActiveCount g.route) g.telemetry))
  | .getDnsStats => some (.dnsStats (dnsLayerGetStats g.dns))
  | _ => none

theorem stateManagerExport_eq {bytes : UInt32} (h : StateBlobHeaderV1.size ≤ bytes.toNat)
    (g : Globals) : stateManagerExport true bytes g =
      (statusSuccess, some (stateBlob g, UInt32.ofNat StateBlobHeaderV1.size)) := by
  unfold stateManagerExport
  simp only [Bool.not_true, Bool.false_eq_true, if_false]
  rw [if_neg (Nat.not_lt.mpr h)]
  rfl

theorem ioctlHandler_report {code : IoctlCode} {rq : IoctlRequest} {input : Option Memory}
    {out : Bool} {g : Globals} {o : Output} (h : (ioctlHandler code rq input out g).output = some o) :
    code.report g = some o := by
  cases code with
  | getDriverState | getTelemetry | getPerfStats | getDnsStats => exact h
  | exportState =>
    simp only [ioctlHandler] at h
    cases out with
    | false => cases h
    | true =>
      by_cases hsize : StateBlobHeaderV1.size ≤ (UInt32.ofNat rq.outputBufferLength).toNat
      · rw [stateManagerExport_eq hsize] at h
        exact h
      · unfold stateManagerExport at h
        rw [if_neg (by decide), if_pos (Nat.not_le.mp hsize)] at h
        cases h
  | reconcile =>
    cases out with
    | false => cases h
    | true => exact h
  | clearRoute | setGuardianMode => cases input <;> cases h
  | _ => cases h

theorem IoctlCode.report_code {code : IoctlCode} {g : Globals} {o : Output}
    (h : code.report g = some o) : o.code = code := by
  cases code <;> cases h <;> rfl

/-- **What a request reports is the structure of the state it finds**, whatever its code. -/
theorem evtIoDeviceControl_report {rq : IoctlRequest} {g : Globals} {o : Output}
    (h : (evtIoDeviceControl rq g).1.output = some o) : o.code.report g = some o := by
  have hout : (served rq g).output = some o := h
  rcases served_cases rq g with ⟨-, status, -, hs⟩ | ⟨-, code, -, hs⟩
  · rw [hs] at hout
    cases hout
  · rw [hs] at hout
    have hreport := ioctlHandler_report hout
    rw [IoctlCode.report_code hreport]
    cases code <;> exact hreport

/-- An admitted request of a code that reports is answered with its structure. -/
theorem Admitted.reported {rq : IoctlRequest} {g : Globals} (h : Admitted rq g) {o : Output}
    (hc : IoctlCode.ofUInt32 rq.ioControlCode = some o.code) (ho : o.code.report g = some o) :
    (evtIoDeviceControl rq g).1 = ⟨statusSuccess, o.size, some o⟩ := by
  have hfits := h.output_fits hc
  have hmax := (validateIoctlBuffer_length h.validated).2
  have hlt : rq.outputBufferLength < 2 ^ 32 := Nat.lt_of_le_of_lt hmax (by decide)
  have hpos := o.size_pos
  have hout : rq.outputBuffer = true := decide_eq_true (by omega)
  have hlen : (UInt32.ofNat rq.outputBufferLength).toNat = rq.outputBufferLength :=
    UInt32.toNat_ofNat_of_lt' hlt
  rcases served_cases rq g with ⟨hno, -⟩ | ⟨-, code, hcode, hs⟩
  · exact absurd h hno
  · obtain rfl : code = o.code := Option.some.inj (hcode.symm.trans hc)
    unfold evtIoDeviceControl
    simp only [hs, hout]
    cases o with
    | stateBlob header =>
      obtain rfl : stateBlob g = header := by simpa [IoctlCode.report, Output.code] using ho
      have hexport := stateManagerExport_eq (hlen.symm ▸ hfits) (callerChecked rq g)
      simp only [Output.code, ioctlHandler, hexport]
      rfl
    | _ =>
      cases ho
      rfl

end Guardian
