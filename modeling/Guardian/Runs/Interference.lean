import Guardian.Ipc.Outputs
import Guardian.Runs.Hybrid

/-!
# Requests that cannot interfere

Once a service is pinned, a request has no effect on anybody else if its code asks for no write access
or its caller is denied: the run without it goes the same way, the counters aside.

* `writeAccess`, `Event.powerless` : the requests meant;
* `Response.uncounted` : a response without its counters;
* `Alike` : states that differ in their counters; `ioctlHandler_alike`, `evtIoDeviceControl_alike`,
  `evtIoDeviceControl_powerless`;
* `powerless_unwinds`, `powerless_noninterference`.
-/

namespace Guardian
open Bytes

/-- `FILE_WRITE_DATA` is among the access bits of the `CTL_CODE`. -/
def writeAccess (ioControlCode : UInt32) : Bool :=
  (ioControlCode >>> 14) &&& fileWriteData = fileWriteData

/-- A request without write access, or of a caller that is denied where `pid` is pinned. -/
def Event.powerless (pid : UInt32) : Event → Bool
  | .ioctl rq => !writeAccess rq.ioControlCode ||
      !ntSuccess (securityPolicyVerifyCaller (some rq.caller) pid).1
  | _ => false

/-- A reported structure with its counters zeroed. -/
def Output.uncounted : Output → Output
  | .telemetry _ => .telemetry (telemetryGet telemetryInitialize)
  | .perfStats stats => .perfStats
      (perfStatsGet stats.activePolicyCount stats.activeRouteCount telemetryInitialize)
  | .driverState value => .driverState value
  | .stateBlob value => .stateBlob value
  | .reconcile value => .reconcile value
  | .dnsStats value => .dnsStats value

def Response.uncounted : Response → Response
  | .completed c => .completed { c with output := c.output.map Output.uncounted }
  | .classified out => .classified out

/-- Two states with the pinned caller `pid` that differ in their counters at most. -/
structure Alike (pid : UInt32) (g g' : Globals) : Prop where
  pinned : g'.allowedServicePid = pid
  counters : ∃ t, g = { g' with telemetry := t }

/-! ## Handlers -/

theorem hybridEnterMode_telemetry (mode : Mode) (poll : NdisPoll) (g : Globals)
    (t : TelemetryState) : hybridEnterMode mode poll { g with telemetry := t } =
      ((hybridEnterMode mode poll g).1, { (hybridEnterMode mode poll g).2 with telemetry := t }) := by
  unfold hybridEnterMode
  simp only
  split
  · rfl
  · split <;> rfl

theorem hybridSetMode_telemetry (value : UInt32) (poll : NdisPoll) (g : Globals)
    (t : TelemetryState) : hybridSetMode value poll { g with telemetry := t } =
      ((hybridSetMode value poll g).1, { (hybridSetMode value poll g).2 with telemetry := t }) := by
  unfold hybridSetMode
  cases Mode.ofUInt32 value with
  | none => rfl
  | some mode =>
    have hshut : hybridCoordinatorShutdown { g with telemetry := t } =
        { hybridCoordinatorShutdown g with telemetry := t } := by
      rw [hybridCoordinatorShutdown_eq, hybridCoordinatorShutdown_eq]
    simp only [hshut]
    split
    · exact hybridEnterMode_telemetry mode poll (hybridCoordinatorShutdown g) t
    · exact hybridEnterMode_telemetry mode poll g t

theorem ioctlHandler_alike (code : IoctlCode) (rq : IoctlRequest) (input : Option Memory)
    (out : Bool) (g : Globals) (t : TelemetryState) :
    let s := ioctlHandler code rq input out g
    ∃ output, ioctlHandler code rq input out { g with telemetry := t } =
        { s with output := output, globals := { s.globals with telemetry := t } } ∧
      output.map Output.uncounted = s.output.map Output.uncounted := by
  cases code with
  | setKillSwitch =>
    simp only [ioctlHandler]
    split <;> exact ⟨_, rfl, rfl⟩
  | setGuardianMode =>
    cases input with
    | none => exact ⟨_, rfl, rfl⟩
    | some input =>
      simp only [ioctlHandler, hybridSetMode_telemetry]
      exact ⟨_, rfl, rfl⟩
  | clearRoute => cases input <;> exact ⟨_, rfl, rfl⟩
  | importState =>
    cases input with
    | none => exact ⟨_, rfl, rfl⟩
    | some input =>
      simp only [ioctlHandler, stateManagerImport, Option.map_some]
      split
      · exact ⟨_, rfl, rfl⟩
      · split <;> exact ⟨_, rfl, rfl⟩
  | exportState =>
    simp only [ioctlHandler, stateManagerExport]
    split
    · exact ⟨_, rfl, rfl⟩
    · exact ⟨_, rfl, rfl⟩
  | _ => exact ⟨_, rfl, rfl⟩

/-- A handler without write access writes nothing. -/
theorem ioctlHandler_noWriteAccess {code : IoctlCode} (h : writeAccess code.toUInt32 = false)
    (rq : IoctlRequest) (input : Option Memory) (out : Bool) (g : Globals) :
    (ioctlHandler code rq input out g).globals = g := by
  cases code with
  | getDriverState | getTelemetry | getPerfStats | getDnsStats => rfl
  | exportState =>
    simp only [ioctlHandler]
    split <;> rfl
  | _ => exact absurd h (by decide)

/-! ## Requests -/

theorem writeAccess_of_code {ioControlCode : UInt32} {code : IoctlCode}
    (hc : IoctlCode.ofUInt32 ioControlCode = some code) :
    writeAccess ioControlCode = writeAccess code.toUInt32 := by
  rw [IoctlCode.toUInt32_of_ofUInt32 hc]

theorem callerChecked_pinned {rq : IoctlRequest} {g : Globals} (h : g.allowedServicePid ≠ 0) :
    callerChecked rq g = g := by
  have hpid : (securityPolicyVerifyCaller (some rq.caller) g.allowedServicePid).2 =
      g.allowedServicePid := by
    by_cases ha : Admits rq.caller g.allowedServicePid
    · rw [verifyCaller_admits ha, if_neg h]
    · rw [verifyCaller_denies ha]
  rw [callerChecked, hpid]

theorem evtIoDeviceControl_powerless {rq : IoctlRequest} {g : Globals} (h : g.allowedServicePid ≠ 0)
    (hpower : (Event.ioctl rq).powerless g.allowedServicePid = true) :
    ∃ t, (evtIoDeviceControl rq g).2 = { g with telemetry := t } := by
  obtain ⟨t, ht⟩ := evtIoDeviceControl_frame rq g
  suffices hserved : (served rq g).globals = g by
    rw [ht, hserved]
    exact ⟨t, rfl⟩
  rcases served_cases rq g with ⟨-, status, -, hs⟩ | ⟨hadm, code, hcode, hs⟩
  · rw [hs]
    exact callerChecked_pinned h
  · have hnone : writeAccess code.toUInt32 = false := by
      rw [Event.powerless, hadm.caller, Bool.not_true, Bool.or_false] at hpower
      rw [← writeAccess_of_code hcode]
      simpa using hpower
    rw [hs, ioctlHandler_noWriteAccess hnone]
    exact callerChecked_pinned h

theorem evtIoDeviceControl_alike (rq : IoctlRequest) (g : Globals) (t : TelemetryState) :
    (Response.completed (evtIoDeviceControl rq { g with telemetry := t }).1).uncounted =
        (Response.completed (evtIoDeviceControl rq g).1).uncounted ∧
      ∃ t', (evtIoDeviceControl rq { g with telemetry := t }).2 =
        { (evtIoDeviceControl rq g).2 with telemetry := t' } := by
  suffices hserved : ∃ output, served rq { g with telemetry := t } =
      { served rq g with
        output := output, globals := { (served rq g).globals with telemetry := t } } ∧
      output.map Output.uncounted = (served rq g).output.map Output.uncounted by
    obtain ⟨output, hs, hout⟩ := hserved
    unfold evtIoDeviceControl Response.uncounted
    simp only [hs, hout]
    exact ⟨trivial, _, rfl⟩
  -- up to the handler the request looks at the pinned caller and at nothing else of the state
  have hearly : ∀ status, ∃ output,
      Served.early status (callerChecked rq { g with telemetry := t }) =
        { Served.early status (callerChecked rq g) with
          output := output
          globals := { (Served.early status (callerChecked rq g)).globals with telemetry := t } } ∧
      output.map Output.uncounted =
        (Served.early status (callerChecked rq g)).output.map Output.uncounted :=
    fun status => ⟨none, rfl, rfl⟩
  unfold served
  simp only
  split
  · exact hearly _
  · split
    · exact hearly _
    · split
      · exact hearly _
      · split
        · exact hearly _
        · split
          · exact hearly _
          · split
            · exact ioctlHandler_alike _ rq rq.inputBuffer rq.outputBuffer (callerChecked rq g) t
            · exact hearly _

theorem driverStep_classified (g : Globals) (t : TelemetryState) {e : Event}
    (h : ∀ rq, e ≠ .ioctl rq) :
    (driverStep { g with telemetry := t } e).1 = (driverStep g e).1 := by
  have hclassify : ∀ values clock out, (authConnectClassifyV4 values clock out
      { g with telemetry := t }).1 = (authConnectClassifyV4 values clock out g).1 := by
    intro values clock out
    unfold authConnectClassifyV4
    rw [classifyConnection_eq, classifyConnection_eq]
    simp only
    cases killSwitchEvaluate 0 g.killSwitch with
    | some action => cases action <;> rfl
    | none =>
      cases values with
      | none => rfl
      | some values =>
        simp only [ntSuccess_success, Bool.not_true, Bool.false_eq_true, if_false]
        split <;> rfl
  cases e with
  | ioctl rq => exact absurd rfl (h rq)
  | authConnectV4 values clock out | authConnectV6 values clock out =>
    exact congrArg Response.classified (hclassify values clock out)

/-! ## Runs -/

/-- Powerless requests can be dropped from a run without the other events seeing it. -/
theorem powerless_unwinds {pid : UInt32} (hpid : pid ≠ 0) :
    driver.Unwinds (fun e => !e.powerless pid) Response.uncounted (Alike pid) where
  dropped g g' e h hdrop := by
    obtain ⟨hpinned, t, rfl⟩ := h
    cases e with
    | ioctl rq =>
      have hpower : (Event.ioctl rq).powerless g'.allowedServicePid = true := by
        rw [hpinned]
        simpa using hdrop
      obtain ⟨t', ht'⟩ := evtIoDeviceControl_powerless (g := { g' with telemetry := t })
        (by rwa [← hpinned] at hpid) hpower
      exact ⟨hpinned, t', ht'⟩
    | authConnectV4 values clock out | authConnectV6 values clock out => cases hdrop
  kept g g' e h _ := by
    obtain ⟨hpinned, t, rfl⟩ := h
    cases e with
    | ioctl rq =>
      obtain ⟨hsee, t', ht'⟩ := evtIoDeviceControl_alike rq g' t
      refine ⟨hsee, ?_, t', ht'⟩
      show (evtIoDeviceControl rq g').2.allowedServicePid = pid
      obtain ⟨u, hu⟩ := evtIoDeviceControl_frame rq g'
      obtain ⟨p, r, k, d, m, n, state, hserved⟩ := served_frame rq g'
      rw [hu, hserved, callerChecked_pinned (by rwa [hpinned])]
      exact hpinned
    | authConnectV4 values clock out | authConnectV6 values clock out =>
      obtain ⟨u, hu⟩ := driverStep_classify (g := g') (e := .authConnectV4 values clock out) nofun
      obtain ⟨u', hu'⟩ := driverStep_classify (g := { g' with telemetry := t })
        (e := .authConnectV4 values clock out) nofun
      refine ⟨congrArg Response.uncounted (driverStep_classified g' t (by nofun)), ?_, u', ?_⟩
      · show (driverStep g' (.authConnectV4 values clock out)).2.allowedServicePid = pid
        rw [hu]
        exact hpinned
      · show (driverStep _ (.authConnectV4 values clock out)).2 =
          { (driverStep g' (.authConnectV4 values clock out)).2 with telemetry := u' }
        rw [hu', hu]

/-- **A pinned service is not interfered with**: the requests without write access and those of denied
callers can be dropped from a run. Every other request is answered alike without them, up to the
counters it reports, every connection gets the same verdict, and the run ends in the same state, up to
the counters. -/
theorem powerless_noninterference (g : Globals) (hpinned : g.allowedServicePid ≠ 0)
    (es : List Event) :
    let keep := fun e : Event => !e.powerless g.allowedServicePid
    driver.seen keep Response.uncounted g es =
        driver.seen keep Response.uncounted g (es.filter keep) ∧
      ∃ t, driver.final g es = { driver.final g (es.filter keep) with telemetry := t } := by
  intro keep
  obtain ⟨hseen, hfinal⟩ := (powerless_unwinds hpinned).run (s := g) (t := g)
    ⟨rfl, g.telemetry, rfl⟩ es
  exact ⟨hseen, hfinal.counters⟩

/-- Off of a process in another session. -/
def strangerRequest : IoctlRequest :=
  { plainRequest .setKillSwitch [1, 0, 0, 0, 0, 0, 0, 0, 0, 0, 0, 0, 0, 0, 0, 0] 0 with
    caller := ⟨true, 8, fun pid => some (if pid = 8 then 1 else 0)⟩ }

def openConnection : Event :=
  .authConnectV4 (some ⟨.aleAuthConnectV4, fun _ => .empty⟩) ⟨⟨0, 1⟩, ⟨0, 1⟩⟩ ⟨.none, fwpsRightActionWrite, 0⟩

/-- Process 4 is pinned and sets BlockAll; the Off of a process in another session and the GET_TELEMETRY of
a peer do not keep the connection after them from being blocked. -/
theorem powerless_noninterference_pinned :
    let g := driver.final (loaded (quietBoot none)) [.ioctl (plainRequest .getDriverState [] 60)]
    let keep := fun e : Event => !e.powerless g.allowedServicePid
    let es : List Event := [.ioctl blockAllRequest, .ioctl strangerRequest,
      .ioctl (plainRequest .getTelemetry [] 76), openConnection]
    driver.seen keep Response.uncounted g es =
        driver.seen keep Response.uncounted g [.ioctl blockAllRequest, openConnection] ∧
      (driver.seen keep Response.uncounted g es).map Prod.snd =
        [.completed ⟨statusSuccess, 0, none⟩, .classified ⟨.block, 0, 0⟩] ∧
      ∃ t, driver.final g es =
        { driver.final g [.ioctl blockAllRequest, openConnection] with telemetry := t } := by
  intro g keep es
  obtain ⟨hseen, hfinal⟩ := powerless_noninterference g (by decide) es
  have hkept : es.filter keep = [.ioctl blockAllRequest, openConnection] := by
    have hpid : g.allowedServicePid = 4 := by decide
    show es.filter (fun e => !e.powerless g.allowedServicePid) = _
    rw [hpid]
    rfl
  have hanswers : (driver.seen keep Response.uncounted g [.ioctl blockAllRequest, openConnection]).map
      Prod.snd = [.completed ⟨statusSuccess, 0, none⟩, .classified ⟨.block, 0, 0⟩] := by decide
  rw [hkept] at hseen hfinal
  refine ⟨hseen, ?_, hfinal⟩
  rw [hseen]
  exact hanswers

end Guardian
