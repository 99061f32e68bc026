import Guardian.Driver.Entry
import Guardian.Enforce.Classify
import Guardian.Ipc.Dispatch

/-!
# Runs of the loaded driver

The driver as a state machine: its events are IOCTL requests and invocations of the auth-connect
callouts, in any order.

* `driver`, `loaded`, `Reachable` : the machine, the state after a load, the states of its runs;
* `quietBoot`, `plainRequest` : a load and a request without failures;
* `driverStep_inv` : what the handlers keep, every step keeps;
* `reachable_tablesValid` : the invariant of both tables holds in every reachable state;
* `ioctlHandler_modes`, `setKillSwitch_handled`, `importState_mode` : who writes the mode.
-/

namespace Guardian
open Bytes

inductive Event where
  | ioctl (rq : IoctlRequest)
  | authConnectV4 (inFixedValues : Option IncomingValues) (clock : Clock) (classifyOut : ClassifyOut)
  | authConnectV6 (inFixedValues : Option IncomingValues) (clock : Clock) (classifyOut : ClassifyOut)

inductive Response where
  | completed (completion : Completion)
  | classified (classifyOut : ClassifyOut)
  deriving DecidableEq

def driverStep (g : Globals) : Event → Response × Globals
  | .ioctl rq =>
    let (completion, g) := evtIoDeviceControl rq g
    (.completed completion, g)
  | .authConnectV4 inFixedValues clock classifyOut =>
    let (out, g) := authConnectClassifyV4 inFixedValues clock classifyOut g
    (.classified out, g)
  | .authConnectV6 inFixedValues clock classifyOut =>
    let (out, g) := authConnectClassifyV6 inFixedValues clock classifyOut g
    (.classified out, g)

def driver : Machine Globals Event Response := ⟨driverStep⟩

/-- The statics after a load. -/
def loaded (boot : Boot) : Globals := (driverEntry boot imageGlobals).2

/-- The states of all runs that follow a successful load. -/
def Reachable (g : Globals) : Prop :=
  ∃ boot es, ntSuccess (driverEntry boot imageGlobals).1 = true ∧ g = driver.final (loaded boot) es

/-- A load in which every call succeeds, with the given registry key and no NDIS driver. -/
def quietBoot (registryPath : Option RegistryKey) : Boot where
  registryPath := registryPath
  driverCreate := statusSuccess
  device := ⟨true, statusSuccess, statusSuccess, statusSuccess, statusSuccess⟩
  calloutRegister := fun _ => statusSuccess
  ndisPoll := ⟨statusNotFound, statusNotFound, 0⟩

/-- A request of process 4 in session 0 with the given input bytes, served without failures. -/
def plainRequest (code : IoctlCode) (input : List UInt8) (outputLength : Nat) : IoctlRequest where
  ioControlCode := code.toUInt32
  inputBufferLength := input.length
  outputBufferLength := outputLength
  inputMemory := fun off => input.getD off 0
  caller := ⟨true, 4, fun _ => some 0⟩
  retrieveInputBuffer := statusSuccess
  retrieveOutputBuffer := statusSuccess
  alloc := fun _ => true
  ndisPoll := ⟨statusNotFound, statusNotFound, 0⟩
  start := ⟨0, 10000000⟩
  stop := ⟨0, 10000000⟩

/-- BlockAll of the same process. -/
def blockAllRequest : IoctlRequest :=
  plainRequest .setKillSwitch [1, 0, 0, 0, 1, 0, 0, 0, 0, 0, 0, 0, 0, 0, 0, 0] 0

/-! ## One request -/

theorem evtIoDeviceControl_status (rq : IoctlRequest) (g : Globals) :
    (evtIoDeviceControl rq g).1.status = (served rq g).status := rfl

theorem evtIoDeviceControl_frame (rq : IoctlRequest) (g : Globals) :
    ∃ t, (evtIoDeviceControl rq g).2 = { (served rq g).globals with telemetry := t } := ⟨_, rfl⟩

theorem driverStep_classify {g : Globals} {e : Event} (h : ∀ rq, e ≠ .ioctl rq) :
    ∃ t, (driverStep g e).2 = { g with telemetry := t } := by
  cases e with
  | ioctl rq => exact absurd rfl (h rq)
  | authConnectV4 values clock out =>
    obtain ⟨t, ht⟩ := classifyConnection_frame values clock g
    exact ⟨t, (authConnectClassifyV4_frame values clock out g).trans ht⟩
  | authConnectV6 values clock out =>
    obtain ⟨t, ht⟩ := classifyConnection_frame values clock g
    exact ⟨t, (authConnectClassifyV4_frame values clock out g).trans ht⟩

theorem driverStep_classify_keeps {P : Globals → Prop} {g : Globals} {e : Event}
    (hkeep : ∀ t, P { g with telemetry := t }) (h : ∀ rq, e ≠ .ioctl rq) : P (driverStep g e).2 := by
  obtain ⟨t, ht⟩ := driverStep_classify (g := g) h
  rw [ht]
  exact hkeep t

/-- An invariant of the handlers that neither the telemetry nor the pinned caller matters to is one of
every step. -/
theorem driverStep_inv {P : Globals → Prop} (htelemetry : ∀ g t, P g → P { g with telemetry := t })
    (hcaller : ∀ g pid, P g → P { g with allowedServicePid := pid })
    (hhandler : ∀ code rq input out g, P g → P (ioctlHandler code rq input out g).globals)
    (g : Globals) (e : Event) (h : P g) : P (driverStep g e).2 := by
  cases e with
  | ioctl rq =>
    show P (evtIoDeviceControl rq g).2
    obtain ⟨t, ht⟩ := evtIoDeviceControl_frame rq g
    rw [ht]
    apply htelemetry
    rcases served_cases rq g with ⟨-, status, -, hs⟩ | ⟨-, code, -, hs⟩
    · rw [hs]
      exact hcaller g _ h
    · rw [hs]
      apply hhandler
      exact hcaller g _ h
  | authConnectV4 values clock out | authConnectV6 values clock out =>
    exact driverStep_classify_keeps (fun t => htelemetry g t h) (by nofun)

/-! ## The tables -/

structure TablesValid (g : Globals) : Prop where
  policy : Table.Valid appPolicyKind g.policy
  route : Table.Valid routeKind g.route

theorem ioctlHandler_tablesValid {g : Globals} (h : TablesValid g) (code : IoctlCode)
    (rq : IoctlRequest) (input : Option Memory) (out : Bool) :
    TablesValid (ioctlHandler code rq input out g).globals := by
  cases code with
  | setAppPolicy => exact ⟨Table.valid_set appPolicyKind h.policy _ _, h.route⟩
  | syncPolicies => exact ⟨Table.valid_sync appPolicyKind h.policy _ _, h.route⟩
  | setRoute => exact ⟨h.policy, Table.valid_set routeKind h.route _ _⟩
  | syncRoutes => exact ⟨h.policy, Table.valid_sync routeKind h.route _ _⟩
  | clearRoute =>
    cases input with
    | none => exact h
    | some input => exact ⟨h.policy, Table.valid_remove routeKind h.route _⟩
  | setKillSwitch =>
    simp only [ioctlHandler]
    split
    · exact ⟨h.policy, h.route⟩
    · exact ⟨h.policy, h.route⟩
  | importState =>
    obtain ⟨r, state, heq⟩ := stateManagerImport_frame
      (input.map (StateBlobHeaderV1.read · 0)) (UInt32.ofNat rq.inputBufferLength) g
    simp only [ioctlHandler, heq]
    exact ⟨h.policy, h.route⟩
  | exportState =>
    simp only [ioctlHandler]
    split
    · exact h
    · exact h
  | setGuardianMode =>
    cases input with
    | none => exact h
    | some input =>
      obtain ⟨hybrid, m, n, heq⟩ := hybridSetMode_frame (readU32 input 0) rq.ndisPoll g
      simp only [ioctlHandler, heq]
      exact ⟨h.policy, h.route⟩
  | dnsSetConfig => exact ⟨h.policy, h.route⟩
  | getDriverState | getTelemetry | reconcile | getPerfStats | getDnsStats => exact h

theorem driverStep_tablesValid (g : Globals) (e : Event) (h : TablesValid g) :
    TablesValid (driverStep g e).2 := by
  apply driverStep_inv _ _ _ g e h
  · intro g t h
    exact ⟨h.policy, h.route⟩
  · intro g pid h
    exact ⟨h.policy, h.route⟩
  · intro code rq input out g h
    exact ioctlHandler_tablesValid h code rq input out

theorem reachable_tablesValid {g : Globals} (h : Reachable g) : TablesValid g := by
  obtain ⟨boot, es, -, rfl⟩ := h
  apply driver.final_inv TablesValid driverStep_tablesValid
  obtain ⟨hpolicy, hroute⟩ := driverEntry_tables boot imageGlobals
  constructor
  · rw [loaded, hpolicy]
    exact Table.valid_fresh appPolicyKind
  · rw [loaded, hroute]
    exact Table.valid_fresh routeKind

/-! ## The kill switch and its mirrored mode -/

theorem ioctlHandler_modes {code : IoctlCode} (hs : code ≠ .setKillSwitch)
    (hi : code ≠ .importState) (rq : IoctlRequest) (input : Option Memory) (out : Bool)
    (g : Globals) :
    (ioctlHandler code rq input out g).globals.killSwitch = g.killSwitch ∧
      (ioctlHandler code rq input out g).globals.driverState.killSwitchMode =
        g.driverState.killSwitchMode := by
  cases code with
  | setKillSwitch => exact absurd rfl hs
  | importState => exact absurd rfl hi
  | setGuardianMode =>
    cases input with
    | none => exact ⟨rfl, rfl⟩
    | some input =>
      obtain ⟨h, m, n, hf⟩ := hybridSetMode_frame (readU32 input 0) rq.ndisPoll g
      simp only [ioctlHandler, hf, and_self]
  | clearRoute => cases input <;> exact ⟨rfl, rfl⟩
  | exportState =>
    simp only [ioctlHandler]
    split <;> exact ⟨rfl, rfl⟩
  | _ => exact ⟨rfl, rfl⟩

/-- A SET_KILL_SWITCH request sets the kill switch and mirrors its mode, or changes nothing. -/
theorem setKillSwitch_handled (rq : IoctlRequest) (input : Option Memory) (out : Bool) (g : Globals) :
    let r := killSwitchSet (input.map (KillSwitchV1.read · 0)) g.killSwitch
    let s := ioctlHandler .setKillSwitch rq input out g
    s.status = r.1 ∧ s.globals.killSwitch = r.2 ∧
      s.globals.driverState.killSwitchMode =
        if ntSuccess r.1 then r.2.mode.toUInt32 else g.driverState.killSwitchMode := by
  simp only [ioctlHandler, killSwitchGetMode]
  refine ⟨trivial, ?_, ?_⟩ <;> split <;> rfl

theorem Admitted.importState_input {rq : IoctlRequest} {g : Globals} (h : Admitted rq g)
    (hcode : IoctlCode.ofUInt32 rq.ioControlCode = some .importState) :
    rq.inputBuffer = some rq.inputMemory ∧
      StateBlobHeaderV1.size ≤ (UInt32.ofNat rq.inputBufferLength).toNat := by
  obtain ⟨hsome, hsize⟩ := requireInput_success (validateIoctlBuffer_success hcode h.validated)
  have hmax := (validateIoctlBuffer_length h.validated).1
  have hlt : rq.inputBufferLength < 2 ^ 32 := Nat.lt_of_le_of_lt hmax (by decide)
  refine ⟨?_, ?_⟩
  · unfold IoctlRequest.inputBuffer at hsome ⊢
    split at hsome
    · next hpos => rw [if_pos hpos]
    · cases hsome
  · rw [UInt32.toNat_ofNat_of_lt' hlt]
    exact hsize

/-- An admitted IMPORT_STATE request writes the mode of a blob of the supported version to the
driver state. -/
theorem importState_mode {rq : IoctlRequest} {g : Globals} (h : Admitted rq g)
    (hcode : IoctlCode.ofUInt32 rq.ioControlCode = some .importState) (out : Bool) :
    (ioctlHandler .importState rq rq.inputBuffer out
        (callerChecked rq g)).globals.driverState.killSwitchMode =
      if (StateBlobHeaderV1.read rq.inputMemory 0).version = stateBlobVersion then
        (StateBlobHeaderV1.read rq.inputMemory 0).killSwitchMode
      else g.driverState.killSwitchMode := by
  obtain ⟨hin, hbytes⟩ := h.importState_input hcode
  simp only [ioctlHandler, hin, Option.map_some]
  rw [stateManagerImport_eq _ hbytes]
  split <;> rfl

end Guardian
