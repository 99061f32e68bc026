import Guardian.Client.Wire
import Guardian.Runs.DriverState

/-!
# A session of the usermode client

The calls of one client process from a load on, once over the wire and once directly on the driver's
functions.

* `Call` : the methods of `GuardianClient`; `Call.ioctl` and `Call.parse` are their two ends;
* `Peer`, `Delivery`, `deliver`, `answer` : the process, what the system adds to a call, the request that
  the driver gets, and what the client gets back;
* `wire`, `direct` : the calls as bytes and as values;
* `deliver_validated`, `served_deliver` : every call passes the checks and reaches its handler;
  `setter_answers`, `getter_answers` : and does there what the call does directly;
* `session_transparent` : both sessions give the same answers and leave the same driver.
-/

namespace Guardian
open Bytes

namespace Client

/-- A method of `GuardianClient` with its arguments. -/
inductive Call where
  | driverState
  | setGuardianMode (mode : GuardianMode)
  | setAppPolicy (policy : AppPolicyV1)
  | setRoute (route : RouteAssignmentV1)
  | clearRoute (appId : Vector UInt8 16)
  | setKillSwitch (config : KillSwitchV1)
  | telemetry
  | perfStats
  | dnsSetConfig (config : DnsConfigV1)
  | reconcile
  | exportState

def Call.ioctl : Call → Ioctl
  | .driverState => getDriverState
  | .setGuardianMode mode => Client.setGuardianMode mode
  | .setAppPolicy policy => Client.setAppPolicy policy
  | .setRoute route => Client.setRoute route
  | .clearRoute appId => Client.clearRoute appId
  | .setKillSwitch config => Client.setKillSwitch config
  | .telemetry => getTelemetry
  | .perfStats => getPerfStats
  | .dnsSetConfig config => Client.dnsSetConfig config
  | .reconcile => getReconcile
  | .exportState => getExportState

/-- What the methods return. -/
inductive Value where
  | unit
  | driverState (state : DriverStateV1)
  | telemetry (telemetry : TelemetryV1)
  | perfStats (stats : PerfStatsV1)
  | reconcile (response : ReconcileResponseV1)
  | exportState (header : StateBlobHeaderV1)

def Call.parse (call : Call) (answer : Answer) : Except GuardianError Value :=
  match call with
  | .driverState => (Client.driverState answer).map .driverState
  | .telemetry => (Client.telemetry answer).map .telemetry
  | .perfStats => (Client.perfStats answer).map .perfStats
  | .reconcile => (Client.reconcile answer).map .reconcile
  | .exportState => (Client.exportState answer).map .exportState
  | .setGuardianMode _ | .setAppPolicy _ | .setRoute _ | .clearRoute _ | .setKillSwitch _
  | .dnsSetConfig _ => answer.map fun _ => .unit

/-- The code whose handler serves the call. -/
def Call.code : Call → IoctlCode
  | .driverState => .getDriverState
  | .setGuardianMode _ => .setGuardianMode
  | .setAppPolicy _ => .setAppPolicy
  | .setRoute _ => .setRoute
  | .clearRoute _ => .clearRoute
  | .setKillSwitch _ => .setKillSwitch
  | .telemetry => .getTelemetry
  | .perfStats => .getPerfStats
  | .dnsSetConfig _ => .dnsSetConfig
  | .reconcile => .reconcile
  | .exportState => .exportState

end Client

open Client (Call Value Ioctl Answer GuardianError)

/-- The process that the client runs in: it is alive, and not the idle process. -/
structure Peer where
  pid : UInt32
  session : UInt32
  lookupProcess : UInt32 → Option UInt32
  pid_ne_zero : pid ≠ 0
  alive : lookupProcess pid = some session

def Peer.caller (peer : Peer) : Caller := ⟨true, peer.pid, peer.lookupProcess⟩

/-- What the system adds to a call: the memory around the input, the outcome of the allocations and of a
poll, and the counter readings. -/
structure Delivery where
  behind : Memory
  alloc : Nat → Bool
  ndisPoll : NdisPoll
  start : PerformanceCounter
  stop : PerformanceCounter

/-- The request of a call: the I/O manager copies the input and hands both buffers to the driver. -/
def deliver (peer : Peer) (io : Ioctl) (d : Delivery) : IoctlRequest where
  ioControlCode := io.code
  inputBufferLength := (io.input.getD []).length
  outputBufferLength := io.outputLength
  inputMemory := overlay (io.input.getD []) d.behind
  caller := peer.caller
  retrieveInputBuffer := statusSuccess
  retrieveOutputBuffer := statusSuccess
  alloc := d.alloc
  ndisPoll := d.ndisPoll
  start := d.start
  stop := d.stop

section

-- `windowsError` is the system's translation of a status
variable (windowsError : NTSTATUS → UInt32)

/-- What `GuardianDevice::ioctl` returns: the bytes are copied to a zeroed buffer. -/
def answer (c : Completion) : Answer :=
  if ntSuccess c.status then
    .ok (UInt32.ofNat c.information, overlay ((c.output.map Output.bytes).getD []) fun _ => 0)
  else .error (.windows (windowsError c.status))

/-- The calls of a client as bytes on the wire. -/
def wire (peer : Peer) : Machine Globals (Call × Delivery) (Except GuardianError Value) where
  step g x :=
    let r := evtIoDeviceControl (deliver peer x.1.ioctl x.2) g
    (x.1.parse (answer windowsError r.1), r.2)

/-- A call as the driver's function on the values. -/
def Client.Call.serve (d : Delivery) (g : Globals) : Call → NTSTATUS × Value × Globals
  | .driverState => (statusSuccess, .driverState (.ofKernel g.driverState), g)
  | .setGuardianMode mode =>
    let (status, g) := hybridSetMode mode.toUInt32 d.ndisPoll g
    (status, .unit, g)
  | .setAppPolicy policy =>
    let (status, policies) := appPolicySet (some policy.toKernel) (d.alloc 0) g.policy
    (status, .unit, { g with policy := policies })
  | .setRoute route =>
    let (status, routes) := routeSet (some route.toKernel) (d.alloc 0) g.route
    (status, .unit, { g with route := routes })
  | .clearRoute appId =>
    let (status, routes) := routeClear appId g.route
    (status, .unit, { g with route := routes })
  | .setKillSwitch config =>
    let (status, killSwitch) := killSwitchSet (some config.toKernel) g.killSwitch
    (status, .unit, { g with
      killSwitch := killSwitch
      driverState := if ntSuccess status then
        { g.driverState with killSwitchMode := killSwitch.mode.toUInt32 } else g.driverState })
  | .telemetry => (statusSuccess, .telemetry (.ofKernel (telemetryGet g.telemetry)), g)
  | .perfStats =>
    (statusSuccess, .perfStats (.ofKernel (perfStatsGet (appPolicyActiveCount g.policy)
      (routeActiveCount g.route) g.telemetry)), g)
  | .dnsSetConfig config =>
    let (status, dns) := dnsLayerSetConfig (some config.toKernel) g.dns
    (status, .unit, { g with dns := dns })
  | .reconcile =>
    (statusSuccess, .reconcile (.ofKernel ⟨1, 0, g.recoveryGeneration, g.recoveryStatus⟩), g)
  | .exportState => (statusSuccess, .exportState (.ofKernel (stateBlob g)), g)

/-- The calls of a client directly on the driver: each pins the client, is served, and is counted. -/
def direct (peer : Peer) : Machine Globals (Call × Delivery) (Except GuardianError Value) where
  step g x :=
    let (status, value, g) := x.1.serve x.2 { g with allowedServicePid := peer.pid }
    let latency := x.2.stop.quadPart - x.2.start.quadPart
    (if ntSuccess status then .ok value else .error (.windows (windowsError status)),
      { g with telemetry := perfRecordIpc (!ntSuccess status) latency g.telemetry })

end

/-! ## The way to the handler -/

theorem deliver_requestOf (peer : Peer) (io : Ioctl) (d : Delivery) :
    RequestOf io (deliver peer io d) :=
  ⟨rfl, rfl, rfl, holds_overlay _ _⟩

theorem setGuardianMode_sentAs : SentAs Client.setGuardianMode .setGuardianMode readU32
    Client.GuardianMode.toUInt32 := by
  have hsize : ∀ mode : Client.GuardianMode, (bytesU32 mode.toUInt32).length = 4 := fun _ => by simp
  exact sentAs_of_decodes (fun _ => rfl) hsize (by decide) (by decide) (fun _ _ _ => rfl)
    fun _ _ h => readU32_of_holds h

theorem clearRoute_sentAs : SentAs Client.clearRoute .clearRoute (readU8s · · 16) id := by
  have hsize : ∀ appId : Vector UInt8 16, appId.toList.length = 16 := fun _ => by simp
  exact sentAs_of_decodes (fun _ => rfl) hsize (by decide) (by decide) (fun _ _ _ => rfl)
    fun _ _ h => readU8s_of_holds h

theorem setAppPolicy_sentAs : SentAs Client.setAppPolicy .setAppPolicy AppPolicyV1.read
    Client.AppPolicyV1.toKernel :=
  sentAs_of_decodes (fun _ => rfl) Client.AppPolicyV1.length_bytes (by decide) (by decide)
    (fun _ _ _ => rfl) fun _ _ h => Client.AppPolicyV1.read_of_holds h

theorem setRoute_sentAs : SentAs Client.setRoute .setRoute RouteAssignmentV1.read
    Client.RouteAssignmentV1.toKernel :=
  sentAs_of_decodes (fun _ => rfl) Client.RouteAssignmentV1.length_bytes (by decide) (by decide)
    (fun _ _ _ => rfl) fun _ _ h => Client.RouteAssignmentV1.read_of_holds h

theorem setKillSwitch_sentAs : SentAs Client.setKillSwitch .setKillSwitch KillSwitchV1.read
    Client.KillSwitchV1.toKernel :=
  sentAs_of_decodes (fun _ => rfl) Client.KillSwitchV1.length_bytes (by decide) (by decide)
    (fun _ _ _ => rfl) fun _ _ h => Client.KillSwitchV1.read_of_holds h

theorem dnsSetConfig_sentAs : SentAs Client.dnsSetConfig .dnsSetConfig DnsConfigV1.read
    Client.DnsConfigV1.toKernel :=
  sentAs_of_decodes (fun _ => rfl) Client.DnsConfigV1.length_bytes (by decide) (by decide)
    (fun _ _ _ => rfl) fun _ _ h => Client.DnsConfigV1.read_of_holds h

/-- The call has the code and passes the validation, with room for its answer. -/
structure Validated (rq : IoctlRequest) (code : IoctlCode) : Prop where
  code : IoctlCode.ofUInt32 rq.ioControlCode = some code
  validated : ntSuccess (validateIoctlBuffer rq.ioControlCode rq.inputBufferLength
    rq.outputBufferLength rq.inputBuffer).1 = true
  outputFits : (validateIoctlBuffer rq.ioControlCode rq.inputBufferLength rq.outputBufferLength
    rq.inputBuffer).2 ≤ rq.outputBufferLength

theorem SentAs.validated {α κ : Type} {call : α → Ioctl} {code : IoctlCode}
    {read : Memory → Nat → κ} {toKernel : α → κ} (h : SentAs call code read toKernel) (peer : Peer)
    (a : α) (d : Delivery) : Validated (deliver peer (call a) d) code := by
  obtain ⟨hcode, hvalid, -⟩ := h a _ (deliver_requestOf peer (call a) d)
  refine ⟨hcode, ?_, ?_⟩
  · rw [hvalid]
    rfl
  · rw [hvalid]
    exact Nat.zero_le _

theorem deliver_validated (peer : Peer) (call : Call) (d : Delivery) :
    Validated (deliver peer call.ioctl d) call.code := by
  cases call with
  | driverState => exact ⟨IoctlCode.ofUInt32_toUInt32 .getDriverState, rfl, Nat.le_refl _⟩
  | telemetry => exact ⟨IoctlCode.ofUInt32_toUInt32 .getTelemetry, rfl, Nat.le_refl _⟩
  | perfStats => exact ⟨IoctlCode.ofUInt32_toUInt32 .getPerfStats, rfl, Nat.le_refl _⟩
  | reconcile => exact ⟨IoctlCode.ofUInt32_toUInt32 .reconcile, rfl, Nat.le_refl _⟩
  | exportState => exact ⟨IoctlCode.ofUInt32_toUInt32 .exportState, rfl, Nat.le_refl _⟩
  | setGuardianMode mode => exact setGuardianMode_sentAs.validated peer mode d
  | setAppPolicy policy => exact setAppPolicy_sentAs.validated peer policy d
  | setRoute route => exact setRoute_sentAs.validated peer route d
  | clearRoute appId => exact clearRoute_sentAs.validated peer appId d
  | setKillSwitch config => exact setKillSwitch_sentAs.validated peer config d
  | dnsSetConfig config => exact dnsSetConfig_sentAs.validated peer config d

/-- Nobody but the peer is pinned. -/
def PinnedFor (peer : Peer) (g : Globals) : Prop :=
  g.allowedServicePid = 0 ∨ g.allowedServicePid = peer.pid

theorem Peer.pins (peer : Peer) {pid : UInt32} (h : pid = 0 ∨ pid = peer.pid) :
    securityPolicyVerifyCaller (some peer.caller) pid = (statusSuccess, peer.pid) := by
  have hadmits : Admits peer.caller pid := by
    refine ⟨rfl, peer.pid_ne_zero, peer.session, peer.alive, ?_⟩
    rcases h with h | h
    · exact Or.inl h
    · exact Or.inr (Or.inl h.symm)
  rw [verifyCaller_admits hadmits]
  rcases h with rfl | rfl
  · rfl
  · rw [if_neg peer.pid_ne_zero]

theorem served_deliver {peer : Peer} {g : Globals} (h : PinnedFor peer g) (call : Call)
    (d : Delivery) :
    let rq := deliver peer call.ioctl d
    Admitted rq g ∧ served rq g = ioctlHandler call.code rq rq.inputBuffer rq.outputBuffer
      { g with allowedServicePid := peer.pid } := by
  intro rq
  have hvalid := deliver_validated peer call d
  have hpins : securityPolicyVerifyCaller (some rq.caller) g.allowedServicePid =
      (statusSuccess, peer.pid) := peer.pins h
  have hadmitted : Admitted rq g := ⟨by rw [hpins]; rfl, fun _ => rfl, fun _ => rfl,
    hvalid.validated, hvalid.outputFits⟩
  have hchecked : callerChecked rq g = { g with allowedServicePid := peer.pid } := by
    rw [callerChecked, hpins]
  refine ⟨hadmitted, ?_⟩
  rcases served_cases rq g with ⟨hno, -⟩ | ⟨-, code, hcode, hs⟩
  · exact absurd hadmitted hno
  · obtain rfl : code = call.code := Option.some.inj (hcode.symm.trans hvalid.code)
    rw [hs, hchecked]

/-! ## At the handler -/

variable (windowsError : NTSTATUS → UInt32)

/-- The completion `c` of the call leaves what the call itself does in the state `g`: its status and
state, and its value or its error at the client. -/
structure Answers (call : Call) (d : Delivery) (g : Globals) (s : Served) : Prop where
  status : s.status = (call.serve d g).1
  globals : s.globals = (call.serve d g).2.2
  value : call.parse (answer windowsError ⟨s.status, s.bytesReturned, s.output⟩) =
    if ntSuccess (call.serve d g).1 then .ok (call.serve d g).2.1
    else .error (.windows (windowsError (call.serve d g).1))

theorem answer_failed {status : NTSTATUS} (h : ntSuccess status = false) (n : Nat)
    (output : Option Output) : answer windowsError ⟨status, n, output⟩ =
      .error (.windows (windowsError status)) := if_neg (by simp [h])

theorem answer_reported (o : Output) :
    Answered o (answer windowsError ⟨statusSuccess, o.size, some o⟩) := by
  refine ⟨overlay o.bytes fun _ => 0, holds_overlay _ _, ?_⟩
  rw [answer, if_pos ntSuccess_success, o.length_bytes]
  rfl

theorem telemetry_readBack : ReadBack Client.getTelemetry Output.telemetry Client.telemetry
    Client.TelemetryV1.ofKernel :=
  readBack_of_decodes (fun _ => rfl) (fun _ => rfl) fun _ _ h => Client.TelemetryV1.read_of_holds h

theorem perfStats_readBack : ReadBack Client.getPerfStats Output.perfStats Client.perfStats
    Client.PerfStatsV1.ofKernel :=
  readBack_of_decodes (fun _ => rfl) (fun _ => rfl) fun _ _ h => Client.PerfStatsV1.read_of_holds h

theorem exportState_readBack : ReadBack Client.getExportState Output.stateBlob Client.exportState
    Client.StateBlobHeaderV1.ofKernel :=
  readBack_of_decodes (fun _ => rfl) (fun _ => rfl) fun _ _ h =>
    Client.StateBlobHeaderV1.read_of_holds h

theorem reconcile_readBack : ReadBack Client.getReconcile Output.reconcile Client.reconcile
    Client.ReconcileResponseV1.ofKernel :=
  readBack_of_decodes (fun _ => rfl) (fun _ => rfl) fun _ _ h =>
    Client.ReconcileResponseV1.read_of_holds h

theorem setter_answers {call : Call} {d : Delivery} {g : Globals} {s : Served}
    (hparse : ∀ a, call.parse a = a.map fun _ => .unit) (hvalue : (call.serve d g).2.1 = .unit)
    (hs : s = ⟨(call.serve d g).1, 0, none, (call.serve d g).2.2⟩) :
    Answers windowsError call d g s := by
  subst hs
  refine ⟨rfl, rfl, ?_⟩
  rw [hparse, hvalue]
  cases hok : ntSuccess (call.serve d g).1 with
  | true =>
    rw [answer, if_pos hok]
    rfl
  | false =>
    rw [answer_failed windowsError hok]
    rfl

theorem getter_answers {call : Call} {d : Delivery} {g : Globals} {s : Served} (o : Output)
    (hserve : (call.serve d g).1 = statusSuccess ∧ (call.serve d g).2.2 = g)
    (hparse : ∀ a, Answered o a → call.parse a = .ok (call.serve d g).2.1)
    (hs : s = ⟨statusSuccess, o.size, some o, g⟩) : Answers windowsError call d g s := by
  subst hs
  refine ⟨hserve.1.symm, hserve.2.symm, ?_⟩
  rw [hserve.1, if_pos ntSuccess_success]
  exact hparse _ (answer_reported windowsError o)

theorem handler_answers (peer : Peer) (call : Call) (d : Delivery) {g : Globals}
    (hversion : g.driverState.version = driverStateVersion) :
    let rq := deliver peer call.ioctl d
    Answers windowsError call d g
      (ioctlHandler call.code rq rq.inputBuffer rq.outputBuffer g) := by
  intro rq
  cases call with
  | setGuardianMode mode =>
    obtain ⟨-, -, hread⟩ := setGuardianMode_sentAs mode _ (deliver_requestOf peer _ d)
    apply setter_answers windowsError (fun _ => rfl) rfl
    obtain ⟨m, hm, hmode⟩ := Option.map_eq_some_iff.mp hread
    have hinput : rq.inputBuffer = some m := hm
    simp only [Client.Call.code, hinput, ioctlHandler, hmode]
    rfl
  | setAppPolicy policy =>
    obtain ⟨-, -, hread⟩ := setAppPolicy_sentAs policy _ (deliver_requestOf peer _ d)
    apply setter_answers windowsError (fun _ => rfl) rfl
    have hread' : rq.inputBuffer.map (AppPolicyV1.read · 0) = some policy.toKernel := hread
    simp only [Client.Call.code, ioctlHandler, hread']
    rfl
  | setRoute route =>
    obtain ⟨-, -, hread⟩ := setRoute_sentAs route _ (deliver_requestOf peer _ d)
    apply setter_answers windowsError (fun _ => rfl) rfl
    have hread' : rq.inputBuffer.map (RouteAssignmentV1.read · 0) = some route.toKernel := hread
    simp only [Client.Call.code, ioctlHandler, hread']
    rfl
  | clearRoute appId =>
    obtain ⟨-, -, hread⟩ := clearRoute_sentAs appId _ (deliver_requestOf peer _ d)
    apply setter_answers windowsError (fun _ => rfl) rfl
    obtain ⟨m, hm, hid⟩ := Option.map_eq_some_iff.mp hread
    have hinput : rq.inputBuffer = some m := hm
    simp only [Client.Call.code, hinput, ioctlHandler, hid]
    rfl
  | setKillSwitch config =>
    obtain ⟨-, -, hread⟩ := setKillSwitch_sentAs config _ (deliver_requestOf peer _ d)
    apply setter_answers windowsError (fun _ => rfl) rfl
    have hread' : rq.inputBuffer.map (KillSwitchV1.read · 0) = some config.toKernel := hread
    simp only [Client.Call.code, ioctlHandler, hread', Client.Call.serve, killSwitchGetMode]
    split <;> rfl
  | dnsSetConfig config =>
    obtain ⟨-, -, hread⟩ := dnsSetConfig_sentAs config _ (deliver_requestOf peer _ d)
    apply setter_answers windowsError (fun _ => rfl) rfl
    have hread' : rq.inputBuffer.map (DnsConfigV1.read · 0) = some config.toKernel := hread
    simp only [Client.Call.code, ioctlHandler, hread']
    rfl
  | driverState =>
    apply getter_answers windowsError (.driverState g.driverState) ⟨rfl, rfl⟩ _ rfl
    intro a ha
    have hread := driverState_readBack.fields g.driverState a ha
    have hknown : ¬ (Client.DriverStateV1.ofKernel g.driverState).version ≠
        Client.guardianDriverStateVersion := not_not.mpr hversion
    simp only [Client.Call.parse, Client.driverState, hread, if_neg hknown]
    rfl
  | telemetry =>
    apply getter_answers windowsError (.telemetry (telemetryGet g.telemetry)) ⟨rfl, rfl⟩ _ rfl
    intro a ha
    have hread := telemetry_readBack.fields (telemetryGet g.telemetry) a ha
    simp only [Client.Call.parse, hread]
    rfl
  | perfStats =>
    let stats := perfStatsGet (appPolicyActiveCount g.policy) (routeActiveCount g.route) g.telemetry
    apply getter_answers windowsError (.perfStats stats) ⟨rfl, rfl⟩ _ rfl
    intro a ha
    have hread := perfStats_readBack.fields stats a ha
    simp only [Client.Call.parse, hread]
    rfl
  | reconcile =>
    let response : ReconcileResponseV1 := ⟨1, 0, g.recoveryGeneration, g.recoveryStatus⟩
    apply getter_answers windowsError (.reconcile response) ⟨rfl, rfl⟩ _ rfl
    intro a ha
    have hread := reconcile_readBack.fields response a ha
    simp only [Client.Call.parse, hread]
    rfl
  | exportState =>
    apply getter_answers windowsError (.stateBlob (stateBlob g)) ⟨rfl, rfl⟩ _ rfl
    intro a ha
    have hread := exportState_readBack.fields (stateBlob g) a ha
    simp only [Client.Call.parse, hread]
    rfl

/-! ## Sessions -/

/-- What a session keeps: nobody else is pinned, and the driver state has the version that the client
knows. -/
structure InSession (peer : Peer) (g : Globals) : Prop where
  pinned : PinnedFor peer g
  version : g.driverState.version = driverStateVersion

/-- A call over the wire is the call itself. -/
theorem wire_step_eq {peer : Peer} {g : Globals} (h : InSession peer g) (x : Call × Delivery) :
    (wire windowsError peer).step g x = (direct windowsError peer).step g x := by
  obtain ⟨-, hs⟩ := served_deliver h.pinned x.1 x.2
  obtain ⟨hstatus, hglobals, hvalue⟩ := handler_answers windowsError peer x.1 x.2
    (g := { g with allowedServicePid := peer.pid }) h.version
  rw [← hs] at hstatus hglobals hvalue
  refine Prod.ext hvalue ?_
  show (evtIoDeviceControl (deliver peer x.1.ioctl x.2) g).2 = _
  unfold evtIoDeviceControl
  simp only [hstatus, hglobals]
  rfl

theorem Client.Call.serve_version (call : Call) (d : Delivery) {g : Globals} :
    (call.serve d g).2.2.driverState.version = g.driverState.version ∧
      (call.serve d g).2.2.allowedServicePid = g.allowedServicePid := by
  cases call with
  | setGuardianMode mode =>
    obtain ⟨h, m, n, hf⟩ := hybridSetMode_frame mode.toUInt32 d.ndisPoll g
    simp only [Client.Call.serve, hf]
    exact ⟨trivial, trivial⟩
  | setKillSwitch config =>
    simp only [Client.Call.serve]
    split <;> exact ⟨rfl, trivial⟩
  | _ => exact ⟨rfl, rfl⟩

theorem session_simulates (peer : Peer) : Machine.Simulates (wire windowsError peer)
    (direct windowsError peer) (fun g g' => g = g' ∧ InSession peer g) := by
  rintro g g' x ⟨rfl, h⟩
  rw [wire_step_eq windowsError h x]
  obtain ⟨hversion, hpid⟩ := x.1.serve_version x.2 (g := { g with allowedServicePid := peer.pid })
  exact ⟨rfl, rfl, Or.inr hpid, hversion.trans h.version⟩

/-- **The wire between the client and the driver is transparent**: after a load, whatever methods the
client calls and however the allocations and polls turn out, each call returns exactly what the driver's
function on its values returns, a value or the error of its status, and never a short read or a version
that the client does not know; and the driver is left as these functions leave it. -/
theorem session_transparent (peer : Peer) (boot : Boot)
    (hload : ntSuccess (driverEntry boot imageGlobals).1 = true) (calls : List (Call × Delivery)) :
    (wire windowsError peer).trace (loaded boot) calls =
        (direct windowsError peer).trace (loaded boot) calls ∧
      (wire windowsError peer).final (loaded boot) calls =
        (direct windowsError peer).final (loaded boot) calls := by
  have hpid : (loaded boot).allowedServicePid = 0 := by
    obtain ⟨w, d, c, hybrid, r, status, state, hframe, -⟩ := driverEntry_frame boot imageGlobals
    rw [loaded, hframe]
    rfl
  have hversion : (loaded boot).driverState.version = driverStateVersion := by
    rw [(loaded_follows hload).driverState]
    rfl
  obtain ⟨htrace, hfinal, -⟩ := (session_simulates windowsError peer).run
    (s := loaded boot) (t := loaded boot) ⟨rfl, Or.inl hpid, hversion⟩ calls
  exact ⟨htrace, hfinal⟩

/-- Process 4, which every lookup finds in session 0. -/
def processFour : Peer := ⟨4, 0, fun _ => some 0, by decide, rfl⟩

/-- What the system adds where nothing fails and no NDIS driver answers. -/
def quietDelivery : Delivery :=
  ⟨fun _ => 0, fun _ => true, ⟨statusNotFound, statusNotFound, 0⟩, ⟨0, 10000000⟩, ⟨0, 10000000⟩⟩

/-- A mode that is set is the one that the client reads back. -/
theorem session_transparent_mode :
    let session := (wire (fun _ => 0) processFour).trace (loaded (quietBoot none))
      [(.setGuardianMode .hybrid, quietDelivery), (.driverState, quietDelivery)]
    ∃ state, session = [((.setGuardianMode .hybrid, quietDelivery), .ok .unit),
        ((.driverState, quietDelivery), .ok (.driverState state))] ∧
      state.mode = some .hybrid := by
  intro session
  obtain ⟨htrace, -⟩ := session_transparent (fun _ => 0) processFour (quietBoot none) (by decide)
    [(.setGuardianMode .hybrid, quietDelivery), (.driverState, quietDelivery)]
  exact ⟨_, htrace, by decide⟩

end Guardian
