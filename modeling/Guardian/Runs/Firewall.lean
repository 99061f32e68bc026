import Guardian.Ipc.Admission
import Guardian.Runs.ActionMatrix
import Guardian.Runs.BlockPolicy
import Guardian.Runs.KillSwitch
import Guardian.Store.RouteMap

/-!
# The driver as a firewall

What a run of the driver stands for: a pinned caller, one kill-switch request, policies in the order of
their precedence and a route for each application.

* `Firewall`, `Firewall.Blocks` : the configuration, and which connections it blocks;
* `Firewall.request`, `firewall` : what the requests do to it, and the machine they make;
* `governs_iff`, `routeOverride_blocks_iff`, `authConnectClassifyV4_answer` : the code's own matching,
  route switch and answers in these terms;
* `Implements` : the statics of the driver hold a configuration; `driverStep_implements`;
* `driver_refines_firewall` : every verdict of every run is the one of the firewall.
-/

namespace Guardian
open Bytes

/-- What the verdicts of the driver depend on. -/
structure Firewall where
  allowedServicePid : UInt32
  killSwitch : KillSwitchRequest
  policies : OrderedMap appPolicyKind.appId
  routes : Table.RecordMap RouteAssignmentV1

namespace Firewall

/-! ## Verdicts -/

/-- The policy is about the connection: it is about all, or about those that carry an application id. -/
def Governs (values : IncomingValues) (policy : AppPolicyV1) : Prop :=
  policy.matchKind = matchNone ∨ policy.matchKind = matchProcessPath ∧ HasAppId values

instance (values : IncomingValues) (policy : AppPolicyV1) : Decidable (Governs values policy) :=
  inferInstanceAs (Decidable (_ ∨ _))

/-- The first policy about the connection. -/
def governing (fw : Firewall) (values : IncomingValues) : Option AppPolicyV1 :=
  fw.policies.entries.find? fun policy => Governs values policy

/-- A policy blocks what it is about, if the application has no route that says otherwise. -/
def PolicyBlocks (fw : Firewall) (policy : AppPolicyV1) : Prop :=
  (policy.action = policyBlock ∧
    ∀ route ∈ fw.routes.lookup policy.appId, route.routeKind ∉ overridingRouteKinds) ∨
  ∃ route ∈ fw.routes.lookup policy.appId, route.routeKind = routeBlocked

instance (fw : Firewall) (policy : AppPolicyV1) : Decidable (fw.PolicyBlocks policy) :=
  inferInstanceAs (Decidable (_ ∨ _))

/-- BlockAll and AllowVpnOnly block every connection, else the governing policy blocks those it is
about. -/
def Blocks (fw : Firewall) (inFixedValues : Option IncomingValues) : Prop :=
  fw.killSwitch.mode = .blockAll ∨ fw.killSwitch.mode = .allowVpnOnly ∨
    ∃ values ∈ inFixedValues, ∃ policy ∈ fw.governing values, fw.PolicyBlocks policy

instance (fw : Firewall) (inFixedValues : Option IncomingValues) :
    Decidable (fw.Blocks inFixedValues) := inferInstanceAs (Decidable (_ ∨ _ ∨ _))

/-- The answer to a connection gives up the right to write, and leaves the flags as they are. -/
def answer (blocked : Bool) (classifyOut : ClassifyOut) : ClassifyOut where
  actionType := if blocked then .block else .permit
  rights := classifyOut.rights &&& ~~~fwpsRightActionWrite
  flags := classifyOut.flags

def classify (fw : Firewall) (inFixedValues : Option IncomingValues) (classifyOut : ClassifyOut) :
    ClassifyOut := answer (fw.Blocks inFixedValues) classifyOut

/-! ## Requests -/

/-- The request in force after a SET_KILL_SWITCH. -/
def setKillSwitch (config : Option KillSwitchV1) (last : KillSwitchRequest) : KillSwitchRequest :=
  match config with
  | none => last
  | some config =>
    if config.version = killSwitchVersion then
      match KillSwitchMode.ofUInt32 config.mode with
      | some mode => ⟨mode, config.vpnInterfaceLuid⟩
      | none => last
    else last

/-- What a well-formed request does. -/
def configure (code : IoctlCode) (rq : IoctlRequest) (fw : Firewall) : Firewall :=
  match code with
  | .setAppPolicy => { fw with
      policies := (Table.mapStep appPolicyKind fw.policies
        (.set (rq.inputBuffer.map (AppPolicyV1.read · 0)) (rq.alloc 0))).2 }
  | .syncPolicies => { fw with
      policies := (Table.mapStep appPolicyKind fw.policies
        (.sync (rq.inputBuffer.map fun input => syncPolicies input (syncCount input)) rq.alloc)).2 }
  | .setRoute => { fw with
      routes := (Table.finmapStep routeKind fw.routes
        (.set (rq.inputBuffer.map (RouteAssignmentV1.read · 0)) (rq.alloc 0))).2 }
  | .clearRoute =>
    match rq.inputBuffer with
    | none => fw
    | some input => { fw with
        routes := (Table.finmapStep routeKind fw.routes (.remove (readU8s input 0 16))).2 }
  | .syncRoutes => { fw with
      routes := (Table.finmapStep routeKind fw.routes
        (.sync (rq.inputBuffer.map fun input => syncRoutes input (syncCount input)) rq.alloc)).2 }
  | .setKillSwitch => { fw with
      killSwitch := setKillSwitch (rq.inputBuffer.map (KillSwitchV1.read · 0)) fw.killSwitch }
  | _ => fw

/-- The first caller is pinned. -/
def pin (caller : Caller) (fw : Firewall) : Firewall := { fw with
  allowedServicePid := if fw.allowedServicePid = 0 then caller.pid else fw.allowedServicePid }

/-- A request of a caller that is not admitted changes nothing; that of another one pins it if it is the
first, and does what its code says if it is well formed. -/
def request (rq : IoctlRequest) (fw : Firewall) : Firewall :=
  if Admits rq.caller fw.allowedServicePid then
    match IoctlCode.ofUInt32 rq.ioControlCode with
    | some code => if WellFormed code rq then (fw.pin rq.caller).configure code rq else fw.pin rq.caller
    | none => fw.pin rq.caller
  else fw

def step (fw : Firewall) : Event → Option ClassifyOut × Firewall
  | .ioctl rq => (none, fw.request rq)
  | .authConnectV4 inFixedValues _ classifyOut => (some (fw.classify inFixedValues classifyOut), fw)
  | .authConnectV6 inFixedValues _ classifyOut => (some (fw.classify inFixedValues classifyOut), fw)

/-- The configuration after a load. -/
def initial (boot : Boot) : Firewall :=
  ⟨0, ⟨registryKillSwitchMode boot.registryPath, 0⟩, OrderedMap.empty, ∅⟩

end Firewall

/-- The firewall as a machine: it answers the classifications and looks at no clock, counter or report. -/
def firewall : Machine Firewall Event (Option ClassifyOut) := ⟨Firewall.step⟩

/-- What a response says about a connection. -/
def Response.verdict : Response → Option ClassifyOut
  | .completed _ => none
  | .classified classifyOut => some classifyOut

/-- The driver with its verdicts as the only answers. -/
def driverVerdicts : Machine Globals Event (Option ClassifyOut) :=
  ⟨fun g e => ((driverStep g e).1.verdict, (driverStep g e).2)⟩

/-! ## Simulation -/

/-- The statics hold the configuration. -/
structure Implements (g : Globals) (fw : Firewall) : Prop where
  allowedServicePid : g.allowedServicePid = fw.allowedServicePid
  killSwitch : g.killSwitch.Enforces fw.killSwitch
  policies : Table.Refines appPolicyKind g.policy fw.policies
  routes : Table.Stores routeKind g.route fw.routes

theorem killSwitchSet_enforces {s : KillSwitchState} {last : KillSwitchRequest}
    (h : s.Enforces last) (config : Option KillSwitchV1) :
    (killSwitchSet config s).2.Enforces (Firewall.setKillSwitch config last) := by
  unfold killSwitchSet Firewall.setKillSwitch
  cases config with
  | none => exact h
  | some config =>
    by_cases hv : config.version = killSwitchVersion
    · simp only [hv, ne_eq, not_true_eq_false, if_false, if_true]
      cases KillSwitchMode.ofUInt32 config.mode with
      | none => exact h
      | some mode =>
        cases mode with
        | restore => exact fun _ => rfl
        | off | blockAll | allowVpnOnly => exact enforces_of_fields _ _
    · simp only [hv, ne_eq, not_false_eq_true, if_true, if_false]
      exact h

variable {g : Globals} {fw : Firewall}

theorem governs_iff (values : IncomingValues) (policy : AppPolicyV1) :
    policyMatches (appIdBlob values) policy = decide (Firewall.Governs values policy) := by
  unfold Firewall.Governs
  by_cases hid : HasAppId values
  · rw [policyMatches_of_hasAppId hid]
    simp [hid]
  · rw [policyMatches_of_not_hasAppId hid]
    simp [hid]

theorem policyAction_block_iff (policy : AppPolicyV1) :
    (policyAction policy).action = .block ↔ policy.action = policyBlock := by
  unfold policyAction
  split_ifs with hblock <;> simp [hblock]

theorem routeOverride_blocks_iff (route : RouteAssignmentV1) (result : ClassifyResult) :
    (routeOverride route result).action = .block ↔
      (result.action = .block ∧ route.routeKind ∉ overridingRouteKinds) ∨
        route.routeKind = routeBlocked := by
  by_cases hblocked : route.routeKind = routeBlocked
  · simp [routeOverride, hblocked]
  · obtain ⟨action, luid⟩ := result
    rw [or_iff_left hblocked]
    by_cases hblock : action = .block
    · subst hblock
      rw [routeOverride_block_iff]
      simp
    · simp only [hblock, false_and, iff_false]
      unfold routeOverride
      rw [if_neg hblocked]
      split_ifs
      · simp
      · simp
      · exact hblock

theorem policyDecision_block_iff (routes : RouteTable) (policy : AppPolicyV1) :
    (policyDecision routes policy).action = .block ↔
      (policy.action = policyBlock ∧ ∀ route ∈ (routeLookup policy.appId routes).2,
        route.routeKind ∉ overridingRouteKinds) ∨
      ∃ route ∈ (routeLookup policy.appId routes).2, route.routeKind = routeBlocked := by
  unfold policyDecision
  cases (routeLookup policy.appId routes).2 with
  | none => simp [policyAction_block_iff]
  | some route => simp [routeOverride_blocks_iff, policyAction_block_iff]

theorem authConnectClassifyV4_rights (values : Option IncomingValues) (clock : Clock)
    (out : ClassifyOut) (g : Globals) :
    (authConnectClassifyV4 values clock out g).1.rights = out.rights &&& ~~~fwpsRightActionWrite := by
  have hpermit : ∀ out, (classifyPermit out).rights = out.rights := by
    intro out
    unfold classifyPermit
    simp only
    split_ifs <;> rfl
  have hblock : ∀ out, (classifyBlock out).rights = out.rights := by
    intro out
    unfold classifyBlock
    simp only
    split_ifs <;> rfl
  unfold authConnectClassifyV4
  simp only
  split
  · rw [hpermit, classifyReset]
  · split
    · rw [hblock, classifyReset]
    · rw [hpermit, classifyReset]
    · rw [hpermit, classifyReset]
    · rw [hpermit, classifyReset]

theorem authConnectClassifyV4_answer (values : Option IncomingValues) (clock : Clock)
    (out : ClassifyOut) (g : Globals) [Decidable (Blocked values g)] :
    (authConnectClassifyV4 values clock out g).1 = Firewall.answer (Blocked values g) out := by
  have haction := authConnectClassifyV4_actionType values clock out g
  simp only [blocked_iff] at haction
  have hflags := authConnectClassifyV4_flags values clock out g
  have hrights := authConnectClassifyV4_rights values clock out g
  unfold Firewall.answer
  simp only [decide_eq_true_eq, ← haction, ← hflags, ← hrights]

theorem verdict_block_iff (r : KillSwitchRequest) :
    (r.verdict 0 = some .block ↔ r.mode = .blockAll ∨ r.mode = .allowVpnOnly) ∧
      (r.verdict 0 = none ↔ ¬ (r.mode = .blockAll ∨ r.mode = .allowVpnOnly)) := by
  unfold KillSwitchRequest.verdict
  have hvpn : ¬ (r.vpnInterfaceLuid ≠ 0 ∧ 0 = r.vpnInterfaceLuid) := fun h => h.1 h.2.symm
  cases hmode : r.mode <;> simp [hvpn]

theorem Implements.governing (h : Implements g fw) (values : IncomingValues) :
    (appPolicyLookup (some values) g.policy).2 = fw.governing values := by
  have hmatch : policyMatches (appIdBlob values) =
      fun policy => decide (Firewall.Governs values policy) := funext (governs_iff values)
  simp only [appPolicyLookup, h.policies.list_eq, hmatch]
  rfl

theorem Implements.decision_block_iff (h : Implements g fw) (values : IncomingValues) :
    (decision g.route values g.policy).action = .block ↔
      ∃ policy ∈ fw.governing values, fw.PolicyBlocks policy := by
  have hroute : ∀ appId, (routeLookup appId g.route).2 = fw.routes.lookup appId := by
    intro appId
    rw [routeLookup_eq]
    exact h.routes.represents appId
  unfold decision
  rw [h.governing]
  cases fw.governing values with
  | none => simp
  | some policy =>
    simp only [policyDecision_block_iff, hroute, Firewall.PolicyBlocks, Option.mem_some_iff,
      exists_eq_left']

theorem Implements.blocked_iff (h : Implements g fw) (values : Option IncomingValues) :
    Blocked values g ↔ fw.Blocks values := by
  obtain ⟨hblock, hnone⟩ := verdict_block_iff fw.killSwitch
  unfold Blocked Firewall.Blocks
  rw [h.killSwitch 0, hblock, hnone, ← or_assoc]
  simp only [h.decision_block_iff, Option.mem_def]
  by_cases hkill : fw.killSwitch.mode = .blockAll ∨ fw.killSwitch.mode = .allowVpnOnly
  · simp only [hkill, true_or]
  · simp only [hkill, false_or, not_false_eq_true, true_and]

theorem Implements.classify (h : Implements g fw) (values : Option IncomingValues) (clock : Clock)
    (out : ClassifyOut) :
    (authConnectClassifyV4 values clock out g).1 = fw.classify values out := by
  have hdec : Decidable (Blocked values g) := decidable_of_iff _ (h.blocked_iff values).symm
  rw [authConnectClassifyV4_answer, Firewall.classify]
  simp only [h.blocked_iff values]

/-- An admitted request configures the driver as it configures the firewall. -/
theorem Implements.configure (h : Implements g fw) (code : IoctlCode) (rq : IoctlRequest)
    (out : Bool) :
    Implements (ioctlHandler code rq rq.inputBuffer out g).globals (fw.configure code rq) := by
  have hpolicy : ∀ call, Table.Refines appPolicyKind (Table.storeStep appPolicyKind g.policy call).2
      (Table.mapStep appPolicyKind fw.policies call).2 :=
    fun call => (Table.store_simulates appPolicyKind (by decide) _ _ call h.policies).2
  have hroute : ∀ call, Table.Stores routeKind (Table.storeStep routeKind g.route call).2
      (Table.finmapStep routeKind fw.routes call).2 :=
    fun call => (Table.store_simulates_finmap _ _ call h.routes).2
  cases code with
  | setAppPolicy =>
    exact ⟨h.allowedServicePid, h.killSwitch,
      hpolicy (.set (rq.inputBuffer.map (AppPolicyV1.read · 0)) (rq.alloc 0)), h.routes⟩
  | syncPolicies =>
    exact ⟨h.allowedServicePid, h.killSwitch, hpolicy (.sync
      (rq.inputBuffer.map fun input => syncPolicies input (syncCount input)) rq.alloc), h.routes⟩
  | setRoute =>
    exact ⟨h.allowedServicePid, h.killSwitch, h.policies,
      hroute (.set (rq.inputBuffer.map (RouteAssignmentV1.read · 0)) (rq.alloc 0))⟩
  | syncRoutes =>
    exact ⟨h.allowedServicePid, h.killSwitch, h.policies, hroute (.sync
      (rq.inputBuffer.map fun input => syncRoutes input (syncCount input)) rq.alloc)⟩
  | clearRoute =>
    unfold Firewall.configure
    cases rq.inputBuffer with
    | none => exact h
    | some input =>
      exact ⟨h.allowedServicePid, h.killSwitch, h.policies, hroute (.remove (readU8s input 0 16))⟩
  | setKillSwitch =>
    have hkill := killSwitchSet_enforces h.killSwitch (rq.inputBuffer.map (KillSwitchV1.read · 0))
    simp only [ioctlHandler]
    split <;> exact ⟨h.allowedServicePid, hkill, h.policies, h.routes⟩
  | importState =>
    obtain ⟨r, state, heq⟩ := stateManagerImport_frame
      (rq.inputBuffer.map (StateBlobHeaderV1.read · 0)) (UInt32.ofNat rq.inputBufferLength) g
    simp only [ioctlHandler, heq]
    exact ⟨h.allowedServicePid, h.killSwitch, h.policies, h.routes⟩
  | exportState =>
    simp only [ioctlHandler]
    split <;> exact h
  | setGuardianMode =>
    unfold Firewall.configure
    cases rq.inputBuffer with
    | none => exact h
    | some input =>
      obtain ⟨hybrid, m, n, heq⟩ := hybridSetMode_frame (readU32 input 0) rq.ndisPoll g
      simp only [ioctlHandler, heq]
      exact ⟨h.allowedServicePid, h.killSwitch, h.policies, h.routes⟩
  | dnsSetConfig => exact ⟨h.allowedServicePid, h.killSwitch, h.policies, h.routes⟩
  | getDriverState | getTelemetry | reconcile | getPerfStats | getDnsStats => exact h

theorem Implements.checked (h : Implements g fw) (rq : IoctlRequest) :
    Implements (callerChecked rq g)
      (if Admits rq.caller fw.allowedServicePid then fw.pin rq.caller else fw) := by
  have hpid : (callerChecked rq g).allowedServicePid =
      (securityPolicyVerifyCaller (some rq.caller) fw.allowedServicePid).2 := by
    simp only [callerChecked, h.allowedServicePid]
  split_ifs with hadmits
  · rw [verifyCaller_admits hadmits] at hpid
    exact ⟨hpid, h.killSwitch, h.policies, h.routes⟩
  · rw [verifyCaller_denies hadmits] at hpid
    exact ⟨hpid, h.killSwitch, h.policies, h.routes⟩

theorem Firewall.request_wellFormed {fw : Firewall} {rq : IoctlRequest} {code : IoctlCode}
    (hcaller : Admits rq.caller fw.allowedServicePid) (h : WellFormed code rq) :
    fw.request rq = (fw.pin rq.caller).configure code rq := by
  have hcode : IoctlCode.ofUInt32 rq.ioControlCode = some code := by
    rw [h.control]
    exact IoctlCode.ofUInt32_toUInt32 code
  unfold Firewall.request
  rw [if_pos hcaller, hcode]
  exact if_pos h

theorem Firewall.request_other {fw : Firewall} {rq : IoctlRequest}
    (h : ¬ (Admits rq.caller fw.allowedServicePid ∧ ∃ code, WellFormed code rq)) :
    fw.request rq = if Admits rq.caller fw.allowedServicePid then fw.pin rq.caller else fw := by
  unfold Firewall.request
  by_cases hcaller : Admits rq.caller fw.allowedServicePid
  · rw [if_pos hcaller, if_pos hcaller]
    have hnone : ∀ code, ¬ WellFormed code rq := fun code hcode => h ⟨hcaller, code, hcode⟩
    cases IoctlCode.ofUInt32 rq.ioControlCode with
    | none => rfl
    | some code => exact if_neg (hnone code)
  · rw [if_neg hcaller, if_neg hcaller]

theorem Implements.request (h : Implements g fw) (rq : IoctlRequest) :
    Implements (evtIoDeviceControl rq g).2 (fw.request rq) := by
  -- the record of the request does not matter
  suffices hserved : Implements (served rq g).globals (fw.request rq) by
    obtain ⟨t, ht⟩ := evtIoDeviceControl_frame rq g
    rw [ht]
    exact ⟨hserved.allowedServicePid, hserved.killSwitch, hserved.policies, hserved.routes⟩
  have hchecked := h.checked rq
  rcases served_cases rq g with ⟨hno, status, -, hs⟩ | ⟨hadm, code, hcode, hs⟩
  · rw [admitted_iff, h.allowedServicePid] at hno
    rw [hs, Firewall.request_other hno]
    exact hchecked
  · rw [admitted_iff, h.allowedServicePid] at hadm
    obtain ⟨hcaller, code', hwell⟩ := hadm
    obtain rfl : code' = code := by
      rw [hwell.control, IoctlCode.ofUInt32_toUInt32] at hcode
      exact Option.some.inj hcode
    rw [if_pos hcaller] at hchecked
    rw [hs, Firewall.request_wellFormed hcaller hwell]
    exact hchecked.configure code' rq rq.outputBuffer

/-- **One step of the driver is one step of the firewall**, with the same verdict. -/
theorem driverStep_implements : Machine.Simulates driverVerdicts firewall Implements := by
  intro g fw e h
  cases e with
  | ioctl rq => exact ⟨rfl, h.request rq⟩
  | authConnectV4 values clock out | authConnectV6 values clock out =>
    refine ⟨congrArg some (h.classify values clock out), ?_⟩
    exact driverStep_classify_keeps (P := fun g => Implements g fw)
      (fun _ => ⟨h.allowedServicePid, h.killSwitch, h.policies, h.routes⟩) (by nofun)

theorem driverVerdicts_final (g : Globals) (es : List Event) :
    driverVerdicts.final g es = driver.final g es := by
  induction es generalizing g with
  | nil => rfl
  | cons e es ih => exact ih (driverStep g e).2

theorem loaded_implements (boot : Boot) : Implements (loaded boot) (Firewall.initial boot) := by
  obtain ⟨hpolicy, hroute⟩ := driverEntry_tables boot imageGlobals
  obtain ⟨w, d, c, hybrid, r, status, state, hframe, -⟩ := driverEntry_frame boot imageGlobals
  refine ⟨?_, ?_, ?_, ?_⟩
  · rw [loaded, hframe]
    rfl
  · rw [loaded_killSwitch]
    exact enforces_of_fields _ 0
  · rw [loaded, hpolicy]
    exact Table.refines_fresh appPolicyKind
  · rw [loaded, hroute]
    exact Table.stores_fresh routeKind

/-- **The driver refines the firewall**: after a load, every run gives exactly the verdicts of the
firewall, which knows the accepted requests and nothing of the clocks, counters, reports, imports and
modes of the driver; and its state holds the firewall's configuration throughout. -/
theorem driver_refines_firewall (boot : Boot) (es : List Event) :
    driverVerdicts.trace (loaded boot) es = firewall.trace (Firewall.initial boot) es ∧
      Implements (driver.final (loaded boot) es) (firewall.final (Firewall.initial boot) es) := by
  have hrun := driverStep_implements.run (loaded_implements boot) es
  rw [driverVerdicts_final] at hrun
  exact hrun

end Guardian
