import Guardian.Client.Path
import Guardian.Client.Traffic
import Guardian.Runs.BlockPolicy

/-!
# What the constructors of the client can say

A client whose structures all come from `new_block`, `new_vpn`, `new_proxy`, `new_proxy_chain`,
`block_all` and `restore` configures less than it sends: no path reaches a verdict, and of all blocked
applications only the first one does.

* `BlockList` : the lockdown, the first blocked application and the routed ones;
* `Client.Call.Constructed`, `Traffic.Constructed` : the calls whose structures a constructor made;
* `BlockList.Describes` : what a firewall holds that such calls have configured;
* `blockList_enforced` : the connections get exactly the verdicts of the block list.
-/

namespace Guardian
open Client (Call)

/-! ## The block list -/

/-- What a client with constructors can make the driver depend on. -/
structure BlockList where
  lockdown : Bool
  first : Option AppId
  routed : Finset AppId

namespace BlockList

/-- A connection is blocked in a lockdown; else if it carries an application id, some application has
been blocked and the first one has no route. -/
def Blocks (b : BlockList) (inFixedValues : Option IncomingValues) : Prop :=
  b.lockdown = true ∨
    ∃ values appId, inFixedValues = some values ∧ HasAppId values ∧ b.first = some appId ∧
      appId ∉ b.routed

instance (b : BlockList) (inFixedValues : Option IncomingValues) :
    Decidable (b.Blocks inFixedValues) :=
  decidable_of_iff (b.lockdown = true ∨ (inFixedValues.any fun values =>
      b.first.any fun appId => decide (HasAppId values ∧ appId ∉ b.routed)) = true) (by
    simp only [Blocks, Option.any_eq_true, decide_eq_true_eq]
    constructor
    · rintro (h | ⟨values, hvalues, appId, hfirst, hid, hrouted⟩)
      · exact Or.inl h
      · exact Or.inr ⟨values, appId, hvalues, hid, hfirst, hrouted⟩
    · rintro (h | ⟨values, appId, hvalues, hid, hfirst, hrouted⟩)
      · exact Or.inl h
      · exact Or.inr ⟨values, hvalues, appId, hfirst, hid, hrouted⟩)

def classify (b : BlockList) (inFixedValues : Option IncomingValues) (classifyOut : ClassifyOut) :
    ClassifyOut := Firewall.answer (b.Blocks inFixedValues) classifyOut

/-- What a call tells the list; `alloc` is the outcome of an allocation. Only the first policy that finds
memory counts. -/
def configure (alloc : Bool) (b : BlockList) : Call → BlockList
  | .setAppPolicy policy => { b with
      first := b.first <|> if alloc then some policy.appId else none }
  | .setRoute route => { b with
      routed :=
        if alloc = true ∧ (route.appId ∈ b.routed ∨ b.routed.card < maxRoutes.toNat) then
          insert route.appId b.routed
        else b.routed }
  | .clearRoute appId => { b with routed := b.routed.erase appId }
  | .setKillSwitch config => { b with lockdown := config.mode = Client.KillSwitchV1.blockAll.mode }
  | _ => b

/-- Nothing is blocked after a load, unless the registry holds BlockAll or AllowVpnOnly. -/
def initial (boot : Boot) : BlockList :=
  ⟨registryKillSwitchMode boot.registryPath = .blockAll ∨
    registryKillSwitchMode boot.registryPath = .allowVpnOnly, none, ∅⟩

end BlockList

/-- The block list of a client: its calls configure it, and connections ask it. -/
def blockList : Machine BlockList Traffic (Option ClassifyOut) where
  step b x :=
    match x with
    | .call asked d => (none, b.configure (d.alloc 0) asked)
    | .connectionV4 inFixedValues _ classifyOut => (some (b.classify inFixedValues classifyOut), b)
    | .connectionV6 inFixedValues _ classifyOut => (some (b.classify inFixedValues classifyOut), b)

/-- A constructor made the structure that the call sends, if it sends one that verdicts depend on. -/
def Client.Call.Constructed : Call → Prop
  | .setAppPolicy policy => ∃ appId exePath, policy = .newBlock appId exePath
  | .setRoute route =>
    (∃ appId profileId interfaceLuid, route = .newVpn appId profileId interfaceLuid) ∨
      (∃ appId profileId socksPort, route = .newProxy appId profileId socksPort) ∨
      ∃ appId chainId socksPort, route = .newProxyChain appId chainId socksPort
  | .setKillSwitch config => config = .blockAll ∨ config = .restore
  | _ => True

def Traffic.Constructed : Traffic → Prop
  | .call asked _ => asked.Constructed
  | .connectionV4 .. => True
  | .connectionV6 .. => True

/-! ## What such calls configure -/

theorem head?_upsert {α κ : Type*} [DecidableEq κ] (key : α → κ) (v : α) (l : List α) :
    (KeyedList.upsert key v l).head?.map key = (l.head?.map key <|> some (key v)) := by
  cases l with
  | nil => rfl
  | cons x xs =>
    unfold KeyedList.upsert
    by_cases hx : key x = key v
    · rw [if_pos hx]
      exact congrArg some hx.symm
    · rw [if_neg hx]
      rfl

/-- The first blocked application is the one with the first policy, and all policies block paths; the
routed applications have routes, of the kinds that the constructors know. -/
structure BlockList.Describes (b : BlockList) (fw : Firewall) : Prop where
  lockdown : (fw.killSwitch.mode = .blockAll ∨ fw.killSwitch.mode = .allowVpnOnly) ↔ b.lockdown = true
  first : fw.policies.entries.head?.map AppPolicyV1.appId = b.first
  policies : ∀ p ∈ fw.policies.entries, p.action = policyBlock ∧ p.matchKind = matchProcessPath
  routed : fw.routes.keys = b.routed
  routes : ∀ appId route, fw.routes.lookup appId = some route → route.routeKind ∈ overridingRouteKinds

namespace BlockList.Describes

variable {b : BlockList} {fw : Firewall} (h : b.Describes fw)
include h

theorem governing (values : IncomingValues) :
    fw.governing values = if HasAppId values then fw.policies.entries.head? else none := by
  unfold Firewall.governing
  by_cases hid : HasAppId values
  · rw [if_pos hid]
    cases hentries : fw.policies.entries with
    | nil => rfl
    | cons p ps =>
      have hp : p.matchKind = matchProcessPath := (h.policies p (by simp [hentries])).2
      exact List.find?_cons_of_pos (decide_eq_true (Or.inr ⟨hp, hid⟩))
  · rw [if_neg hid, List.find?_eq_none]
    intro p hp
    simp only [Firewall.Governs, (h.policies p hp).2, hid, and_false, or_false, decide_eq_true_eq]
    decide

/-- The route of a blocked application lifts its block. -/
theorem policyBlocks_iff {policy : AppPolicyV1} (hp : policy ∈ fw.policies.entries) :
    fw.PolicyBlocks policy ↔ policy.appId ∉ b.routed := by
  unfold Firewall.PolicyBlocks
  rw [← h.routed, Finmap.mem_keys]
  cases hroute : fw.routes.lookup policy.appId with
  | none =>
    have hmem : policy.appId ∉ fw.routes := Finmap.lookup_eq_none.mp hroute
    simp [(h.policies policy hp).1, hmem]
  | some route =>
    have hmem : policy.appId ∈ fw.routes := Finmap.mem_of_lookup_eq_some hroute
    have hkind := h.routes _ route hroute
    have hlift : route.routeKind ≠ routeBlocked := by
      intro hblocked
      rw [hblocked] at hkind
      exact absurd hkind (by decide)
    simp [hkind, hlift, hmem]

theorem classify (inFixedValues : Option IncomingValues) (classifyOut : ClassifyOut) :
    fw.classify inFixedValues classifyOut = b.classify inFixedValues classifyOut := by
  have hpolicy : ∀ values, (∃ policy ∈ fw.governing values, fw.PolicyBlocks policy) ↔
      HasAppId values ∧ ∃ appId, b.first = some appId ∧ appId ∉ b.routed := by
    intro values
    rw [h.governing values, ← h.first]
    by_cases hid : HasAppId values
    · rw [if_pos hid]
      cases hhead : fw.policies.entries.head? with
      | none => simp
      | some policy => simp [h.policyBlocks_iff (List.mem_of_mem_head? hhead), hid]
    · rw [if_neg hid]
      simp [hid]
  have hblocks : fw.Blocks inFixedValues ↔ b.Blocks inFixedValues := by
    unfold Firewall.Blocks BlockList.Blocks
    rw [← or_assoc, h.lockdown]
    simp only [hpolicy]
    constructor
    · rintro (hlock | ⟨values, hvalues, hid, appId, hfirst, hrouted⟩)
      · exact Or.inl hlock
      · exact Or.inr ⟨values, appId, hvalues, hid, hfirst, hrouted⟩
    · rintro (hlock | ⟨values, appId, hvalues, hid, hfirst, hrouted⟩)
      · exact Or.inl hlock
      · exact Or.inr ⟨values, hvalues, hid, appId, hfirst, hrouted⟩
  unfold Firewall.classify BlockList.classify
  simp only [hblocks]

end BlockList.Describes

theorem Client.Call.Constructed.overrides {route : Client.RouteAssignmentV1}
    (h : (Call.setRoute route).Constructed) :
    route.version = routeAssignmentVersion ∧ route.routeKind ∈ overridingRouteKinds := by
  rcases h with ⟨_, _, _, rfl⟩ | ⟨_, _, _, rfl⟩ | ⟨_, _, _, rfl⟩
  · exact ⟨rfl, (by decide : Client.guardianRouteKindVpn ∈ overridingRouteKinds)⟩
  · exact ⟨rfl, (by decide : Client.guardianRouteKindProxy ∈ overridingRouteKinds)⟩
  · exact ⟨rfl, (by decide : Client.guardianRouteKindChain ∈ overridingRouteKinds)⟩

theorem policies_setAppPolicy {policy : Client.AppPolicyV1}
    (h : (Call.setAppPolicy policy).Constructed) (alloc : Bool) (fw : Firewall) :
    ((Call.setAppPolicy policy).configure alloc fw).policies =
      if alloc = true ∧ (policy.appId ∈ fw.policies.keys ∨ fw.policies.length < maxPolicies.toNat)
      then fw.policies.upsert policy.toKernel else fw.policies := by
  have hversion : policy.version = appPolicyVersion := by
    obtain ⟨_, _, rfl⟩ := h
    rfl
  show (Table.mapStep appPolicyKind fw.policies (.set (some policy.toKernel) alloc)).2 = _
  simp only [Table.mapStep]
  rw [apply_ite Prod.snd]
  exact if_congr (and_iff_right hversion) rfl rfl

theorem routes_setRoute {route : Client.RouteAssignmentV1}
    (h : (Call.setRoute route).Constructed) (alloc : Bool) (fw : Firewall) :
    ((Call.setRoute route).configure alloc fw).routes =
      if alloc = true ∧ (route.appId ∈ fw.routes.keys ∨ fw.routes.keys.card < maxRoutes.toNat)
      then fw.routes.insert route.appId route.toKernel else fw.routes := by
  show (Table.finmapSet routeKind route.toKernel alloc fw.routes).2 = _
  unfold Table.finmapSet
  rw [apply_ite Prod.snd]
  apply if_congr _ rfl rfl
  rw [Finmap.mem_keys]
  exact and_iff_right h.overrides.1

theorem routes_clearRoute (appId : Vector UInt8 16) (alloc : Bool) (fw : Firewall) :
    ((Call.clearRoute appId).configure alloc fw).routes =
      if appId ∈ fw.routes then fw.routes.erase appId else fw.routes := by
  show (Table.finmapStep routeKind fw.routes (.remove appId)).2 = _
  simp only [Table.finmapStep]
  rw [apply_ite Prod.snd]

namespace BlockList.Describes

variable {b : BlockList} {fw : Firewall}

theorem pin (h : b.Describes fw) (pid : UInt32) : b.Describes { fw with allowedServicePid := pid } :=
  ⟨h.lockdown, h.first, h.policies, h.routed, h.routes⟩

theorem setAppPolicy (h : b.Describes fw) (alloc : Bool) {policy : Client.AppPolicyV1}
    (hpolicy : (Call.setAppPolicy policy).Constructed) :
    (b.configure alloc (.setAppPolicy policy)).Describes
      ((Call.setAppPolicy policy).configure alloc fw) := by
  have hset := policies_setAppPolicy hpolicy alloc fw
  obtain ⟨appId, exePath, rfl⟩ := hpolicy
  refine ⟨h.lockdown, ?_, ?_, h.routed, h.routes⟩
  · rw [hset]
    show _ = (b.first <|> if alloc then some appId else none)
    rw [← h.first]
    split_ifs with hok halloc halloc
    · exact head?_upsert _ _ _
    · exact absurd hok.1 halloc
    · -- a policy that finds memory is refused by a full table only
      cases hentries : fw.policies.entries with
      | cons p ps => rfl
      | nil =>
        have hroom : fw.policies.length < maxPolicies.toNat := by
          rw [OrderedMap.length, hentries]
          decide
        exact absurd ⟨halloc, Or.inr hroom⟩ hok
    · cases fw.policies.entries <;> rfl
  · rw [hset]
    split_ifs
    · exact KeyedList.forall_upsert _ ⟨rfl, rfl⟩ h.policies
    · exact h.policies

theorem setRoute (h : b.Describes fw) (alloc : Bool) {route : Client.RouteAssignmentV1}
    (hroute : (Call.setRoute route).Constructed) :
    (b.configure alloc (.setRoute route)).Describes ((Call.setRoute route).configure alloc fw) := by
  have hset := routes_setRoute hroute alloc fw
  simp only [h.routed] at hset
  refine ⟨h.lockdown, h.first, h.policies, ?_, ?_⟩
  · show _ = if alloc = true ∧ (route.appId ∈ b.routed ∨ b.routed.card < maxRoutes.toNat) then
      insert route.appId b.routed else b.routed
    rw [hset, apply_ite Finmap.keys, h.routed]
    refine if_congr Iff.rfl ?_ rfl
    ext appId
    rw [Finmap.mem_keys, Finmap.mem_insert, Finset.mem_insert, ← h.routed, Finmap.mem_keys]
  · rw [hset]
    split_ifs
    · intro appId other hother
      by_cases hid : appId = route.appId
      · rw [hid, Finmap.lookup_insert] at hother
        obtain rfl := Option.some.inj hother
        exact hroute.overrides.2
      · rw [Finmap.lookup_insert_of_ne _ hid] at hother
        exact h.routes appId other hother
    · exact h.routes

theorem clearRoute (h : b.Describes fw) (alloc : Bool) (appId : Vector UInt8 16) :
    (b.configure alloc (.clearRoute appId)).Describes
      ((Call.clearRoute appId).configure alloc fw) := by
  have hclear := routes_clearRoute appId alloc fw
  split_ifs at hclear with hmem
  · refine ⟨h.lockdown, h.first, h.policies, ?_, ?_⟩
    · rw [hclear, Finmap.keys_erase, h.routed]
      rfl
    · rw [hclear]
      intro other route hroute
      by_cases hid : other = appId
      · rw [hid, Finmap.lookup_erase] at hroute
        cases hroute
      · rw [Finmap.lookup_erase_ne hid] at hroute
        exact h.routes other route hroute
  · have hkeys : appId ∉ b.routed := by
      rw [← h.routed, Finmap.mem_keys]
      exact hmem
    refine ⟨h.lockdown, h.first, h.policies, ?_, by rw [hclear]; exact h.routes⟩
    rw [hclear, h.routed]
    exact (Finset.erase_eq_of_notMem hkeys).symm

theorem setKillSwitch (h : b.Describes fw) (alloc : Bool) {config : Client.KillSwitchV1}
    (hconfig : (Call.setKillSwitch config).Constructed) :
    (b.configure alloc (.setKillSwitch config)).Describes
      ((Call.setKillSwitch config).configure alloc fw) := by
  refine ⟨?_, h.first, h.policies, h.routed, h.routes⟩
  rcases hconfig with rfl | rfl
  · exact iff_of_true (Or.inl rfl) rfl
  · apply iff_of_false _ Bool.false_ne_true
    rintro (hmode | hmode) <;> cases hmode

theorem configure (h : b.Describes fw) (alloc : Bool) {call : Call} (hcall : call.Constructed) :
    (b.configure alloc call).Describes (call.configure alloc fw) := by
  cases call with
  | setAppPolicy policy => exact h.setAppPolicy alloc hcall
  | setRoute route => exact h.setRoute alloc hcall
  | clearRoute appId => exact h.clearRoute alloc appId
  | setKillSwitch config => exact h.setKillSwitch alloc hcall
  | driverState | setGuardianMode | telemetry | perfStats | dnsSetConfig | reconcile | exportState =>
    exact h

end BlockList.Describes

theorem initial_describes (boot : Boot) :
    (BlockList.initial boot).Describes (Firewall.initial boot) := by
  refine ⟨?_, rfl, ?_, rfl, ?_⟩
  · unfold BlockList.initial Firewall.initial
    exact decide_eq_true_iff.symm
  · intro p hp
    cases hp
  · intro appId route hroute
    cases hroute

/-- One step of the driver is one step of the block list, with the same verdict. -/
theorem traffic_describes (peer : Peer) (g : Globals) (b : BlockList) (x : Traffic)
    (hx : x.Constructed)
    (h : ∃ fw, (Implements g fw ∧ (fw.allowedServicePid = 0 ∨ fw.allowedServicePid = peer.pid)) ∧
      b.Describes fw) :
    ((trafficVerdicts peer).step g x).1 = (blockList.step b x).1 ∧
      ∃ fw, (Implements ((trafficVerdicts peer).step g x).2 fw ∧
        (fw.allowedServicePid = 0 ∨ fw.allowedServicePid = peer.pid)) ∧
        (blockList.step b x).2.Describes fw := by
  obtain ⟨fw, himplements, hdescribes⟩ := h
  obtain ⟨hverdict, hnext⟩ := traffic_simulates peer g fw x himplements
  rw [hverdict]
  cases x with
  | call call d => exact ⟨rfl, _, hnext, (hdescribes.pin peer.pid).configure (d.alloc 0) hx⟩
  | connectionV4 values clock out | connectionV6 values clock out =>
    exact ⟨congrArg some (hdescribes.classify values out), fw, hnext, hdescribes⟩

/-- **What the constructors of the client can say**: after a load, whatever structures a client makes
with its constructors and whatever else it calls, each connection is blocked exactly in a lockdown, or
if it carries an application id and the first application that was ever blocked has no route. No path,
no later block and no detail of a route reaches a verdict. -/
theorem blockList_enforced (peer : Peer) (boot : Boot) {traffic : List Traffic}
    (h : ∀ x ∈ traffic, x.Constructed) :
    (trafficVerdicts peer).trace (loaded boot) traffic =
      blockList.trace (BlockList.initial boot) traffic :=
  Machine.trace_eq_of_mem (fun g b x hx hstep => traffic_describes peer g b x hx hstep)
    ⟨Firewall.initial boot, ⟨loaded_implements boot, Or.inl rfl⟩, initial_describes boot⟩ h

/-- An application is blocked, a connection of another program arrives, and the application gets a
route. -/
def blockedThenRouted : List Traffic :=
  let connection : IncomingValues := ⟨.aleAuthConnectV4, fun _ => .byteBlob (some [98, 0])⟩
  [.call (.setAppPolicy (.newBlock (Vector.replicate 16 7) "a")) quietDelivery,
    .connectionV4 (some connection) ⟨⟨0, 1⟩, ⟨0, 1⟩⟩ ⟨.none, 0, 0⟩,
    .call (.setRoute (.newVpn (Vector.replicate 16 7) 0 5)) quietDelivery,
    .connectionV4 (some connection) ⟨⟨0, 1⟩, ⟨0, 1⟩⟩ ⟨.none, 0, 0⟩]

/-- The block is for everyone, and so is the route. -/
theorem blockList_enforced_routed :
    ((trafficVerdicts processFour).trace (loaded (quietBoot none)) blockedThenRouted).map
        (fun x => x.2.map ClassifyOut.actionType) =
      [none, some .block, none, some .permit] := by
  have hconstructed : ∀ x ∈ blockedThenRouted, x.Constructed := by
    simp only [blockedThenRouted, List.forall_mem_cons]
    exact ⟨⟨_, _, rfl⟩, trivial, Or.inl ⟨_, _, _, rfl⟩, trivial, by simp⟩
  rw [blockList_enforced processFour (quietBoot none) hconstructed]
  decide

end Guardian
