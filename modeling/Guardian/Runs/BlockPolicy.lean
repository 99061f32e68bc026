import Guardian.Runs.Driver

/-!
# Block policies under route assignments

The route of a found policy's application overwrites the action the policy asked for.

* `routeOverride_block_iff` : the route kinds that leave a Block a Block;
* `KeepsBlock` : a connection is blocked by the classification and by both callouts;
* `keepsBlock_iff` : a found Block policy blocks iff its application has no route of an overriding
  kind.
-/

namespace Guardian
open Bytes

/-- The route kinds whose case overwrites the action by Route or Permit. -/
def overridingRouteKinds : List UInt32 :=
  [routeVpn, routeTailnet, routeTor, routeProxy, routeAnonymous, routeChain]

theorem policyAction_block {policy : AppPolicyV1} (h : policy.action = policyBlock) :
    policyAction policy = ⟨.block, 0⟩ := by
  unfold policyAction
  rw [if_pos h]

/-- Blocked, Direct and unknown kinds keep a Block; the others permit. -/
theorem routeOverride_block_iff (route : RouteAssignmentV1) (luid : UInt64) :
    (routeOverride route ⟨.block, luid⟩).action = .block ↔
      route.routeKind ∉ overridingRouteKinds := by
  unfold routeOverride overridingRouteKinds
  simp only [List.mem_cons, List.not_mem_nil, or_false, not_or]
  split_ifs with h1 h2 h3
  · rw [h1]
    exact ⟨fun _ => by decide, fun _ => rfl⟩
  · refine ⟨nofun, fun h => ?_⟩
    rcases h2 with h2 | h2
    · exact absurd h2 h.1
    · exact absurd h2 h.2.1
  · refine ⟨nofun, fun ⟨_, _, htor, hproxy, hanonymous, hchain⟩ => ?_⟩
    rcases h3 with h3 | h3 | h3 | h3
    · exact absurd h3 htor
    · exact absurd h3 hproxy
    · exact absurd h3 hanonymous
    · exact absurd h3 hchain
  · rw [not_or] at h2
    simp only [not_or] at h3
    exact ⟨fun _ => ⟨h2.1, h2.2, h3⟩, fun _ => rfl⟩

/-- The connection is classified as Block, and both auth-connect callouts block it. -/
def KeepsBlock (g : Globals) (values : IncomingValues) (clock : Clock) (out : ClassifyOut) : Prop :=
  (classifyConnection (some values) clock g).1 = statusSuccess ∧
    (classifyConnection (some values) clock g).2.1.action = .block ∧
    (authConnectClassifyV4 (some values) clock out g).1.actionType = .block ∧
    (authConnectClassifyV6 (some values) clock out g).1.actionType = .block

theorem keepsBlock_iff_decision {g : Globals} (hoff : killSwitchEvaluate 0 g.killSwitch = none)
    (values : IncomingValues) (clock : Clock) (out : ClassifyOut) :
    KeepsBlock g values clock out ↔ (decision g.route values g.policy).action = .block := by
  obtain ⟨hs, hr⟩ := classifyConnection_decision hoff values clock
  have hv4 := authConnectClassifyV4_actionType (some values) clock out g
  have hv6 : (authConnectClassifyV6 (some values) clock out g).1.actionType =
      (authConnectClassifyV4 (some values) clock out g).1.actionType := rfl
  rw [hs, hr] at hv4
  simp only [ntSuccess_success, true_and] at hv4
  rw [KeepsBlock, hv6, hv4, hs, hr]
  by_cases h : (decision g.route values g.policy).action = .block
  · rw [if_pos h]
    constructor
    · intro _
      exact h
    · intro _
      exact ⟨rfl, h, rfl, rfl⟩
  · constructor
    · intro hk
      exact hk.2.1
    · intro hk
      exact absurd hk h

/-- **A Block policy is overridden by a route**: a found Block policy blocks the connection iff the
route table gives its application no VPN, Tailnet, Tor, Proxy, Anonymous or Chain route. -/
theorem keepsBlock_iff {g : Globals} (hoff : killSwitchEvaluate 0 g.killSwitch = none)
    {values : IncomingValues} {policy : AppPolicyV1}
    (hfound : (appPolicyLookup (some values) g.policy).2 = some policy)
    (hblock : policy.action = policyBlock) (clock : Clock) (out : ClassifyOut) :
    KeepsBlock g values clock out ↔
      ∀ route, (routeLookup policy.appId g.route).2 = some route →
        route.routeKind ∉ overridingRouteKinds := by
  rw [keepsBlock_iff_decision hoff, decision_of_found hfound]
  unfold policyDecision
  rw [policyAction_block hblock]
  cases (routeLookup policy.appId g.route).2 with
  | none =>
    constructor
    · intro _ route hroute
      cases hroute
    · intro _
      rfl
  | some route =>
    rw [routeOverride_block_iff]
    constructor
    · intro h r hr
      obtain rfl := Option.some.inj hr
      exact h
    · intro h
      exact h route rfl

/-! ## A run that permits a blocked application -/

/-- SET_APP_POLICY with a Block policy of kind None for application `0`. -/
def setBlockPolicy : IoctlRequest :=
  { plainRequest .setAppPolicy [] 0 with
    inputBufferLength := AppPolicyV1.size
    inputMemory := fun off => if off = 0 ∨ off = 20 then 1 else 0 }

/-- SET_ROUTE with a route of the given kind for application `0`. -/
def setRouteOfKind (kind : UInt8) : IoctlRequest :=
  { plainRequest .setRoute [] 0 with
    inputBufferLength := RouteAssignmentV1.size
    inputMemory := fun off => if off = 0 then 1 else if off = 20 then kind else 0 }

/-- The state after a load, a Block policy and a route of the given kind. -/
def blockedWithRoute (kind : UInt8) : Globals :=
  driver.final (loaded (quietBoot none)) [.ioctl setBlockPolicy, .ioctl (setRouteOfKind kind)]

theorem reachable_blockedWithRoute (kind : UInt8) : Reachable (blockedWithRoute kind) :=
  ⟨quietBoot none, _, by decide, rfl⟩

/-- An auth-connect connection without an application id. -/
def anonymousConnection : IncomingValues := ⟨.aleAuthConnectV4, fun _ => .empty⟩

theorem keepsBlock_iff_blocked_route :
    KeepsBlock (blockedWithRoute 5) anonymousConnection ⟨⟨0, 1⟩, ⟨0, 1⟩⟩ ⟨.none, 1, 0⟩ :=
  (keepsBlock_iff (by decide)
    (show (appPolicyLookup (some anonymousConnection) (blockedWithRoute 5).policy).2 =
      some (AppPolicyV1.read setBlockPolicy.inputMemory 0) from rfl)
    (by decide) ⟨⟨0, 1⟩, ⟨0, 1⟩⟩ ⟨.none, 1, 0⟩).mpr (by
      intro route hroute
      cases hroute
      decide)

/-- With a VPN route the connection of the blocked application is permitted. -/
theorem not_forall_keepsBlock :
    ¬ ∀ (g : Globals) (values : IncomingValues) (policy : AppPolicyV1) (clock : Clock)
        (out : ClassifyOut), Reachable g → killSwitchEvaluate 0 g.killSwitch = none →
      (appPolicyLookup (some values) g.policy).2 = some policy → policy.action = policyBlock →
      KeepsBlock g values clock out := by
  intro h
  obtain ⟨-, hact, -⟩ := h (blockedWithRoute 1) anonymousConnection
    (AppPolicyV1.read setBlockPolicy.inputMemory 0) ⟨⟨0, 1⟩, ⟨0, 1⟩⟩ ⟨.none, 1, 0⟩
    (reachable_blockedWithRoute 1) (by decide) (by rfl) (by decide)
  exact absurd hact (by decide)

end Guardian
