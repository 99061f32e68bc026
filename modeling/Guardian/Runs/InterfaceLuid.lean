import Guardian.Runs.BlockPolicy

/-!
# The interface of a classification

`result->InterfaceLuid` is written by the Route case of the first switch of `classify.c` and by the Vpn
and Tailnet case of the second. The other cases of the second switch replace the action alone.

* `routeOverride_cases` : all that the second switch can do;
* `DecidedBy` : the interface of the record that routes a connection;
* `FollowsAction` : a result has an interface only where it routes, and then the right one;
* `luidFollowsAction_iff` : which connections are classified so.
-/

namespace Guardian
open Bytes

/-- The assignment routes by itself. -/
def RouteAssignmentV1.Routes (route : RouteAssignmentV1) : Prop :=
  route.routeKind = routeVpn ∨ route.routeKind = routeTailnet

/-- The route kinds that replace the action by Block or Permit. -/
def unroutingKinds : List UInt32 :=
  [routeBlocked, routeTor, routeProxy, routeAnonymous, routeChain]

/-- The interface of the record that decides to route the connection: of a Vpn or Tailnet assignment of
the found policy's application, or else of the found policy. -/
inductive DecidedBy (g : Globals) (values : Option IncomingValues) : UInt64 → Prop where
  | assignment {policy : AppPolicyV1} {route : RouteAssignmentV1}
      (found : (appPolicyLookup values g.policy).2 = some policy)
      (assigned : (routeLookup policy.appId g.route).2 = some route) (routes : route.Routes) :
      DecidedBy g values route.interfaceLuid
  | policy {policy : AppPolicyV1} (found : (appPolicyLookup values g.policy).2 = some policy)
      (unassigned : ∀ route, (routeLookup policy.appId g.route).2 = some route → ¬ route.Routes)
      (routes : policy.action = policyRoute) : DecidedBy g values policy.interfaceLuid

/-- A result has an interface only if its action is Route, and then the one of the record that decides
to route the connection. -/
def FollowsAction (g : Globals) (values : Option IncomingValues) (result : ClassifyResult) : Prop :=
  (result.action ≠ .route → result.interfaceLuid = 0) ∧
    (result.action = .route → DecidedBy g values result.interfaceLuid)

def LuidFollowsAction (g : Globals) (values : Option IncomingValues) (clock : Clock) : Prop :=
  ntSuccess (classifyConnection values clock g).1 = true →
    FollowsAction g values (classifyConnection values clock g).2.1

/-- The kill switch leaves the connection to a Route policy with an interface, and the assignment of
its application replaces the action. -/
def RouteTakenBack (g : Globals) (values : Option IncomingValues) : Prop :=
  killSwitchEvaluate 0 g.killSwitch = none ∧
    ∃ policy route, (appPolicyLookup values g.policy).2 = some policy ∧
      policy.action = policyRoute ∧ policy.interfaceLuid ≠ 0 ∧
      (routeLookup policy.appId g.route).2 = some route ∧ route.routeKind ∈ unroutingKinds

/-! ## The two switches -/

theorem policyAction_route {policy : AppPolicyV1} (h : policy.action = policyRoute) :
    policyAction policy = ⟨.route, policy.interfaceLuid⟩ := by
  have hblock : policy.action ≠ policyBlock := by
    rw [h]
    decide
  rw [policyAction, if_neg hblock, if_pos h]

theorem policyAction_not_route {policy : AppPolicyV1} (h : policy.action ≠ policyRoute) :
    (policyAction policy).action ≠ .route ∧ (policyAction policy).interfaceLuid = 0 := by
  unfold policyAction
  rw [if_neg h]
  split_ifs <;> exact ⟨by simp, rfl⟩

theorem routeOverride_cases (route : RouteAssignmentV1) (result : ClassifyResult) :
    (route.Routes ∧ routeOverride route result = ⟨.route, route.interfaceLuid⟩) ∨
    (¬ route.Routes ∧ route.routeKind ∈ unroutingKinds ∧
      (routeOverride route result).action ≠ .route ∧
      (routeOverride route result).interfaceLuid = result.interfaceLuid) ∨
    (¬ route.Routes ∧ route.routeKind ∉ unroutingKinds ∧ routeOverride route result = result) := by
  unfold routeOverride RouteAssignmentV1.Routes unroutingKinds
  by_cases hblocked : route.routeKind = routeBlocked
  · rw [if_pos hblocked, hblocked]
    exact Or.inr (Or.inl ⟨by decide, by decide, by simp, rfl⟩)
  · rw [if_neg hblocked]
    by_cases hroutes : route.routeKind = routeVpn ∨ route.routeKind = routeTailnet
    · rw [if_pos hroutes]
      exact Or.inl ⟨hroutes, rfl⟩
    · rw [if_neg hroutes]
      refine Or.inr ?_
      simp only [List.mem_cons, List.not_mem_nil, or_false, hblocked, false_or]
      split_ifs with hpermit
      · exact Or.inl ⟨hroutes, hpermit, by simp, rfl⟩
      · exact Or.inr ⟨hroutes, hpermit, rfl⟩

/-! ## The classification -/

theorem killSwitchEvaluate_ne_route (luid : UInt64) (s : KillSwitchState) :
    killSwitchEvaluate luid s ≠ some .route := by
  unfold killSwitchEvaluate
  split
  · simp
  · split_ifs <;> simp
  · simp
  · simp

section

variable {g : Globals} {values : Option IncomingValues}

theorem followsAction_route {luid : UInt64} (h : DecidedBy g values luid) :
    FollowsAction g values ⟨.route, luid⟩ :=
  ⟨fun hne => absurd rfl hne, fun _ => h⟩

theorem followsAction_iff_of_ne_route {result : ClassifyResult} (h : result.action ≠ .route) :
    FollowsAction g values result ↔ result.interfaceLuid = 0 := by
  constructor
  · intro hf
    exact hf.1 h
  · intro hzero
    exact ⟨fun _ => hzero, fun hroute => absurd hroute h⟩

variable {policy : AppPolicyV1}

theorem followsAction_policyAction
    (hfound : (appPolicyLookup values g.policy).2 = some policy)
    (hno : ∀ route, (routeLookup policy.appId g.route).2 = some route → ¬ route.Routes) :
    FollowsAction g values (policyAction policy) := by
  by_cases hp : policy.action = policyRoute
  · rw [policyAction_route hp]
    exact followsAction_route (.policy hfound hno hp)
  · obtain ⟨hact, hluid⟩ := policyAction_not_route hp
    exact (followsAction_iff_of_ne_route hact).mpr hluid

theorem followsAction_unassigned (hfound : (appPolicyLookup values g.policy).2 = some policy)
    (hroute : (routeLookup policy.appId g.route).2 = none) :
    FollowsAction g values (policyDecision g.route policy) := by
  rw [policyDecision, hroute]
  apply followsAction_policyAction hfound
  intro route h
  rw [hroute] at h
  cases h

/-- The result under an assignment, which can take back a route with its interface left in place. -/
theorem followsAction_assigned_iff {route : RouteAssignmentV1}
    (hfound : (appPolicyLookup values g.policy).2 = some policy)
    (hroute : (routeLookup policy.appId g.route).2 = some route) :
    FollowsAction g values (policyDecision g.route policy) ↔
      ¬ (policy.action = policyRoute ∧ policy.interfaceLuid ≠ 0 ∧
        route.routeKind ∈ unroutingKinds) := by
  simp only [policyDecision, hroute]
  rcases routeOverride_cases route (policyAction policy) with
    ⟨hroutes, heq⟩ | ⟨-, hmem, hact, hluid⟩ | ⟨hno, hmem, heq⟩
  · rw [heq]
    refine iff_of_true (followsAction_route (.assignment hfound hroute hroutes)) ?_
    rintro ⟨-, -, hmem⟩
    rcases hroutes with hvpn | htailnet
    · rw [hvpn] at hmem
      exact absurd hmem (by decide)
    · rw [htailnet] at hmem
      exact absurd hmem (by decide)
  · rw [followsAction_iff_of_ne_route hact, hluid]
    by_cases hp : policy.action = policyRoute
    · simp only [policyAction_route hp, hp, hmem, true_and, and_true, ne_eq, not_not]
    · exact iff_of_true (policyAction_not_route hp).2 fun h => hp h.1
  · rw [heq]
    refine iff_of_true (followsAction_policyAction hfound ?_) fun h => hmem h.2.2
    intro route' h
    rw [hroute] at h
    obtain rfl := Option.some.inj h
    exact hno

end

/-- **Where the interface follows the action**: everywhere but where a Route policy with an interface
is found and the assignment of its application takes the route back. -/
theorem luidFollowsAction_iff (g : Globals) (values : Option IncomingValues) (clock : Clock) :
    LuidFollowsAction g values clock ↔ ¬ RouteTakenBack g values := by
  unfold LuidFollowsAction RouteTakenBack
  rw [classifyConnection_eq]
  cases hk : killSwitchEvaluate 0 g.killSwitch with
  | some action =>
    have hne : action ≠ .route := by
      rintro rfl
      exact killSwitchEvaluate_ne_route _ _ hk
    exact iff_of_true (fun _ => (followsAction_iff_of_ne_route hne).mpr rfl) (by simp)
  | none =>
    cases values with
    | none => exact iff_of_true (fun h => absurd h Bool.false_ne_true) (by simp [appPolicyLookup])
    | some values =>
      simp only [ntSuccess_success, forall_const, true_and]
      cases hfound : (appPolicyLookup (some values) g.policy).2 with
      | none =>
        rw [decision_of_not_found hfound]
        exact iff_of_true ((followsAction_iff_of_ne_route (by simp)).mpr rfl) (by simp)
      | some policy =>
        rw [decision_of_found hfound]
        cases hroute : (routeLookup policy.appId g.route).2 with
        | none =>
          refine iff_of_true (followsAction_unassigned hfound hroute) ?_
          rintro ⟨policy', route, h, -, -, h', -⟩
          obtain rfl := Option.some.inj h
          rw [hroute] at h'
          cases h'
        | some route =>
          rw [followsAction_assigned_iff hfound hroute]
          apply not_congr
          constructor
          · rintro ⟨hp, hne, hmem⟩
            exact ⟨policy, route, rfl, hp, hne, hroute, hmem⟩
          · rintro ⟨policy', route', h, hp, hne, h', hmem⟩
            obtain rfl := Option.some.inj h
            obtain rfl := Option.some.inj (hroute.symm.trans h')
            exact ⟨hp, hne, hmem⟩

/-! ## A blocked connection with an interface -/

/-- SET_APP_POLICY with a Route policy of kind None and interface `7` for application `0`. -/
def setRoutePolicy : IoctlRequest :=
  { plainRequest .setAppPolicy [] 0 with
    inputBufferLength := AppPolicyV1.size
    inputMemory := fun off =>
      if off = 0 then 1 else if off = 20 then 2 else if off = 1440 then 7 else 0 }

/-- The state after a load, a Route policy and a Blocked assignment of its application. -/
def routedThenBlocked : Globals :=
  driver.final (loaded (quietBoot none)) [.ioctl setRoutePolicy, .ioctl (setRouteOfKind 5)]

theorem reachable_routedThenBlocked : Reachable routedThenBlocked :=
  ⟨quietBoot none, _, by decide, rfl⟩

/-- There the classification blocks the connection and reports interface `7`. -/
theorem not_forall_luidFollowsAction :
    ¬ ∀ g, Reachable g → ∀ (values : Option IncomingValues) (clock : Clock),
      LuidFollowsAction g values clock := by
  intro h
  obtain ⟨hzero, -⟩ := h routedThenBlocked reachable_routedThenBlocked (some anonymousConnection)
    ⟨⟨0, 1⟩, ⟨0, 1⟩⟩ (by decide)
  exact absurd (hzero (by decide)) (by decide)

end Guardian
