import Guardian.Driver.Globals

/-!
# Classification (`classify.c`) and the callouts (`manager.c`)

* `classifyConnection` : kill switch, policy lookup, route lookup, in that order;
* `policyAction`, `routeOverride` : its two switches;
* `decision` : what the tables alone decide; `classifyConnection_eq` says that a classification is
  the kill switch's verdict or else that decision;
* `authConnectClassifyV4`, `authConnectClassifyV6`, `flowEstablishedClassify` : the callouts.
-/

namespace Guardian

/-! ## Classify-out helpers -/

def classifyReset (out : ClassifyOut) : ClassifyOut :=
  { out with actionType := .none, rights := out.rights &&& ~~~fwpsRightActionWrite }

def classifyPermit (out : ClassifyOut) : ClassifyOut :=
  let out := { out with actionType := .permit }
  if out.rights &&& fwpsRightActionWrite ≠ 0 then
    { out with flags := out.flags ||| fwpsClassifyOutFlagAbsorb }
  else out

def classifyBlock (out : ClassifyOut) : ClassifyOut :=
  let out := { out with actionType := .block }
  if out.rights &&& fwpsRightActionWrite ≠ 0 then
    { out with flags := out.flags ||| fwpsClassifyOutFlagAbsorb }
  else out

/-! ## Classification -/

/-- `GUARDIAN_CLASSIFY_RESULT` -/
structure ClassifyResult where
  action : ClassifyAction
  interfaceLuid : UInt64
  deriving DecidableEq

/-- The performance counter calls at entry and at exit. -/
structure Clock where
  start : PerformanceCounter
  stop : PerformanceCounter

def Clock.latency (clock : Clock) : UInt64 := clock.stop.quadPart - clock.start.quadPart

/-- `switch (policy.Action)` on the zeroed result. -/
def policyAction (policy : AppPolicyV1) : ClassifyResult :=
  if policy.action = policyBlock then ⟨.block, 0⟩
  else if policy.action = policyRoute then ⟨.route, policy.interfaceLuid⟩
  else if policy.action = policyObserve then ⟨.observe, 0⟩
  else ⟨.permit, 0⟩

/-- `switch (route.RouteKind)` on what the policy left. -/
def routeOverride (route : RouteAssignmentV1) (result : ClassifyResult) : ClassifyResult :=
  if route.routeKind = routeBlocked then { result with action := .block }
  else if route.routeKind = routeVpn ∨ route.routeKind = routeTailnet then
    ⟨.route, route.interfaceLuid⟩
  else if route.routeKind = routeTor ∨ route.routeKind = routeProxy ∨
      route.routeKind = routeAnonymous ∨ route.routeKind = routeChain then
    { result with action := .permit }
  else result

/-- `inMetaValues` is ignored by the lookup and left out. The kill switch is asked about the local
variable `interfaceLuid`, which is `0`. -/
def classifyConnection (inFixedValues : Option IncomingValues) (clock : Clock) (g : Globals) :
    NTSTATUS × ClassifyResult × Globals :=
  let interfaceLuid : UInt64 := 0
  match killSwitchEvaluate interfaceLuid g.killSwitch with
  | some ksAction =>
    (statusSuccess, ⟨ksAction, 0⟩,
      { g with telemetry := telemetryRecordClassify ksAction clock.latency g.telemetry })
  | none =>
    let (status, foundPolicy) := appPolicyLookup inFixedValues g.policy
    if !ntSuccess status then
      (status, ⟨.permit, 0⟩, { g with telemetry := telemetryRecordError g.telemetry })
    else
      match foundPolicy with
      | none =>
        (statusSuccess, ⟨.permit, 0⟩,
          { g with telemetry := telemetryRecordClassify .permit clock.latency g.telemetry })
      | some policy =>
        let result := policyAction policy
        let (status, foundRoute) := routeLookup policy.appId g.route
        if !ntSuccess status then
          (status, { result with action := .permit },
            { g with telemetry := telemetryRecordError g.telemetry })
        else
          let result := match foundRoute with
            | some route => routeOverride route result
            | none => result
          (statusSuccess, result,
            { g with telemetry := telemetryRecordClassify result.action clock.latency g.telemetry })

/-! ## Callouts -/

def authConnectClassifyV4 (inFixedValues : Option IncomingValues) (clock : Clock)
    (classifyOut : ClassifyOut) (g : Globals) : ClassifyOut × Globals :=
  let classifyOut := classifyReset classifyOut
  let (status, result, g) := classifyConnection inFixedValues clock g
  if !ntSuccess status then (classifyPermit classifyOut, g)
  else
    match result.action with
    | .block => (classifyBlock classifyOut, g)
    | .route => (classifyPermit classifyOut, g)
    | .observe => (classifyPermit classifyOut, g)
    | .permit => (classifyPermit classifyOut, g)

def authConnectClassifyV6 (inFixedValues : Option IncomingValues) (clock : Clock)
    (classifyOut : ClassifyOut) (g : Globals) : ClassifyOut × Globals :=
  authConnectClassifyV4 inFixedValues clock classifyOut g

def flowEstablishedClassify (classifyOut : ClassifyOut) : ClassifyOut :=
  classifyPermit (classifyReset classifyOut)

/-! ## What a classification is -/

@[simp] theorem classifyPermit_actionType (out : ClassifyOut) :
    (classifyPermit out).actionType = .permit := by
  unfold classifyPermit
  simp only
  split <;> rfl

@[simp] theorem classifyBlock_actionType (out : ClassifyOut) :
    (classifyBlock out).actionType = .block := by
  unfold classifyBlock
  simp only
  split <;> rfl

/-- What a found policy decides together with the route of its application. -/
def policyDecision (routes : RouteTable) (policy : AppPolicyV1) : ClassifyResult :=
  match (routeLookup policy.appId routes).2 with
  | some route => routeOverride route (policyAction policy)
  | none => policyAction policy

/-- What the tables decide about a connection, the kill switch left aside. -/
def decision (routes : RouteTable) (values : IncomingValues) (policies : PolicyTable) :
    ClassifyResult :=
  match (appPolicyLookup (some values) policies).2 with
  | some policy => policyDecision routes policy
  | none => ⟨.permit, 0⟩

theorem decision_of_found {routes : RouteTable} {values : IncomingValues} {policies : PolicyTable}
    {policy : AppPolicyV1} (h : (appPolicyLookup (some values) policies).2 = some policy) :
    decision routes values policies = policyDecision routes policy := by
  rw [decision, h]

theorem decision_of_not_found {routes : RouteTable} {values : IncomingValues}
    {policies : PolicyTable} (h : (appPolicyLookup (some values) policies).2 = none) :
    decision routes values policies = ⟨.permit, 0⟩ := by
  rw [decision, h]

/-- The globals after an action was counted. -/
def countClassify (action : ClassifyAction) (clock : Clock) (g : Globals) : Globals :=
  { g with telemetry := telemetryRecordClassify action clock.latency g.telemetry }

/-- A classification is the verdict of the kill switch, or else what the tables decide. -/
theorem classifyConnection_eq (values : Option IncomingValues) (clock : Clock) (g : Globals) :
    classifyConnection values clock g =
      match killSwitchEvaluate 0 g.killSwitch, values with
      | some action, _ => (statusSuccess, ⟨action, 0⟩, countClassify action clock g)
      | none, none => (statusInvalidParameter, ⟨.permit, 0⟩,
          { g with telemetry := telemetryRecordError g.telemetry })
      | none, some values => (statusSuccess, decision g.route values g.policy,
          countClassify (decision g.route values g.policy).action clock g) := by
  unfold classifyConnection decision policyDecision countClassify
  cases hk : killSwitchEvaluate 0 g.killSwitch with
  | some action => simp only [hk]
  | none =>
    cases values with
    | none => simp [hk, appPolicyLookup]
    | some values =>
      simp only [hk, appPolicyLookup, routeLookup_eq, ntSuccess_success, Bool.not_true,
        Bool.false_eq_true, if_false]
      cases g.policy.list.find? (policyMatches (appIdBlob values)) <;> rfl

theorem classifyConnection_handled {g : Globals} {action : ClassifyAction}
    (h : killSwitchEvaluate 0 g.killSwitch = some action) (values : Option IncomingValues)
    (clock : Clock) :
    (classifyConnection values clock g).1 = statusSuccess ∧
      (classifyConnection values clock g).2.1 = ⟨action, 0⟩ := by
  rw [classifyConnection_eq, h]
  exact ⟨rfl, rfl⟩

theorem classifyConnection_decision {g : Globals} (h : killSwitchEvaluate 0 g.killSwitch = none)
    (values : IncomingValues) (clock : Clock) :
    (classifyConnection (some values) clock g).1 = statusSuccess ∧
      (classifyConnection (some values) clock g).2.1 = decision g.route values g.policy := by
  rw [classifyConnection_eq, h]
  exact ⟨rfl, rfl⟩

theorem classifyConnection_frame (values : Option IncomingValues) (clock : Clock) (g : Globals) :
    ∃ t, (classifyConnection values clock g).2.2 = { g with telemetry := t } := by
  rw [classifyConnection_eq]
  split <;> exact ⟨_, rfl⟩

theorem authConnectClassifyV4_frame (values : Option IncomingValues) (clock : Clock)
    (out : ClassifyOut) (g : Globals) :
    (authConnectClassifyV4 values clock out g).2 = (classifyConnection values clock g).2.2 := by
  unfold authConnectClassifyV4
  simp only
  split
  · rfl
  · split <;> rfl

/-- The auth-connect callouts block exactly the successful Block classifications. -/
theorem authConnectClassifyV4_actionType (values : Option IncomingValues) (clock : Clock)
    (out : ClassifyOut) (g : Globals) :
    (authConnectClassifyV4 values clock out g).1.actionType =
      if ntSuccess (classifyConnection values clock g).1 = true ∧
        (classifyConnection values clock g).2.1.action = .block then .block else .permit := by
  unfold authConnectClassifyV4
  simp only
  cases hs : ntSuccess (classifyConnection values clock g).1 with
  | false => simp
  | true => cases ha : (classifyConnection values clock g).2.1.action <;> simp

end Guardian
