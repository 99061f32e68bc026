import Guardian.Enforce.Classify
import Guardian.Lib.Programs
import Guardian.Sync.KillSwitchLock
import Guardian.Sync.TableScan

/-!
# Classifications and requests in parallel

Any number of processors classify connections and serve requests. A classification takes the locks of
the kill switch, of the policies and of the routes one after the other; the requests take one of them.
No Sync is among the requests: its re-initialisation frees a lock that may be held.

* `SpinLock` : the three locks and what they guard;
* `classifyProgram`, `Work` : the classification and the requests as programs over the locks;
* `Seen` : a verdict on the states of three moments;
* `classify_seen` : a classification that has returned saw the kill switch, then the policies, then the
  routes;
* `parallel_seen` : so it does in every schedule, within its call; and no processor is ever stuck.
-/

namespace Guardian
open Interleave LockedObject

/-- `g_KillSwitchLock`, `g_PolicyLock` and `g_RouteLock` -/
inductive SpinLock where
  | killSwitch
  | policy
  | route
  deriving DecidableEq

namespace SpinLock

abbrev Call : SpinLock → Type
  | .killSwitch => KillSwitchCall
  | .policy => EntryCall AppPolicyV1
  | .route => EntryCall RouteAssignmentV1

abbrev State : SpinLock → Type
  | .killSwitch => KillSwitchState
  | .policy => PolicyTable
  | .route => RouteTable

abbrev Access : SpinLock → Type
  | .killSwitch => KillSwitchAccess
  | .policy => EntryAccess AppPolicyV1
  | .route => EntryAccess RouteAssignmentV1

abbrev Answer : SpinLock → Type
  | .killSwitch => KillSwitchAnswer
  | .policy => EntryAnswer AppPolicyV1
  | .route => EntryAnswer RouteAssignmentV1

instance : ∀ l : SpinLock, Inhabited l.Call
  | .killSwitch => ⟨.evaluate 0⟩
  | .policy => ⟨.shutdown⟩
  | .route => ⟨.shutdown⟩

/-- What is guarded, step by step. -/
def object : ∀ l : SpinLock, LockedObject l.Call l.State l.Access l.Answer
  | .killSwitch => killSwitchObject
  | .policy => tableObject appPolicyKind
  | .route => tableObject routeKind

/-- What is guarded, one call at once. -/
def serve : ∀ l : SpinLock, l.State → l.Call → l.Answer × l.State
  | .killSwitch => killSwitchServe
  | .policy => tableServe appPolicyKind
  | .route => tableServe routeKind

theorem atomic (l : SpinLock) : (object l).Atomic (serve l) := by
  cases l with
  | killSwitch => exact killSwitch_atomic
  | policy | route => exact table_atomic

end SpinLock

/-! ## The programs -/

/-- What a processor is done with. -/
inductive WorkResult where
  | classified (status : NTSTATUS) (result : ClassifyResult)
  | completed (status : NTSTATUS)
  deriving DecidableEq

abbrev DriverProgram := Program SpinLock.Call SpinLock.Answer WorkResult

/-- The last third of a classification. -/
def routeProgram (policy : AppPolicyV1) : DriverProgram :=
  let result := policyAction policy
  .call .route (.lookup (some fun item => item.appId = policy.appId)) fun (status, foundRoute) =>
    if !ntSuccess status then .done (.classified status { result with action := .permit })
    else
      match foundRoute with
      | some route => .done (.classified statusSuccess (routeOverride route result))
      | none => .done (.classified statusSuccess result)

/-- What a classification does after the kill switch has let it pass. -/
def lookupProgram (inFixedValues : Option IncomingValues) : DriverProgram :=
  .call .policy (.lookup (inFixedValues.map fun values => policyMatches (appIdBlob values)))
    fun (status, foundPolicy) =>
      if !ntSuccess status then .done (.classified status ⟨.permit, 0⟩)
      else
        match foundPolicy with
        | some policy => routeProgram policy
        | none => .done (.classified statusSuccess ⟨.permit, 0⟩)

/-- A classification, its counters left out: no classification reads them. -/
def classifyProgram (inFixedValues : Option IncomingValues) : DriverProgram :=
  .call .killSwitch (.evaluate 0) fun
    | .evaluate (some ksAction) => .done (.classified statusSuccess ⟨ksAction, 0⟩)
    | _ => lookupProgram inFixedValues

/-- What a processor has to do: classify a connection or serve one of the requests that reach the kill
switch or a table. The copy of the mode in the driver state is left out. -/
inductive Work where
  | classify (inFixedValues : Option IncomingValues)
  | setAppPolicy (policy : Option AppPolicyV1) (alloc : Bool)
  | setRoute (assignment : Option RouteAssignmentV1) (alloc : Bool)
  | clearRoute (appId : AppId)
  | setKillSwitch (config : Option KillSwitchV1)

def Work.program : Work → DriverProgram
  | .classify inFixedValues => classifyProgram inFixedValues
  | .setAppPolicy policy alloc => .call .policy (.set policy alloc) fun a => .done (.completed a.1)
  | .setRoute assignment alloc => .call .route (.set assignment alloc) fun a => .done (.completed a.1)
  | .clearRoute appId => .call .route (.remove appId) fun a => .done (.completed a.1)
  | .setKillSwitch config => .call .killSwitch (.set config) fun
    | .set status => .done (.completed status)
    | .evaluate _ => .done (.completed statusSuccess)

/-! ## The moments of a classification -/

/-- What is guarded, of the globals. -/
def Globals.guarded (g : Globals) : ∀ l : SpinLock, l.State
  | .killSwitch => g.killSwitch
  | .policy => g.policy
  | .route => g.route

/-- The classification of the connection, on globals with the kill switch, the policies and the routes of
the moments `n₁`, `n₂` and `n₃`. -/
def Seen (g : Globals) (moment : Nat → ∀ l : SpinLock, l.State) (inFixedValues : Option IncomingValues)
    (n₁ n₂ n₃ : Nat) (status : NTSTATUS) (result : ClassifyResult) : Prop :=
  ∀ clock, let classified := classifyConnection inFixedValues clock { g with
      killSwitch := moment n₁ .killSwitch, policy := moment n₂ .policy, route := moment n₃ .route }
    classified.1 = status ∧ classified.2.1 = result

variable {ι : Type} [DecidableEq ι]

/-- The calls of an order, served one at a time. -/
abbrev servedRun (d : (∀ l : SpinLock, l.State) × (ι → DriverProgram)) (order : List ι) :
    (∀ l : SpinLock, l.State) × (ι → DriverProgram) :=
  run (fun _ => atomicStep SpinLock.serve) d order

/-- A classification that has returned saw the kill switch, then the policies, then the routes. -/
theorem classify_seen (g : Globals) {d : (∀ l : SpinLock, l.State) × (ι → DriverProgram)} {i : ι}
    {values : Option IncomingValues} {order : List ι} {status : NTSTATUS} {result : ClassifyResult}
    (hstart : d.2 i = classifyProgram values)
    (hdone : (servedRun d order).2 i = .done (.classified status result)) :
    ∃ n₁ n₂ n₃, n₁ ≤ n₂ ∧ n₂ ≤ n₃ ∧ n₃ < order.length ∧
      Seen g (fun n => (servedRun d (order.take n)).1) values n₁ n₂ n₃ status result := by
  have hreturned : ∀ n status' result', (servedRun d (order.take n)).2 i =
      .done (.classified status' result') → status' = status ∧ result' = result := by
    intro n status' result' h
    have heq := (done_from h).symm.trans hdone
    cases heq
    exact ⟨rfl, rfl⟩
  obtain ⟨n₁, -, hn₁, h₁⟩ := served_at (m := 0) hstart hdone
  simp only [SpinLock.serve, killSwitchServe] at h₁
  cases hkill : killSwitchEvaluate 0 ((servedRun d (order.take n₁)).1 .killSwitch) with
  | some action =>
    rw [hkill] at h₁
    obtain ⟨rfl, rfl⟩ := hreturned _ _ _ h₁
    refine ⟨n₁, n₁, n₁, Nat.le_refl _, Nat.le_refl _, hn₁, ?_⟩
    intro clock
    simp only [classifyConnection_eq, hkill]
    exact ⟨trivial, trivial⟩
  | none =>
    rw [hkill] at h₁
    obtain ⟨n₂, hle₂, hn₂, h₂⟩ := served_at h₁ hdone
    have hle : n₁ ≤ n₂ := Nat.le_of_succ_le hle₂
    cases values with
    | none =>
      obtain ⟨rfl, rfl⟩ := hreturned _ _ _ h₂
      refine ⟨n₁, n₂, n₂, hle, Nat.le_refl _, hn₂, ?_⟩
      intro clock
      simp only [classifyConnection_eq, hkill]
      exact ⟨rfl, trivial⟩
    | some values =>
      simp only [SpinLock.serve, tableServe, Option.map_some, ntSuccess_success, Bool.not_true,
        Bool.false_eq_true, if_false] at h₂
      cases hfound : ((servedRun d (order.take n₂)).1 .policy).list.find?
          (policyMatches (appIdBlob values)) with
      | none =>
        rw [hfound] at h₂
        obtain ⟨rfl, rfl⟩ := hreturned _ _ _ h₂
        refine ⟨n₁, n₂, n₂, hle, Nat.le_refl _, hn₂, ?_⟩
        intro clock
        simp only [classifyConnection_eq, hkill, decision_of_not_found hfound]
        exact ⟨trivial, trivial⟩
      | some policy =>
        rw [hfound] at h₂
        obtain ⟨n₃, hle₃, hn₃, h₃⟩ := served_at h₂ hdone
        refine ⟨n₁, n₂, n₃, hle, Nat.le_of_succ_le hle₃, hn₃, ?_⟩
        intro clock
        simp only [classifyConnection_eq, hkill, decision_of_found hfound, policyDecision,
          routeLookup_eq]
        simp only [SpinLock.serve, tableServe, ntSuccess_success, Bool.not_true, Bool.false_eq_true,
          if_false] at h₃
        cases hroute : ((servedRun d (order.take n₃)).1 .route).list.find?
            (fun item => item.appId = policy.appId) with
        | none =>
          rw [hroute] at h₃
          obtain ⟨rfl, rfl⟩ := hreturned _ _ _ h₃
          exact ⟨rfl, rfl⟩
        | some route =>
          rw [hroute] at h₃
          obtain ⟨rfl, rfl⟩ := hreturned _ _ _ h₃
          exact ⟨rfl, rfl⟩

/-! ## All schedules -/

/-- Every processor about to start its work, with every lock free. -/
def parallelStart (work : ι → Work) (g : Globals) : (∀ l : SpinLock, Guarded ι l.State) ×
    (ι → ProgramPc SpinLock.Call SpinLock.Access SpinLock.Answer WorkResult) :=
  (fun l => ⟨none, g.guarded l⟩, fun i => .outside (work i).program)

abbrev parallelRun (work : ι → Work) (g : Globals) (schedule : List ι) :
    (∀ l : SpinLock, Guarded ι l.State) ×
      (ι → ProgramPc SpinLock.Call SpinLock.Access SpinLock.Answer WorkResult) :=
  run (lockedStep SpinLock.object) (parallelStart work g) schedule

/-- The same work, one call at a time. -/
abbrev serialRun (work : ι → Work) (g : Globals) (order : List ι) :
    (∀ l : SpinLock, l.State) × (ι → DriverProgram) :=
  servedRun (g.guarded, fun i => (work i).program) order

theorem parallelRun_append (work : ι → Work) (g : Globals) (schedule later : List ι) :
    parallelRun work g (schedule ++ later) =
      run (lockedStep SpinLock.object) (parallelRun work g schedule) later := run_append ..

theorem serialRun_append (work : ι → Work) (g : Globals) (order later : List ι) :
    serialRun work g (order ++ later) = servedRun (serialRun work g order) later := run_append ..

/-- The schedule has done what the order does: whatever is free is as the order leaves it, and whoever
has returned has returned the same. -/
structure ServedAs (work : ι → Work) (g : Globals) (schedule order : List ι) : Prop where
  sublist : order.Sublist schedule
  free : ∀ l, ((parallelRun work g schedule).1 l).lock = none →
    ((parallelRun work g schedule).1 l).state = (serialRun work g order).1 l
  returned : ∀ i a, (parallelRun work g schedule).2 i = .outside (.done a) →
    (serialRun work g order).2 i = .done a

theorem servedAs_of_tracks {work : ι → Work} {g : Globals} {schedule order : List ι}
    (hsub : order.Sublist schedule) (h : Tracks SpinLock.object SpinLock.serve
      (parallelRun work g schedule) (serialRun work g order)) : ServedAs work g schedule order := by
  refine ⟨hsub, fun l hl => h.free hl, ?_⟩
  intro i a ha
  rw [← h.programs i, ha]
  rfl

/-- **In parallel with any requests, a classification sees the kill switch, then the policies, then the
routes, each as the requests leave it at one moment of its own call.** The calls of a schedule take
effect one at a time, in an order that later steps only extend; and whatever the processors have done,
each can still finish its work. -/
theorem parallel_seen (work : ι → Work) (g : Globals) :
    (∀ before during, ∃ first rest, ServedAs work g before first ∧ rest.Sublist during ∧
      ServedAs work g (before ++ during) (first ++ rest) ∧
      ∀ i values status result, work i = .classify values →
        (parallelRun work g before).2 i = .outside (work i).program →
        (parallelRun work g (before ++ during)).2 i = .outside (.done (.classified status result)) →
        ∃ n₁ n₂ n₃, n₁ ≤ n₂ ∧ n₂ ≤ n₃ ∧ n₃ < rest.length ∧
          Seen g (fun n => (serialRun work g (first ++ rest.take n)).1) values n₁ n₂ n₃ status result) ∧
      ∀ schedule i, ∃ later a, (parallelRun work g (schedule ++ later)).2 i = .outside (.done a) := by
  have hstart : Tracks SpinLock.object SpinLock.serve (parallelStart work g)
      (g.guarded, fun i => (work i).program) := tracks_start g.guarded _
  refine ⟨?_, ?_⟩
  · intro before during
    obtain ⟨first, hfirst, hbefore⟩ := tracks_run SpinLock.atomic hstart before
    obtain ⟨rest, hrest, hduring⟩ := tracks_run SpinLock.atomic hbefore during
    rw [← run_append, ← run_append] at hduring
    refine ⟨first, rest, servedAs_of_tracks hfirst hbefore, hrest,
      servedAs_of_tracks (hfirst.append hrest) hduring, ?_⟩
    intro i values status result hwork hidle hreturned
    have hnext : (serialRun work g first).2 i = classifyProgram values := by
      rw [← hbefore.programs i]
      change ((parallelRun work g before).2 i).program = _
      rw [hidle, hwork]
      rfl
    have hdone : (servedRun (serialRun work g first) rest).2 i =
        .done (.classified status result) := by
      rw [← serialRun_append]
      exact (servedAs_of_tracks (hfirst.append hrest) hduring).returned i _ hreturned
    obtain ⟨n₁, n₂, n₃, h₁₂, h₂₃, h₃, hseen⟩ := classify_seen g hnext hdone
    refine ⟨n₁, n₂, n₃, h₁₂, h₂₃, h₃, ?_⟩
    simp only [← serialRun_append] at hseen
    exact hseen
  · intro schedule i
    obtain ⟨order, -, h⟩ := tracks_run SpinLock.atomic hstart schedule
    obtain ⟨later, a, hdone⟩ := h.can_finish SpinLock.atomic i
    exact ⟨later, a, by rw [parallelRun_append, hdone]⟩

/-- A classification and a request for BlockAll. -/
def classifyAndBlock : Fin 2 → Work
  | 0 => .classify (some ⟨.aleAuthConnectV4, fun _ => .empty⟩)
  | 1 => .setKillSwitch (some ⟨killSwitchVersion, KillSwitchMode.blockAll.toUInt32, 0⟩)

/-- The request completes while the classification is between the kill switch and the policies: the
connection is permitted all the same. -/
example :
    let c := parallelRun classifyAndBlock imageGlobals
      (List.replicate 7 0 ++ List.replicate 7 1 ++ List.replicate 6 0)
    c.2 1 = .outside (.done (.completed statusSuccess)) ∧
      c.2 0 = .outside (.done (.classified statusSuccess ⟨.permit, 0⟩)) := ⟨rfl, rfl⟩

end Guardian
