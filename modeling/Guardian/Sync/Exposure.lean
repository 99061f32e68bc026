import Guardian.Enforce.Classify
import Guardian.Sync.Steps

/-!
# A classification during a policy Sync

One processor syncs the policy table, another one classifies a connection. The classification takes
the table's lock once, for its scan, and so sees one of the tables that the Sync goes through.

* `ClassifyPc`, `classifyStep` : the atomic steps of a classification; `classifyStep_alone`;
* `raceStep` : the two processors over the globals;
* `RaceInv` : where the Sync is, and which table the classification has seen;
* `syncExposure_iff` : the classification agrees with the old or the new table in every interleaving
  iff every initial part of the array does.
-/

namespace Guardian
open Table

/-! ## The classification, step by step -/

/-- The next step of a classification. -/
inductive ClassifyPc where
  | evaluate
  | lookup
  | route (foundPolicy : AppPolicyV1)
  | returned (status : NTSTATUS) (result : ClassifyResult)
  deriving DecidableEq

/-- One atomic step. The counters are left out: no classification reads them. -/
def classifyStep (inFixedValues : Option IncomingValues) :
    Globals × ClassifyPc → Globals × ClassifyPc
  | (g, .evaluate) =>
    match killSwitchEvaluate 0 g.killSwitch with
    | some ksAction => (g, .returned statusSuccess ⟨ksAction, 0⟩)
    | none => (g, .lookup)
  | (g, .lookup) =>
    let (status, foundPolicy) := appPolicyLookup inFixedValues g.policy
    if !ntSuccess status then (g, .returned status ⟨.permit, 0⟩)
    else
      match foundPolicy with
      | none => (g, .returned statusSuccess ⟨.permit, 0⟩)
      | some policy => (g, .route policy)
  | (g, .route policy) =>
    let result := policyAction policy
    let (status, foundRoute) := routeLookup policy.appId g.route
    if !ntSuccess status then (g, .returned status { result with action := .permit })
    else
      match foundRoute with
      | some route => (g, .returned statusSuccess (routeOverride route result))
      | none => (g, .returned statusSuccess result)
  | (g, .returned status result) => (g, .returned status result)

theorem classifyStep_evaluate {g : Globals} (hoff : killSwitchEvaluate 0 g.killSwitch = none)
    (values : Option IncomingValues) : classifyStep values (g, .evaluate) = (g, .lookup) := by
  simp only [classifyStep, hoff]

theorem classifyStep_lookup (values : IncomingValues) (g : Globals) :
    classifyStep (some values) (g, .lookup) =
      match (appPolicyLookup (some values) g.policy).2 with
      | none => (g, .returned statusSuccess ⟨.permit, 0⟩)
      | some policy => (g, .route policy) := rfl

theorem classifyStep_route (values : Option IncomingValues) (g : Globals) (policy : AppPolicyV1) :
    classifyStep values (g, .route policy) =
      (g, .returned statusSuccess (policyDecision g.route policy)) := by
  unfold policyDecision
  simp only [classifyStep, routeLookup_eq, ntSuccess_success, Bool.not_true, Bool.false_eq_true,
    if_false]
  cases g.route.list.find? (fun item => decide (item.appId = policy.appId)) <;> rfl

theorem classifyStep_frame (values : Option IncomingValues) (g : Globals) (pc : ClassifyPc) :
    (classifyStep values (g, pc)).1 = g := by
  cases pc with
  | evaluate =>
    simp only [classifyStep]
    split <;> rfl
  | lookup =>
    simp only [classifyStep]
    split
    · rfl
    · split <;> rfl
  | route policy => rw [classifyStep_route]
  | returned status result => rfl

/-- **The steps of a classification that runs alone compute the classification.** -/
theorem classifyStep_alone (values : Option IncomingValues) (clock : Clock) (g : Globals) :
    (classifyStep values)^[3] (g, .evaluate) = (g, .returned (classifyConnection values clock g).1
      (classifyConnection values clock g).2.1) := by
  rw [classifyConnection_eq, Function.iterate_succ_apply, Function.iterate_succ_apply,
    Function.iterate_succ_apply, Function.iterate_zero_apply]
  cases hks : killSwitchEvaluate 0 g.killSwitch with
  | some action => simp only [classifyStep, hks]
  | none =>
    rw [classifyStep_evaluate hks]
    cases values with
    | none => rfl
    | some values =>
      rw [classifyStep_lookup]
      cases hf : (appPolicyLookup (some values) g.policy).2 with
      | none => simp only [decision_of_not_found hf, classifyStep]
      | some policy => simp only [decision_of_found hf, classifyStep_route]

/-! ## The race -/

/-- The two processors. -/
inductive Cpu where
  | syncing
  | classifying
  deriving DecidableEq

abbrev Cpu.Pc : Cpu → Type
  | .syncing => SyncPc
  | .classifying => ClassifyPc

def raceStep (policies : List AppPolicyV1) (alloc : Nat → Bool) (values : IncomingValues) :
    ∀ cpu : Cpu, Globals × cpu.Pc → Globals × cpu.Pc
  | .syncing, (g, pc) =>
    let r := syncStep appPolicyKind policies alloc (g.policy, pc)
    ({ g with policy := r.1 }, r.2)
  | .classifying, (g, pc) => classifyStep (some values) (g, pc)

/-- A Sync of `policies` and a classification, both about to start. -/
def raceStart (policies : List AppPolicyV1) (g : Globals) : Globals × ∀ cpu : Cpu, cpu.Pc :=
  (g, fun
    | .syncing => syncStart appPolicyKind (some policies)
    | .classifying => .evaluate)

/-- The tables the Sync goes through: the old one, and those of the initial parts of the array. -/
def Exposed (policies : List AppPolicyV1) (t₀ t : PolicyTable) : Prop :=
  t = t₀ ∨ ∃ k ≤ policies.length, t = installed appPolicyKind (policies.take k)

theorem exposed_of_syncAt {policies : List AppPolicyV1} {t₀ t : PolicyTable} {pc : SyncPc}
    (h : SyncAt appPolicyKind policies t₀ t pc) : Exposed policies t₀ t := by
  cases pc with
  | drain => exact Or.inl h
  | reinit => exact Or.inr ⟨0, Nat.zero_le _, h⟩
  | insert i => exact Or.inr ⟨i, h.1, h.2⟩
  | returned status => exact Or.inr ⟨policies.length, Nat.le_refl _, by rw [List.take_length]; exact h.2⟩

/-- Where the Sync is, and which exposed table the classification has scanned. -/
structure RaceInv (policies : List AppPolicyV1) (values : IncomingValues) (g₀ : Globals)
    (c : Globals × ∀ cpu : Cpu, cpu.Pc) : Prop where
  frame : c.1 = { g₀ with policy := c.1.policy }
  sync : SyncAt appPolicyKind policies g₀.policy c.1.policy (c.2 .syncing)
  classify : match c.2 .classifying with
    | .evaluate => True
    | .lookup => True
    | .route policy => ∃ t, Exposed policies g₀.policy t ∧
        (appPolicyLookup (some values) t).2 = some policy
    | .returned status result => status = statusSuccess ∧
        ∃ t, Exposed policies g₀.policy t ∧ result = decision g₀.route values t

theorem raceInv_step {policies : List AppPolicyV1} {alloc : Nat → Bool} {values : IncomingValues}
    {g₀ : Globals} (hoff : killSwitchEvaluate 0 g₀.killSwitch = none)
    (hinst : Installs appPolicyKind policies alloc) (c : Globals × ∀ cpu : Cpu, cpu.Pc) (cpu : Cpu)
    (h : RaceInv policies values g₀ c) :
    RaceInv policies values g₀ (Interleave.exec (raceStep policies alloc values) c cpu) := by
  obtain ⟨g, pc⟩ := c
  have hframe : g = { g₀ with policy := g.policy } := h.frame
  have hexp := exposed_of_syncAt h.sync
  cases cpu with
  | syncing =>
    refine ⟨?_, ?_, ?_⟩
    · simp only [Interleave.exec, raceStep]
      rw [hframe]
    · simp only [Interleave.exec, raceStep, Function.update_self]
      exact syncAt_step hinst h.sync
    · simp only [Interleave.exec, ne_eq, reduceCtorEq, not_false_eq_true, Function.update_of_ne]
      exact h.classify
  | classifying =>
    have hks : g.killSwitch = g₀.killSwitch := by rw [hframe]
    have hroute : g.route = g₀.route := by rw [hframe]
    have hg := classifyStep_frame (some values) g (pc .classifying)
    have hpc := h.classify
    refine ⟨?_, ?_, ?_⟩
    · simp only [Interleave.exec, raceStep, hg]
      exact hframe
    · simp only [Interleave.exec, raceStep, hg, ne_eq, reduceCtorEq, not_false_eq_true,
        Function.update_of_ne]
      exact h.sync
    · simp only [Interleave.exec, raceStep, Function.update_self]
      simp only at hpc hexp
      cases hat : pc .classifying with
      | evaluate =>
        rw [classifyStep_evaluate (hks ▸ hoff)]
        trivial
      | lookup =>
        rw [classifyStep_lookup]
        cases hf : (appPolicyLookup (some values) g.policy).2 with
        | none => exact ⟨rfl, g.policy, hexp, (decision_of_not_found hf).symm⟩
        | some policy => exact ⟨g.policy, hexp, hf⟩
      | route policy =>
        rw [hat] at hpc
        obtain ⟨t, ht, hfound⟩ := hpc
        rw [classifyStep_route]
        exact ⟨rfl, t, ht, by rw [decision_of_found hfound, hroute]⟩
      | returned status result =>
        rw [hat] at hpc
        exact hpc

theorem race_returned {policies : List AppPolicyV1} {alloc : Nat → Bool} {values : IncomingValues}
    {g : Globals} (hoff : killSwitchEvaluate 0 g.killSwitch = none)
    (hinst : Installs appPolicyKind policies alloc) (schedule : List Cpu) {status : NTSTATUS}
    {result : ClassifyResult}
    (hret : (Interleave.run (raceStep policies alloc values) (raceStart policies g) schedule).2
      .classifying = .returned status result) :
    status = statusSuccess ∧
      ∃ t, Exposed policies g.policy t ∧ result = decision g.route values t := by
  have hstart : RaceInv policies values g (raceStart policies g) := by
    refine ⟨rfl, ?_, trivial⟩
    simp only [raceStart, syncStart, if_neg (Nat.not_lt.mpr hinst.length_le)]
    rfl
  have hinv := Interleave.run_inv (raceStep policies alloc values)
    (raceInv_step hoff hinst) hstart schedule
  have hc := hinv.classify
  rw [hret] at hc
  exact hc

theorem raceStep_syncing {policies : List AppPolicyV1} {alloc : Nat → Bool}
    (values : IncomingValues) (g : Globals) (hinst : Installs appPolicyKind policies alloc) {k : Nat}
    (hk : k ≤ policies.length) :
    (raceStep policies alloc values .syncing)^[k + 2]
        (g, syncStart appPolicyKind (some policies)) =
      ({ g with policy := installed appPolicyKind (policies.take k) }, .insert k) := by
  induction k with
  | zero =>
    rw [syncStart, if_neg (Nat.not_lt.mpr hinst.length_le)]
    rfl
  | succ k ih =>
    rw [show k + 1 + 2 = (k + 2) + 1 by omega, Function.iterate_succ_apply', ih (by omega)]
    simp only [raceStep]
    rw [syncStep_insert hk, hinst.set_installed hk]
    rfl

/-- Every exposed table is scanned in some interleaving: the Sync runs up to its `k`-th insertion,
then the classification runs. -/
theorem race_scans {policies : List AppPolicyV1} {alloc : Nat → Bool} (values : IncomingValues)
    {g : Globals} (hoff : killSwitchEvaluate 0 g.killSwitch = none)
    (hinst : Installs appPolicyKind policies alloc) {k : Nat} (hk : k ≤ policies.length) :
    ∃ schedule, (Interleave.run (raceStep policies alloc values) (raceStart policies g) schedule).2
      .classifying = .returned statusSuccess
        (decision g.route values (installed appPolicyKind (policies.take k))) := by
  let clock : Clock := ⟨⟨0, 1⟩, ⟨0, 1⟩⟩
  let partly : Globals := { g with policy := installed appPolicyKind (policies.take k) }
  have hsync : Interleave.run (raceStep policies alloc values) (raceStart policies g)
      (List.replicate (k + 2) .syncing) =
      (partly, Function.update (raceStart policies g).2 .syncing (SyncPc.insert k)) :=
    Interleave.run_replicate_eq _ (c := raceStart policies g) (i := Cpu.syncing)
      (r := (partly, SyncPc.insert k)) (raceStep_syncing values g hinst hk)
  have hclassify : (classifyStep (some values))^[3] (partly, .evaluate) =
      (partly, .returned statusSuccess (decision g.route values partly.policy)) := by
    obtain ⟨hs, hr⟩ := classifyConnection_decision (g := partly) hoff values clock
    rw [classifyStep_alone (some values) clock partly, hs, hr]
  refine ⟨List.replicate (k + 2) .syncing ++ List.replicate 3 .classifying, ?_⟩
  rw [Interleave.run_append, hsync, Interleave.run_replicate_eq _ (i := Cpu.classifying) hclassify]
  rfl

/-- **A Sync fails open**: for a Sync that succeeds, every classification in every interleaving agrees
with the complete old or the complete new table iff every table that holds an initial part of the
array alone, the empty one included, decides the connection as one of these two does. -/
theorem syncExposure_iff {g : Globals} (hoff : killSwitchEvaluate 0 g.killSwitch = none)
    {policies : List AppPolicyV1} {alloc : Nat → Bool}
    (hsync : ntSuccess (appPolicySync (some policies) alloc g.policy).1 = true)
    (values : IncomingValues) :
    (∀ schedule status result,
      (Interleave.run (raceStep policies alloc values) (raceStart policies g) schedule).2
        .classifying = .returned status result →
      status = statusSuccess ∧ (result = decision g.route values g.policy ∨
        result = decision g.route values (appPolicySync (some policies) alloc g.policy).2)) ↔
    ∀ k ≤ policies.length,
      let partly := decision g.route values (installed appPolicyKind (policies.take k))
      partly = decision g.route values g.policy ∨
        partly = decision g.route values (installed appPolicyKind policies) := by
  have hinst : Installs appPolicyKind policies alloc := installs_of_success (by decide) hsync
  have hnew : (appPolicySync (some policies) alloc g.policy).2 = installed appPolicyKind policies :=
    congrArg Prod.snd (hinst.sync_eq g.policy).1
  rw [hnew]
  constructor
  · intro h k hk
    obtain ⟨schedule, hret⟩ := race_scans values hoff hinst hk
    exact (h schedule _ _ hret).2
  · intro h schedule status result hret
    obtain ⟨hs, t, ht | ⟨k, hk, ht⟩, hr⟩ := race_returned hoff hinst schedule hret
    · exact ⟨hs, Or.inl (by rw [hr, ht])⟩
    · subst ht
      rw [hr]
      exact ⟨hs, h k hk⟩

/-! ## A blocked connection that slips through -/

/-- A policy of kind None, for every connection, that blocks. -/
def blockEverything : AppPolicyV1 := { AppPolicyV1.blank with action := policyBlock }

/-- The table holds one blocking policy; the kill switch is off. -/
def blockingGlobals : Globals := { imageGlobals with policy := ⟨[blockEverything], 1⟩ }

/-- An auth-connect connection without an application id. -/
def plainConnection : IncomingValues := ⟨.aleAuthConnectV4, fun _ => .empty⟩

/-- The table holds one allowing policy; the kill switch is off. -/
def allowingGlobals : Globals := { imageGlobals with policy := ⟨[AppPolicyV1.blank], 1⟩ }

/-- The allowing table is replaced by a blocking policy and one for another application: a classification
permits as before or blocks as afterwards, and it blocks as soon as the first of them is inserted. -/
theorem syncExposure_iff_allow :
    let policies := [blockEverything, { AppPolicyV1.blank with appId := Vector.replicate 16 1 }]
    let race := fun schedule => (Interleave.run (raceStep policies (fun _ => true) plainConnection)
      (raceStart policies allowingGlobals) schedule).2 .classifying
    (∀ schedule status result, race schedule = .returned status result →
      status = statusSuccess ∧ (result = ⟨.permit, 0⟩ ∨ result = ⟨.block, 0⟩)) ∧
    race [.syncing, .syncing, .syncing, .classifying, .classifying, .classifying] =
      .returned statusSuccess ⟨.block, 0⟩ := by
  intro policies race
  have hsync : ntSuccess (appPolicySync (some policies) (fun _ => true) allowingGlobals.policy).1 = true := by
    decide
  have hagree := (syncExposure_iff (g := allowingGlobals) rfl hsync plainConnection).mpr (by decide)
  have hold : decision allowingGlobals.route plainConnection allowingGlobals.policy = ⟨.permit, 0⟩ := by
    decide
  have hnew : decision allowingGlobals.route plainConnection
      (appPolicySync (some policies) (fun _ => true) allowingGlobals.policy).2 = ⟨.block, 0⟩ := by decide
  rw [hold, hnew] at hagree
  exact ⟨hagree, by decide⟩

/-- A connection blocked before and after the Sync is permitted between the drain and the first
insertion. -/
theorem not_forall_syncExposure :
    ¬ ∀ (g : Globals) (policies : List AppPolicyV1) (alloc : Nat → Bool) (values : IncomingValues)
        (schedule : List Cpu) (status : NTSTATUS) (result : ClassifyResult),
      killSwitchEvaluate 0 g.killSwitch = none →
      ntSuccess (appPolicySync (some policies) alloc g.policy).1 = true →
      (Interleave.run (raceStep policies alloc values) (raceStart policies g) schedule).2
        .classifying = .returned status result →
      result = decision g.route values g.policy ∨
        result = decision g.route values (appPolicySync (some policies) alloc g.policy).2 := by
  intro h
  have hpermit := h blockingGlobals [blockEverything] (fun _ => true) plainConnection
    [.syncing, .classifying, .classifying] statusSuccess ⟨.permit, 0⟩ rfl (by decide) (by decide)
  exact absurd hpermit (by decide)

end Guardian
