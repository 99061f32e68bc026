import Guardian.Enforce.Classify
import Mathlib.Data.Fintype.Card

/-!
# Process-path policies

A lookup takes a ProcessPath policy for every connection that carries an application id at all; the
path in the policy is never compared.

* `blobPath`, `AppPolicyV1.path` : the path of a connection and the path of a policy;
* `NamesOwnPath` : a policy is for the connection's own path, up to a path equivalence;
* `FoundForOwnPath`, `OthersIrrelevant` : the two halves of isolation: what is found is for the own
  path, and setting a policy for another path changes no classification;
* `pathIsolation_iff` : the tables and connections for which both hold.
-/

namespace Guardian

/-! ## Paths -/

/-- The path in an `ALE_APP_ID` blob: UTF-16, little-endian, up to a NUL character. -/
def blobPath : List UInt8 → List UInt16
  | lo :: hi :: rest =>
    let c := lo.toUInt16 ||| (hi.toUInt16 <<< 8)
    if c = 0 then [] else c :: blobPath rest
  | _ => []

/-- `ExePath[0..ExePathLengthChars)` -/
def AppPolicyV1.path (policy : AppPolicyV1) : List UInt16 :=
  policy.exePath.toList.take policy.exePathLengthChars.toNat

variable (same : List UInt16 → List UInt16 → Prop)

/-- The connection's application id denotes the policy's path, up to `same`. -/
def NamesOwnPath (values : IncomingValues) (policy : AppPolicyV1) : Prop :=
  ∃ blob, appIdBlob values = some blob ∧ same (blobPath blob) policy.path

/-- A ProcessPath policy for another path than the connection's. -/
def ForOtherPath (values : IncomingValues) (policy : AppPolicyV1) : Prop :=
  policy.matchKind = matchProcessPath ∧ ¬ NamesOwnPath same values policy

/-! ## Isolation -/

/-- A ProcessPath policy that the lookup reports is for the connection's own path. -/
def FoundForOwnPath (values : IncomingValues) (t : PolicyTable) : Prop :=
  ∀ policy, (appPolicyLookup (some values) t).2 = some policy →
    policy.matchKind = matchProcessPath → NamesOwnPath same values policy

/-- A Set of a ProcessPath policy for another path, new or in the place of such a policy, leaves the
classification of the connection as it was. -/
def OthersIrrelevant (values : IncomingValues) (g : Globals) : Prop :=
  ∀ policy alloc clock, ForOtherPath same values policy →
    (∀ old ∈ g.policy.list, old.appId = policy.appId → ForOtherPath same values old) →
    let after := classifyConnection (some values) clock
      { g with policy := (appPolicySet (some policy) alloc g.policy).2 }
    let before := classifyConnection (some values) clock g
    after.1 = before.1 ∧ after.2.1 = before.2.1

/-- No ProcessPath policy can be found in another path's place: the connection carries no application
id; or the first entry of kind None or ProcessPath is of kind None or for the own path; or there is no
such entry and no room for one; or every path that fits in a policy is the connection's. -/
def PathIsolated (values : IncomingValues) (t : PolicyTable) : Prop :=
  ¬ HasAppId values ∨
  (∃ policy, t.list.find? (fun item => item.matchKind = matchNone ∨
      item.matchKind = matchProcessPath) = some policy ∧
    (policy.matchKind = matchNone ∨ NamesOwnPath same values policy)) ∨
  ((∀ item ∈ t.list, item.matchKind ≠ matchNone ∧ item.matchKind ≠ matchProcessPath) ∧
    t.count = maxPolicies) ∨
  ∀ policy, NamesOwnPath same values policy

theorem classify_eq_of_lookup {values : IncomingValues} {clock : Clock} {g : Globals}
    {t : PolicyTable} (hoff : killSwitchEvaluate 0 g.killSwitch = none)
    (h : (appPolicyLookup (some values) t).2 = (appPolicyLookup (some values) g.policy).2) :
    let after := classifyConnection (some values) clock { g with policy := t }
    let before := classifyConnection (some values) clock g
    after.1 = before.1 ∧ after.2.1 = before.2.1 := by
  obtain ⟨hs, hr⟩ := classifyConnection_decision hoff values clock
  obtain ⟨hs', hr'⟩ := classifyConnection_decision (g := { g with policy := t }) hoff values clock
  refine ⟨hs'.trans hs.symm, ?_⟩
  rw [hr, hr', decision, decision, h]

/-! ## Where isolation holds -/

theorem lookup_of_hasAppId {values : IncomingValues} (h : HasAppId values) (t : PolicyTable) :
    (appPolicyLookup (some values) t).2 = t.list.find? (fun item => item.matchKind = matchNone ∨
      item.matchKind = matchProcessPath) := by
  have hp : policyMatches (appIdBlob values) = fun item =>
      decide (item.matchKind = matchNone ∨ item.matchKind = matchProcessPath) :=
    funext (policyMatches_of_hasAppId h)
  rw [appPolicyLookup, hp]

theorem lookup_of_not_hasAppId {values : IncomingValues} (h : ¬ HasAppId values) (t : PolicyTable) :
    (appPolicyLookup (some values) t).2 = t.list.find? (fun item => item.matchKind = matchNone) := by
  have hp : policyMatches (appIdBlob values) = fun item => decide (item.matchKind = matchNone) :=
    funext (policyMatches_of_not_hasAppId h)
  rw [appPolicyLookup, hp]

theorem of_find?_decide {α : Type} {P : α → Prop} [DecidablePred P] {l : List α} {x : α}
    (h : l.find? (fun y => decide (P y)) = some x) : P x :=
  of_decide_eq_true (List.find?_some (p := fun y => decide (P y)) h)

theorem processPath_ne_none {policy : AppPolicyV1} (h : policy.matchKind = matchProcessPath) :
    policy.matchKind ≠ matchNone := by
  rw [h]
  decide

theorem appPolicySet_list (policy : AppPolicyV1) (alloc : Bool) (t : PolicyTable) :
    (appPolicySet (some policy) alloc t).2.list = t.list ∨
      Table.Accepts appPolicyKind policy alloc t ∧
      (appPolicySet (some policy) alloc t).2.list =
        KeyedList.upsert AppPolicyV1.appId policy t.list := by
  by_cases h : Table.Accepts appPolicyKind policy alloc t
  · refine Or.inr ⟨h, ?_⟩
    rw [appPolicySet, Table.set_accepted appPolicyKind h]
    rfl
  · refine Or.inl ?_
    rw [appPolicySet, (Table.set_refused appPolicyKind h).2]

theorem othersIrrelevant_of_isolated {values : IncomingValues} {g : Globals}
    (hoff : killSwitchEvaluate 0 g.killSwitch = none) (h : PathIsolated same values g.policy) :
    OthersIrrelevant same values g := by
  intro policy alloc clock hother hold
  apply classify_eq_of_lookup hoff
  rcases appPolicySet_list policy alloc g.policy with hl | ⟨hacc, hl⟩
  · rw [appPolicyLookup, appPolicyLookup, hl]
  by_cases happ : HasAppId values
  · rw [lookup_of_hasAppId happ, lookup_of_hasAppId happ, hl]
    have hov : ∀ old ∈ g.policy.list, old.appId = policy.appId →
        decide (old.matchKind = matchNone ∨ old.matchKind = matchProcessPath) =
          decide (policy.matchKind = matchNone ∨ policy.matchKind = matchProcessPath) := by
      intro old hmem he
      rw [decide_eq_decide, (hold old hmem he).1, hother.1]
    rcases h with h | ⟨found, hfound, hown⟩ | ⟨hnone, hfull⟩ | hall
    · exact absurd happ h
    · rw [hfound]
      refine KeyedList.find?_upsert_of_found AppPolicyV1.appId hov ?_ hfound
      intro he
      have hf := hold found (List.mem_of_find?_eq_some hfound) he
      rcases hown with hk | hk
      · exact processPath_ne_none hf.1 hk
      · exact hf.2 hk
    · have hroom := hacc.2.2
      rcases hroom with hmem | hlt
      · obtain ⟨old, hmem, he⟩ := List.mem_map.mp hmem
        exact absurd (hold old hmem he).1 (hnone old hmem).2
      · rw [hfull] at hlt
        exact absurd hlt (by decide)
    · exact absurd (hall policy) hother.2
  · rw [lookup_of_not_hasAppId happ, lookup_of_not_hasAppId happ, hl]
    have hnew : decide (policy.matchKind = matchNone) = false :=
      decide_eq_false (processPath_ne_none hother.1)
    cases hfound : g.policy.list.find? (fun item => decide (item.matchKind = matchNone)) with
    | none => exact KeyedList.find?_upsert_of_none AppPolicyV1.appId hnew hfound
    | some found =>
      refine KeyedList.find?_upsert_of_found AppPolicyV1.appId ?_ ?_ hfound
      · intro old hmem he
        rw [hnew]
        exact decide_eq_false (processPath_ne_none (hold old hmem he).1)
      · intro he
        exact processPath_ne_none (hold found (List.mem_of_find?_eq_some hfound) he).1
          (of_find?_decide (P := fun item : AppPolicyV1 => item.matchKind = matchNone) hfound)

theorem foundForOwnPath_of_isolated {values : IncomingValues} {t : PolicyTable}
    (h : PathIsolated same values t) : FoundForOwnPath same values t := by
  intro policy hfound hkind
  by_cases happ : HasAppId values
  · rw [lookup_of_hasAppId happ] at hfound
    rcases h with h | ⟨found, hf, hown⟩ | ⟨hnone, -⟩ | hall
    · exact absurd happ h
    · obtain rfl := Option.some.inj (hf.symm.trans hfound)
      exact hown.resolve_left (processPath_ne_none hkind)
    · exact absurd hkind (hnone policy (List.mem_of_find?_eq_some hfound)).2
    · exact hall policy
  · rw [lookup_of_not_hasAppId happ] at hfound
    exact absurd (of_find?_decide hfound) (processPath_ne_none hkind)

/-! ## Where it fails -/

/-- Application ids numbered by their first two bytes. -/
def numberedAppId (n : Fin 65536) : AppId :=
  Vector.ofFn fun i => if i.val = 0 then UInt8.ofNat n.val
    else if i.val = 1 then UInt8.ofNat (n.val / 256) else 0

theorem numberedAppId_injective : Function.Injective numberedAppId := by
  intro a b h
  have h0 := congrArg (fun v : AppId => v[0]) h
  have h1 := congrArg (fun v : AppId => v[1]) h
  simp only [numberedAppId, Vector.getElem_ofFn, if_true, one_ne_zero, if_false,
    ← UInt8.toNat_inj, UInt8.toNat_ofNat'] at h0 h1
  have ha := a.isLt
  have hb := b.isLt
  exact Fin.ext (by omega)

theorem exists_fresh_appId (ids : List AppId) (h : ids.length < 65536) : ∃ appId, appId ∉ ids := by
  have hcard : ids.toFinset.card < (Finset.univ.image numberedAppId).card := by
    rw [Finset.card_image_of_injective _ numberedAppId_injective, Finset.card_univ, Fintype.card_fin]
    exact lt_of_le_of_lt ids.toFinset_card_le h
  obtain ⟨appId, -, hfresh⟩ := Finset.exists_mem_notMem_of_card_lt_card hcard
  exact ⟨appId, fun hmem => hfresh (List.mem_toFinset.mpr hmem)⟩

theorem policyDecision_ne_default {policy : AppPolicyV1} (ha : policy.action = policyRoute)
    (hl : policy.interfaceLuid ≠ 0) (routes : RouteTable) :
    policyDecision routes policy ≠ ⟨.permit, 0⟩ := by
  have hact : policyAction policy = ⟨.route, policy.interfaceLuid⟩ := by
    simp [policyAction, ha, policyBlock, policyRoute]
  unfold policyDecision
  rw [hact]
  cases (routeLookup policy.appId routes).2 with
  | none => exact fun h => absurd (congrArg ClassifyResult.action h) nofun
  | some route =>
    simp only [routeOverride]
    split_ifs <;> simp [hl]

/-- With room, no entry to stop at and a nameable other path, some Set changes the classification. -/
theorem not_othersIrrelevant {values : IncomingValues} {g : Globals}
    (hoff : killSwitchEvaluate 0 g.killSwitch = none) (hval : Table.Valid appPolicyKind g.policy)
    (happ : HasAppId values)
    (hnone : g.policy.list.find? (fun item => item.matchKind = matchNone ∨
      item.matchKind = matchProcessPath) = none)
    (hroom : g.policy.count ≠ maxPolicies) {other : AppPolicyV1}
    (hother : ¬ NamesOwnPath same values other) : ¬ OthersIrrelevant same values g := by
  intro h
  have hmax : maxPolicies.toNat = 4096 := rfl
  have hbound := hval.bounded
  change g.policy.list.length ≤ maxPolicies.toNat at hbound
  obtain ⟨appId, hfresh⟩ := exists_fresh_appId (g.policy.list.map AppPolicyV1.appId)
    (by rw [List.length_map]; omega)
  let policy : AppPolicyV1 := { other with
    version := appPolicyVersion, appId := appId, action := policyRoute
    matchKind := matchProcessPath, interfaceLuid := 1 }
  have hlt : g.policy.count < maxPolicies := by
    rw [UInt32.lt_iff_toNat_lt]
    have hne : g.policy.count.toNat ≠ maxPolicies.toNat := by
      intro he
      exact hroom (UInt32.toNat_inj.mp he)
    have hc := hval.count_eq
    omega
  have hacc : Table.Accepts appPolicyKind policy true g.policy := ⟨rfl, rfl, Or.inr hlt⟩
  have hafter := (h policy true ⟨⟨0, 1⟩, ⟨0, 1⟩⟩ ⟨rfl, hother⟩
    (fun old hmem he => absurd (List.mem_map.mpr ⟨old, hmem, he⟩) hfresh)).2
  have hlook : (appPolicyLookup (some values) (appPolicySet (some policy) true g.policy).2).2 =
      some policy := by
    rw [lookup_of_hasAppId happ, appPolicySet, Table.set_accepted appPolicyKind hacc]
    refine (KeyedList.find?_upsert_of_fresh_none AppPolicyV1.appId hfresh hnone).trans ?_
    exact if_pos (decide_eq_true (Or.inr rfl))
  have hlook₀ : (appPolicyLookup (some values) g.policy).2 = none := by
    rw [lookup_of_hasAppId happ, hnone]
  rw [(classifyConnection_decision hoff values _).2,
    (classifyConnection_decision
      (g := { g with policy := (appPolicySet (some policy) true g.policy).2 }) hoff values _).2,
    decision_of_found hlook, decision_of_not_found hlook₀] at hafter
  exact policyDecision_ne_default rfl (show (1 : UInt64) ≠ 0 by decide) g.route hafter

/-- **A process-path policy governs other executables, too**: over every valid table with the kill
switch off, what is found is for the connection's own path and policies for other paths are
irrelevant to it iff the table and the connection are path-isolated. -/
theorem pathIsolation_iff {values : IncomingValues} {g : Globals}
    (hoff : killSwitchEvaluate 0 g.killSwitch = none)
    (hval : Table.Valid appPolicyKind g.policy) :
    FoundForOwnPath same values g.policy ∧ OthersIrrelevant same values g ↔
      PathIsolated same values g.policy := by
  constructor
  · rintro ⟨hfound, hirr⟩
    by_contra hn
    simp only [PathIsolated, not_or, not_not, not_exists, not_and] at hn
    obtain ⟨happ, hfirst, hfull, hall⟩ := hn
    obtain ⟨other, hother⟩ := not_forall.mp hall
    cases hscan : g.policy.list.find? (fun item => decide (item.matchKind = matchNone ∨
        item.matchKind = matchProcessPath)) with
    | none =>
      refine not_othersIrrelevant same hoff hval happ hscan (hfull ?_) hother hirr
      intro item hmem
      simpa using List.find?_eq_none.mp hscan item hmem
    | some policy =>
      obtain ⟨hnone, hown⟩ := hfirst policy hscan
      have hkind := (of_find?_decide hscan).resolve_left hnone
      exact hown (hfound policy (by rw [lookup_of_hasAppId happ, hscan]) hkind)
  · intro h
    exact ⟨foundForOwnPath_of_isolated same h, othersIrrelevant_of_isolated same hoff h⟩

/-- The ProcessPath policy for the path `A`. -/
def pathPolicyA : AppPolicyV1 := { AppPolicyV1.blank with
  action := policyBlock
  matchKind := matchProcessPath
  exePathLengthChars := 1
  exePath := AppPolicyV1.blank.exePath.set 0 65 }

/-- A connection of the executable whose path is the one character `c`. -/
def connectionOf (c : UInt8) : IncomingValues where
  layerId := .aleAuthConnectV4
  incomingValue
    | .aleAuthConnectV4AleAppId => .byteBlob (some [c, 0, 0, 0])
    | _ => .empty

/-- The table that holds one policy. -/
def onlyPolicy (policy : AppPolicyV1) : Globals := { imageGlobals with policy := ⟨[policy], 1⟩ }

theorem valid_pathPolicyA : Table.Valid appPolicyKind (onlyPolicy pathPolicyA).policy :=
  ⟨List.nodup_singleton _, rfl, by decide, fun _ h => List.mem_singleton.mp h ▸ rfl⟩

theorem pathIsolation_iff_own_path :
    FoundForOwnPath Eq (connectionOf 65) (onlyPolicy pathPolicyA).policy ∧
      OthersIrrelevant Eq (connectionOf 65) (onlyPolicy pathPolicyA) :=
  (pathIsolation_iff Eq rfl valid_pathPolicyA).mpr
    (Or.inr (Or.inl ⟨pathPolicyA, rfl, Or.inr ⟨[65, 0, 0, 0], rfl, rfl⟩⟩))

/-- The policy for the path `A` is found for a connection of the executable `B`. -/
theorem not_forall_pathIsolation :
    ¬ ∀ (same : List UInt16 → List UInt16 → Prop) (values : IncomingValues) (g : Globals),
      Equivalence same → (∃ a b, ¬ same a b) →
      (values.layerId = .aleAuthConnectV4 ∨ values.layerId = .aleAuthConnectV6) →
      killSwitchEvaluate 0 g.killSwitch = none → Table.Valid appPolicyKind g.policy →
      FoundForOwnPath same values g.policy ∧ OthersIrrelevant same values g := by
  intro h
  obtain ⟨hfound, -⟩ := h Eq (connectionOf 66) (onlyPolicy pathPolicyA) eq_equivalence
    ⟨[], [0], by decide⟩ (Or.inl rfl) rfl valid_pathPolicyA
  obtain ⟨blob, hblob, hpath⟩ := hfound pathPolicyA rfl rfl
  have hb : blob = [66, 0, 0, 0] := by cases hblob; rfl
  subst hb
  have hlt : blobPath [66, 0, 0, 0] = [66] := by decide
  have hpol : pathPolicyA.path = [65] := rfl
  rw [hlt, hpol] at hpath
  exact absurd hpath (by decide)

end Guardian
