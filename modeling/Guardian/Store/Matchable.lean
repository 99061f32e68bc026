import Guardian.Store.SyncResult

/-!
# Policies that no connection matches

A Set and a Sync look at the version of a policy only; the scan of a Lookup knows two of the declared
match kinds.

* `AppPolicyV1.Matchable` : from a table with this policy alone, the Lookup of some auth-connect
  connection returns it; `matchable_iff` says which policies these are;
* `acceptedMatchable_iff` : the calls of Set and of Sync that accept matchable policies only.
-/

namespace Guardian

/-- The connection is classified on a layer of the auth-connect callouts. -/
def IncomingValues.OnAuthConnect (values : IncomingValues) : Prop :=
  values.layerId = .aleAuthConnectV4 ∨ values.layerId = .aleAuthConnectV6

/-- The Lookup of some connection finds the policy in a table that holds nothing else. -/
def AppPolicyV1.Matchable (policy : AppPolicyV1) : Prop :=
  ∃ values : IncomingValues, values.OnAuthConnect ∧
    appPolicyLookup (some values) ⟨[policy], 1⟩ = (statusSuccess, some policy)

/-- The match kinds that the scan of a Lookup compares with. -/
def AppPolicyV1.ScannedKind (policy : AppPolicyV1) : Prop :=
  policy.matchKind = matchNone ∨ policy.matchKind = matchProcessPath

instance (policy : AppPolicyV1) : Decidable policy.ScannedKind :=
  inferInstanceAs (Decidable (_ ∨ _))

/-- A connection with a one-byte application id. -/
def identifiedConnection : IncomingValues := ⟨.aleAuthConnectV4, fun _ => .byteBlob (some [0])⟩

theorem identifiedConnection_hasAppId : HasAppId identifiedConnection := ⟨0, [], rfl⟩

theorem appPolicyLookup_alone (values : IncomingValues) (policy : AppPolicyV1) :
    appPolicyLookup (some values) ⟨[policy], 1⟩ =
      (statusSuccess, if policyMatches (appIdBlob values) policy then some policy else none) := by
  rw [appPolicyLookup, List.find?_cons, List.find?_nil]
  cases policyMatches (appIdBlob values) policy <;> rfl

theorem scannedKind_of_policyMatches {values : IncomingValues} {policy : AppPolicyV1}
    (h : policyMatches (appIdBlob values) policy = true) : policy.ScannedKind := by
  by_cases hid : HasAppId values
  · rw [policyMatches_of_hasAppId hid] at h
    exact of_decide_eq_true h
  · rw [policyMatches_of_not_hasAppId hid] at h
    exact Or.inl (of_decide_eq_true h)

theorem matchable_iff (policy : AppPolicyV1) : policy.Matchable ↔ policy.ScannedKind := by
  constructor
  · rintro ⟨values, -, h⟩
    rw [appPolicyLookup_alone] at h
    have hmatch : policyMatches (appIdBlob values) policy = true := by
      by_contra hno
      rw [if_neg hno] at h
      cases h
    exact scannedKind_of_policyMatches hmatch
  · intro h
    refine ⟨identifiedConnection, Or.inl rfl, ?_⟩
    have hmatch : policyMatches (appIdBlob identifiedConnection) policy = true := by
      rw [policyMatches_of_hasAppId identifiedConnection_hasAppId]
      exact decide_eq_true h
    rw [appPolicyLookup_alone, if_pos hmatch]

/-- If the Set succeeds, some connection matches its policy. -/
def SetMatchable (policy : AppPolicyV1) (alloc : Bool) (t : PolicyTable) : Prop :=
  ntSuccess (appPolicySet (some policy) alloc t).1 = true → policy.Matchable

/-- If the Sync succeeds, each policy of its array is matched by some connection. -/
def SyncMatchable (policies : List AppPolicyV1) (alloc : Nat → Bool) (t : PolicyTable) : Prop :=
  ntSuccess (appPolicySync (some policies) alloc t).1 = true →
    ∀ policy ∈ policies, policy.Matchable

/-- **Which accepted policies can match**: those of kind None or ProcessPath. Neither a Set nor a Sync
refuses a policy for its kind. -/
theorem acceptedMatchable_iff (policy : AppPolicyV1) (policyAlloc : Bool)
    (policies : List AppPolicyV1) (alloc : Nat → Bool) (t : PolicyTable) :
    (SetMatchable policy policyAlloc t ↔
      ¬ Table.Accepts appPolicyKind policy policyAlloc t ∨ policy.ScannedKind) ∧
    (SyncMatchable policies alloc t ↔
      ¬ Table.Installable appPolicyKind policies alloc ∨
        ∀ policy ∈ policies, policy.ScannedKind) := by
  constructor
  · rw [SetMatchable, matchable_iff, appPolicySet, Table.ntSuccess_set_iff, imp_iff_not_or]
  · simp only [SyncMatchable, matchable_iff, appPolicySync]
    rw [Table.ntSuccess_sync_iff (by decide), imp_iff_not_or]

/-- A Block policy for the hash of an executable. -/
def blockByHash : AppPolicyV1 :=
  { AppPolicyV1.blank with action := policyBlock, matchKind := matchExeHash }

/-- A Block policy of kind ExeHash is accepted, alone and in a Sync, and never matches. -/
theorem not_forall_acceptedMatchable :
    (¬ ∀ policy alloc t, SetMatchable policy alloc t) ∧
    (¬ ∀ policies alloc t, SyncMatchable policies alloc t) := by
  have hdead : ¬ blockByHash.Matchable := by
    rw [matchable_iff]
    decide
  constructor
  · intro h
    exact hdead (h blockByHash true Table.fresh (by decide))
  · intro h
    exact hdead (h [blockByHash] (fun _ => true) Table.fresh (by decide) blockByHash
      List.mem_cons_self)

end Guardian
