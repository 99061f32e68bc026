import Guardian.Store.Table

/-!
# The policy table (`app_policy.c`)

* `appPolicySet`, `appPolicyRemove`, `appPolicySync` : the table operations at policies;
* `appPolicyLookup` : the first policy that matches a connection;
* `policyMatches_of_hasAppId`, `policyMatches_of_not_hasAppId` : where its scan stops.
-/

namespace Guardian

/-- `GUARDIAN_MAX_POLICIES` -/
def maxPolicies : UInt32 := 4096

def appPolicyKind : RecordKind AppPolicyV1 where
  version := AppPolicyV1.version
  appId := AppPolicyV1.appId
  supportedVersion := appPolicyVersion
  maxEntries := maxPolicies
  maxSync := maxSyncPolicies

abbrev PolicyTable := Table AppPolicyV1

def appPolicyInitialize (t : PolicyTable) : PolicyTable := Table.reinit t

def appPolicyShutdown (t : PolicyTable) : PolicyTable := Table.shutdown t

def policyFindLocked (appId : AppId) (t : PolicyTable) : Option Nat :=
  Table.findLocked appPolicyKind appId t

def appPolicySet (policy : Option AppPolicyV1) (alloc : Bool) (t : PolicyTable) :
    NTSTATUS × PolicyTable := Table.set appPolicyKind policy alloc t

def appPolicyRemove (appId : AppId) (t : PolicyTable) : NTSTATUS × PolicyTable :=
  Table.remove appPolicyKind appId t

def appPolicySync (policies : Option (List AppPolicyV1)) (alloc : Nat → Bool) (t : PolicyTable) :
    NTSTATUS × PolicyTable := Table.sync appPolicyKind policies alloc t

def appPolicyActiveCount (t : PolicyTable) : UInt32 := t.count

/-! ## Lookup -/

/-- The `ALE_APP_ID` blob of an auth-connect connection; `none` is a `NULL` blob. -/
def appIdBlob (values : IncomingValues) : Option (List UInt8) :=
  match values.layerId with
  | .aleAuthConnectV4 =>
    match values.incomingValue .aleAuthConnectV4AleAppId with
    | .byteBlob blob => blob
    | _ => none
  | .aleAuthConnectV6 =>
    match values.incomingValue .aleAuthConnectV6AleAppId with
    | .byteBlob blob => blob
    | _ => none
  | .other _ => none

/-- The scan stops at this entry. -/
def policyMatches (blob : Option (List UInt8)) (item : AppPolicyV1) : Bool :=
  match blob with
  | some blob =>
    if item.matchKind = matchProcessPath then decide (blob.length > 0)
    else decide (item.matchKind = matchNone)
  | none => decide (item.matchKind = matchNone)

/-- The found policy; `none` is `found = FALSE` with a zeroed policy. -/
def appPolicyLookup (inFixedValues : Option IncomingValues) (t : PolicyTable) :
    NTSTATUS × Option AppPolicyV1 :=
  match inFixedValues with
  | none => (statusInvalidParameter, none)
  | some values => (statusSuccess, t.list.find? (policyMatches (appIdBlob values)))

/-- The connection carries a non-empty application id. -/
def HasAppId (values : IncomingValues) : Prop := ∃ b bs, appIdBlob values = some (b :: bs)

instance (values : IncomingValues) : Decidable (HasAppId values) :=
  match h : appIdBlob values with
  | some (b :: bs) => isTrue ⟨b, bs, h⟩
  | some [] => isFalse fun ⟨_, _, h'⟩ => by simp [h] at h'
  | none => isFalse fun ⟨_, _, h'⟩ => by simp [h] at h'

theorem policyMatches_of_hasAppId {values : IncomingValues} (h : HasAppId values)
    (item : AppPolicyV1) : policyMatches (appIdBlob values) item =
      decide (item.matchKind = matchNone ∨ item.matchKind = matchProcessPath) := by
  obtain ⟨b, bs, h⟩ := h
  rw [h, policyMatches]
  by_cases hp : item.matchKind = matchProcessPath <;> simp [hp]

theorem policyMatches_of_not_hasAppId {values : IncomingValues} (h : ¬ HasAppId values)
    (item : AppPolicyV1) : policyMatches (appIdBlob values) item =
      decide (item.matchKind = matchNone) := by
  unfold policyMatches
  cases hb : appIdBlob values with
  | none => rfl
  | some blob =>
    cases blob with
    | nil =>
      by_cases hp : item.matchKind = matchProcessPath
      · simp [hp, matchProcessPath, matchNone]
      · simp [hp]
    | cons b bs => exact absurd ⟨b, bs, hb⟩ h

end Guardian
