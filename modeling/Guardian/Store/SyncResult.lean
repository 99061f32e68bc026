import Guardian.Store.Policy
import Guardian.Store.Route
import Mathlib.Data.Finset.Card

/-!
# Syncs that succeed

A Sync starts from an empty table and inserts its array front to back, each element over an earlier
one with its id.

* `Table.Installable` : nothing stops the Sync of the array;
* `Table.LastWrites` : the table has one entry for each id of the array, in the order of their first
  occurrences, as their last occurrences hold it;
* `Table.sync_installable` : an installable Sync succeeds and leaves the same table, whatever it finds;
  `Table.ntSuccess_sync_iff` says that no other one succeeds;
* `syncs_determined` : both for the two tables.
-/

namespace Guardian

namespace Table

variable {α : Type} (kind : RecordKind α)

/-- The array is within the limit, its versions are supported, and every allocation succeeds. -/
structure Installable (records : List α) (alloc : Nat → Bool) : Prop where
  length : records.length ≤ kind.maxSync
  version : ∀ record ∈ records, kind.version record = kind.supportedVersion
  alloc : ∀ i < records.length, alloc i = true

/-- The table lists the distinct ids of the array in the order of their first occurrences, each entry
with the contents of the last occurrence of its id. -/
structure LastWrites (records : List α) (t : Table α) : Prop where
  ids : t.list.map kind.appId = (records.map kind.appId).eraseDups
  contents : ∀ entry ∈ t.list,
    records.reverse.find? (fun record => kind.appId record = kind.appId entry) = some entry
  count : t.count.toNat = (records.map kind.appId).toFinset.card

theorem lastWrites_installed {records : List α} (h : records.length < 2 ^ 32) :
    LastWrites kind records (installed kind records) where
  ids := KeyedList.keys_install kind.appId records
  contents := by
    intro entry hentry
    rw [← KeyedList.find?_install_key,
      KeyedList.find?_key_eq_some kind.appId (KeyedList.nodup_install kind.appId records)]
    exact ⟨hentry, rfl⟩
  count := by
    have hle := KeyedList.length_install_le kind.appId records
    have hids : ((KeyedList.install kind.appId records).map kind.appId).toFinset =
        (records.map kind.appId).toFinset := by
      ext appId
      rw [List.mem_toFinset, List.mem_toFinset, KeyedList.keys_install, List.mem_eraseDups]
    calc (installed kind records).count.toNat
        = (KeyedList.install kind.appId records).length :=
          UInt32.toNat_ofNat_of_lt' (by rw [UInt32.size]; omega)
      _ = ((KeyedList.install kind.appId records).map kind.appId).length :=
          (List.length_map kind.appId).symm
      _ = ((KeyedList.install kind.appId records).map kind.appId).toFinset.card :=
          (List.toFinset_card_of_nodup (KeyedList.nodup_install kind.appId records)).symm
      _ = (records.map kind.appId).toFinset.card := by rw [hids]

theorem syncLoop_status {alloc : Nat → Bool} {i : Nat} {records : List α} {t : Table α}
    (h : ntSuccess (syncLoop kind alloc i records t).1 = true) :
    (syncLoop kind alloc i records t).1 = statusSuccess := by
  induction records generalizing i t with
  | nil => rfl
  | cons record rest ih =>
    rw [syncLoop] at h ⊢
    split at h
    · next hs =>
      rw [if_pos hs]
      exact ih h
    · next hs => exact absurd h hs

variable {kind}

theorem Installable.installable_eq {records : List α} {alloc : Nat → Bool}
    (h : Installable kind records alloc) : installable kind alloc 0 records = records := by
  apply (installable_eq_iff kind).mpr
  intro j hj
  rw [Nat.zero_add]
  exact ⟨h.version _ (List.getElem_mem hj), h.alloc j hj⟩

theorem sync_installable (hroom : kind.maxSync ≤ kind.maxEntries.toNat) {records : List α}
    {alloc : Nat → Bool} (h : Installable kind records alloc) (t : Table α) :
    sync kind (some records) alloc t = (statusSuccess, installed kind records) := by
  obtain ⟨ht, hs⟩ := sync_spec kind hroom h.length alloc t
  rw [h.installable_eq] at ht hs
  have hok := hs.mpr rfl
  rw [sync_taken kind h.length] at hok
  refine Prod.ext ?_ ht
  show (sync kind (some records) alloc t).1 = statusSuccess
  rw [sync_taken kind h.length]
  exact syncLoop_status kind hok

theorem ntSuccess_sync_iff (hroom : kind.maxSync ≤ kind.maxEntries.toNat) {records : List α}
    {alloc : Nat → Bool} {t : Table α} :
    ntSuccess (sync kind (some records) alloc t).1 = true ↔ Installable kind records alloc := by
  constructor
  · intro h
    by_cases hl : kind.maxSync < records.length
    · rw [sync_too_long kind hl] at h
      cases h
    · have hall := (sync_spec kind hroom (Nat.not_lt.mp hl) alloc t).2.mp h
      rw [installable_eq_iff] at hall
      refine ⟨Nat.not_lt.mp hl, ?_, ?_⟩
      · intro record hrecord
        obtain ⟨i, hi, rfl⟩ := List.getElem_of_mem hrecord
        exact (hall i hi).1
      · intro i hi
        simpa only [Nat.zero_add] using (hall i hi).2
  · intro h
    rw [sync_installable hroom h]
    rfl

variable (kind)

/-- Two Syncs of the array from the tables `t` and `t'` succeed and leave one table, which lists the
last writes of the array and which a further Sync of it leaves as it is. -/
structure Determined (sync : Option (List α) → (Nat → Bool) → Table α → NTSTATUS × Table α)
    (records : List α) (alloc alloc' : Nat → Bool) (t t' : Table α) : Prop where
  status : (sync (some records) alloc t).1 = statusSuccess
  same : sync (some records) alloc' t' = sync (some records) alloc t
  lastWrites : LastWrites kind records (sync (some records) alloc t).2
  again : sync (some records) alloc' (sync (some records) alloc t).2 = sync (some records) alloc t

variable {kind}

theorem sync_determined (hroom : kind.maxSync ≤ kind.maxEntries.toNat) {records : List α}
    {alloc alloc' : Nat → Bool} (h : Installable kind records alloc)
    (h' : Installable kind records alloc') (t t' : Table α) :
    Determined kind (sync kind) records alloc alloc' t t' where
  status := by rw [sync_installable hroom h]
  same := by rw [sync_installable hroom h, sync_installable hroom h']
  lastWrites := by
    have hmax := kind.maxEntries.toNat_lt
    have hlen := h.length
    rw [sync_installable hroom h]
    exact lastWrites_installed kind (by omega)
  again := by rw [sync_installable hroom h, sync_installable hroom h']

end Table

/-- **A successful Sync depends on its array only**, for both tables: it always succeeds, and leaves
the last writes of the array in the order of the first occurrences. -/
theorem syncs_determined :
    (∀ (policies : List AppPolicyV1) (alloc alloc' : Nat → Bool) (t t' : PolicyTable),
      Table.Installable appPolicyKind policies alloc →
      Table.Installable appPolicyKind policies alloc' →
      Table.Determined appPolicyKind appPolicySync policies alloc alloc' t t') ∧
    (∀ (routes : List RouteAssignmentV1) (alloc alloc' : Nat → Bool) (t t' : RouteTable),
      Table.Installable routeKind routes alloc →
      Table.Installable routeKind routes alloc' →
      Table.Determined routeKind routeSync routes alloc alloc' t t') := by
  constructor
  · intro policies alloc alloc' t t' h h'
    exact Table.sync_determined (by decide) h h' t t'
  · intro routes alloc alloc' t t' h h'
    exact Table.sync_determined (by decide) h h' t t'

/-- Two assignments of one id, from an empty table and from one that holds another assignment: the
second of them is left. -/
theorem syncs_determined_overwritten :
    let routes := [RouteAssignmentV1.blank, { RouteAssignmentV1.blank with routeKind := routeVpn }]
    Table.Determined routeKind routeSync routes (fun _ => true) (fun _ => true) Table.fresh
      ⟨[{ RouteAssignmentV1.blank with routeKind := routeTor }], 1⟩ := by
  intro routes
  have h : Table.Installable routeKind routes (fun _ => true) :=
    ⟨by decide, by decide, fun _ _ => rfl⟩
  exact syncs_determined.2 routes _ _ _ _ h h

end Guardian
