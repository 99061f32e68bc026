import Guardian.Store.Policy

/-!
# The tables as insertion-ordered maps

A table is driven by Set, Remove and Sync calls with any arguments and any allocation failures; the
same calls drive an insertion-ordered map of records.

* `Table.store`, `Table.orderedMap` : the two machines, answering whether a call succeeds;
* `Table.store_simulates` : they answer alike, and the table keeps listing the map's entries;
* `policyStore` : the machine of the calls of `app_policy.c`; `policyStore_simulates`;
* `policyStore_refines` : the policy table over every sequence of calls.
-/

namespace Guardian

namespace Table

variable {α : Type} (kind : RecordKind α)

/-- A call with its arguments; `none` is a `NULL` pointer. -/
inductive StoreCall (α : Type) where
  | set (record : Option α) (alloc : Bool)
  | remove (appId : AppId)
  | sync (records : Option (List α)) (alloc : Nat → Bool)

/-! ## The two machines -/

def storeStep (t : Table α) : StoreCall α → Bool × Table α
  | .set record alloc => (ntSuccess (set kind record alloc t).1, (set kind record alloc t).2)
  | .remove appId => (ntSuccess (remove kind appId t).1, (remove kind appId t).2)
  | .sync records alloc => (ntSuccess (sync kind records alloc t).1, (sync kind records alloc t).2)

def store : Machine (Table α) (StoreCall α) Bool := ⟨storeStep kind⟩

/-- What a call does to the map: a Set of a supported version that finds memory overwrites a present
id in place or appends a new one below the capacity, a Remove drops a present id, and a Sync puts
the initial part of its array that can be inserted in the place of everything. -/
def mapStep (m : OrderedMap kind.appId) : StoreCall α → Bool × OrderedMap kind.appId
  | .set none _ => (false, m)
  | .set (some record) alloc =>
    if kind.version record = kind.supportedVersion ∧ alloc = true ∧
      (kind.appId record ∈ m.keys ∨ m.length < kind.maxEntries.toNat)
    then (true, m.upsert record) else (false, m)
  | .remove appId => if appId ∈ m.keys then (true, m.remove appId) else (false, m)
  | .sync none _ => (false, m)
  | .sync (some records) alloc =>
    if kind.maxSync < records.length then (false, m)
    else
      let taken := installable kind alloc 0 records
      (taken.length = records.length, OrderedMap.install taken)

def orderedMap : Machine (OrderedMap kind.appId) (StoreCall α) Bool := ⟨mapStep kind⟩

/-! ## Simulation -/

/-- The table lists the map's entries and is valid. -/
structure Refines (t : Table α) (m : OrderedMap kind.appId) : Prop where
  list_eq : t.list = m.entries
  valid : Valid kind t

theorem refines_fresh : Refines kind (fresh : Table α) OrderedMap.empty :=
  ⟨rfl, valid_fresh kind⟩

theorem accepts_iff {t : Table α} {m : OrderedMap kind.appId} (h : Refines kind t m) (record : α)
    (alloc : Bool) : Accepts kind record alloc t ↔
      kind.version record = kind.supportedVersion ∧ alloc = true ∧
        (kind.appId record ∈ m.keys ∨ m.length < kind.maxEntries.toNat) := by
  rw [Accepts, UInt32.lt_iff_toNat_lt, h.valid.count_eq, OrderedMap.keys, OrderedMap.length,
    h.list_eq]

theorem set_simulates {t : Table α} {m : OrderedMap kind.appId} (h : Refines kind t m)
    (record : Option α) (alloc : Bool) :
    (storeStep kind t (.set record alloc)).1 = (mapStep kind m (.set record alloc)).1 ∧
      Refines kind (storeStep kind t (.set record alloc)).2
        (mapStep kind m (.set record alloc)).2 := by
  cases record with
  | none => exact ⟨rfl, h⟩
  | some record =>
    rw [mapStep, storeStep]
    have hval := valid_set kind h.valid (some record) alloc
    by_cases hacc : Accepts kind record alloc t
    · rw [if_pos ((accepts_iff kind h record alloc).mp hacc)]
      rw [set_accepted kind hacc] at hval ⊢
      refine ⟨rfl, ?_, hval⟩
      rw [OrderedMap.entries_upsert, ← h.list_eq]
    · rw [if_neg (fun hm => hacc ((accepts_iff kind h record alloc).mpr hm))]
      obtain ⟨hs, ht⟩ := set_refused kind hacc
      rw [hs, ht]
      exact ⟨rfl, h⟩

theorem remove_simulates {t : Table α} {m : OrderedMap kind.appId} (h : Refines kind t m)
    (appId : AppId) :
    (storeStep kind t (.remove appId)).1 = (mapStep kind m (.remove appId)).1 ∧
      Refines kind (storeStep kind t (.remove appId)).2 (mapStep kind m (.remove appId)).2 := by
  rw [mapStep, storeStep]
  have hval := valid_remove kind h.valid appId
  have hkeys : m.keys = t.list.map kind.appId := by rw [h.list_eq, OrderedMap.keys]
  simp only [hkeys]
  by_cases hm : appId ∈ t.list.map kind.appId
  · rw [if_pos hm]
    rw [remove_mem kind hm] at hval ⊢
    refine ⟨rfl, ?_, hval⟩
    rw [OrderedMap.entries_remove, ← h.list_eq]
  · rw [if_neg hm, remove_not_mem kind hm]
    exact ⟨rfl, h⟩

theorem sync_simulates (hroom : kind.maxSync ≤ kind.maxEntries.toNat) {t : Table α}
    {m : OrderedMap kind.appId} (h : Refines kind t m) (records : Option (List α))
    (alloc : Nat → Bool) :
    (storeStep kind t (.sync records alloc)).1 = (mapStep kind m (.sync records alloc)).1 ∧
      Refines kind (storeStep kind t (.sync records alloc)).2
        (mapStep kind m (.sync records alloc)).2 := by
  cases records with
  | none => exact ⟨rfl, h⟩
  | some records =>
    rw [mapStep, storeStep]
    by_cases hl : kind.maxSync < records.length
    · rw [if_pos hl, sync_too_long kind hl]
      exact ⟨rfl, h⟩
    · obtain ⟨ht, hs⟩ := sync_spec kind hroom (Nat.not_lt.mp hl) alloc t
      have hval := valid_sync kind h.valid (some records) alloc
      rw [if_neg hl, ht]
      rw [ht] at hval
      refine ⟨?_, rfl, hval⟩
      rw [installable_eq_iff_length] at hs
      rw [Bool.eq_iff_iff, hs, decide_eq_true_iff]

/-- **A table simulates an insertion-ordered map**: every call is answered alike and leaves the
table listing the entries of the map. -/
theorem store_simulates (hroom : kind.maxSync ≤ kind.maxEntries.toNat) :
    Machine.Simulates (store kind) (orderedMap kind) (Refines kind) := by
  intro t m call h
  cases call with
  | set record alloc => exact set_simulates kind h record alloc
  | remove appId => exact remove_simulates kind h appId
  | sync records alloc => exact sync_simulates kind hroom h records alloc

/-! ## Single calls on a valid table -/

/-- What a Set and a Remove do to a table seen as a map with precedences. -/
structure MapLaws (t : Table α) : Prop where
  set_succeeds_iff : ∀ record alloc, ntSuccess (set kind (some record) alloc t).1 = true ↔
    kind.version record = kind.supportedVersion ∧ alloc = true ∧
      (kind.appId record ∈ t.list.map kind.appId ∨ t.list.length < kind.maxEntries.toNat)
  set_fails : ∀ record alloc, ntSuccess (set kind record alloc t).1 = false →
    (set kind record alloc t).2 = t
  /-- Overwriting an id leaves the ids in their order. -/
  set_keys : ∀ record alloc, kind.appId record ∈ t.list.map kind.appId →
    (set kind (some record) alloc t).2.list.map kind.appId = t.list.map kind.appId
  /-- A new id goes behind every entry a scan can stop at. -/
  set_scan : ∀ record alloc p found, kind.appId record ∉ t.list.map kind.appId →
    t.list.find? p = some found → (set kind (some record) alloc t).2.list.find? p = some found
  remove_succeeds_iff : ∀ appId, ntSuccess (remove kind appId t).1 = true ↔
    appId ∈ t.list.map kind.appId
  mem_remove : ∀ appId record, record ∈ (remove kind appId t).2.list ↔
    record ∈ t.list ∧ kind.appId record ≠ appId

theorem keys_set_of_mem {record : α} {t : Table α} (h : kind.appId record ∈ t.list.map kind.appId)
    (alloc : Bool) :
    (set kind (some record) alloc t).2.list.map kind.appId = t.list.map kind.appId := by
  by_cases hacc : Accepts kind record alloc t
  · rw [set_accepted kind hacc]
    exact KeyedList.keys_upsert_of_mem kind.appId h
  · rw [(set_refused kind hacc).2]

theorem find?_set_of_fresh {record found : α} {t : Table α} {p : α → Bool}
    (h : kind.appId record ∉ t.list.map kind.appId) (hf : t.list.find? p = some found)
    (alloc : Bool) : (set kind (some record) alloc t).2.list.find? p = some found := by
  by_cases hacc : Accepts kind record alloc t
  · rw [set_accepted kind hacc]
    exact KeyedList.find?_upsert_of_fresh kind.appId h hf
  · rwa [(set_refused kind hacc).2]

theorem Valid.mapLaws {t : Table α} (h : Valid kind t) : MapLaws kind t where
  set_succeeds_iff record alloc := by
    rw [ntSuccess_set_iff, Accepts, UInt32.lt_iff_toNat_lt, h.count_eq]
  set_fails record alloc hf := set_failed kind hf
  set_keys record alloc hm := keys_set_of_mem kind hm alloc
  set_scan record alloc p found hn hf := find?_set_of_fresh kind hn hf alloc
  remove_succeeds_iff appId := by
    by_cases hm : appId ∈ t.list.map kind.appId
    · simp [remove_mem kind hm, hm]
    · simp [remove_not_mem kind hm, hm]
  mem_remove appId record := by
    by_cases hm : appId ∈ t.list.map kind.appId
    · rw [remove_mem kind hm]
      exact KeyedList.mem_remove kind.appId h.nodup record
    · rw [remove_not_mem kind hm]
      constructor
      · intro hr
        refine ⟨hr, ?_⟩
        rintro rfl
        exact hm (List.mem_map_of_mem hr)
      · exact And.left

end Table

/-! ## The policy table -/

def policyStep (t : PolicyTable) : Table.StoreCall AppPolicyV1 → Bool × PolicyTable
  | .set policy alloc =>
    let (status, t) := appPolicySet policy alloc t
    (ntSuccess status, t)
  | .remove appId =>
    let (status, t) := appPolicyRemove appId t
    (ntSuccess status, t)
  | .sync policies alloc =>
    let (status, t) := appPolicySync policies alloc t
    (ntSuccess status, t)

def policyStore : Machine PolicyTable (Table.StoreCall AppPolicyV1) Bool := ⟨policyStep⟩

abbrev policyMap : Machine (OrderedMap appPolicyKind.appId) (Table.StoreCall AppPolicyV1) Bool :=
  Table.orderedMap appPolicyKind

theorem policyStore_simulates :
    Machine.Simulates policyStore policyMap (Table.Refines appPolicyKind) := by
  intro t m call h
  have hcall := Table.store_simulates appPolicyKind (by decide) t m call h
  cases call with
  | set policy alloc | remove appId | sync policies alloc => exact hcall

/-- **The policy store refines an insertion-ordered map** over every sequence of calls: equal
answers, the map's entries in the map's order, distinct ids, an exact bounded counter, Version 1
only, and in every such table Set and Remove act as on a map with precedences. A Lookup that found a
policy finds the same one after a Set of a new id. -/
theorem policyStore_refines (t₀ : PolicyTable) (calls : List (Table.StoreCall AppPolicyV1)) :
    let t := policyStore.final (appPolicyInitialize t₀) calls
    policyStore.trace (appPolicyInitialize t₀) calls = policyMap.trace OrderedMap.empty calls ∧
    t.list = (policyMap.final OrderedMap.empty calls).entries ∧
    (t.list.map AppPolicyV1.appId).Nodup ∧
    (appPolicyActiveCount t).toNat = t.list.length ∧ t.list.length ≤ 4096 ∧
    (∀ policy ∈ t.list, policy.version = 1) ∧
    Table.MapLaws appPolicyKind t ∧
    (∀ policy alloc values found, policy.appId ∉ t.list.map AppPolicyV1.appId →
      (appPolicyLookup (some values) t).2 = some found →
      (appPolicyLookup (some values) (appPolicySet (some policy) alloc t).2).2 = some found) := by
  intro t
  obtain ⟨htrace, hlist, hval⟩ := policyStore_simulates.run (Table.refines_fresh appPolicyKind) calls
  have hlaws := hval.mapLaws
  refine ⟨htrace, hlist, hval.nodup, hval.count_eq, hval.bounded, hval.version_eq, hlaws, ?_⟩
  intro policy alloc values found hnew hfound
  exact hlaws.set_scan policy alloc _ found hnew hfound

end Guardian
