import Guardian.Lib.FiniteMap
import Guardian.Store.Replay
import Guardian.Store.Route

/-!
# The route table as a finite map

The calls on a table, replayed on a finite map from application ids to records.

* `Table.finmapStep`, `Table.finmap` : what each call means for the map, a Sync as the sequence of
  its Sets on the empty map;
* `Table.Stores` : the table is valid and holds the map; `Table.store_simulates_finmap`;
* `routeStore` : the machine of the calls of `route_assignment.c`; `routeStore_simulates`;
* `routeStore_refines` : the route table over every sequence of calls.
-/

namespace Guardian
open KeyedList

namespace Table

variable {α : Type} (kind : RecordKind α)

/-- A finite map from application ids to records. -/
abbrev RecordMap (α : Type) := Finmap fun _ : AppId => α

/-! ## The calls on a map -/

/-- A Set is accepted if the version is supported, memory is found and the id is present or the map
is below the capacity. -/
def finmapSet (record : α) (alloc : Bool) (m : RecordMap α) : Bool × RecordMap α :=
  if kind.version record = kind.supportedVersion ∧ alloc = true ∧
    (kind.appId record ∈ m ∨ m.keys.card < kind.maxEntries.toNat)
  then (true, m.insert (kind.appId record) record)
  else (false, m)

/-- The Sets of a Sync, up to the first one that is not accepted. -/
def finmapLoop (alloc : Nat → Bool) : Nat → List α → RecordMap α → Bool × RecordMap α
  | _, [], m => (true, m)
  | i, record :: rest, m =>
    let r := finmapSet kind record (alloc i) m
    if r.1 then finmapLoop alloc (i + 1) rest r.2 else r

def finmapStep (m : RecordMap α) : StoreCall α → Bool × RecordMap α
  | .set none _ => (false, m)
  | .set (some record) alloc => finmapSet kind record alloc m
  | .remove appId => if appId ∈ m then (true, m.erase appId) else (false, m)
  | .sync none _ => (false, m)
  | .sync (some records) alloc =>
    if kind.maxSync < records.length then (false, m) else finmapLoop kind alloc 0 records ∅

def finmap : Machine (RecordMap α) (StoreCall α) Bool := ⟨finmapStep kind⟩

/-! ## Simulation -/

/-- The table is valid and holds the records of the map. -/
structure Stores (t : Table α) (m : RecordMap α) : Prop where
  valid : Valid kind t
  represents : Represents kind.appId t.list m

theorem stores_fresh : Stores kind (fresh : Table α) ∅ :=
  ⟨valid_fresh kind, represents_nil kind.appId⟩

variable {kind} {t : Table α} {m : RecordMap α}

theorem Stores.accepts_iff (h : Stores kind t m) (record : α) (alloc : Bool) :
    Accepts kind record alloc t ↔
      kind.version record = kind.supportedVersion ∧ alloc = true ∧
        (kind.appId record ∈ m ∨ m.keys.card < kind.maxEntries.toNat) := by
  rw [Accepts, h.represents.mem_iff, h.represents.card h.valid.nodup, UInt32.lt_iff_toNat_lt,
    h.valid.count_eq]

theorem Stores.set (h : Stores kind t m) (record : α) (alloc : Bool) :
    ntSuccess (Table.set kind (some record) alloc t).1 = (finmapSet kind record alloc m).1 ∧
      Stores kind (Table.set kind (some record) alloc t).2 (finmapSet kind record alloc m).2 := by
  have hval := valid_set kind h.valid (some record) alloc
  unfold finmapSet
  by_cases hacc : Accepts kind record alloc t
  · rw [if_pos ((h.accepts_iff record alloc).mp hacc)]
    rw [set_accepted kind hacc] at hval ⊢
    exact ⟨rfl, hval, h.represents.upsert record⟩
  · rw [if_neg (fun hm => hacc ((h.accepts_iff record alloc).mpr hm))]
    obtain ⟨hs, ht⟩ := set_refused kind hacc
    rw [hs, ht]
    exact ⟨rfl, h⟩

theorem Stores.remove (h : Stores kind t m) (appId : AppId) :
    (storeStep kind t (.remove appId)).1 = (finmapStep kind m (.remove appId)).1 ∧
      Stores kind (storeStep kind t (.remove appId)).2 (finmapStep kind m (.remove appId)).2 := by
  rw [finmapStep, storeStep]
  have hval := valid_remove kind h.valid appId
  by_cases hm : appId ∈ t.list.map kind.appId
  · rw [if_pos (h.represents.mem_iff.mpr hm)]
    rw [remove_mem kind hm] at hval ⊢
    exact ⟨rfl, hval, h.represents.remove h.valid.nodup appId⟩
  · rw [if_neg (fun ha => hm (h.represents.mem_iff.mp ha)), remove_not_mem kind hm]
    exact ⟨rfl, h⟩

theorem Stores.syncLoop (h : Stores kind t m) (alloc : Nat → Bool) (i : Nat) (records : List α) :
    ntSuccess (Table.syncLoop kind alloc i records t).1 = (finmapLoop kind alloc i records m).1 ∧
      Stores kind (Table.syncLoop kind alloc i records t).2
        (finmapLoop kind alloc i records m).2 := by
  induction records generalizing i t m with
  | nil => exact ⟨rfl, h⟩
  | cons record rest ih =>
    obtain ⟨hs, hstores⟩ := h.set record (alloc i)
    rw [Table.syncLoop, finmapLoop]
    simp only [hs]
    cases hb : (finmapSet kind record (alloc i) m).1 with
    | true => exact ih hstores (i + 1)
    | false => exact ⟨hs, hstores⟩

theorem Stores.sync (h : Stores kind t m) (records : Option (List α)) (alloc : Nat → Bool) :
    (storeStep kind t (.sync records alloc)).1 = (finmapStep kind m (.sync records alloc)).1 ∧
      Stores kind (storeStep kind t (.sync records alloc)).2
        (finmapStep kind m (.sync records alloc)).2 := by
  cases records with
  | none => exact ⟨rfl, h⟩
  | some records =>
    rw [finmapStep, storeStep]
    by_cases hl : kind.maxSync < records.length
    · rw [if_pos hl, sync_too_long kind hl]
      exact ⟨rfl, h⟩
    · rw [if_neg hl, sync_taken kind (Nat.not_lt.mp hl)]
      exact (stores_fresh kind).syncLoop alloc 0 records

/-- **A table simulates a finite map**, whatever its capacity and its longest Sync. -/
theorem store_simulates_finmap : Machine.Simulates (store kind) (finmap kind) (Stores kind) := by
  intro t m call h
  cases call with
  | set record alloc =>
    cases record with
    | none => exact ⟨rfl, h⟩
    | some record => exact h.set record alloc
  | remove appId => exact h.remove appId
  | sync records alloc => exact h.sync records alloc

/-! ## Frames -/

variable (kind)

theorem find?_set_of_ne {record : Option α} {appId : AppId}
    (h : ∀ r ∈ record, kind.appId r ≠ appId) (alloc : Bool) (t : Table α) :
    (Table.set kind record alloc t).2.list.find? (fun item => kind.appId item = appId) =
      t.list.find? (fun item => kind.appId item = appId) := by
  cases record with
  | none => rfl
  | some record =>
    by_cases hacc : Accepts kind record alloc t
    · rw [set_accepted kind hacc]
      exact (find?_upsert_key kind.appId record appId t.list).trans (if_neg (h record rfl))
    · rw [(set_refused kind hacc).2]

theorem find?_remove_of_ne (hval : Valid kind t) {appId other : AppId} (h : appId ≠ other) :
    (Table.remove kind appId t).2.list.find? (fun item => kind.appId item = other) =
      t.list.find? (fun item => kind.appId item = other) := by
  by_cases hm : appId ∈ t.list.map kind.appId
  · rw [remove_mem kind hm]
    exact (find?_remove_key kind.appId hval.nodup appId other).trans (if_neg h)
  · rw [remove_not_mem kind hm]

theorem remove_status_iff {appId : AppId} :
    (Table.remove kind appId t).1 = statusNotFound ↔ appId ∉ t.list.map kind.appId := by
  by_cases hm : appId ∈ t.list.map kind.appId
  · simp only [remove_mem kind hm, hm, not_true_eq_false, iff_false]
    decide
  · simp only [remove_not_mem kind hm, hm, not_false_eq_true]

end Table

/-! ## The route table -/

def routeStep (t : RouteTable) : Table.StoreCall RouteAssignmentV1 → Bool × RouteTable
  | .set route alloc =>
    let (status, t) := routeSet route alloc t
    (ntSuccess status, t)
  | .remove appId =>
    let (status, t) := routeClear appId t
    (ntSuccess status, t)
  | .sync routes alloc =>
    let (status, t) := routeSync routes alloc t
    (ntSuccess status, t)

def routeStore : Machine RouteTable (Table.StoreCall RouteAssignmentV1) Bool := ⟨routeStep⟩

abbrev routeMap : Machine (Table.RecordMap RouteAssignmentV1) (Table.StoreCall RouteAssignmentV1)
    Bool :=
  Table.finmap routeKind

theorem routeStore_simulates : Machine.Simulates routeStore routeMap (Table.Stores routeKind) := by
  intro t m call h
  have hcall := Table.store_simulates_finmap t m call h
  cases call with
  | set route alloc | remove appId | sync routes alloc => exact hcall

/-- **The route store refines a finite map** over every sequence of calls: equal answers, distinct
ids, an exact counter within the capacity, every Lookup answered from the map, a Clear that reports
NOT_FOUND exactly for absent ids, and no effect of a call on the Lookup of another id. -/
theorem routeStore_refines (t₀ : RouteTable) (calls : List (Table.StoreCall RouteAssignmentV1)) :
    let t := routeStore.final (routeInitialize t₀) calls
    let m := routeMap.final ∅ calls
    routeStore.trace (routeInitialize t₀) calls = routeMap.trace ∅ calls ∧
    (t.list.map RouteAssignmentV1.appId).Nodup ∧
    (routeActiveCount t).toNat = t.list.length ∧ t.list.length ≤ 4096 ∧
    (∀ appId, routeLookup appId t = (statusSuccess, m.lookup appId)) ∧
    (∀ appId, (routeClear appId t).1 = statusNotFound ↔ appId ∉ m) ∧
    (∀ route alloc appId, (∀ r ∈ route, r.appId ≠ appId) →
      routeLookup appId (routeSet route alloc t).2 = routeLookup appId t) ∧
    (∀ cleared appId, cleared ≠ appId →
      routeLookup appId (routeClear cleared t).2 = routeLookup appId t) := by
  intro t m
  obtain ⟨htrace, hstores⟩ := routeStore_simulates.run (Table.stores_fresh routeKind) calls
  have hval : Table.Valid routeKind t := hstores.valid
  refine ⟨htrace, hval.nodup, hval.count_eq, hval.bounded, ?_, ?_, ?_, ?_⟩
  · intro appId
    rw [routeLookup_eq]
    exact congrArg _ (hstores.represents appId)
  · intro appId
    rw [hstores.represents.mem_iff]
    exact Table.remove_status_iff routeKind
  · intro route alloc appId h
    rw [routeLookup_eq, routeLookup_eq]
    exact congrArg _ (Table.find?_set_of_ne routeKind h alloc t)
  · intro cleared appId h
    rw [routeLookup_eq, routeLookup_eq]
    exact congrArg _ (Table.find?_remove_of_ne routeKind hval h)

end Guardian
