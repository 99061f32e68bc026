import Guardian.Lib.OrderedMap
import Guardian.Lib.Runs
import Guardian.Shared

/-!
# The entry tables of the driver

`app_policy.c` and `route_assignment.c` keep their entries in the same way: a linked list with a
separate counter, searched by application id. `RecordKind` holds what they differ in, `Table` the
list head and the counter, and the operations are those of both files.

* `Table.findLocked`, `Table.set`, `Table.remove`, `Table.sync`, `Table.reinit`,
  `Table.shutdown` : the operations;
* `Table.Valid` : distinct ids, exact and bounded counter, supported versions;
* `Table.set_accepted`, `Table.set_refused` : all that a Set can do; `Table.remove_mem`,
  `Table.remove_not_mem` the same for a Remove;
* `Table.syncLoop_spec` : where the insertion loop of a Sync stops and what it leaves;
* `Table.sync_spec` : a Sync leaves the initial part of its array that can be inserted.
-/

namespace Guardian

/-- What the policy table and the route table differ in. -/
structure RecordKind (α : Type) where
  version : α → UInt32
  appId : α → AppId
  supportedVersion : UInt32
  /-- Capacity of the table. -/
  maxEntries : UInt32
  /-- Longest array a Sync takes. -/
  maxSync : Nat

/-- A list head with its entries in link order, and the entry counter. -/
structure Table (α : Type) where
  list : List α
  count : UInt32
  deriving DecidableEq

namespace Table

variable {α : Type} (kind : RecordKind α)

/-! ## Operations -/

/-- An empty list head and a zero counter. -/
def fresh : Table α := ⟨[], 0⟩

/-- `InitializeListHead` and a zero counter, whatever the head linked before. -/
def reinit (_t : Table α) : Table α := fresh

/-- `while (!IsListEmpty) RemoveHeadList` -/
def drain : List α → List α
  | [] => []
  | _ :: rest => drain rest

def shutdown (t : Table α) : Table α := ⟨drain t.list, 0⟩

/-- The position of the first entry with this id; `none` is the `NULL` entry. -/
def findLocked (appId : AppId) (t : Table α) : Option Nat :=
  t.list.findIdx? (fun item => kind.appId item = appId)

/-- `record = none` is a `NULL` argument; `alloc` tells whether the pool allocation succeeds. -/
def set (record : Option α) (alloc : Bool) (t : Table α) : NTSTATUS × Table α :=
  match record with
  | none => (statusInvalidParameter, t)
  | some record =>
    if kind.version record ≠ kind.supportedVersion then (statusInvalidParameter, t)
    else if !alloc then (statusInsufficientResources, t)
    else
      match findLocked kind (kind.appId record) t with
      | some existing => (statusSuccess, { t with list := t.list.set existing record })
      | none =>
        if t.count ≥ kind.maxEntries then (statusInsufficientResources, t)
        else (statusSuccess, ⟨t.list ++ [record], t.count + 1⟩)

def remove (appId : AppId) (t : Table α) : NTSTATUS × Table α :=
  match findLocked kind appId t with
  | none => (statusNotFound, t)
  | some existing => (statusSuccess, ⟨t.list.eraseIdx existing, t.count - 1⟩)

/-- The insertion loop of a Sync, from index `i` on; the first failing Set ends it. -/
def syncLoop (alloc : Nat → Bool) : Nat → List α → Table α → NTSTATUS × Table α
  | _, [], t => (statusSuccess, t)
  | i, record :: rest, t =>
    let r := set kind (some record) (alloc i) t
    if ntSuccess r.1 then syncLoop alloc (i + 1) rest r.2 else r

/-- `records = none` is a `NULL` array; otherwise the array has `count` records. -/
def sync (records : Option (List α)) (alloc : Nat → Bool) (t : Table α) : NTSTATUS × Table α :=
  match records with
  | none => (statusInvalidParameter, t)
  | some records =>
    if records.length > kind.maxSync then (statusInvalidParameter, t)
    else
      let t := shutdown t
      let t := reinit t
      syncLoop kind alloc 0 records t

/-! ## Invariant -/

/-- What every operation keeps: distinct ids, a counter that is the number of entries and within
the capacity, and supported versions only. -/
structure Valid (t : Table α) : Prop where
  nodup : (t.list.map kind.appId).Nodup
  count_eq : t.count.toNat = t.list.length
  bounded : t.list.length ≤ kind.maxEntries.toNat
  version_eq : ∀ record ∈ t.list, kind.version record = kind.supportedVersion

theorem drain_eq (l : List α) : drain l = [] := by
  induction l with
  | nil => rfl
  | cons _ _ ih => exact ih

theorem shutdown_eq (t : Table α) : shutdown t = fresh := by
  rw [shutdown, drain_eq, fresh]

theorem valid_fresh : Valid kind (fresh : Table α) :=
  ⟨List.nodup_nil, rfl, Nat.zero_le _, fun _ h => absurd h List.not_mem_nil⟩

/-! ## Set -/

/-- The arguments and the table let a Set succeed. -/
def Accepts (record : α) (alloc : Bool) (t : Table α) : Prop :=
  kind.version record = kind.supportedVersion ∧ alloc = true ∧
    (kind.appId record ∈ t.list.map kind.appId ∨ t.count < kind.maxEntries)

instance (record : α) (alloc : Bool) (t : Table α) : Decidable (Accepts kind record alloc t) :=
  inferInstanceAs (Decidable (_ ∧ _ ∧ _))

/-- An accepted Set overwrites the entry with the same id in place, or appends. -/
theorem set_accepted {record : α} {alloc : Bool} {t : Table α} (h : Accepts kind record alloc t) :
    set kind (some record) alloc t = (statusSuccess,
      ⟨KeyedList.upsert kind.appId record t.list,
        if kind.appId record ∈ t.list.map kind.appId then t.count else t.count + 1⟩) := by
  obtain ⟨hv, ha, hc⟩ := h
  simp only [set, hv, ha, ne_eq, not_true_eq_false, if_false, Bool.not_true, Bool.false_eq_true]
  cases hf : findLocked kind (kind.appId record) t with
  | some i =>
    have hmem := KeyedList.mem_of_findIdx? kind.appId hf
    simp only [if_pos hmem, KeyedList.set_findIdx? kind.appId hf]
  | none =>
    have hmem := KeyedList.not_mem_of_findIdx? kind.appId hf
    have hlt : t.count < kind.maxEntries := hc.resolve_left hmem
    simp only [if_neg hmem, ge_iff_le, UInt32.not_le.mpr hlt, if_false,
      KeyedList.append_of_findIdx? kind.appId hf]

theorem set_refused {record : α} {alloc : Bool} {t : Table α} (h : ¬ Accepts kind record alloc t) :
    ntSuccess (set kind (some record) alloc t).1 = false ∧
      (set kind (some record) alloc t).2 = t := by
  unfold set
  by_cases hv : kind.version record = kind.supportedVersion
  · cases ha : alloc with
    | false => simp [hv]
    | true =>
      have hn : ¬ (kind.appId record ∈ t.list.map kind.appId ∨ t.count < kind.maxEntries) := by
        intro hc
        exact h ⟨hv, ha, hc⟩
      rw [not_or] at hn
      cases hf : findLocked kind (kind.appId record) t with
      | some i => exact absurd (KeyedList.mem_of_findIdx? kind.appId hf) hn.1
      | none => simp [hv, hf, UInt32.not_lt.mp hn.2]
  · simp [hv]

theorem set_unsupported {record : α} (h : kind.version record ≠ kind.supportedVersion) (alloc : Bool)
    (t : Table α) : set kind (some record) alloc t = (statusInvalidParameter, t) := by
  rw [set, if_pos h]

theorem ntSuccess_set_iff {record : α} {alloc : Bool} {t : Table α} :
    ntSuccess (set kind (some record) alloc t).1 = true ↔ Accepts kind record alloc t := by
  constructor
  · intro h
    by_contra hn
    rw [(set_refused kind hn).1] at h
    cases h
  · intro h
    rw [set_accepted kind h]
    rfl

theorem set_failed {record : Option α} {alloc : Bool} {t : Table α}
    (h : ntSuccess (set kind record alloc t).1 = false) : (set kind record alloc t).2 = t := by
  cases record with
  | none => rfl
  | some record =>
    have hno : ¬ Accepts kind record alloc t := by
      intro hacc
      rw [(ntSuccess_set_iff kind).mpr hacc] at h
      cases h
    exact (set_refused kind hno).2

theorem valid_set {t : Table α} (h : Valid kind t) (record : Option α) (alloc : Bool) :
    Valid kind (set kind record alloc t).2 := by
  cases record with
  | none => exact h
  | some record =>
    by_cases hacc : Accepts kind record alloc t
    · rw [set_accepted kind hacc]
      refine ⟨KeyedList.nodup_upsert _ h.nodup, ?_, ?_,
        KeyedList.forall_upsert _ hacc.1 h.version_eq⟩
      · by_cases hm : kind.appId record ∈ t.list.map kind.appId
        · simp only [if_pos hm, KeyedList.length_upsert_of_mem _ hm, h.count_eq]
        · have hlt : t.count.toNat < kind.maxEntries.toNat := hacc.2.2.resolve_left hm
          have hmax := kind.maxEntries.toNat_lt
          simp only [if_neg hm, KeyedList.length_upsert_of_not_mem _ hm, UInt32.toNat_add,
            UInt32.toNat_one, h.count_eq]
          rw [h.count_eq] at hlt
          omega
      · by_cases hm : kind.appId record ∈ t.list.map kind.appId
        · simpa only [KeyedList.length_upsert_of_mem _ hm] using h.bounded
        · have hlt : t.count.toNat < kind.maxEntries.toNat := hacc.2.2.resolve_left hm
          simp only [KeyedList.length_upsert_of_not_mem _ hm]
          rw [h.count_eq] at hlt
          omega
    · rwa [(set_refused kind hacc).2]

/-! ## Remove -/

theorem remove_mem {appId : AppId} {t : Table α} (h : appId ∈ t.list.map kind.appId) :
    remove kind appId t =
      (statusSuccess, ⟨KeyedList.remove kind.appId appId t.list, t.count - 1⟩) := by
  unfold remove
  cases hf : findLocked kind appId t with
  | none => exact absurd h (KeyedList.not_mem_of_findIdx? kind.appId hf)
  | some i => simp only [KeyedList.eraseIdx_findIdx? kind.appId hf]

theorem remove_not_mem {appId : AppId} {t : Table α} (h : appId ∉ t.list.map kind.appId) :
    remove kind appId t = (statusNotFound, t) := by
  unfold remove
  cases hf : findLocked kind appId t with
  | none => rfl
  | some i => exact absurd (KeyedList.mem_of_findIdx? kind.appId hf) h

theorem remove_failed {appId : AppId} {t : Table α}
    (h : ntSuccess (remove kind appId t).1 = false) : (remove kind appId t).2 = t := by
  by_cases hm : appId ∈ t.list.map kind.appId
  · rw [remove_mem kind hm] at h
    cases h
  · rw [remove_not_mem kind hm]

theorem valid_remove {t : Table α} (h : Valid kind t) (appId : AppId) :
    Valid kind (remove kind appId t).2 := by
  by_cases hm : appId ∈ t.list.map kind.appId
  · have hlen := KeyedList.length_remove_of_mem kind.appId hm
    have hpos : 0 < t.list.length := by
      rw [← List.length_map (f := kind.appId)]
      exact List.length_pos_of_mem hm
    have hb := h.bounded
    have hone : (1 : UInt32) ≤ t.count := by
      rw [UInt32.le_iff_toNat_le, UInt32.toNat_one, h.count_eq]
      exact hpos
    rw [remove_mem kind hm]
    refine ⟨KeyedList.nodup_remove _ h.nodup, ?_, ?_, KeyedList.forall_remove _ h.version_eq⟩
    · rw [hlen, UInt32.toNat_sub_of_le _ _ hone, h.count_eq, UInt32.toNat_one]
    · rw [hlen]
      omega
  · rwa [remove_not_mem kind hm]

/-! ## Sync -/

theorem valid_syncLoop {t : Table α} (h : Valid kind t) (alloc : Nat → Bool) (i : Nat)
    (records : List α) : Valid kind (syncLoop kind alloc i records t).2 := by
  induction records generalizing i t with
  | nil => exact h
  | cons record rest ih =>
    have hset := valid_set kind h (some record) (alloc i)
    rw [syncLoop]
    split
    · exact ih hset (i + 1)
    · exact hset

theorem sync_too_long {records : List α} (h : kind.maxSync < records.length) (alloc : Nat → Bool)
    (t : Table α) : sync kind (some records) alloc t = (statusInvalidParameter, t) := by
  rw [sync, if_pos h]

theorem sync_taken {records : List α} (h : records.length ≤ kind.maxSync) (alloc : Nat → Bool)
    (t : Table α) :
    sync kind (some records) alloc t = syncLoop kind alloc 0 records fresh := by
  rw [sync, if_neg (Nat.not_lt.mpr h)]
  rfl

theorem valid_sync {t : Table α} (h : Valid kind t) (records : Option (List α))
    (alloc : Nat → Bool) : Valid kind (sync kind records alloc t).2 := by
  cases records with
  | none => exact h
  | some records =>
    by_cases hl : kind.maxSync < records.length
    · rwa [sync_too_long kind hl]
    · rw [sync_taken kind (by omega)]
      exact valid_syncLoop kind (valid_fresh kind) alloc 0 records

/-- The elements the loop inserts before the first one that has an unsupported version or finds
no memory. -/
def installable (alloc : Nat → Bool) : Nat → List α → List α
  | _, [] => []
  | i, record :: rest =>
    if kind.version record = kind.supportedVersion ∧ alloc i = true
    then record :: installable alloc (i + 1) rest
    else []

theorem installable_length_le (alloc : Nat → Bool) (i : Nat) (records : List α) :
    (installable kind alloc i records).length ≤ records.length := by
  induction records generalizing i with
  | nil => exact Nat.le_refl _
  | cons record rest ih =>
    rw [installable]
    split
    · exact Nat.succ_le_succ (ih (i + 1))
    · exact Nat.zero_le _

/-- The table the insertion of `vs` leaves, one after the other. -/
def insertAll (t : Table α) (vs : List α) : Table α :=
  vs.foldl (fun t v => ⟨KeyedList.upsert kind.appId v t.list,
    if kind.appId v ∈ t.list.map kind.appId then t.count else t.count + 1⟩) t

theorem insertAll_list (t : Table α) (vs : List α) :
    (insertAll kind t vs).list = KeyedList.upsertAll kind.appId t.list vs := by
  induction vs generalizing t with
  | nil => rfl
  | cons v vs ih => exact ih _

/-- With room for all of them, the loop inserts exactly the installable elements, and succeeds
iff these are all. -/
theorem syncLoop_spec (alloc : Nat → Bool) {records : List α} (i : Nat) {t : Table α}
    (h : Valid kind t) (hroom : t.list.length + records.length ≤ kind.maxEntries.toNat) :
    (syncLoop kind alloc i records t).2 = insertAll kind t (installable kind alloc i records) ∧
      (ntSuccess (syncLoop kind alloc i records t).1 = true ↔
        installable kind alloc i records = records) := by
  induction records generalizing i t with
  | nil => exact ⟨rfl, by simp [syncLoop, installable]⟩
  | cons record rest ih =>
    rw [List.length_cons] at hroom
    have hlt : t.count < kind.maxEntries := by
      rw [UInt32.lt_iff_toNat_lt, h.count_eq]
      omega
    rw [syncLoop, installable]
    by_cases hc : kind.version record = kind.supportedVersion ∧ alloc i = true
    · have hacc : Accepts kind record (alloc i) t := ⟨hc.1, hc.2, Or.inr hlt⟩
      have hlen := KeyedList.length_upsert_le kind.appId record t.list
      have hval := valid_set kind h (some record) (alloc i)
      rw [set_accepted kind hacc] at hval
      obtain ⟨h1, h2⟩ := ih (i + 1) hval (by simp only; omega)
      rw [set_accepted kind hacc, if_pos hc]
      simp only [ntSuccess_success, if_true]
      exact ⟨h1, by rw [h2, List.cons.injEq, eq_self, true_and]⟩
    · have hacc : ¬ Accepts kind record (alloc i) t := fun hacc => hc ⟨hacc.1, hacc.2.1⟩
      obtain ⟨hs, ht⟩ := set_refused kind hacc
      rw [if_neg hc]
      simp only [hs, Bool.false_eq_true, if_false, ht]
      exact ⟨rfl, by simp⟩

theorem insertAll_count (vs : List α) {t : Table α} (h : t.count.toNat = t.list.length)
    (hroom : t.list.length + vs.length < 2 ^ 32) :
    (insertAll kind t vs).count.toNat = (insertAll kind t vs).list.length := by
  induction vs generalizing t with
  | nil => exact h
  | cons v vs ih =>
    rw [List.length_cons] at hroom
    have hlen := KeyedList.length_upsert_le kind.appId v t.list
    refine ih ?_ (by simp only; omega)
    by_cases hm : kind.appId v ∈ t.list.map kind.appId
    · simp only [if_pos hm, KeyedList.length_upsert_of_mem _ hm, h]
    · simp only [if_neg hm, KeyedList.length_upsert_of_not_mem _ hm, UInt32.toNat_add,
        UInt32.toNat_one, h]
      omega

/-- The table that holds the records `vs` alone, in the order of their first insertion. -/
def installed (vs : List α) : Table α :=
  ⟨KeyedList.install kind.appId vs, UInt32.ofNat (KeyedList.install kind.appId vs).length⟩

theorem insertAll_fresh {vs : List α} (h : vs.length < 2 ^ 32) :
    insertAll kind fresh vs = installed kind vs := by
  have hl : (insertAll kind fresh vs).list = KeyedList.install kind.appId vs :=
    insertAll_list kind fresh vs
  have hc := insertAll_count kind vs (t := fresh) rfl (by simpa [fresh] using h)
  have hle := KeyedList.length_install_le kind.appId vs
  rw [hl] at hc
  have hcount : (insertAll kind fresh vs).count =
      UInt32.ofNat (KeyedList.install kind.appId vs).length := by
    refine UInt32.toNat_inj.mp ?_
    rw [hc, UInt32.toNat_ofNat_of_lt' (by rw [UInt32.size]; omega)]
  calc insertAll kind fresh vs
      = ⟨(insertAll kind fresh vs).list, (insertAll kind fresh vs).count⟩ := rfl
    _ = installed kind vs := by rw [hl, hcount, installed]

theorem installable_append (alloc : Nat → Bool) (i : Nat) (records : List α) :
    ∃ rest, installable kind alloc i records ++ rest = records := by
  induction records generalizing i with
  | nil => exact ⟨[], rfl⟩
  | cons record rest ih =>
    rw [installable]
    split
    · obtain ⟨tail, h⟩ := ih (i + 1)
      exact ⟨tail, by rw [List.cons_append, h]⟩
    · exact ⟨record :: rest, rfl⟩

theorem installable_eq_iff_length {alloc : Nat → Bool} {i : Nat} {records : List α} :
    installable kind alloc i records = records ↔
      (installable kind alloc i records).length = records.length := by
  constructor
  · exact congrArg List.length
  · intro h
    obtain ⟨rest, hr⟩ := installable_append kind alloc i records
    have hnil : rest = [] := by
      have hlen := congrArg List.length hr
      rw [List.length_append] at hlen
      exact List.eq_nil_of_length_eq_zero (by omega)
    rwa [hnil, List.append_nil] at hr

/-- The whole array is inserted iff every element has the supported version and finds memory. -/
theorem installable_eq_iff {alloc : Nat → Bool} {i : Nat} {records : List α} :
    installable kind alloc i records = records ↔
      ∀ j (h : j < records.length),
        kind.version records[j] = kind.supportedVersion ∧ alloc (i + j) = true := by
  induction records generalizing i with
  | nil =>
    constructor
    · intro _ j hj
      exact absurd hj (Nat.not_lt_zero j)
    · intro _
      rfl
  | cons record rest ih =>
    rw [installable]
    constructor
    · intro h
      split at h
      · next hc =>
        rw [List.cons.injEq, eq_self, true_and, ih] at h
        rintro (_ | j) hj
        · exact hc
        · have hj' := h j (by simpa using hj)
          rw [List.getElem_cons_succ, show i + (j + 1) = i + 1 + j by omega]
          exact hj'
      · cases h
    · intro h
      have hc : kind.version record = kind.supportedVersion ∧ alloc i = true := h 0 (by simp)
      rw [if_pos hc, List.cons.injEq, eq_self, true_and, ih]
      intro j hj
      have hj' := h (j + 1) (by simpa using hj)
      rw [List.getElem_cons_succ, show i + (j + 1) = i + 1 + j by omega] at hj'
      exact hj'

/-- **A Sync leaves the installable part of its array**, whatever the table held before, and
succeeds iff that is the whole array. -/
theorem sync_spec (hroom : kind.maxSync ≤ kind.maxEntries.toNat) {records : List α}
    (h : records.length ≤ kind.maxSync) (alloc : Nat → Bool) (t : Table α) :
    (sync kind (some records) alloc t).2 = installed kind (installable kind alloc 0 records) ∧
      (ntSuccess (sync kind (some records) alloc t).1 = true ↔
        installable kind alloc 0 records = records) := by
  have hmax := kind.maxEntries.toNat_lt
  have hle := installable_length_le kind alloc 0 records
  have hfresh : (fresh : Table α).list.length + records.length ≤ kind.maxEntries.toNat := by
    show 0 + records.length ≤ kind.maxEntries.toNat
    omega
  rw [sync_taken kind h, ← insertAll_fresh kind (by omega)]
  exact syncLoop_spec kind alloc 0 (valid_fresh kind) hfresh

end Table

end Guardian
