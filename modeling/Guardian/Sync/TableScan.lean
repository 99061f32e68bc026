import Guardian.Lib.Locked
import Guardian.Sync.Lock

/-!
# The scans of a table under its lock

Set, Remove, Lookup and Shutdown walk the list entry by entry while they hold the lock. Only a Sync,
which re-runs the initialiser, does more than work under the lock.

* `EntryCall`, `tableObject`, `tableServe` : the calls, entry by entry and at once;
* `table_atomic` : a section that nobody disturbs is the table operation;
* `table_linearizable` : the calls take effect one at a time, the table is in order whenever the lock is
  free, and no call is ever stuck.
-/

namespace Guardian
open Table Interleave LockedObject

/-- A call on a table; `none` is a `NULL` pointer, and `stops` tells at which entry the scan of a Lookup
ends. -/
inductive EntryCall (α : Type) where
  | set (record : Option α) (alloc : Bool)
  | remove (appId : AppId)
  | lookup (stops : Option (α → Bool))
  | shutdown

/-- The status of a call and the entry it has found. -/
abbrev EntryAnswer (α : Type) := NTSTATUS × Option α

/-- The next step of a section; `findSet`, `findRemove` and `find` are at the `k`-th entry. -/
inductive EntryAccess (α : Type) where
  | findSet (record : α) (k : Nat)
  | overwrite (record : α) (k : Nat)
  | checkCount (record : α)
  | insertTail (record : α)
  | incrementCount
  | findRemove (appId : AppId) (k : Nat)
  | unlink (k : Nat)
  | decrementCount
  | find (stops : α → Bool) (k : Nat)
  | copy (item : α)
  | removeHead
  | zeroCount

variable {α : Type} (kind : RecordKind α)

/-- Up to the lock. -/
def tableEnter : EntryCall α → Within (EntryAnswer α) (EntryAccess α)
  | .set none _ => .done (statusInvalidParameter, none)
  | .set (some record) alloc =>
    if kind.version record ≠ kind.supportedVersion then .done (statusInvalidParameter, none)
    else if !alloc then .done (statusInsufficientResources, none)
    else .more (.findSet record 0)
  | .remove appId => .more (.findRemove appId 0)
  | .lookup none => .done (statusInvalidParameter, none)
  | .lookup (some stops) => .more (.find stops 0)
  | .shutdown => .more .removeHead

def tableBody (t : Table α) : EntryAccess α → Table α × Within (EntryAnswer α) (EntryAccess α)
  | .findSet record k =>
    match t.list[k]? with
    | none => (t, .more (.checkCount record))
    | some item =>
      (t, .more (if kind.appId item = kind.appId record then .overwrite record k
        else .findSet record (k + 1)))
  | .overwrite record k => ({ t with list := t.list.set k record }, .done (statusSuccess, none))
  | .checkCount record =>
    if t.count ≥ kind.maxEntries then (t, .done (statusInsufficientResources, none))
    else (t, .more (.insertTail record))
  | .insertTail record => ({ t with list := t.list ++ [record] }, .more .incrementCount)
  | .incrementCount => ({ t with count := t.count + 1 }, .done (statusSuccess, none))
  | .findRemove appId k =>
    match t.list[k]? with
    | none => (t, .done (statusNotFound, none))
    | some item =>
      (t, .more (if kind.appId item = appId then .unlink k else .findRemove appId (k + 1)))
  | .unlink k => ({ t with list := t.list.eraseIdx k }, .more .decrementCount)
  | .decrementCount => ({ t with count := t.count - 1 }, .done (statusSuccess, none))
  | .find stops k =>
    match t.list[k]? with
    | none => (t, .done (statusSuccess, none))
    | some item => (t, .more (if stops item then .copy item else .find stops (k + 1)))
  | .copy item => (t, .done (statusSuccess, some item))
  | .removeHead =>
    match t.list with
    | [] => (t, .more .zeroCount)
    | _ :: rest => ({ t with list := rest }, .more .removeHead)
  | .zeroCount => ({ t with count := 0 }, .done (statusSuccess, none))

def tableObject : LockedObject (EntryCall α) (Table α) (EntryAccess α) (EntryAnswer α) where
  enter := tableEnter kind
  body := fun _ p => tableBody kind p.1 p.2

/-- A call that takes effect at once. -/
def tableServe (t : Table α) : EntryCall α → EntryAnswer α × Table α
  | .set record alloc => (((Table.set kind record alloc t).1, none), (Table.set kind record alloc t).2)
  | .remove appId => (((Table.remove kind appId t).1, none), (Table.remove kind appId t).2)
  | .lookup none => ((statusInvalidParameter, none), t)
  | .lookup (some stops) => ((statusSuccess, t.list.find? stops), t)
  | .shutdown => ((statusSuccess, none), Table.shutdown t)

/-! ## Undisturbed sections -/

variable {kind}

theorem tableObject_enter (k : EntryCall α) : (tableObject kind).enter k = tableEnter kind k := rfl

theorem tableObject_alone (k : EntryCall α) (t : Table α) (m : EntryAccess α) :
    (tableObject kind).alone k (t, .more m) = tableBody kind t m := rfl

theorem reaches_setSection (call : EntryCall α) {record : α}
    (hv : kind.version record = kind.supportedVersion) (t : Table α) :
    Reaches ((tableObject kind).alone call) (t, .more (.findSet record 0))
      ((Table.set kind (some record) true t).2,
        .done ((Table.set kind (some record) true t).1, none)) := by
  have hmiss : ∀ k, t.list[k]? = none →
      (tableObject kind).alone call (t, .more (.findSet record k)) = (t, .more (.checkCount record)) := by
    intro k hk
    simp only [tableObject_alone, tableBody, hk]
  have hhit : ∀ k item, t.list[k]? = some item →
      (tableObject kind).alone call (t, .more (.findSet record k)) =
        (t, if decide (kind.appId item = kind.appId record) then .more (.overwrite record k)
          else .more (.findSet record (k + 1))) := by
    intro k item hk
    simp only [tableObject_alone, tableBody, hk, decide_eq_true_eq]
    split <;> rfl
  have hset := set_eq_setLocked hv t
  rcases Reaches.first t.list (fun item => decide (kind.appId item = kind.appId record))
      (fun k => Within.more (EntryAccess.findSet record k))
      (fun k _ => .more (EntryAccess.overwrite record k)) hmiss hhit with
    ⟨k, item, hidx, -, hreach⟩ | ⟨hidx, -, hreach⟩
  · rw [hset, setLocked, findLocked, hidx]
    exact hreach.trans (Reaches.step (Reaches.refl _))
  · rw [hset, setLocked, findLocked, hidx]
    apply hreach.trans
    apply Reaches.step
    rw [tableObject_alone, tableBody]
    by_cases hc : t.count ≥ kind.maxEntries
    · simp only [if_pos hc]
      exact Reaches.refl _
    · simp only [if_neg hc]
      exact ⟨2, rfl⟩

theorem reaches_removeSection (call : EntryCall α) (appId : AppId) (t : Table α) :
    Reaches ((tableObject kind).alone call) (t, .more (.findRemove appId 0))
      ((Table.remove kind appId t).2, .done ((Table.remove kind appId t).1, none)) := by
  have hmiss : ∀ k, t.list[k]? = none →
      (tableObject kind).alone call (t, .more (.findRemove appId k)) =
        (t, .done (statusNotFound, none)) := by
    intro k hk
    simp only [tableObject_alone, tableBody, hk]
  have hhit : ∀ k item, t.list[k]? = some item →
      (tableObject kind).alone call (t, .more (.findRemove appId k)) =
        (t, if decide (kind.appId item = appId) then .more (.unlink k)
          else .more (.findRemove appId (k + 1))) := by
    intro k item hk
    simp only [tableObject_alone, tableBody, hk, decide_eq_true_eq]
    split <;> rfl
  unfold Table.remove findLocked
  rcases Reaches.first t.list (fun item => decide (kind.appId item = appId))
      (fun k => Within.more (EntryAccess.findRemove appId k))
      (fun k _ => .more (EntryAccess.unlink k)) hmiss hhit with
    ⟨k, item, hidx, -, hreach⟩ | ⟨hidx, -, hreach⟩
  · rw [hidx]
    exact hreach.trans ⟨2, rfl⟩
  · rw [hidx]
    exact hreach

theorem reaches_lookupSection (call : EntryCall α) (stops : α → Bool) (t : Table α) :
    Reaches ((tableObject kind).alone call) (t, .more (.find stops 0))
      (t, .done (statusSuccess, t.list.find? stops)) := by
  have hmiss : ∀ k, t.list[k]? = none →
      (tableObject kind).alone call (t, .more (.find stops k)) = (t, .done (statusSuccess, none)) := by
    intro k hk
    simp only [tableObject_alone, tableBody, hk]
  have hhit : ∀ k item, t.list[k]? = some item →
      (tableObject kind).alone call (t, .more (.find stops k)) =
        (t, if stops item then .more (.copy item) else .more (.find stops (k + 1))) := by
    intro k item hk
    simp only [tableObject_alone, tableBody, hk]
    split <;> rfl
  rcases Reaches.first t.list stops (fun k => Within.more (EntryAccess.find stops k))
      (fun _ item => .more (EntryAccess.copy item)) hmiss hhit with
    ⟨k, item, -, hfind, hreach⟩ | ⟨-, hfind, hreach⟩
  · rw [hfind]
    exact hreach.trans (Reaches.step (Reaches.refl _))
  · rw [hfind]
    exact hreach

theorem reaches_shutdownSection (call : EntryCall α) (t : Table α) :
    Reaches ((tableObject kind).alone call) (t, .more .removeHead)
      (Table.shutdown t, .done (statusSuccess, none)) := by
  obtain ⟨list, count⟩ := t
  induction list with
  | nil => exact ⟨2, rfl⟩
  | cons _ rest ih => exact Reaches.step ih

theorem table_atomic : (tableObject kind).Atomic (tableServe kind) where
  rejected := by
    intro k r t h
    rw [tableObject_enter] at h
    cases k with
    | set record alloc =>
      cases record with
      | none =>
        cases h
        rfl
      | some record =>
        simp only [tableEnter] at h
        by_cases hv : kind.version record = kind.supportedVersion
        · rw [if_neg (not_not.mpr hv)] at h
          cases alloc with
          | true => cases h
          | false =>
            cases h
            rw [tableServe, Table.set, if_neg (not_not.mpr hv)]
            rfl
        · rw [if_pos hv] at h
          cases h
          rw [tableServe, set_unsupported kind hv]
    | lookup stops =>
      cases stops with
      | none =>
        cases h
        rfl
      | some stops => cases h
    | remove appId | shutdown => cases h
  section_ := by
    intro k m t h
    rw [tableObject_enter] at h
    cases k with
    | set record alloc =>
      cases record with
      | none => cases h
      | some record =>
        simp only [tableEnter] at h
        by_cases hv : kind.version record = kind.supportedVersion
        · rw [if_neg (not_not.mpr hv)] at h
          cases alloc with
          | true =>
            cases h
            exact reaches_setSection _ hv t
          | false => cases h
        · rw [if_pos hv] at h
          cases h
    | remove appId =>
      cases h
      exact reaches_removeSection _ appId t
    | lookup stops =>
      cases stops with
      | none => cases h
      | some stops =>
        cases h
        exact reaches_lookupSection _ stops t
    | shutdown =>
      cases h
      exact reaches_shutdownSection _ t

/-! ## All schedules -/

theorem valid_tableServe {t : Table α} (h : Valid kind t) (call : EntryCall α) :
    Valid kind (tableServe kind t call).2 := by
  cases call with
  | set record alloc => exact valid_set kind h record alloc
  | remove appId => exact valid_remove kind h appId
  | lookup stops => cases stops <;> exact h
  | shutdown =>
    show Valid kind (Table.shutdown t)
    rw [shutdown_eq]
    exact valid_fresh kind

/-- **A table without Syncs takes its calls one at a time**, entry by entry on any processors: they are
linearizable; whenever the lock is free, its ids are distinct and its counter is the number of its
entries; and no call is ever stuck. -/
theorem table_linearizable {ι : Type} [DecidableEq ι] (call : ι → EntryCall α) {t₀ : Table α}
    (h : Valid kind t₀) :
    Linearizable ((tableObject kind).step call) (fun _ _ => True) (fun _ pc => pc = .start)
        (fun _ => LockPc.result) (serial (tableServe kind) call)
        (fun c t => c.1.lock = none → c.1.state = t) (start t₀) t₀ ∧
      (∀ schedule, let c := run ((tableObject kind).step call) (start t₀) schedule
        c.1.lock = none → Valid kind c.1.state) ∧
      ∀ schedule i, ∃ later r,
        (run ((tableObject kind).step call) (start t₀) (schedule ++ later)).2 i = .returned r := by
  refine ⟨table_atomic.linearizable call t₀, ?_, table_atomic.returns call t₀⟩
  intro schedule c hfree
  obtain ⟨order, hlin⟩ := (table_atomic : (tableObject kind).Atomic _).linearizable call t₀
  rw [hlin.state schedule (along_true _ _ _) hfree]
  exact (serial (tableServe kind) call).final_inv (Valid kind)
    (fun t i ht => valid_tableServe ht (call i)) h (order schedule)

/-- A Set, a Remove and any number of Lookups of the first entry. -/
def policyThreads : Nat → EntryCall AppPolicyV1
  | 0 => .set (some AppPolicyV1.blank) true
  | 1 => .remove AppPolicyV1.blank.appId
  | _ => .lookup (some fun _ => true)

/-- They are linearizable on the policy table that the initialiser leaves. -/
theorem policyThreads_linearizable :
    Linearizable ((tableObject appPolicyKind).step policyThreads) (fun _ _ => True)
      (fun _ pc => pc = .start) (fun _ => LockPc.result)
      (serial (tableServe appPolicyKind) policyThreads)
      (fun c t => c.1.lock = none → c.1.state = t) (start fresh) fresh :=
  (table_linearizable policyThreads (valid_fresh appPolicyKind)).1

end Guardian
