import Guardian.Lib.Runs
import Guardian.Store.Policy
import Guardian.Store.Route

/-!
# The lock of a table

Any number of Set, Remove, Sync and Lookup calls run at the same time over one table and its spin
lock. A Sync re-runs the initialiser of its module, which initialises the list head and the lock.

* `TableCall`, `Critical`, `CallPc`, `callStep` : the calls, their critical sections, the points of a
  call and its steps;
* `callStep_alone` : a call that runs alone computes the table operation;
* `MutualExclusion`, `HeadWriteHeld` : what the lock is for;
* `LockInv` : a thread is inside iff the lock is its own; `lockInv_step`;
* `LockServes`, `tableLocks_iff` : the schedules along which the lock does what it is for.
-/

namespace Guardian
open Table

/-- A call on a table with its arguments; `none` is a `NULL` pointer, and `stops` tells at which entry
the scan of a Lookup ends. -/
inductive TableCall (α : Type) where
  | set (record : Option α) (alloc : Bool)
  | remove (appId : AppId)
  | sync (records : Option (List α)) (alloc : Nat → Bool)
  | lookup (stops : Option (α → Bool))

/-- What a call does between the acquisition and the release of the lock; `insert i` is the Set of the
`i`-th element of a Sync. -/
inductive Critical (α : Type) where
  | set (record : α)
  | remove (appId : AppId)
  | drain
  | insert (i : Nat) (record : α)
  | lookup (stops : α → Bool)

/-- The next step of a call. -/
inductive CallPc (α : Type) where
  | start
  | acquire (s : Critical α)
  | body (s : Critical α)
  | release (s : Critical α) (status : NTSTATUS) (found : Option α)
  | reinitList
  | reinitLock
  | reinitCount
  /-- The head of the loop of a Sync. -/
  | insertNext (i : Nat)
  | returned (status : NTSTATUS) (found : Option α)

/-- A table with its lock: the thread that acquired it, or nobody. -/
structure LockedTable (ι α : Type) where
  lock : Option ι
  table : Table α

section

variable {ι α : Type} (kind : RecordKind α)

/-- The critical section of a Set. -/
def setLocked (record : α) (t : Table α) : NTSTATUS × Table α :=
  match findLocked kind (kind.appId record) t with
  | some existing => (statusSuccess, { t with list := t.list.set existing record })
  | none =>
    if t.count ≥ kind.maxEntries then (statusInsufficientResources, t)
    else (statusSuccess, ⟨t.list ++ [record], t.count + 1⟩)

/-- The status, the found entry and the table that a critical section leaves. -/
def Critical.run (t : Table α) : Critical α → NTSTATUS × Option α × Table α
  | .set record => ((setLocked kind record t).1, none, (setLocked kind record t).2)
  | .remove appId => ((Table.remove kind appId t).1, none, (Table.remove kind appId t).2)
  | .drain => (statusSuccess, none, shutdown t)
  | .insert _ record => ((setLocked kind record t).1, none, (setLocked kind record t).2)
  | .lookup stops => (statusSuccess, t.list.find? stops, t)

/-- Where a call continues after the release. -/
def Critical.next (status : NTSTATUS) (found : Option α) : Critical α → CallPc α
  | .drain => .reinitList
  | .insert i _ => if ntSuccess status then .insertNext (i + 1) else .returned status none
  | _ => .returned status found

/-- The checks of a Set before its critical section `s`. -/
def setChecks (record : α) (alloc : Bool) (s : Critical α) : CallPc α :=
  if kind.version record ≠ kind.supportedVersion then .returned statusInvalidParameter none
  else if !alloc then .returned statusInsufficientResources none
  else .acquire s

/-- A call up to its first critical section. -/
def callStart : TableCall α → CallPc α
  | .set none _ => .returned statusInvalidParameter none
  | .set (some record) alloc => setChecks kind record alloc (.set record)
  | .remove appId => .acquire (.remove appId)
  | .sync none _ => .returned statusInvalidParameter none
  | .sync (some records) _ =>
    if records.length > kind.maxSync then .returned statusInvalidParameter none else .acquire .drain
  | .lookup none => .returned statusInvalidParameter none
  | .lookup (some stops) => .acquire (.lookup stops)

/-- The head of the loop of a Sync; other calls have none. -/
def callLoop (i : Nat) : TableCall α → CallPc α
  | .sync (some records) alloc =>
    match records[i]? with
    | none => .returned statusSuccess none
    | some record => setChecks kind record (alloc i) (.insert i record)
  | _ => .insertNext i

/-- One step of a call of thread `i`; who finds the lock taken spins. -/
def callStep [DecidableEq ι] (i : ι) (call : TableCall α) :
    LockedTable ι α × CallPc α → LockedTable ι α × CallPc α
  | (s, .start) => (s, callStart kind call)
  | (s, .acquire c) => if s.lock = none then ({ s with lock := some i }, .body c) else (s, .acquire c)
  | (s, .body c) =>
    let r := c.run kind s.table
    ({ s with table := r.2.2 }, .release c r.1 r.2.1)
  | (s, .release c status found) => ({ s with lock := none }, c.next status found)
  | (s, .reinitList) => ({ s with table := { s.table with list := [] } }, .reinitLock)
  | (s, .reinitLock) => ({ s with lock := none }, .reinitCount)
  | (s, .reinitCount) => ({ s with table := { s.table with count := 0 } }, .insertNext 0)
  | (s, .insertNext k) => (s, callLoop kind k call)
  | (s, .returned status found) => (s, .returned status found)

/-! ## A call that runs alone -/

/-- What a call answers and leaves, as one table operation. -/
def TableCall.result (t : Table α) : TableCall α → NTSTATUS × Option α × Table α
  | .set record alloc => ((Table.set kind record alloc t).1, none, (Table.set kind record alloc t).2)
  | .remove appId => ((Table.remove kind appId t).1, none, (Table.remove kind appId t).2)
  | .sync records alloc =>
    ((Table.sync kind records alloc t).1, none, (Table.sync kind records alloc t).2)
  | .lookup none => (statusInvalidParameter, none, t)
  | .lookup (some stops) => (statusSuccess, t.list.find? stops, t)

variable {kind} [DecidableEq ι] {i : ι} {call : TableCall α}

theorem reaches_critical (c : Critical α) (t : Table α) :
    Reaches (callStep kind i call) (⟨none, t⟩, .acquire c)
      (⟨none, (c.run kind t).2.2⟩, c.next (c.run kind t).1 (c.run kind t).2.1) :=
  ⟨3, rfl⟩

theorem set_eq_setLocked {record : α} (h : kind.version record = kind.supportedVersion)
    (t : Table α) : Table.set kind (some record) true t = setLocked kind record t := by
  rw [Table.set, if_neg (not_not.mpr h)]
  rfl

theorem reaches_set {record : α} {alloc : Bool} {c : Critical α} (t : Table α)
    (hrun : c.run kind t = ((setLocked kind record t).1, none, (setLocked kind record t).2))
    (hnext : ∀ status, ntSuccess status = false → c.next status none = .returned status none) :
    Reaches (callStep kind i call) (⟨none, t⟩, setChecks kind record alloc c)
      (⟨none, (Table.set kind (some record) alloc t).2⟩,
        c.next (Table.set kind (some record) alloc t).1 none) := by
  unfold setChecks
  by_cases hv : kind.version record = kind.supportedVersion
  · rw [if_neg (not_not.mpr hv)]
    cases alloc with
    | true =>
      have hreach : Reaches (callStep kind i call) (⟨none, t⟩, .acquire c) _ := reaches_critical c t
      rw [hrun] at hreach
      rw [set_eq_setLocked hv]
      exact hreach
    | false =>
      have hset : Table.set kind (some record) false t = (statusInsufficientResources, t) := by
        rw [Table.set, if_neg (not_not.mpr hv)]
        rfl
      rw [hset, hnext _ rfl]
      exact Reaches.refl _
  · rw [if_pos hv, set_unsupported kind hv, hnext _ rfl]
    exact Reaches.refl _

/-- A thread that comes through one Set after the other from `head` to `head` runs the loop of a Sync.
`R` says which shared states stand for which tables. -/
theorem reaches_syncLoop {σ ℓ : Type} (f : σ × ℓ → σ × ℓ) (R : σ → Table α → Prop) (head : Nat → ℓ)
    (done : NTSTATUS → ℓ) {records : List α} {alloc : Nat → Bool}
    (hexit : ∀ k s, records[k]? = none → f (s, head k) = (s, done statusSuccess))
    (hset : ∀ k record s t, records[k]? = some record → R s t →
      ∃ s', R s' (Table.set kind (some record) (alloc k) t).2 ∧ Reaches f (s, head k)
        (s', if ntSuccess (Table.set kind (some record) (alloc k) t).1 then head (k + 1)
          else done (Table.set kind (some record) (alloc k) t).1))
    (k : Nat) {s : σ} {t : Table α} (h : R s t) :
    ∃ s', R s' (syncLoop kind alloc k (records.drop k) t).2 ∧
      Reaches f (s, head k) (s', done (syncLoop kind alloc k (records.drop k) t).1) := by
  induction hrest : records.drop k generalizing k s t with
  | nil =>
    have hnone : records[k]? = none := by rw [← List.head?_drop, hrest, List.head?_nil]
    refine ⟨s, h, Reaches.step ?_⟩
    rw [hexit k s hnone]
    exact Reaches.refl _
  | cons record rest ih =>
    have hsome : records[k]? = some record := by rw [← List.head?_drop, hrest, List.head?_cons]
    have hdrop : records.drop (k + 1) = rest := by rw [← List.tail_drop, hrest, List.tail_cons]
    obtain ⟨s₁, hR, hreach⟩ := hset k record s t hsome h
    rw [syncLoop]
    cases hs : ntSuccess (Table.set kind (some record) (alloc k) t).1 with
    | true =>
      rw [hs, if_pos rfl] at hreach
      rw [if_pos rfl]
      obtain ⟨s', hR', hloop⟩ := ih (k + 1) hR hdrop
      exact ⟨s', hR', hreach.trans hloop⟩
    | false =>
      rw [hs, if_neg Bool.false_ne_true] at hreach
      rw [if_neg Bool.false_ne_true]
      exact ⟨s₁, hR, hreach⟩

theorem reaches_callLoop (records : List α) (alloc : Nat → Bool) (t : Table α) :
    Reaches (callStep kind i (.sync (some records) alloc)) (⟨none, t⟩, .insertNext 0)
      (⟨none, (syncLoop kind alloc 0 records t).2⟩,
        .returned (syncLoop kind alloc 0 records t).1 none) := by
  have hexit : ∀ k (s : LockedTable ι α), records[k]? = none →
      callStep kind i (.sync (some records) alloc) (s, .insertNext k) =
        (s, .returned statusSuccess none) := by
    intro k s hnone
    simp only [callStep, callLoop, hnone]
  have hset : ∀ k record (s : LockedTable ι α) (t : Table α), records[k]? = some record →
      s = ⟨none, t⟩ →
      ∃ s', s' = ⟨none, (Table.set kind (some record) (alloc k) t).2⟩ ∧
        Reaches (callStep kind i (.sync (some records) alloc)) (s, .insertNext k)
          (s', (Critical.insert k record).next (Table.set kind (some record) (alloc k) t).1 none) := by
    rintro k record _ t hsome rfl
    refine ⟨_, rfl, Reaches.step ?_⟩
    simp only [callStep, callLoop, hsome]
    refine reaches_set t rfl ?_
    intro status hs
    simp [Critical.next, hs]
  obtain ⟨_, rfl, hloop⟩ := reaches_syncLoop (callStep kind i (.sync (some records) alloc))
    (fun s t => s = ⟨none, t⟩) .insertNext (fun status => .returned status none) hexit hset 0
    (rfl : (⟨none, t⟩ : LockedTable ι α) = _)
  exact hloop

/-- **The steps of a call that runs alone compute the table operation.** -/
theorem callStep_alone (i : ι) (call : TableCall α) (t : Table α) :
    Reaches (callStep kind i call) (⟨none, t⟩, .start)
      (⟨none, (call.result kind t).2.2⟩,
        .returned (call.result kind t).1 (call.result kind t).2.1) := by
  refine Reaches.step ?_
  cases call with
  | set record alloc =>
    cases record with
    | none => exact Reaches.refl _
    | some record => exact reaches_set t rfl fun _ _ => rfl
  | remove appId => exact reaches_critical (.remove appId) t
  | lookup stops =>
    cases stops with
    | none => exact Reaches.refl _
    | some stops => exact reaches_critical (.lookup stops) t
  | sync records alloc =>
    cases records with
    | none => exact Reaches.refl _
    | some records =>
      simp only [callStep, callStart, TableCall.result]
      by_cases hl : records.length > kind.maxSync
      · rw [if_pos hl, sync_too_long kind hl]
        exact Reaches.refl _
      · rw [if_neg hl, sync_taken kind (Nat.not_lt.mp hl)]
        have hdrain : Reaches (callStep kind i (.sync (some records) alloc)) (⟨none, t⟩, .acquire .drain)
            (⟨none, fresh⟩, .insertNext 0) := ⟨6, rfl⟩
        exact hdrain.trans (reaches_callLoop records alloc fresh)

end

/-! ## What the lock is for -/

section

variable {ι α : Type}

/-- The call is between its acquisition and its release of the lock. -/
def CallPc.inside : CallPc α → Bool
  | .body _ => true
  | .release _ _ _ => true
  | _ => false

/-- The section can write the list head. -/
def Critical.writesHead : Critical α → Bool
  | .lookup _ => false
  | _ => true

/-- The next step of the call can write the list head. -/
def CallPc.writesHead : CallPc α → Bool
  | .body c => c.writesHead
  | .reinitList => true
  | _ => false

/-- At most one call is inside its critical section. -/
def MutualExclusion (c : LockedTable ι α × (ι → CallPc α)) : Prop :=
  ∀ i j, (c.2 i).inside = true → (c.2 j).inside = true → i = j

/-- If the thread is about to write the list head, it holds the lock. -/
def HeadWriteHeld (c : LockedTable ι α × (ι → CallPc α)) (i : ι) : Prop :=
  (c.2 i).writesHead = true → c.1.lock = some i

/-- The step of the thread is not the re-initialisation of the list head. -/
def NoReinit (c : LockedTable ι α × (ι → CallPc α)) (i : ι) : Prop := c.2 i ≠ .reinitList

/-- All calls about to start, on a free lock. -/
def callsStart (t₀ : Table α) : LockedTable ι α × (ι → CallPc α) := (⟨none, t₀⟩, fun _ => .start)

/-- A thread is inside iff the lock is its own, and none is about to initialise the lock. -/
structure LockInv (c : LockedTable ι α × (ι → CallPc α)) : Prop where
  inside_iff : ∀ i, (c.2 i).inside = true ↔ c.1.lock = some i
  reinitLock : ∀ i, c.2 i ≠ .reinitLock

theorem lockInv_start (t₀ : Table α) : LockInv (callsStart t₀ : LockedTable ι α × (ι → CallPc α)) :=
  ⟨fun _ => ⟨nofun, nofun⟩, fun _ => nofun⟩

theorem LockInv.mutualExclusion {c : LockedTable ι α × (ι → CallPc α)} (h : LockInv c) :
    MutualExclusion c := by
  intro i j hi hj
  have hlock := (h.inside_iff i).mp hi
  rw [(h.inside_iff j).mp hj] at hlock
  exact (Option.some.inj hlock).symm

theorem LockInv.headWriteHeld_iff {c : LockedTable ι α × (ι → CallPc α)} (h : LockInv c) (i : ι) :
    HeadWriteHeld c i ↔ NoReinit c i := by
  unfold HeadWriteHeld NoReinit
  have hlock := h.inside_iff i
  constructor
  · intro hheld hpc
    -- whoever re-initialises the list is outside
    rw [hpc] at hlock hheld
    have hin := hlock.mpr (hheld rfl)
    cases hin
  · intro hno hw
    apply hlock.mp
    cases hpc : c.2 i with
    | body s => rfl
    | reinitList => exact absurd hpc hno
    | _ =>
      rw [hpc] at hw
      cases hw

/-- The points a call can go on to without the lock. -/
def CallPc.Outside (pc : CallPc α) : Prop := pc.inside = false ∧ pc ≠ .reinitLock

theorem setChecks_outside (kind : RecordKind α) (record : α) (alloc : Bool) (c : Critical α) :
    (setChecks kind record alloc c).Outside := by
  unfold setChecks
  split_ifs <;> exact ⟨rfl, by simp⟩

theorem callStart_outside (kind : RecordKind α) (call : TableCall α) :
    (callStart kind call).Outside := by
  unfold callStart
  split
  · exact ⟨rfl, by simp⟩
  · exact setChecks_outside kind _ _ _
  · exact ⟨rfl, by simp⟩
  · exact ⟨rfl, by simp⟩
  · split_ifs <;> exact ⟨rfl, by simp⟩
  · exact ⟨rfl, by simp⟩
  · exact ⟨rfl, by simp⟩

theorem callLoop_outside (kind : RecordKind α) (k : Nat) (call : TableCall α) :
    (callLoop kind k call).Outside := by
  unfold callLoop
  split
  · split
    · exact ⟨rfl, by simp⟩
    · exact setChecks_outside kind _ _ _
  · exact ⟨rfl, by simp⟩

theorem next_outside (c : Critical α) (status : NTSTATUS) (found : Option α) :
    (c.next status found).Outside := by
  unfold Critical.next
  split
  · exact ⟨rfl, by simp⟩
  · split_ifs <;> exact ⟨rfl, by simp⟩
  · exact ⟨rfl, by simp⟩

variable {kind : RecordKind α} [DecidableEq ι]

theorem LockInv.update {c : LockedTable ι α × (ι → CallPc α)} (h : LockInv c) {i : ι}
    {lock : Option ι} {pc : CallPc α} (hpc : pc ≠ .reinitLock)
    (hself : pc.inside = true ↔ lock = some i)
    (hothers : ∀ j, j ≠ i → (c.1.lock = some j ↔ lock = some j)) (t : Table α) :
    LockInv (⟨lock, t⟩, Function.update c.2 i pc) := by
  constructor
  · intro j
    show (Function.update c.2 i pc j).inside = true ↔ lock = some j
    by_cases hj : j = i
    · subst hj
      rwa [Function.update_self]
    · rw [Function.update_of_ne hj, h.inside_iff j]
      exact hothers j hj
  · intro j
    show Function.update c.2 i pc j ≠ .reinitLock
    by_cases hj : j = i
    · subst hj
      rwa [Function.update_self]
    · rw [Function.update_of_ne hj]
      exact h.reinitLock j

theorem LockInv.stay_outside {c : LockedTable ι α × (ι → CallPc α)} (h : LockInv c) {i : ι}
    (hi : (c.2 i).inside = false) {pc : CallPc α} (hpc : pc.Outside) (t : Table α) :
    LockInv (⟨c.1.lock, t⟩, Function.update c.2 i pc) := by
  refine h.update hpc.2 ?_ (fun _ _ => Iff.rfl) t
  rw [hpc.1, ← h.inside_iff i, hi]

/-- Every step but a re-initialisation keeps the lock with the thread inside. -/
theorem lockInv_step (calls : ι → TableCall α) {c : LockedTable ι α × (ι → CallPc α)} {i : ι}
    (h : LockInv c) (hno : NoReinit c i) :
    LockInv (Interleave.exec (fun i => callStep kind i (calls i)) c i) := by
  have hlock := h.inside_iff i
  unfold Interleave.exec
  cases hpc : c.2 i with
  | start =>
    simp only [callStep]
    exact h.stay_outside (by rw [hpc]; rfl) (callStart_outside kind (calls i)) c.1.table
  | acquire s =>
    simp only [callStep]
    by_cases hfree : c.1.lock = none
    · rw [if_pos hfree]
      refine h.update (by simp) (by simp [CallPc.inside]) ?_ c.1.table
      intro j hj
      rw [hfree]
      simp [Ne.symm hj]
    · rw [if_neg hfree]
      exact h.stay_outside (by rw [hpc]; rfl) ⟨rfl, by simp⟩ c.1.table
  | body s =>
    simp only [callStep]
    rw [hpc] at hlock
    refine h.update ?_ ?_ (fun _ _ => Iff.rfl) _
    · simp
    · exact hlock
  | release s status found =>
    simp only [callStep]
    rw [hpc] at hlock
    have hmine : c.1.lock = some i := hlock.mp rfl
    have hnext := next_outside s status found
    refine h.update hnext.2 (by rw [hnext.1]; simp) ?_ c.1.table
    intro j hj
    rw [hmine]
    simp [Ne.symm hj]
  | reinitList => exact absurd hpc hno
  | reinitLock => exact absurd hpc (h.reinitLock i)
  | reinitCount =>
    simp only [callStep]
    exact h.stay_outside (by rw [hpc]; rfl) ⟨rfl, by simp⟩ _
  | insertNext k =>
    simp only [callStep]
    exact h.stay_outside (by rw [hpc]; rfl) (callLoop_outside kind k (calls i)) c.1.table
  | returned status found =>
    simp only [callStep]
    exact h.stay_outside (by rw [hpc]; rfl) ⟨rfl, by simp⟩ c.1.table

variable (kind) (calls : ι → TableCall α) (t₀ : Table α)

/-- In every state of the run at most one call is inside its critical section, and every step that
can write the list head is made by the call that holds the lock. -/
def LockServes (schedule : List ι) : Prop :=
  (∀ n, MutualExclusion
    (Interleave.run (fun i => callStep kind i (calls i)) (callsStart t₀) (schedule.take n))) ∧
  Interleave.Along (fun i => callStep kind i (calls i)) HeadWriteHeld (callsStart t₀) schedule

variable {kind calls t₀}

/-- The lock of a table does what it is for along the schedules where no Sync gets past its drain. -/
theorem lockServes_iff (schedule : List ι) :
    LockServes kind calls t₀ schedule ↔
      Interleave.Along (fun i => callStep kind i (calls i)) NoReinit (callsStart t₀) schedule := by
  have hstep : ∀ c i, LockInv c → NoReinit c i →
      LockInv (Interleave.exec (fun i => callStep kind i (calls i)) c i) :=
    fun _ _ h hno => lockInv_step calls h hno
  have hheld := Interleave.Along.congr_inv hstep (fun c i h => (h.headWriteHeld_iff i).symm)
    (lockInv_start t₀) schedule
  constructor
  · intro h
    exact hheld.mpr h.2
  · intro h
    refine ⟨?_, hheld.mp h⟩
    intro n
    exact (Interleave.run_inv_along _ hstep (lockInv_start t₀) (h.take n)).mutualExclusion

end

/-- **The table locks do what they are for exactly as long as no Sync re-initialises its list**, for
any number of concurrent calls on the policy table and on the route table. -/
theorem tableLocks_iff {ι : Type} [DecidableEq ι] (policyCalls : ι → TableCall AppPolicyV1)
    (routeCalls : ι → TableCall RouteAssignmentV1) (policyTable : PolicyTable)
    (routeTable : RouteTable) (schedule : List ι) :
    (LockServes appPolicyKind policyCalls policyTable schedule ↔
      Interleave.Along (fun i => callStep appPolicyKind i (policyCalls i)) NoReinit
        (callsStart policyTable) schedule) ∧
    (LockServes routeKind routeCalls routeTable schedule ↔
      Interleave.Along (fun i => callStep routeKind i (routeCalls i)) NoReinit
        (callsStart routeTable) schedule) :=
  ⟨lockServes_iff schedule, lockServes_iff schedule⟩

/-- A Lookup, a Sync of no records and a Remove. -/
def threeCalls {α : Type} : Fin 3 → TableCall α
  | 0 => .lookup (some fun _ => true)
  | 1 => .sync (some []) fun _ => true
  | 2 => .remove (Vector.replicate 16 0)

/-- The Sync drains the table, the Lookup acquires the lock, the Sync re-initialises list and lock,
and the Remove acquires the lock in turn. -/
def lockTakenTwice : List (Fin 3) := [1, 1, 1, 1, 0, 0, 1, 1, 2, 2]

/-- A Sync frees the lock under a Lookup, on either table. -/
theorem not_forall_lockServes :
    (¬ ∀ (calls : Fin 3 → TableCall AppPolicyV1) (t₀ : PolicyTable) (schedule : List (Fin 3)),
      LockServes appPolicyKind calls t₀ schedule) ∧
    (¬ ∀ (calls : Fin 3 → TableCall RouteAssignmentV1) (t₀ : RouteTable) (schedule : List (Fin 3)),
      LockServes routeKind calls t₀ schedule) := by
  constructor
  · intro h
    have hone := (h threeCalls fresh lockTakenTwice).1 10 0 2 rfl rfl
    exact absurd hone (by decide)
  · intro h
    have hone := (h threeCalls fresh lockTakenTwice).1 10 0 2 rfl rfl
    exact absurd hone (by decide)

end Guardian
