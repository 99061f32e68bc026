import Guardian.Lib.Ownership
import Guardian.Sync.Lock

/-!
# The pool entries of a table

A Set allocates its entry before it takes the lock and frees it after the release if it has not been
linked; a Remove frees the entry it unlinked after the release; a Sync frees all entries in one section
and re-initialises the list in a later step.

* `PooledTable`, `PoolPc`, `poolStep` : the table with its entries in the pool, the points of a call and
  its steps, one for each allocation, critical section, release and re-initialisation;
* `poolStep_alone` : a call that runs alone computes the table operation on the records;
* `ownership` : who owns which entry; `poolStep_move` says that every step but a re-initialisation moves
  entries as their owners may, `poolStep_reinit` that a re-initialisation forgets the list;
* `PoolInv` : nothing is owned or freed twice, and the counter is exact; `freed_once_run`;
* `Accounted` : the live entries are the linked ones; `tablePools_iff` says after which runs they are.
-/

namespace Guardian
open Table

/-- `GUARDIAN_POLICY_ENTRY` or `GUARDIAN_ROUTE_ENTRY` in its block of the pool. -/
structure PoolEntry (α : Type) where
  block : Nat
  record : α
  deriving DecidableEq

/-- A table of pool entries, with the pool. -/
structure PooledTable (α : Type) where
  table : Table (PoolEntry α)
  pool : Pool

/-- The next step of a call; `element` is the index of the element that a Sync calls Set for. -/
inductive PoolPc (α : Type) where
  | start
  /-- The critical section of a Set that has allocated the entry. -/
  | link (entry : PoolEntry α) (element : Option Nat)
  | freeEntry (block : Nat) (element : Option Nat) (status : NTSTATUS)
  | drain
  | reinit
  /-- The head of the loop of a Sync. -/
  | insertNext (i : Nat)
  | returned (status : NTSTATUS)
  deriving DecidableEq

section

variable {α : Type} (kind : RecordKind α)

/-- Where a Set returns to. -/
def PoolPc.afterSet (element : Option Nat) (status : NTSTATUS) : PoolPc α :=
  match element with
  | none => .returned status
  | some i => if ntSuccess status then .insertNext (i + 1) else .returned status

/-- A Set before its critical section. -/
def setAllocate (record : α) (alloc : Bool) (element : Option Nat) (s : PooledTable α) :
    PooledTable α × PoolPc α :=
  if kind.version record ≠ kind.supportedVersion then (s, .afterSet element statusInvalidParameter)
  else if !alloc then (s, .afterSet element statusInsufficientResources)
  else
    let (block, pool) := s.pool.alloc
    ({ s with pool := pool }, .link ⟨block, record⟩ element)

/-- The first entry with this id; `none` is the `NULL` entry. -/
def entryFindLocked (appId : AppId) (t : Table (PoolEntry α)) : Option (Fin t.list.length) :=
  t.list.findFinIdx? (fun item => kind.appId item.record = appId)

/-- The critical section of a Set: the status, whether the new entry is linked, and the table. An
existing entry keeps its block. -/
def setEntryLocked (entry : PoolEntry α) (t : Table (PoolEntry α)) :
    NTSTATUS × Bool × Table (PoolEntry α) :=
  match entryFindLocked kind (kind.appId entry.record) t with
  | some existing =>
    (statusSuccess, false,
      { t with list := t.list.modify existing fun item => { item with record := entry.record } })
  | none =>
    if t.count ≥ kind.maxEntries then (statusInsufficientResources, false, t)
    else (statusSuccess, true, ⟨t.list ++ [entry], t.count + 1⟩)

/-- The critical section of a Remove. -/
def removeStart (appId : AppId) (s : PooledTable α) : PooledTable α × PoolPc α :=
  match entryFindLocked kind appId s.table with
  | none => (s, .returned statusNotFound)
  | some existing =>
    ({ s with table := ⟨s.table.list.eraseIdx existing, s.table.count - 1⟩ },
      .freeEntry (s.table.list.get existing).block none statusSuccess)

/-- The first step of a call; a Lookup does nothing to the entries. -/
def poolStart (s : PooledTable α) : TableCall α → PooledTable α × PoolPc α
  | .set none _ => (s, .returned statusInvalidParameter)
  | .set (some record) alloc => setAllocate kind record alloc none s
  | .remove appId => removeStart kind appId s
  | .sync none _ => (s, .returned statusInvalidParameter)
  | .sync (some records) _ =>
    if records.length > kind.maxSync then (s, .returned statusInvalidParameter) else (s, .drain)
  | .lookup none => (s, .returned statusInvalidParameter)
  | .lookup (some _) => (s, .returned statusSuccess)

/-- The head of the loop of a Sync; other calls have none. -/
def poolLoop (i : Nat) (s : PooledTable α) : TableCall α → PooledTable α × PoolPc α
  | .sync (some records) alloc =>
    match records[i]? with
    | none => (s, .returned statusSuccess)
    | some record => setAllocate kind record (alloc i) (some i) s
  | _ => (s, .insertNext i)

/-- The blocks of the linked entries. -/
def blocks (t : Table (PoolEntry α)) : List Nat := t.list.map PoolEntry.block

/-- One step of a call. -/
def poolStep (call : TableCall α) : PooledTable α × PoolPc α → PooledTable α × PoolPc α
  | (s, .start) => poolStart kind s call
  | (s, .link entry element) =>
    let r := setEntryLocked kind entry s.table
    ({ s with table := r.2.2 },
      if r.2.1 then .afterSet element r.1 else .freeEntry entry.block element r.1)
  | (s, .freeEntry block element status) =>
    ({ s with pool := s.pool.free block }, .afterSet element status)
  | (s, .drain) => (⟨shutdown s.table, s.pool.freeAll (blocks s.table)⟩, .reinit)
  | (s, .reinit) => ({ s with table := Table.reinit s.table }, .insertNext 0)
  | (s, .insertNext i) => poolLoop kind i s call
  | (s, .returned status) => (s, .returned status)

/-! ## The records of the entries -/

def entryRecords (t : Table (PoolEntry α)) : Table α := ⟨t.list.map PoolEntry.record, t.count⟩

variable {kind}

theorem findLocked_entryRecords (appId : AppId) (t : Table (PoolEntry α)) :
    findLocked kind appId (entryRecords t) = (entryFindLocked kind appId t).map Fin.val := by
  rw [findLocked, entryRecords, List.findIdx?_map, entryFindLocked,
    ← List.findIdx?_eq_map_findFinIdx?_val]
  rfl

theorem map_record_modify (l : List (PoolEntry α)) (i : Nat) (record : α) :
    (l.modify i fun item => { item with record := record }).map PoolEntry.record =
      (l.map PoolEntry.record).set i record := by
  apply List.ext_getElem
  · simp
  · intro j hj hj'
    rw [List.getElem_map, List.getElem_modify, List.getElem_set, List.getElem_map]
    split <;> rfl

theorem map_block_modify (l : List (PoolEntry α)) (i : Nat) (record : α) :
    (l.modify i fun item => { item with record := record }).map PoolEntry.block =
      l.map PoolEntry.block := by
  apply List.ext_getElem
  · simp
  · intro j hj hj'
    rw [List.getElem_map, List.getElem_modify, List.getElem_map]
    split <;> rfl

variable (kind)

theorem setEntryLocked_records (entry : PoolEntry α) (t : Table (PoolEntry α)) :
    ((setEntryLocked kind entry t).1, entryRecords (setEntryLocked kind entry t).2.2) =
      setLocked kind entry.record (entryRecords t) := by
  rw [setLocked, findLocked_entryRecords, setEntryLocked]
  cases entryFindLocked kind (kind.appId entry.record) t with
  | some existing => simp only [Option.map_some, entryRecords, map_record_modify]
  | none =>
    simp only [Option.map_none]
    show _ = if t.count ≥ kind.maxEntries then _ else _
    split
    · rfl
    · simp [entryRecords]

/-! ## A call that runs alone -/

theorem reaches_setAllocate (call : TableCall α) (record : α) (alloc : Bool) (element : Option Nat) (s : PooledTable α) :
    ∃ s', Reaches (poolStep kind call) (setAllocate kind record alloc element s)
        (s', .afterSet element (Table.set kind (some record) alloc (entryRecords s.table)).1) ∧
      entryRecords s'.table = (Table.set kind (some record) alloc (entryRecords s.table)).2 := by
  unfold setAllocate
  by_cases hv : kind.version record = kind.supportedVersion
  · rw [if_neg (not_not.mpr hv)]
    cases alloc with
    | false =>
      have hset : Table.set kind (some record) false (entryRecords s.table) =
          (statusInsufficientResources, entryRecords s.table) := by
        rw [Table.set, if_neg (not_not.mpr hv)]
        rfl
      rw [hset]
      exact ⟨s, Reaches.refl _, rfl⟩
    | true =>
      rw [set_eq_setLocked hv, if_neg (by decide)]
      have hrec := setEntryLocked_records kind ⟨s.pool.next, record⟩ s.table
      rw [← hrec]
      cases hlinked : (setEntryLocked kind ⟨s.pool.next, record⟩ s.table).2.1 with
      | true =>
        refine ⟨⟨(setEntryLocked kind ⟨s.pool.next, record⟩ s.table).2.2, s.pool.alloc.2⟩,
          Reaches.step ?_, rfl⟩
        simp only [poolStep, Pool.alloc, hlinked, if_true]
        exact Reaches.refl _
      | false =>
        refine ⟨⟨(setEntryLocked kind ⟨s.pool.next, record⟩ s.table).2.2,
          s.pool.alloc.2.free s.pool.next⟩, Reaches.step (Reaches.step ?_), rfl⟩
        simp only [poolStep, Pool.alloc, hlinked, Bool.false_eq_true, if_false]
        exact Reaches.refl _
  · rw [if_pos hv, set_unsupported kind hv]
    exact ⟨s, Reaches.refl _, rfl⟩

theorem reaches_poolLoop (records : List α) (alloc : Nat → Bool) (s : PooledTable α) :
    ∃ s', Reaches (poolStep kind (.sync (some records) alloc)) (s, .insertNext 0)
        (s', .returned (syncLoop kind alloc 0 records (entryRecords s.table)).1) ∧
      entryRecords s'.table = (syncLoop kind alloc 0 records (entryRecords s.table)).2 := by
  have hexit : ∀ k (s : PooledTable α), records[k]? = none →
      poolStep kind (.sync (some records) alloc) (s, .insertNext k) = (s, .returned statusSuccess) := by
    intro k s hnone
    simp only [poolStep, poolLoop, hnone]
  have hset : ∀ k record (s : PooledTable α) (t : Table α), records[k]? = some record →
      entryRecords s.table = t →
      ∃ s', entryRecords s'.table = (Table.set kind (some record) (alloc k) t).2 ∧
        Reaches (poolStep kind (.sync (some records) alloc)) (s, .insertNext k)
          (s', .afterSet (some k) (Table.set kind (some record) (alloc k) t).1) := by
    rintro k record s _ hsome rfl
    obtain ⟨s', hreach, hrec⟩ :=
      reaches_setAllocate kind (.sync (some records) alloc) record (alloc k) (some k) s
    refine ⟨s', hrec, Reaches.step ?_⟩
    simp only [poolStep, poolLoop, hsome]
    exact hreach
  obtain ⟨s', hrec, hloop⟩ := reaches_syncLoop (poolStep kind (.sync (some records) alloc))
    (fun s t => entryRecords s.table = t) .insertNext .returned hexit hset 0
    (rfl : entryRecords s.table = _)
  exact ⟨s', hloop, hrec⟩

/-- **A call that runs alone computes the table operation on the records.** -/
theorem poolStep_alone (call : TableCall α) (s : PooledTable α) :
    ∃ s', Reaches (poolStep kind call) (s, .start)
        (s', .returned (call.result kind (entryRecords s.table)).1) ∧
      entryRecords s'.table = (call.result kind (entryRecords s.table)).2.2 := by
  cases call with
  | set record alloc =>
    cases record with
    | none => exact ⟨s, ⟨1, rfl⟩, rfl⟩
    | some record =>
      obtain ⟨s', hreach, hrec⟩ :=
        reaches_setAllocate kind (.set (some record) alloc) record alloc none s
      exact ⟨s', Reaches.step hreach, hrec⟩
  | remove appId =>
    simp only [TableCall.result, Table.remove, findLocked_entryRecords]
    cases hf : entryFindLocked kind appId s.table with
    | none =>
      refine ⟨s, Reaches.step ?_, rfl⟩
      simp only [poolStep, poolStart, removeStart, hf]
      exact Reaches.refl _
    | some existing =>
      refine ⟨⟨⟨s.table.list.eraseIdx existing, s.table.count - 1⟩,
        s.pool.free (s.table.list.get existing).block⟩, Reaches.step ?_, ?_⟩
      · simp only [poolStep, poolStart, removeStart, hf]
        exact ⟨1, rfl⟩
      · simp only [entryRecords, Option.map_some, List.eraseIdx_map]
  | lookup stops =>
    cases stops with
    | none => exact ⟨s, ⟨1, rfl⟩, rfl⟩
    | some stops => exact ⟨s, ⟨1, rfl⟩, rfl⟩
  | sync records alloc =>
    cases records with
    | none => exact ⟨s, ⟨1, rfl⟩, rfl⟩
    | some records =>
      simp only [TableCall.result]
      by_cases hl : records.length > kind.maxSync
      · rw [sync_too_long kind hl]
        refine ⟨s, Reaches.step ?_, rfl⟩
        simp only [poolStep, poolStart, if_pos hl]
        exact Reaches.refl _
      · rw [sync_taken kind (Nat.not_lt.mp hl)]
        obtain ⟨s', hloop, hrec⟩ :=
          reaches_poolLoop kind records alloc ⟨fresh, s.pool.freeAll (blocks s.table)⟩
        refine ⟨s', Reaches.step ?_, hrec⟩
        simp only [poolStep, poolStart, if_neg hl]
        have hdrain : Reaches (poolStep kind (.sync (some records) alloc)) (s, .drain)
            (⟨fresh, s.pool.freeAll (blocks s.table)⟩, .insertNext 0) := ⟨2, rfl⟩
        exact hdrain.trans hloop

end

/-! ## Who owns which entry -/

section

variable {ι α : Type}

/-- The block that a call holds. -/
def PoolPc.owned : PoolPc α → Option Nat
  | .link entry _ => some entry.block
  | .freeEntry block _ _ => some block
  | _ => none

@[simp] theorem owned_afterSet (element : Option Nat) (status : NTSTATUS) :
    (PoolPc.afterSet element status : PoolPc α).owned = none := by
  unfold PoolPc.afterSet
  split
  · rfl
  · split <;> rfl

/-- The entries of a table as they are owned by the list and by the calls. -/
def ownership (c : PooledTable α × (ι → PoolPc α)) : Ownership ι :=
  ⟨c.1.pool, blocks c.1.table, fun i => (c.2 i).owned⟩

variable {kind : RecordKind α} {c : PooledTable α × (ι → PoolPc α)} {i : ι}

theorem own_eq {pc : PoolPc α} (hpc : c.2 i = pc) : (ownership c).own i = pc.owned :=
  congrArg PoolPc.owned hpc

variable [DecidableEq ι]

theorem ownership_update (s : PooledTable α) (pc : PoolPc α) :
    ownership (s, Function.update c.2 i pc) =
      (ownership c).put i s.pool (blocks s.table) pc.owned := by
  unfold ownership Ownership.put
  congr 1
  exact Function.comp_update PoolPc.owned c.2 i pc

theorem move_stay {pc : PoolPc α} (h : pc.owned = (c.2 i).owned) :
    (ownership c).Move (ownership (c.1, Function.update c.2 i pc)) := by
  have hself : (ownership c).put i c.1.pool (blocks c.1.table) pc.owned = ownership c := by
    rw [h]
    exact (ownership c).put_self i
  rw [ownership_update, hself]
  exact .stay

theorem setAllocate_move (hi : (c.2 i).owned = none) (record : α) (alloc : Bool)
    (element : Option Nat) :
    (ownership c).Move (ownership ((setAllocate kind record alloc element c.1).1,
      Function.update c.2 i (setAllocate kind record alloc element c.1).2)) := by
  unfold setAllocate
  split
  · exact move_stay (by rw [owned_afterSet, hi])
  · split
    · exact move_stay (by rw [owned_afterSet, hi])
    · rw [ownership_update]
      exact .alloc hi

theorem removeStart_move (hi : (c.2 i).owned = none) (appId : AppId) :
    (ownership c).Move (ownership ((removeStart kind appId c.1).1,
      Function.update c.2 i (removeStart kind appId c.1).2)) := by
  unfold removeStart
  split
  · exact move_stay hi.symm
  · next existing _ =>
    have hb : (ownership c).linked[existing.val]? =
        some (c.1.table.list.get existing).block := by
      show (c.1.table.list.map PoolEntry.block)[existing.val]? = _
      rw [List.getElem?_map, List.getElem?_eq_getElem existing.isLt, Option.map_some,
        List.get_eq_getElem]
    have herase : blocks ⟨c.1.table.list.eraseIdx existing, c.1.table.count - 1⟩ =
        (ownership c).linked.eraseIdx existing := (List.eraseIdx_map _ _ _).symm
    rw [ownership_update, herase]
    exact .unlink hi hb

theorem poolStart_move (hi : (c.2 i).owned = none) (call : TableCall α) :
    (ownership c).Move (ownership ((poolStart kind c.1 call).1,
      Function.update c.2 i (poolStart kind c.1 call).2)) := by
  unfold poolStart
  split
  · exact move_stay hi.symm
  · exact setAllocate_move hi _ _ _
  · exact removeStart_move hi _
  · exact move_stay hi.symm
  · split <;> exact move_stay hi.symm
  · exact move_stay hi.symm
  · exact move_stay hi.symm

theorem poolLoop_move (hi : (c.2 i).owned = none) (k : Nat) (call : TableCall α) :
    (ownership c).Move (ownership ((poolLoop kind k c.1 call).1,
      Function.update c.2 i (poolLoop kind k c.1 call).2)) := by
  unfold poolLoop
  split
  · split
    · exact move_stay hi.symm
    · exact setAllocate_move hi _ _ _
  · exact move_stay hi.symm

/-- A critical section of a Set links the new entry, or leaves all blocks where they are. -/
theorem blocks_setEntryLocked (entry : PoolEntry α) (t : Table (PoolEntry α)) :
    blocks (setEntryLocked kind entry t).2.2 =
      if (setEntryLocked kind entry t).2.1 then blocks t ++ [entry.block] else blocks t := by
  unfold setEntryLocked
  split
  · exact map_block_modify _ _ _
  · split
    · rfl
    · simp [blocks]

/-- **Every step but a re-initialisation moves entries as their owners may.** -/
theorem poolStep_move (calls : ι → TableCall α) (hno : c.2 i ≠ .reinit) :
    (ownership c).Move
      (ownership (Interleave.exec (fun i => poolStep kind (calls i)) c i)) := by
  unfold Interleave.exec
  cases hpc : c.2 i with
  | start =>
    simp only [poolStep]
    exact poolStart_move (own_eq hpc) (calls i)
  | link entry element =>
    have hi : (ownership c).own i = some entry.block := own_eq hpc
    simp only [poolStep]
    rw [ownership_update, blocks_setEntryLocked]
    cases (setEntryLocked kind entry c.1.table).2.1 with
    | true =>
      simp only [if_true, owned_afterSet]
      exact .link hi
    | false =>
      simp only [Bool.false_eq_true, if_false]
      rw [PoolPc.owned, ← hi]
      exact (Ownership.put_self (ownership c) i).symm ▸ .stay
  | freeEntry block element status =>
    simp only [poolStep]
    rw [ownership_update, owned_afterSet]
    exact .free (own_eq hpc)
  | drain =>
    simp only [poolStep]
    rw [ownership_update, shutdown_eq]
    exact .drain (own_eq hpc)
  | reinit => exact absurd hpc hno
  | insertNext k =>
    simp only [poolStep]
    exact poolLoop_move (own_eq hpc) k (calls i)
  | returned status =>
    simp only [poolStep]
    exact move_stay (by rw [hpc])

theorem poolStep_reinit (calls : ι → TableCall α) (hpc : c.2 i = .reinit) :
    ownership (Interleave.exec (fun i => poolStep kind (calls i)) c i) = (ownership c).drop := by
  unfold Interleave.exec
  simp only [hpc, poolStep]
  rw [ownership_update]
  show (ownership c).put i (ownership c).pool [] none = _
  have hi : (ownership c).own i = none := own_eq hpc
  rw [← hi, Ownership.put, Function.update_eq_self, Ownership.drop]

end

/-! ## The counter -/

section

variable {α : Type} {kind : RecordKind α}

/-- The counter is the number of linked entries. -/
def Counted (t : Table (PoolEntry α)) : Prop := t.count.toNat = t.list.length

theorem counted_fresh : Counted (fresh : Table (PoolEntry α)) := rfl

theorem Counted.setEntryLocked {t : Table (PoolEntry α)} (h : Counted t) (entry : PoolEntry α) :
    Counted (setEntryLocked kind entry t).2.2 := by
  unfold Guardian.setEntryLocked Counted
  split
  · rw [List.length_modify]
    exact h
  · split
    · exact h
    · next hfull =>
      -- below the capacity the counter does not overflow
      have hlt := UInt32.lt_iff_toNat_lt.mp (UInt32.not_le.mp hfull)
      have hmax := kind.maxEntries.toNat_lt
      rw [List.length_append, List.length_singleton, ← h, UInt32.toNat_add, UInt32.toNat_one]
      omega

theorem setAllocate_table (record : α) (alloc : Bool) (element : Option Nat) (s : PooledTable α) :
    (setAllocate kind record alloc element s).1.table = s.table := by
  unfold setAllocate
  split
  · rfl
  · split <;> rfl

theorem Counted.removeStart {s : PooledTable α} (h : Counted s.table) (appId : AppId) :
    Counted (removeStart kind appId s).1.table := by
  unfold Guardian.removeStart
  split
  · exact h
  · next existing _ =>
    have hpos : existing.val < s.table.list.length := existing.isLt
    have hcount : s.table.count.toNat = s.table.list.length := h
    have hone : (1 : UInt32) ≤ s.table.count := by
      rw [UInt32.le_iff_toNat_le, UInt32.toNat_one]
      omega
    show (s.table.count - 1).toNat = (s.table.list.eraseIdx existing).length
    rw [UInt32.toNat_sub_of_le _ _ hone, UInt32.toNat_one, List.length_eraseIdx_of_lt hpos, hcount]

theorem Counted.poolStep {x : PooledTable α × PoolPc α} (h : Counted x.1.table)
    (call : TableCall α) : Counted (poolStep kind call x).1.table := by
  obtain ⟨s, pc⟩ := x
  cases pc with
  | start =>
    show Counted (poolStart kind s call).1.table
    unfold poolStart
    split
    · exact h
    · rw [setAllocate_table]
      exact h
    · exact h.removeStart _
    · exact h
    · split <;> exact h
    · exact h
    · exact h
  | link entry element => exact h.setEntryLocked entry
  | freeEntry block element status => exact h
  | drain =>
    show Counted (shutdown s.table)
    rw [shutdown_eq]
    exact counted_fresh
  | reinit => exact counted_fresh
  | insertNext k =>
    show Counted (poolLoop kind k s call).1.table
    unfold poolLoop
    split
    · split
      · exact h
      · rw [setAllocate_table]
        exact h
    · exact h
  | returned status => exact h

end

/-! ## Whole runs -/

section

variable {ι α : Type}

/-- The live entries are the linked ones, no entry was freed twice, and the counter is their number. -/
structure Accounted (s : PooledTable α) : Prop where
  live_iff : ∀ b, b ∈ s.pool.live ↔ b ∈ blocks s.table
  freed_once : s.pool.freed.Nodup
  count_eq : s.table.count.toNat = s.pool.live.card

/-- No call is in progress. -/
def Idle (c : PooledTable α × (ι → PoolPc α)) : Prop :=
  ∀ i, c.2 i = .start ∨ ∃ status, c.2 i = .returned status

/-- If the step of the call re-initialises the list, no entry is linked. -/
def ReinitEmpty (c : PooledTable α × (ι → PoolPc α)) (i : ι) : Prop :=
  c.2 i = .reinit → c.1.table.list = []

/-- All calls about to start on an empty table. -/
def poolCallsStart : PooledTable α × (ι → PoolPc α) := (⟨fresh, Pool.empty⟩, fun _ => .start)

structure PoolInv (c : PooledTable α × (ι → PoolPc α)) : Prop where
  valid : (ownership c).Valid
  counted : Counted c.1.table

theorem poolInv_start : PoolInv (poolCallsStart : PooledTable α × (ι → PoolPc α)) :=
  ⟨⟨Pool.valid_empty, List.nodup_nil, nofun, nofun, nofun, nofun⟩, counted_fresh⟩

theorem complete_start : (ownership (poolCallsStart : PooledTable α × (ι → PoolPc α))).Complete :=
  fun b hb => absurd hb.1 (Finset.notMem_empty b)

theorem PoolInv.accounted_iff {c : PooledTable α × (ι → PoolPc α)} (h : PoolInv c) (hidle : Idle c) :
    Accounted c.1 ↔ (ownership c).Complete := by
  have hown : ∀ i, (ownership c).own i = none := by
    intro i
    rcases hidle i with hpc | ⟨status, hpc⟩
    · exact own_eq hpc
    · exact own_eq hpc
  rw [h.valid.complete_iff_of_idle hown]
  constructor
  · exact Accounted.live_iff
  · intro hlive
    have hset : c.1.pool.live = (blocks c.1.table).toFinset := by
      ext b
      rw [List.mem_toFinset]
      exact hlive b
    have hnodup : (blocks c.1.table).Nodup := h.valid.linked_nodup
    refine ⟨hlive, h.valid.pool.freed_nodup, ?_⟩
    rw [hset, List.toFinset_card_of_nodup hnodup, blocks, List.length_map]
    exact h.counted

variable [DecidableEq ι] {kind : RecordKind α}

theorem PoolInv.step (calls : ι → TableCall α) {c : PooledTable α × (ι → PoolPc α)} (h : PoolInv c)
    (i : ι) : PoolInv (Interleave.exec (fun i => poolStep kind (calls i)) c i) := by
  refine ⟨?_, h.counted.poolStep (calls i)⟩
  by_cases hpc : c.2 i = .reinit
  · rw [poolStep_reinit calls hpc]
    exact h.valid.drop
  · exact (poolStep_move calls hpc).valid h.valid

theorem poolInv_run (calls : ι → TableCall α) (schedule : List ι) :
    PoolInv (Interleave.run (fun i => poolStep kind (calls i)) poolCallsStart schedule) :=
  Interleave.run_inv _ (fun _ i h => h.step calls i) poolInv_start schedule

theorem freed_once_run (calls : ι → TableCall α) (schedule : List ι) :
    (Interleave.run (fun i => poolStep kind (calls i)) poolCallsStart schedule).1.pool.freed.Nodup ∧
      Counted (Interleave.run (fun i => poolStep kind (calls i)) poolCallsStart schedule).1.table :=
  ⟨(poolInv_run calls schedule).valid.pool.freed_nodup, (poolInv_run calls schedule).counted⟩

/-- A step leaks nothing exactly if it does not re-initialise a list with entries. -/
theorem PoolInv.complete_step_iff (calls : ι → TableCall α) {c : PooledTable α × (ι → PoolPc α)}
    (h : PoolInv c) (i : ι) :
    (ownership (Interleave.exec (fun i => poolStep kind (calls i)) c i)).Complete ↔
      (ownership c).Complete ∧ ReinitEmpty c i := by
  by_cases hpc : c.2 i = .reinit
  · rw [poolStep_reinit calls hpc, h.valid.complete_drop_iff]
    refine and_congr_right fun _ => ?_
    show blocks c.1.table = [] ↔ _
    rw [blocks, List.map_eq_nil_iff, ReinitEmpty]
    exact ⟨fun hnil _ => hnil, fun himp => himp hpc⟩
  · rw [(poolStep_move calls hpc).complete_iff h.valid]
    exact (and_iff_left fun hre => absurd hre hpc).symm

/-- Between the calls, the pool of a table is accounted for after exactly those runs in which no
re-initialisation met an entry. -/
theorem accounted_iff (calls : ι → TableCall α) (schedule : List ι)
    (hidle : Idle (Interleave.run (fun i => poolStep kind (calls i)) poolCallsStart schedule)) :
    Accounted (Interleave.run (fun i => poolStep kind (calls i)) poolCallsStart schedule).1 ↔
      Interleave.Along (fun i => poolStep kind (calls i)) ReinitEmpty poolCallsStart schedule := by
  have hrun := Interleave.run_iff_along (Q := fun c => (ownership c).Complete)
    (fun i => poolStep kind (calls i)) (fun _ i h => h.step calls i)
    (fun _ i h => h.complete_step_iff calls i) poolInv_start schedule
  rw [(poolInv_run calls schedule).accounted_iff hidle, hrun]
  exact and_iff_right complete_start

end

/-- **The entries of either table are neither leaked nor freed twice, as long as no Sync re-initialises
a list to which an entry was linked after its drain**: for any number of concurrent calls, whenever
none is in progress. -/
theorem tablePools_iff {ι : Type} [DecidableEq ι] (policyCalls : ι → TableCall AppPolicyV1)
    (routeCalls : ι → TableCall RouteAssignmentV1) (schedule : List ι) :
    (Idle (Interleave.run (fun i => poolStep appPolicyKind (policyCalls i)) poolCallsStart schedule) →
      (Accounted (Interleave.run (fun i => poolStep appPolicyKind (policyCalls i)) poolCallsStart
          schedule).1 ↔
        Interleave.Along (fun i => poolStep appPolicyKind (policyCalls i)) ReinitEmpty poolCallsStart
          schedule)) ∧
    (Idle (Interleave.run (fun i => poolStep routeKind (routeCalls i)) poolCallsStart schedule) →
      (Accounted (Interleave.run (fun i => poolStep routeKind (routeCalls i)) poolCallsStart
          schedule).1 ↔
        Interleave.Along (fun i => poolStep routeKind (routeCalls i)) ReinitEmpty poolCallsStart
          schedule)) :=
  ⟨accounted_iff policyCalls schedule, accounted_iff routeCalls schedule⟩

/-- A Sync of no records and a Set. -/
def syncAndSet {α : Type} (record : α) : Fin 2 → TableCall α
  | 0 => .sync (some []) fun _ => true
  | 1 => .set (some record) true

/-- The Set links its entry before the Sync starts. -/
def setBeforeSync : List (Fin 2) := [1, 1, 0, 0, 0, 0]

/-- The Set links its entry between the drain of the Sync and its re-initialisation. -/
def setWithinSync : List (Fin 2) := [0, 0, 1, 1, 0, 0]

theorem tablePools_setBeforeSync :
    Accounted (Interleave.run
      (fun i => poolStep appPolicyKind (syncAndSet AppPolicyV1.blank i)) poolCallsStart
        setBeforeSync).1 ∧
    Accounted (Interleave.run
      (fun i => poolStep routeKind (syncAndSet RouteAssignmentV1.blank i)) poolCallsStart
        setBeforeSync).1 := by
  have hpools := tablePools_iff (syncAndSet AppPolicyV1.blank) (syncAndSet RouteAssignmentV1.blank)
    setBeforeSync
  constructor
  · refine (hpools.1 ?_).mpr ⟨nofun, nofun, nofun, nofun, fun _ => rfl, nofun, trivial⟩
    exact Fin.forall_fin_two.mpr ⟨Or.inr ⟨statusSuccess, rfl⟩, Or.inr ⟨statusSuccess, rfl⟩⟩
  · refine (hpools.2 ?_).mpr ⟨nofun, nofun, nofun, nofun, fun _ => rfl, nofun, trivial⟩
    exact Fin.forall_fin_two.mpr ⟨Or.inr ⟨statusSuccess, rfl⟩, Or.inr ⟨statusSuccess, rfl⟩⟩

/-- A Sync leaks the entry of a Set, on either table. -/
theorem not_forall_accounted :
    (¬ ∀ (calls : Fin 2 → TableCall AppPolicyV1) (schedule : List (Fin 2)),
      Idle (Interleave.run (fun i => poolStep appPolicyKind (calls i)) poolCallsStart schedule) →
      Accounted (Interleave.run (fun i => poolStep appPolicyKind (calls i)) poolCallsStart
        schedule).1) ∧
    (¬ ∀ (calls : Fin 2 → TableCall RouteAssignmentV1) (schedule : List (Fin 2)),
      Idle (Interleave.run (fun i => poolStep routeKind (calls i)) poolCallsStart schedule) →
      Accounted (Interleave.run (fun i => poolStep routeKind (calls i)) poolCallsStart
        schedule).1) := by
  constructor
  · intro h
    have hidle : Idle (Interleave.run
        (fun i => poolStep appPolicyKind (syncAndSet AppPolicyV1.blank i)) poolCallsStart
          setWithinSync) :=
      Fin.forall_fin_two.mpr ⟨Or.inr ⟨statusSuccess, rfl⟩, Or.inr ⟨statusSuccess, rfl⟩⟩
    have hlive := (h _ setWithinSync hidle).live_iff 0
    exact absurd (hlive.mp (by decide)) (by decide)
  · intro h
    have hidle : Idle (Interleave.run
        (fun i => poolStep routeKind (syncAndSet RouteAssignmentV1.blank i)) poolCallsStart
          setWithinSync) :=
      Fin.forall_fin_two.mpr ⟨Or.inr ⟨statusSuccess, rfl⟩, Or.inr ⟨statusSuccess, rfl⟩⟩
    have hlive := (h _ setWithinSync hidle).live_iff 0
    exact absurd (hlive.mp (by decide)) (by decide)

end Guardian
