import Guardian.Store.Table
import Mathlib.Logic.Function.Iterate

/-!
# A Sync step by step

A Sync takes the lock of its table once for the drain and once for each insertion; between these
sections and the re-initialisation other processors run.

* `SyncPc`, `syncStart`, `syncStep` : the points of a Sync and its atomic steps;
* `syncStep_alone` : without anybody else the steps compute `Table.sync`;
* `SyncAt` : what the table is at each point of an undisturbed Sync; `syncAt_step`;
* `Passed` : what a Sync has checked of its own array at each point; `passed_step`.
-/

namespace Guardian

/-- The next step of a Sync; `insert i` is the head of the loop. -/
inductive SyncPc where
  | drain
  | reinit
  | insert (i : Nat)
  | returned (status : NTSTATUS)
  deriving DecidableEq

namespace Table

variable {α : Type} (kind : RecordKind α)

/-- The argument check; `records = none` is a `NULL` array. -/
def syncStart (records : Option (List α)) : SyncPc :=
  match records with
  | none => .returned statusInvalidParameter
  | some records =>
    if records.length > kind.maxSync then .returned statusInvalidParameter else .drain

/-- One atomic step of the Sync of `records`. The last one, at the end of the array, is the exit of the
loop and touches nothing. -/
def syncStep (records : List α) (alloc : Nat → Bool) : Table α × SyncPc → Table α × SyncPc
  | (t, .drain) => (shutdown t, .reinit)
  | (t, .reinit) => (reinit t, .insert 0)
  | (t, .insert i) =>
    match records[i]? with
    | none => (t, .returned statusSuccess)
    | some record =>
      let r := set kind (some record) (alloc i) t
      (r.2, if ntSuccess r.1 then .insert (i + 1) else .returned r.1)
  | (t, .returned status) => (t, .returned status)

variable {kind} {records : List α} {alloc : Nat → Bool}

theorem syncStep_insert {i : Nat} (h : i < records.length) (t : Table α) :
    syncStep kind records alloc (t, .insert i) =
      ((set kind (some records[i]) (alloc i) t).2,
        if ntSuccess (set kind (some records[i]) (alloc i) t).1 then .insert (i + 1)
        else .returned (set kind (some records[i]) (alloc i) t).1) := by
  rw [syncStep, List.getElem?_eq_getElem h]

theorem syncStep_exit {i : Nat} (h : records.length ≤ i) (t : Table α) :
    syncStep kind records alloc (t, .insert i) = (t, .returned statusSuccess) := by
  rw [syncStep, List.getElem?_eq_none h]

theorem syncStep_returned (n : Nat) (t : Table α) (status : NTSTATUS) :
    (syncStep kind records alloc)^[n] (t, .returned status) = (t, .returned status) :=
  Function.iterate_fixed rfl n

/-- The loop from `i` on, run alone, is the insertion loop of the Sync. -/
theorem syncStep_loop {i n : Nat} (hi : i ≤ records.length) (hn : records.length < i + n)
    (t : Table α) : (syncStep kind records alloc)^[n] (t, .insert i) =
      ((syncLoop kind alloc i (records.drop i) t).2,
        .returned (syncLoop kind alloc i (records.drop i) t).1) := by
  induction n generalizing i t with
  | zero => omega
  | succ n ih =>
    rw [Function.iterate_succ_apply]
    rcases Nat.lt_or_eq_of_le hi with hlt | rfl
    · rw [syncStep_insert hlt, List.drop_eq_getElem_cons hlt, syncLoop]
      cases hs : ntSuccess (set kind (some records[i]) (alloc i) t).1 with
      | true =>
        simp only [if_true]
        exact ih hlt (by omega) _
      | false =>
        simp only [Bool.false_eq_true, if_false]
        exact syncStep_returned n _ _
    · rw [syncStep_exit (Nat.le_refl _), syncStep_returned, List.drop_length, syncLoop]

/-- **The steps of a Sync that runs alone compute the Sync.** -/
theorem syncStep_alone (n : Nat) (hn : records.length + 3 ≤ n) (t : Table α) :
    (syncStep kind records alloc)^[n] (t, syncStart kind (some records)) =
      ((sync kind (some records) alloc t).2, .returned (sync kind (some records) alloc t).1) := by
  by_cases hl : kind.maxSync < records.length
  · rw [syncStart, if_pos hl, syncStep_returned, sync_too_long kind hl]
  · obtain ⟨m, rfl⟩ : ∃ m, n = m + 2 := ⟨n - 2, by omega⟩
    rw [syncStart, if_neg hl, sync_taken kind (Nat.not_lt.mp hl), Function.iterate_add_apply]
    exact syncStep_loop (Nat.zero_le _) (by omega) fresh

/-! ## An undisturbed Sync -/

/-- Every element of the array can be inserted, and the array is short enough. -/
structure Installs (kind : RecordKind α) (records : List α) (alloc : Nat → Bool) : Prop where
  length_le : records.length ≤ kind.maxSync
  room : kind.maxSync ≤ kind.maxEntries.toNat
  element : ∀ i (h : i < records.length),
    kind.version records[i] = kind.supportedVersion ∧ alloc i = true

theorem Installs.sync_eq (h : Installs kind records alloc) (t : Table α) :
    sync kind (some records) alloc t =
      ((sync kind (some records) alloc t).1, installed kind records) ∧
    ntSuccess (sync kind (some records) alloc t).1 = true := by
  obtain ⟨ht, hs⟩ := sync_spec kind h.room h.length_le alloc t
  have hall : installable kind alloc 0 records = records := by
    rw [installable_eq_iff]
    intro i hi
    simpa using h.element i hi
  rw [hall] at ht
  exact ⟨Prod.ext rfl ht, hs.mpr hall⟩

theorem installs_of_success (hroom : kind.maxSync ≤ kind.maxEntries.toNat) {t : Table α}
    (h : ntSuccess (sync kind (some records) alloc t).1 = true) : Installs kind records alloc := by
  by_cases hl : kind.maxSync < records.length
  · rw [sync_too_long kind hl] at h
    cases h
  · obtain ⟨-, hs⟩ := sync_spec kind hroom (Nat.not_lt.mp hl) alloc t
    refine ⟨Nat.not_lt.mp hl, hroom, ?_⟩
    intro i hi
    simpa using (installable_eq_iff kind).mp (hs.mp h) i hi

theorem Installs.set_installed (h : Installs kind records alloc) {i : Nat}
    (hi : i < records.length) :
    set kind (some records[i]) (alloc i) (installed kind (records.take i)) =
      (statusSuccess, installed kind (records.take (i + 1))) := by
  have hmax := kind.maxEntries.toNat_lt
  have hroom := h.room
  have hlen := h.length_le
  have hle := KeyedList.length_install_le kind.appId (records.take i)
  rw [List.length_take] at hle
  have hacc : Accepts kind records[i] (alloc i) (installed kind (records.take i)) := by
    refine ⟨(h.element i hi).1, (h.element i hi).2, Or.inr ?_⟩
    rw [installed, UInt32.lt_iff_toNat_lt, UInt32.toNat_ofNat_of_lt' (by rw [UInt32.size]; omega)]
    omega
  rw [set_accepted kind hacc, List.take_succ_eq_append_getElem hi,
    ← insertAll_fresh kind (by rw [List.length_take]; omega),
    ← insertAll_fresh kind (by rw [List.length_append, List.length_take]; simp; omega)]
  unfold insertAll
  rw [List.foldl_append]
  rfl

/-- The table at a point of an undisturbed Sync that found `t₀`. -/
def SyncAt (kind : RecordKind α) (records : List α) (t₀ t : Table α) : SyncPc → Prop
  | .drain => t = t₀
  | .reinit => t = fresh
  | .insert i => i ≤ records.length ∧ t = installed kind (records.take i)
  | .returned status => ntSuccess status = true ∧ t = installed kind records

theorem syncAt_step (h : Installs kind records alloc) {t₀ t : Table α} {pc : SyncPc}
    (hpc : SyncAt kind records t₀ t pc) :
    SyncAt kind records t₀ (syncStep kind records alloc (t, pc)).1
      (syncStep kind records alloc (t, pc)).2 := by
  cases pc with
  | drain => exact shutdown_eq t
  | reinit => exact ⟨Nat.zero_le _, rfl⟩
  | insert i =>
    obtain ⟨hi, rfl⟩ := hpc
    rcases Nat.lt_or_eq_of_le hi with hlt | rfl
    · rw [syncStep_insert hlt, h.set_installed hlt]
      exact ⟨hlt, rfl⟩
    · rw [syncStep_exit (Nat.le_refl _)]
      exact ⟨rfl, by rw [List.take_length]⟩
  | returned status => exact hpc

/-! ## What a successful Sync has checked -/

/-- The checks a Sync has passed at a point, whatever others do to its table. -/
def Passed (kind : RecordKind α) (records : List α) (alloc : Nat → Bool) : SyncPc → Prop
  | .drain => records.length ≤ kind.maxSync
  | .reinit => records.length ≤ kind.maxSync
  | .insert i => records.length ≤ kind.maxSync ∧ ∀ j (h : j < records.length), j < i →
      kind.version records[j] = kind.supportedVersion ∧ alloc j = true
  | .returned status => ntSuccess status = true → records.length ≤ kind.maxSync ∧
      ∀ j (h : j < records.length), kind.version records[j] = kind.supportedVersion ∧ alloc j = true

theorem passed_start (records : List α) (alloc : Nat → Bool) :
    Passed kind records alloc (syncStart kind (some records)) := by
  by_cases hl : kind.maxSync < records.length
  · rw [syncStart, if_pos hl]
    intro h
    cases h
  · rw [syncStart, if_neg hl]
    exact Nat.not_lt.mp hl

theorem passed_step {pc : SyncPc} (h : Passed kind records alloc pc) (t : Table α) :
    Passed kind records alloc (syncStep kind records alloc (t, pc)).2 := by
  cases pc with
  | drain => exact h
  | reinit => exact ⟨h, fun j _ hj => absurd hj (Nat.not_lt_zero j)⟩
  | insert i =>
    rcases Nat.lt_or_ge i records.length with hlt | hge
    · rw [syncStep_insert hlt]
      cases hs : ntSuccess (set kind (some records[i]) (alloc i) t).1 with
      | true =>
        have hacc := (ntSuccess_set_iff kind).mp hs
        refine ⟨h.1, ?_⟩
        intro j hj hji
        rcases Nat.lt_succ_iff_lt_or_eq.mp hji with hji | rfl
        · exact h.2 j hj hji
        · exact ⟨hacc.1, hacc.2.1⟩
      | false =>
        intro hok
        rw [hs] at hok
        cases hok
    · rw [syncStep_exit hge]
      intro _
      refine ⟨h.1, ?_⟩
      intro j hj
      exact h.2 j hj (by omega)
  | returned status => exact h

end Table

end Guardian
