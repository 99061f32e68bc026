import Guardian.Store.Policy
import Guardian.Store.Route

/-!
# Syncs that fail

A Sync drains its table before it looks at the first element, and the first element that cannot be
inserted ends it.

* `Table.UnchangedOnFailure` : a failing Sync leaves the table as it was;
* `Table.FailsHarmlessly` : the arguments and tables for which it does;
* `syncs_unchangedOnFailure_iff` : these are the only ones, for both tables;
* `Table.RejectedUntouched`, `Table.sync_invalid_iff` : the Syncs that report an invalid parameter and
  leave their table as it was.
-/

namespace Guardian

namespace Table

variable {α : Type} (kind : RecordKind α)

/-- If the Sync returns a failure status, the table is exactly what it was before. -/
def UnchangedOnFailure (records : Option (List α)) (alloc : Nat → Bool) (t : Table α) : Prop :=
  ntSuccess (sync kind records alloc t).1 = false → (sync kind records alloc t).2 = t

/-- The array is refused before the drain, or every element can be inserted, or the table holds
exactly what inserting the elements before the first failing one gives. -/
def FailsHarmlessly (records : Option (List α)) (alloc : Nat → Bool) (t : Table α) : Prop :=
  match records with
  | none => True
  | some records =>
    kind.maxSync < records.length ∨
    (∀ i (h : i < records.length),
      kind.version records[i] = kind.supportedVersion ∧ alloc i = true) ∨
    t = installed kind (installable kind alloc 0 records)

theorem unchangedOnFailure_iff (hroom : kind.maxSync ≤ kind.maxEntries.toNat)
    (records : Option (List α)) (alloc : Nat → Bool) (t : Table α) :
    UnchangedOnFailure kind records alloc t ↔ FailsHarmlessly kind records alloc t := by
  cases records with
  | none =>
    constructor
    · intro _
      trivial
    · intro _ _
      rfl
  | some records =>
    by_cases hl : kind.maxSync < records.length
    · constructor
      · intro _
        exact Or.inl hl
      · intro _ _
        rw [sync_too_long kind hl]
    · obtain ⟨ht, hs⟩ := sync_spec kind hroom (Nat.not_lt.mp hl) alloc t
      have hall : installable kind alloc 0 records = records ↔
          ∀ i (h : i < records.length),
            kind.version records[i] = kind.supportedVersion ∧ alloc i = true := by
        simpa only [Nat.zero_add] using installable_eq_iff kind (i := 0)
      rw [UnchangedOnFailure, ht, FailsHarmlessly, ← hall, ← hs]
      cases ntSuccess (sync kind (some records) alloc t).1 with
      | true =>
        constructor
        · intro _
          exact Or.inr (Or.inl rfl)
        · intro _ h
          cases h
      | false =>
        constructor
        · intro h
          exact Or.inr (Or.inr (h rfl).symm)
        · rintro (h | h | h) -
          · exact absurd h hl
          · cases h
          · exact h.symm

/-! ## The status of a failing Sync -/

/-- The first element from index `i` on that cannot be inserted has an unsupported version. -/
def StoppedByVersion (alloc : Nat → Bool) (i : Nat) (records : List α) : Prop :=
  ∃ record, records[(installable kind alloc i records).length]? = some record ∧
    kind.version record ≠ kind.supportedVersion

theorem set_invalid_iff {record : α} {alloc : Bool} {t : Table α}
    (h : ¬ (kind.version record = kind.supportedVersion ∧ alloc = true)) :
    (set kind (some record) alloc t).1 = statusInvalidParameter ↔
      kind.version record ≠ kind.supportedVersion := by
  unfold set
  by_cases hv : kind.version record = kind.supportedVersion
  · have ha : alloc = false := by simpa [hv] using h
    simp only [hv, ha, ne_eq, not_true_eq_false, if_false, Bool.not_false, if_true, iff_false]
    decide
  · simp [hv]

theorem syncLoop_invalid_iff (alloc : Nat → Bool) {records : List α} (i : Nat) {t : Table α}
    (h : Valid kind t) (hroom : t.list.length + records.length ≤ kind.maxEntries.toNat) :
    (syncLoop kind alloc i records t).1 = statusInvalidParameter ↔
      StoppedByVersion kind alloc i records := by
  induction records generalizing i t with
  | nil => simp [syncLoop, StoppedByVersion, statusSuccess, statusInvalidParameter]
  | cons record rest ih =>
    rw [List.length_cons] at hroom
    rw [syncLoop, StoppedByVersion, installable]
    by_cases hc : kind.version record = kind.supportedVersion ∧ alloc i = true
    · have hlt : t.count < kind.maxEntries := by
        rw [UInt32.lt_iff_toNat_lt, h.count_eq]
        omega
      have hacc : Accepts kind record (alloc i) t := ⟨hc.1, hc.2, Or.inr hlt⟩
      have hlen := KeyedList.length_upsert_le kind.appId record t.list
      have hval := valid_set kind h (some record) (alloc i)
      rw [set_accepted kind hacc] at hval
      rw [set_accepted kind hacc, if_pos hc]
      simp only [ntSuccess_success, if_true, List.length_cons, List.getElem?_cons_succ]
      exact ih (i + 1) hval (by simp only; omega)
    · have hacc : ¬ Accepts kind record (alloc i) t := fun hacc => hc ⟨hacc.1, hacc.2.1⟩
      rw [(set_refused kind hacc).1, if_neg hc]
      simp only [Bool.false_eq_true, if_false, List.length_nil, List.getElem?_cons_zero,
        Option.some.injEq, exists_eq_left']
      exact set_invalid_iff kind hc

/-- The array is too long, or a version stops its Sync and the table holds exactly what the elements
before leave. -/
def RejectedUntouched (records : List α) (alloc : Nat → Bool) (t : Table α) : Prop :=
  kind.maxSync < records.length ∨
    (StoppedByVersion kind alloc 0 records ∧
      t = installed kind (installable kind alloc 0 records))

theorem sync_invalid_iff (hroom : kind.maxSync ≤ kind.maxEntries.toNat) (records : List α)
    (alloc : Nat → Bool) (t : Table α) :
    ((sync kind (some records) alloc t).1 = statusInvalidParameter ∧
      (sync kind (some records) alloc t).2 = t) ↔ RejectedUntouched kind records alloc t := by
  unfold RejectedUntouched
  by_cases hl : kind.maxSync < records.length
  · simp [sync_too_long kind hl, hl]
  · have hle := Nat.not_lt.mp hl
    have hfits : (fresh : Table α).list.length + records.length ≤ kind.maxEntries.toNat := by
      show 0 + records.length ≤ kind.maxEntries.toNat
      omega
    have hinvalid := syncLoop_invalid_iff kind alloc 0 (valid_fresh kind) hfits
    rw [(sync_spec kind hroom hle alloc t).1, sync_taken kind hle, hinvalid]
    simp only [hl, false_or]
    constructor
    · rintro ⟨hs, ht⟩
      exact ⟨hs, ht.symm⟩
    · rintro ⟨hs, ht⟩
      exact ⟨hs, ht.symm⟩

end Table

/-- **When a failing sync keeps its table**: exactly when it fails before the drain, or cannot fail,
or finds the table that the elements before the failing one leave. -/
theorem syncs_unchangedOnFailure_iff (policies : Option (List AppPolicyV1))
    (routes : Option (List RouteAssignmentV1)) (alloc : Nat → Bool) (policyTable : PolicyTable)
    (routeTable : RouteTable) :
    ((ntSuccess (appPolicySync policies alloc policyTable).1 = false →
        (appPolicySync policies alloc policyTable).2 = policyTable) ↔
      Table.FailsHarmlessly appPolicyKind policies alloc policyTable) ∧
    ((ntSuccess (routeSync routes alloc routeTable).1 = false →
        (routeSync routes alloc routeTable).2 = routeTable) ↔
      Table.FailsHarmlessly routeKind routes alloc routeTable) :=
  ⟨Table.unchangedOnFailure_iff appPolicyKind (by decide) policies alloc policyTable,
    Table.unchangedOnFailure_iff routeKind (by decide) routes alloc routeTable⟩

/-- A sync of one element of an unknown version empties a table of one entry; so does one that finds
no memory. -/
theorem not_forall_syncs_unchangedOnFailure :
    (¬ ∀ policies alloc (t : PolicyTable), ntSuccess (appPolicySync policies alloc t).1 = false →
      (appPolicySync policies alloc t).2 = t) ∧
    (¬ ∀ routes alloc (t : RouteTable), ntSuccess (routeSync routes alloc t).1 = false →
      (routeSync routes alloc t).2 = t) := by
  constructor
  · intro h
    have hlost := h (some [{ AppPolicyV1.blank with version := 2 }]) (fun _ => true)
      ⟨[AppPolicyV1.blank], 1⟩ rfl
    exact absurd (congrArg Table.list hlost) nofun
  · intro h
    have hlost := h (some [RouteAssignmentV1.blank]) (fun _ => false)
      ⟨[RouteAssignmentV1.blank], 1⟩ rfl
    exact absurd (congrArg Table.list hlost) nofun

end Guardian
