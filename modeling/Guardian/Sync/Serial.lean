import Guardian.Store.Policy
import Guardian.Store.Route
import Guardian.Sync.Steps

/-!
# Two concurrent Syncs

The queue dispatches requests in parallel, and nothing but the lock of the single sections orders two
Syncs of one table.

* `pairStep` : the steps of the two Syncs over the table, with a ghost variable that remembers who
  re-initialised it last;
* `OwnInsertion` : an insertion goes into a table that its own Sync re-initialised last;
* `PairInv` : the table is then what the last re-initialiser has built so far; `pairInv_step`;
* `syncs_serial_of_ownInsertions` : so two Syncs leave the table of one of them.
-/

namespace Guardian
open Table

/-- The two clients whose SYNC requests run at the same time. -/
inductive Client where
  | first
  | second
  deriving DecidableEq

def Client.other : Client → Client
  | .first => .second
  | .second => .first

theorem Client.eq_or_eq_other (i j : Client) : j = i ∨ j = i.other := by
  cases i <;> cases j <;> decide

theorem Client.other_ne (i : Client) : i.other ≠ i := by cases i <;> decide

/-- The table, and the client that re-initialised it last. No step reads the latter. -/
structure Contended (α : Type) where
  table : Table α
  lastReinitialized : Option Client
  deriving DecidableEq

section

variable {α : Type} (kind : RecordKind α) (records : Client → List α) (alloc : Client → Nat → Bool)

def pairStep (i : Client) (c : Contended α × SyncPc) : Contended α × SyncPc :=
  let r := syncStep kind (records i) (alloc i) (c.1.table, c.2)
  (⟨r.1, if c.2 = .reinit then some i else c.1.lastReinitialized⟩, r.2)

/-- Both Syncs about to start. -/
def pairStart (t₀ : Table α) : Contended α × (Client → SyncPc) :=
  (⟨t₀, none⟩, fun i => syncStart kind (some (records i)))

/-- If the client is about to insert an element, it was the last one to re-initialise the table. -/
def OwnInsertion (c : Contended α × (Client → SyncPc)) (i : Client) : Prop :=
  ∀ k, c.2 i = .insert k → k < (records i).length → c.1.lastReinitialized = some i

/-- If both Syncs return success, the table they leave is the one that one of them leaves alone. -/
def SerialOutcome (t₀ : Table α) (schedule : List Client) : Prop :=
  let run := Interleave.run (pairStep kind records alloc) (pairStart kind records t₀) schedule
  (∀ i, ∃ status, ntSuccess status = true ∧ run.2 i = .returned status) →
  ∃ i, run.1.table = (sync kind (some (records i)) (alloc i) t₀).2

/-- Who has re-initialised the table last has built it alone, unless the other one has drained it
and is going to re-initialise it. -/
structure PairInv (c : Contended α × (Client → SyncPc)) : Prop where
  waiting : c.1.lastReinitialized = none → ∀ i, c.2 i = .drain ∨ c.2 i = .reinit
  owned : ∀ i, c.1.lastReinitialized = some i → c.2 i ≠ .drain ∧ c.2 i ≠ .reinit ∧
    (c.2 i.other ≠ .reinit → SyncAt kind (records i) fresh c.1.table (c.2 i))

variable {kind records alloc}

theorem PairInv.of_last {c : Contended α × (Client → SyncPc)} {i : Client}
    (hlast : c.1.lastReinitialized = some i) (hdrain : c.2 i ≠ .drain) (hreinit : c.2 i ≠ .reinit)
    (hat : c.2 i.other ≠ .reinit → SyncAt kind (records i) fresh c.1.table (c.2 i)) :
    PairInv kind records c := by
  constructor
  · intro hn
    rw [hlast] at hn
    cases hn
  · intro j hj
    obtain rfl : i = j := Option.some.inj (hlast.symm.trans hj)
    exact ⟨hdrain, hreinit, hat⟩

theorem pairInv_step_owner (hinst : ∀ i, Installs kind (records i) (alloc i))
    {c : Contended α × (Client → SyncPc)} {i : Client} (h : PairInv kind records c)
    (hi : c.1.lastReinitialized = some i) :
    PairInv kind records (Interleave.exec (pairStep kind records alloc) c i) := by
  obtain ⟨hdrain, hreinit, hat⟩ := h.owned i hi
  have hlast : (Interleave.exec (pairStep kind records alloc) c i).1.lastReinitialized = some i := by
    simp only [Interleave.exec, pairStep, if_neg hreinit, hi]
  have hnext : (syncStep kind (records i) (alloc i) (c.1.table, c.2 i)).2 ≠ .drain ∧
      (syncStep kind (records i) (alloc i) (c.1.table, c.2 i)).2 ≠ .reinit := by
    cases hpc : c.2 i with
    | drain => exact absurd hpc hdrain
    | reinit => exact absurd hpc hreinit
    | insert k =>
      rcases Nat.lt_or_ge k (records i).length with hlt | hge
      · rw [syncStep_insert hlt]
        split <;> simp
      · rw [syncStep_exit hge]
        simp
    | returned status => simp [syncStep]
  apply PairInv.of_last hlast
  · simpa only [Interleave.exec, pairStep, Function.update_self] using hnext.1
  · simpa only [Interleave.exec, pairStep, Function.update_self] using hnext.2
  · simp only [Interleave.exec, pairStep, Function.update_self, ne_eq, Client.other_ne,
      not_false_eq_true, Function.update_of_ne]
    intro ho
    exact syncAt_step (hinst i) (hat ho)

theorem pairInv_step_reinit {c : Contended α × (Client → SyncPc)} {i : Client}
    (hpc : c.2 i = .reinit) :
    PairInv kind records (Interleave.exec (pairStep kind records alloc) c i) := by
  have hlast : (Interleave.exec (pairStep kind records alloc) c i).1.lastReinitialized = some i := by
    simp only [Interleave.exec, pairStep, hpc, if_true]
  apply PairInv.of_last hlast
  · simp [Interleave.exec, pairStep, hpc, syncStep]
  · simp [Interleave.exec, pairStep, hpc, syncStep]
  · intro _
    simp only [Interleave.exec, pairStep, hpc, syncStep, Function.update_self]
    exact ⟨Nat.zero_le _, rfl⟩

/-- A step of the other client, before its own re-initialisation or after its last insertion, leaves
the table of the last re-initialiser, or is a drain that announces a re-initialisation. -/
theorem pairInv_step_other {c : Contended α × (Client → SyncPc)} {i : Client}
    (h : PairInv kind records c) (hown : OwnInsertion records c i)
    (hi : c.1.lastReinitialized ≠ some i) (hpc : c.2 i ≠ .reinit) :
    PairInv kind records (Interleave.exec (pairStep kind records alloc) c i) := by
  have hlast : (Interleave.exec (pairStep kind records alloc) c i).1.lastReinitialized =
      c.1.lastReinitialized := by
    simp only [Interleave.exec, pairStep, if_neg hpc]
  constructor
  · intro hn j
    rw [hlast] at hn
    rcases Client.eq_or_eq_other i j with rfl | rfl
    · have hd := (h.waiting hn j).resolve_right hpc
      refine Or.inr ?_
      simp only [Interleave.exec, pairStep, hd, syncStep, Function.update_self]
    · simp only [Interleave.exec, ne_eq, Client.other_ne, not_false_eq_true, Function.update_of_ne]
      exact h.waiting hn i.other
  · intro j hj
    rw [hlast] at hj
    have hji : j ≠ i := by
      rintro rfl
      exact hi hj
    obtain rfl : j = i.other := (Client.eq_or_eq_other i j).resolve_left hji
    have hoo : i.other.other = i := by cases i <;> rfl
    obtain ⟨hdrain, hreinit, hat⟩ := h.owned i.other hj
    rw [hoo] at hat ⊢
    simp only [Interleave.exec, ne_eq, hji, not_false_eq_true, Function.update_of_ne, pairStep,
      Function.update_self]
    refine ⟨hdrain, hreinit, ?_⟩
    intro hnext
    have hsame : (syncStep kind (records i) (alloc i) (c.1.table, c.2 i)).1 = c.1.table := by
      cases hat' : c.2 i with
      | drain =>
        rw [hat'] at hnext
        exact absurd rfl hnext
      | reinit => exact absurd hat' hpc
      | insert k =>
        rcases Nat.lt_or_ge k (records i).length with hlt | hge
        · exact absurd (hown k hat' hlt) hi
        · rw [syncStep_exit hge]
      | returned status => rfl
    rw [hsame]
    exact hat hpc

theorem pairInv_step (hinst : ∀ i, Installs kind (records i) (alloc i))
    (c : Contended α × (Client → SyncPc)) (i : Client) (h : PairInv kind records c)
    (hown : OwnInsertion records c i) :
    PairInv kind records (Interleave.exec (pairStep kind records alloc) c i) := by
  by_cases hpc : c.2 i = .reinit
  · exact pairInv_step_reinit hpc
  · by_cases hi : c.1.lastReinitialized = some i
    · exact pairInv_step_owner hinst h hi
    · exact pairInv_step_other h hown hi hpc

theorem installs_of_returned (hroom : kind.maxSync ≤ kind.maxEntries.toNat) (t₀ : Table α)
    (schedule : List Client) {i : Client} {status : NTSTATUS} (hs : ntSuccess status = true)
    (hret : (Interleave.run (pairStep kind records alloc) (pairStart kind records t₀) schedule).2 i =
      .returned status) : Installs kind (records i) (alloc i) := by
  have hstep : ∀ (c : Contended α × (Client → SyncPc)) (j : Client),
      (∀ k, Passed kind (records k) (alloc k) (c.2 k)) →
      ∀ k, Passed kind (records k) (alloc k)
        ((Interleave.exec (pairStep kind records alloc) c j).2 k) := by
    intro c j hc k
    by_cases hkj : k = j
    · subst hkj
      simp only [Interleave.exec, Function.update_self]
      exact passed_step (hc k) c.1.table
    · simp only [Interleave.exec, ne_eq, hkj, not_false_eq_true, Function.update_of_ne]
      exact hc k
  have hstart : ∀ k, Passed kind (records k) (alloc k) ((pairStart kind records t₀).2 k) := by
    intro k
    exact passed_start (records k) (alloc k)
  have hpassed := Interleave.run_inv (pairStep kind records alloc) hstep hstart schedule i
  rw [hret] at hpassed
  obtain ⟨hlen, hall⟩ := hpassed hs
  exact ⟨hlen, hroom, hall⟩

/-- Two Syncs that return success leave the table of one of them alone, in every interleaving where
each insertion is made into a table its own Sync re-initialised last. -/
theorem serial_of_ownInsertions (hroom : kind.maxSync ≤ kind.maxEntries.toNat) (t₀ : Table α)
    {schedule : List Client}
    (hown : Interleave.Along (pairStep kind records alloc) (OwnInsertion records)
      (pairStart kind records t₀) schedule) :
    SerialOutcome kind records alloc t₀ schedule := by
  intro hret
  have hinst : ∀ i, Installs kind (records i) (alloc i) := by
    intro i
    obtain ⟨status, hs, hr⟩ := hret i
    exact installs_of_returned hroom t₀ schedule hs hr
  have hstart : PairInv kind records (pairStart kind records t₀) := by
    constructor
    · intro _ i
      apply Or.inl
      simp only [pairStart, syncStart, if_neg (Nat.not_lt.mpr (hinst i).length_le)]
    · intro i hi
      cases hi
  have hinv := Interleave.run_inv_along (pairStep kind records alloc) (pairInv_step hinst) hstart hown
  cases hlast : (Interleave.run (pairStep kind records alloc) (pairStart kind records t₀)
      schedule).1.lastReinitialized with
  | none =>
    obtain ⟨status, -, hr⟩ := hret .first
    rcases hinv.waiting hlast .first with hw | hw <;> rw [hr] at hw <;> cases hw
  | some i =>
    obtain ⟨status, hs, hr⟩ := hret i
    obtain ⟨status', -, hr'⟩ := hret i.other
    obtain ⟨-, -, hat⟩ := hinv.owned i hlast
    rw [hr] at hat
    refine ⟨i, ?_⟩
    have hother : (Interleave.run (pairStep kind records alloc) (pairStart kind records t₀)
        schedule).2 i.other ≠ .reinit := by simp [hr']
    rw [(hat hother).2]
    exact (congrArg Prod.snd ((hinst i).sync_eq t₀).1).symm

end

/-- **Concurrent Syncs are serial as long as nobody inserts into the other's table**, for the policy
table and for the route table, over every prior table and every interleaving. -/
theorem syncs_serial_of_ownInsertions (policies : Client → List AppPolicyV1)
    (routes : Client → List RouteAssignmentV1) (alloc : Client → Nat → Bool)
    (policyTable : PolicyTable) (routeTable : RouteTable) (schedule : List Client) :
    (Interleave.Along (pairStep appPolicyKind policies alloc) (OwnInsertion policies)
        (pairStart appPolicyKind policies policyTable) schedule →
      SerialOutcome appPolicyKind policies alloc policyTable schedule) ∧
    (Interleave.Along (pairStep routeKind routes alloc) (OwnInsertion routes)
        (pairStart routeKind routes routeTable) schedule →
      SerialOutcome routeKind routes alloc routeTable schedule) :=
  ⟨serial_of_ownInsertions (by decide) policyTable, serial_of_ownInsertions (by decide) routeTable⟩

/-- Each client syncs one policy, with an id of its own. -/
def onePolicyEach : Client → List AppPolicyV1
  | .first => [AppPolicyV1.blank]
  | .second => [{ AppPolicyV1.blank with appId := Vector.replicate 16 1 }]

/-- The second client drains before the first one re-initialises, and re-initialises before the first one
returns. -/
def overlappingSyncs : List Client :=
  [.first, .second, .first, .first, .second, .first, .second, .second]

/-- Both drain and re-initialise before either inserts. -/
def insertionsLast : List Client :=
  [.first, .first, .second, .second, .first, .second, .first, .second]

/-- Both insert after their own re-initialisation, so the table is left as one of them leaves it alone. -/
theorem syncs_serial_overlapping :
    let run := Interleave.run (pairStep appPolicyKind onePolicyEach fun _ _ => true)
      (pairStart appPolicyKind onePolicyEach fresh) overlappingSyncs
    (∀ i, run.2 i = .returned statusSuccess) ∧
      ∃ i, run.1.table = (sync appPolicyKind (some (onePolicyEach i)) (fun _ => true) fresh).2 := by
  intro run
  have hreturned : ∀ i, run.2 i = .returned statusSuccess := fun i => by cases i <;> rfl
  have hserial := (syncs_serial_of_ownInsertions onePolicyEach (fun _ => []) (fun _ _ => true) fresh fresh
    overlappingSyncs).1 (by
      refine ⟨nofun, nofun, nofun, fun _ _ _ => rfl, nofun, ?_, fun _ _ _ => rfl, ?_, trivial⟩
      · intro k hk hlt
        cases hk
        exact absurd hlt (by decide)
      · intro k hk hlt
        cases hk
        exact absurd hlt (by decide))
  exact ⟨hreturned, hserial fun i => ⟨statusSuccess, rfl, hreturned i⟩⟩

/-- Two Syncs of one policy each leave a table of two policies, and both return success. -/
theorem not_forall_syncs_serial :
    ¬ ∀ (policies : Client → List AppPolicyV1) (alloc : Client → Nat → Bool) (t₀ : PolicyTable)
        (schedule : List Client), SerialOutcome appPolicyKind policies alloc t₀ schedule := by
  intro h
  obtain ⟨i, hi⟩ := h onePolicyEach (fun _ _ => true) fresh insertionsLast
    (fun i => ⟨statusSuccess, rfl, by cases i <;> rfl⟩)
  have hlen := congrArg (fun t => t.list.length) hi
  cases i <;> exact absurd hlen (by decide)

end Guardian
