import Mathlib.Data.Finset.Erase
import Mathlib.Data.Finset.Insert
import Mathlib.Data.List.Nodup
import Mathlib.Logic.Function.Basic

/-!
# Blocks of a pool, owned by threads and by a list

* `Pool` : the live blocks, a log of the freed ones, and the next block to allocate;
* `Ownership` : a pool whose blocks are linked in a shared list or held by one thread each;
* `Ownership.Valid` : no block is owned twice, freed twice or owned after its release;
* `Ownership.Leaked` : a live block without owner;
* `Ownership.Move` : an allocation, a release, a transfer between list and thread, a drain of the list;
  `Move.valid` and `Move.leaked_iff` say that moves keep the ownership valid and leak nothing;
* `Ownership.drop` : the list is forgotten; `Valid.leaked_drop_iff` says that this leaks what it linked.
-/

/-- Blocks are numbered in the order of their allocation. -/
structure Pool where
  live : Finset Nat
  freed : List Nat
  next : Nat

namespace Pool

def empty : Pool := ⟨∅, [], 0⟩

def alloc (p : Pool) : Nat × Pool := (p.next, ⟨insert p.next p.live, p.freed, p.next + 1⟩)

def free (b : Nat) (p : Pool) : Pool := ⟨p.live.erase b, b :: p.freed, p.next⟩

/-- The blocks are freed one after the other. -/
def freeAll : List Nat → Pool → Pool
  | [], p => p
  | b :: bs, p => freeAll bs (free b p)

/-- Every freed block was allocated before, is not live, and was freed once. -/
structure Valid (p : Pool) : Prop where
  live_lt : ∀ b ∈ p.live, b < p.next
  freed_lt : ∀ b ∈ p.freed, b < p.next
  freed_dead : ∀ b ∈ p.freed, b ∉ p.live
  freed_nodup : p.freed.Nodup

theorem valid_empty : Valid empty :=
  ⟨by simp [empty], by simp [empty], by simp [empty], List.nodup_nil⟩

variable {p : Pool}

theorem Valid.next_not_live (h : Valid p) : p.next ∉ p.live := by
  intro hlive
  exact absurd (h.live_lt _ hlive) (Nat.lt_irrefl _)

theorem Valid.alloc (h : Valid p) : Valid p.alloc.2 := by
  refine ⟨?_, ?_, ?_, h.freed_nodup⟩
  · intro b hb
    rcases Finset.mem_insert.mp hb with rfl | hb
    · exact Nat.lt_succ_self _
    · exact Nat.lt_succ_of_lt (h.live_lt b hb)
  · intro b hb
    exact Nat.lt_succ_of_lt (h.freed_lt b hb)
  · intro b hb hlive
    rcases Finset.mem_insert.mp hlive with rfl | hlive
    · exact absurd (h.freed_lt _ hb) (Nat.lt_irrefl _)
    · exact h.freed_dead b hb hlive

theorem Valid.free (h : Valid p) {b : Nat} (hb : b ∈ p.live) : Valid (p.free b) := by
  refine ⟨?_, ?_, ?_, ?_⟩
  · intro b' hb'
    exact h.live_lt b' (Finset.mem_of_mem_erase hb')
  · intro b' hb'
    rcases List.mem_cons.mp hb' with rfl | hb'
    · exact h.live_lt _ hb
    · exact h.freed_lt b' hb'
  · intro b' hb' hlive
    rcases List.mem_cons.mp hb' with rfl | hb'
    · exact Finset.notMem_erase _ _ hlive
    · exact h.freed_dead b' hb' (Finset.mem_of_mem_erase hlive)
  · refine List.nodup_cons.mpr ⟨?_, h.freed_nodup⟩
    intro hfreed
    exact h.freed_dead b hfreed hb

theorem mem_live_freeAll {bs : List Nat} {b : Nat} :
    b ∈ (p.freeAll bs).live ↔ b ∈ p.live ∧ b ∉ bs := by
  induction bs generalizing p with
  | nil => simp [freeAll]
  | cons b' bs ih =>
    rw [freeAll, ih, free, Finset.mem_erase, List.mem_cons, not_or]
    exact ⟨fun h => ⟨h.1.2, h.1.1, h.2⟩, fun h => ⟨⟨h.2.1, h.1⟩, h.2.2⟩⟩

theorem Valid.freeAll {bs : List Nat} (h : Valid p) (hbs : bs.Nodup) (hlive : ∀ b ∈ bs, b ∈ p.live) :
    Valid (p.freeAll bs) := by
  induction bs generalizing p with
  | nil => exact h
  | cons b bs ih =>
    obtain ⟨hb, hbs⟩ := List.nodup_cons.mp hbs
    apply ih (h.free (hlive b List.mem_cons_self)) hbs
    intro b' hb'
    refine Finset.mem_erase.mpr ⟨?_, hlive b' (List.mem_cons_of_mem _ hb')⟩
    rintro rfl
    exact hb hb'

end Pool

/-- A pool, the blocks linked in the shared list, and the block that each thread holds. -/
structure Ownership (ι : Type*) where
  pool : Pool
  linked : List Nat
  own : ι → Option Nat

namespace Ownership

variable {ι : Type*}

structure Valid (s : Ownership ι) : Prop where
  pool : s.pool.Valid
  linked_nodup : s.linked.Nodup
  linked_live : ∀ b ∈ s.linked, b ∈ s.pool.live
  own_live : ∀ i b, s.own i = some b → b ∈ s.pool.live
  own_unlinked : ∀ i b, s.own i = some b → b ∉ s.linked
  own_inj : ∀ i j b, s.own i = some b → s.own j = some b → i = j

/-- Some thread or the list owns the block. -/
def Held (s : Ownership ι) (b : Nat) : Prop := b ∈ s.linked ∨ ∃ i, s.own i = some b

def Leaked (s : Ownership ι) (b : Nat) : Prop := b ∈ s.pool.live ∧ ¬ s.Held b

/-- Nothing is leaked. -/
def Complete (s : Ownership ι) : Prop := ∀ b, ¬ s.Leaked b

/-- The list is forgotten, its blocks stay live. -/
def drop (s : Ownership ι) : Ownership ι := { s with linked := [] }

section

variable {s : Ownership ι}

theorem Valid.drop (h : s.Valid) : s.drop.Valid :=
  ⟨h.pool, List.nodup_nil, nofun, h.own_live, fun _ _ _ => List.not_mem_nil, h.own_inj⟩

/-- Forgetting the list leaks the blocks it links. -/
theorem Valid.leaked_drop_iff (h : s.Valid) (b : Nat) :
    s.drop.Leaked b ↔ s.Leaked b ∨ b ∈ s.linked := by
  have hheld : s.drop.Held b ↔ ∃ i, s.own i = some b := or_iff_right List.not_mem_nil
  unfold Leaked
  rw [hheld]
  by_cases hb : b ∈ s.linked
  · refine iff_of_true ⟨h.linked_live b hb, ?_⟩ (Or.inr hb)
    rintro ⟨i, hi⟩
    exact h.own_unlinked i b hi hb
  · rw [or_iff_left hb, Held, or_iff_right hb]
    exact Iff.rfl

theorem Valid.complete_drop_iff (h : s.Valid) :
    s.drop.Complete ↔ s.Complete ∧ s.linked = [] := by
  constructor
  · intro hc
    refine ⟨fun b hb => hc b ((h.leaked_drop_iff b).mpr (Or.inl hb)), ?_⟩
    apply List.eq_nil_iff_forall_not_mem.mpr
    intro b hb
    exact hc b ((h.leaked_drop_iff b).mpr (Or.inr hb))
  · rintro ⟨hc, hnil⟩ b hb
    rcases (h.leaked_drop_iff b).mp hb with hb | hb
    · exact hc b hb
    · rw [hnil] at hb
      cases hb

/-- Where no thread holds a block, nothing is leaked iff the list links exactly the live blocks. -/
theorem Valid.complete_iff_of_idle (h : s.Valid) (hidle : ∀ i, s.own i = none) :
    s.Complete ↔ ∀ b, b ∈ s.pool.live ↔ b ∈ s.linked := by
  have hheld : ∀ b, s.Held b ↔ b ∈ s.linked := by
    intro b
    apply or_iff_left
    rintro ⟨i, hi⟩
    rw [hidle i] at hi
    cases hi
  refine forall_congr' ?_
  intro b
  rw [Leaked, hheld, not_and, not_not]
  exact ⟨fun hl => ⟨hl, h.linked_live b⟩, fun hl => hl.mp⟩

end

variable [DecidableEq ι]

/-- Thread `i` holds the block `o` from now on, besides a new pool and list. -/
def put (s : Ownership ι) (i : ι) (pool : Pool) (linked : List Nat) (o : Option Nat) : Ownership ι :=
  ⟨pool, linked, Function.update s.own i o⟩

section

variable (s : Ownership ι) {i : ι} (pool : Pool) (linked : List Nat) (o : Option Nat)

@[simp] theorem put_own_self : (s.put i pool linked o).own i = o := by
  simp only [put, Function.update_self]

@[simp] theorem put_own_of_ne {j : ι} (h : j ≠ i) : (s.put i pool linked o).own j = s.own j := by
  simp only [put, ne_eq, h, not_false_eq_true, Function.update_of_ne]

theorem put_self (i : ι) : s.put i s.pool s.linked (s.own i) = s := by
  rw [put, Function.update_eq_self]

end

/-- What a thread can do without leaking a block. -/
inductive Move (s : Ownership ι) : Ownership ι → Prop where
  | stay : Move s s
  | alloc {i : ι} (h : s.own i = none) :
      Move s (s.put i s.pool.alloc.2 s.linked (some s.pool.alloc.1))
  | free {i : ι} {b : Nat} (h : s.own i = some b) : Move s (s.put i (s.pool.free b) s.linked none)
  | link {i : ι} {b : Nat} (h : s.own i = some b) : Move s (s.put i s.pool (s.linked ++ [b]) none)
  | unlink {i : ι} {k : Nat} {b : Nat} (h : s.own i = none) (hb : s.linked[k]? = some b) :
      Move s (s.put i s.pool (s.linked.eraseIdx k) (some b))
  | drain {i : ι} (h : s.own i = none) : Move s (s.put i (s.pool.freeAll s.linked) [] none)

variable {s s' : Ownership ι}

theorem Valid.put (h : s.Valid) {i : ι} {pool : Pool} {linked : List Nat} {o : Option Nat}
    (hpool : pool.Valid) (hnodup : linked.Nodup) (hlinked : ∀ b ∈ linked, b ∈ pool.live)
    (hself : ∀ b, o = some b → b ∈ pool.live ∧ b ∉ linked ∧ ∀ j, j ≠ i → s.own j ≠ some b)
    (hothers : ∀ j b, j ≠ i → s.own j = some b → b ∈ pool.live ∧ b ∉ linked) :
    (s.put i pool linked o).Valid := by
  have howned : ∀ j b, (s.put i pool linked o).own j = some b → b ∈ pool.live ∧ b ∉ linked := by
    intro j b hj
    by_cases hji : j = i
    · subst hji
      rw [put_own_self] at hj
      exact ⟨(hself b hj).1, (hself b hj).2.1⟩
    · rw [put_own_of_ne _ _ _ _ hji] at hj
      exact hothers j b hji hj
  refine ⟨hpool, hnodup, hlinked, fun j b hj => (howned j b hj).1, fun j b hj => (howned j b hj).2, ?_⟩
  intro j k b hj hk
  by_cases hji : j = i
  · by_cases hki : k = i
    · rw [hji, hki]
    · subst hji
      rw [put_own_self] at hj
      rw [put_own_of_ne _ _ _ _ hki] at hk
      exact absurd hk ((hself b hj).2.2 k hki)
  · by_cases hki : k = i
    · subst hki
      rw [put_own_of_ne _ _ _ _ hji] at hj
      rw [put_own_self] at hk
      exact absurd hj ((hself b hk).2.2 j hji)
    · rw [put_own_of_ne _ _ _ _ hji] at hj
      rw [put_own_of_ne _ _ _ _ hki] at hk
      exact h.own_inj j k b hj hk

theorem not_mem_eraseIdx {l : List Nat} (h : l.Nodup) {k b : Nat} (hb : l[k]? = some b) :
    b ∉ l.eraseIdx k := by
  obtain ⟨hk, rfl⟩ := List.getElem?_eq_some_iff.mp hb
  rw [← h.erase_getElem k hk]
  exact h.not_mem_erase

/-- **Moves keep the ownership valid.** -/
theorem Move.valid (hm : Move s s') (h : s.Valid) : s'.Valid := by
  cases hm with
  | stay => exact h
  | alloc hi =>
    have hfresh : ∀ b ∈ s.pool.live, b ≠ s.pool.next := by
      rintro b hb rfl
      exact h.pool.next_not_live hb
    refine h.put h.pool.alloc h.linked_nodup ?_ ?_ ?_
    · intro b hb
      exact Finset.mem_insert_of_mem (h.linked_live b hb)
    · rintro b hb
      obtain rfl := Option.some.inj hb
      refine ⟨Finset.mem_insert_self _ _, ?_, ?_⟩
      · intro hlinked
        exact hfresh _ (h.linked_live _ hlinked) rfl
      · intro j _ hj
        exact hfresh _ (h.own_live j _ hj) rfl
    · intro j b _ hj
      exact ⟨Finset.mem_insert_of_mem (h.own_live j b hj), h.own_unlinked j b hj⟩
  | @free i b hi =>
    refine h.put (h.pool.free (h.own_live i b hi)) h.linked_nodup ?_ nofun ?_
    · intro b' hb'
      refine Finset.mem_erase.mpr ⟨?_, h.linked_live b' hb'⟩
      rintro rfl
      exact h.own_unlinked i _ hi hb'
    · intro j b' hji hj
      refine ⟨Finset.mem_erase.mpr ⟨?_, h.own_live j b' hj⟩, h.own_unlinked j b' hj⟩
      rintro rfl
      exact hji (h.own_inj j i _ hj hi)
  | @link i b hi =>
    have hnew := h.own_unlinked i b hi
    refine h.put h.pool ?_ ?_ nofun ?_
    · exact List.nodup_append.mpr ⟨h.linked_nodup, List.nodup_singleton b, by
        rintro x hx y hy rfl
        rw [List.mem_singleton.mp hy] at hx
        exact hnew hx⟩
    · intro b' hb'
      rcases List.mem_append.mp hb' with hb' | hb'
      · exact h.linked_live b' hb'
      · rw [List.mem_singleton.mp hb']
        exact h.own_live i b hi
    · intro j b' hji hj
      refine ⟨h.own_live j b' hj, ?_⟩
      rw [List.mem_append, List.mem_singleton, not_or]
      refine ⟨h.own_unlinked j b' hj, ?_⟩
      rintro rfl
      exact hji (h.own_inj j i _ hj hi)
  | @unlink i k b hi hb =>
    have hmem : b ∈ s.linked := List.mem_of_getElem? hb
    refine h.put h.pool (h.linked_nodup.eraseIdx k) ?_ ?_ ?_
    · intro b' hb'
      exact h.linked_live b' (List.mem_of_mem_eraseIdx hb')
    · intro b' hb'
      obtain rfl := Option.some.inj hb'
      refine ⟨h.linked_live _ hmem, not_mem_eraseIdx h.linked_nodup hb, ?_⟩
      intro j _ hj
      exact h.own_unlinked j _ hj hmem
    · intro j b' _ hj
      refine ⟨h.own_live j b' hj, ?_⟩
      intro hb'
      exact h.own_unlinked j b' hj (List.mem_of_mem_eraseIdx hb')
  | drain hi =>
    refine h.put (h.pool.freeAll h.linked_nodup h.linked_live) List.nodup_nil nofun nofun ?_
    intro j b _ hj
    exact ⟨Pool.mem_live_freeAll.mpr ⟨h.own_live j b hj, h.own_unlinked j b hj⟩, List.not_mem_nil⟩

/-! ## Leaks -/

theorem held_iff (i : ι) (b : Nat) :
    s.Held b ↔ b ∈ s.linked ∨ s.own i = some b ∨ ∃ j, j ≠ i ∧ s.own j = some b := by
  refine or_congr Iff.rfl ?_
  constructor
  · rintro ⟨j, hj⟩
    by_cases hji : j = i
    · rw [hji] at hj
      exact Or.inl hj
    · exact Or.inr ⟨j, hji, hj⟩
  · rintro (hi | ⟨j, -, hj⟩)
    · exact ⟨i, hi⟩
    · exact ⟨j, hj⟩

theorem held_put_iff (i : ι) (pool : Pool) (linked : List Nat) (o : Option Nat) (b : Nat) :
    (s.put i pool linked o).Held b ↔
      b ∈ linked ∨ o = some b ∨ ∃ j, j ≠ i ∧ s.own j = some b := by
  rw [held_iff i, put_own_self]
  refine or_congr Iff.rfl (or_congr Iff.rfl (exists_congr ?_))
  intro j
  refine and_congr_right ?_
  intro hj
  rw [put_own_of_ne _ _ _ _ hj]

/-- **Moves leak nothing, and do not regain what is leaked.** -/
theorem Move.leaked_iff (hm : Move s s') (h : s.Valid) (b : Nat) : s'.Leaked b ↔ s.Leaked b := by
  unfold Leaked
  cases hm with
  | stay => exact Iff.rfl
  | @alloc i hi =>
    rw [held_put_iff, held_iff i, hi]
    show b ∈ insert s.pool.next s.pool.live ∧ _ ↔ _
    by_cases hb : b = s.pool.next
    · subst hb
      refine iff_of_false ?_ fun hl => h.pool.next_not_live hl.1
      rintro ⟨-, hno⟩
      exact hno (Or.inr (Or.inl rfl))
    · have hne : s.pool.alloc.1 ≠ b := Ne.symm hb
      simp [hb, hne]
  | @free i b' hi =>
    rw [held_put_iff, held_iff i, hi]
    show b ∈ s.pool.live.erase b' ∧ _ ↔ _
    by_cases hb : b = b'
    · subst hb
      refine iff_of_false (fun hl => Finset.notMem_erase _ _ hl.1) ?_
      rintro ⟨-, hno⟩
      exact hno (Or.inr (Or.inl rfl))
    · simp [hb, Ne.symm hb]
  | @link i b' hi =>
    rw [held_put_iff, held_iff i, hi]
    show b ∈ s.pool.live ∧ _ ↔ _
    simp [or_assoc, eq_comm]
  | @unlink i k b' hi hb' =>
    obtain ⟨hk, rfl⟩ := List.getElem?_eq_some_iff.mp hb'
    rw [held_put_iff, held_iff i, hi, ← h.linked_nodup.erase_getElem k hk,
      h.linked_nodup.mem_erase_iff]
    show b ∈ s.pool.live ∧ _ ↔ _
    by_cases hb : b = s.linked[k]
    · subst hb
      simp
    · simp [hb, Ne.symm hb]
  | @drain i hi =>
    rw [held_put_iff, held_iff i, hi]
    show b ∈ (s.pool.freeAll s.linked).live ∧ _ ↔ _
    rw [Pool.mem_live_freeAll]
    simp [and_assoc]

theorem Move.complete_iff (hm : Move s s') (h : s.Valid) : s'.Complete ↔ s.Complete :=
  forall_congr' fun b => not_congr (hm.leaked_iff h b)

end Ownership
