import Mathlib.Data.List.Nodup
import Mathlib.Data.List.Induction

/-!
# Insertion-ordered maps kept as lists of records

A record carries its own key (`key : α → κ`); a store is the list of its records in the order in
which their keys were first inserted.

* `upsert key v l` : overwrite the record with `v`'s key in place, or append `v`;
* `remove key a l` : drop the first record with key `a`;
* `install key vs` : the list left by inserting `vs` one after the other into an empty store;
* `OrderedMap key` : such a list together with the proof that its keys are pairwise distinct;
* `set_findIdx?`, `append_of_findIdx?`, `eraseIdx_findIdx?` : the same operations as done through
  the position of a found record;
* `find?_upsert_of_found`, `find?_upsert_of_none`, `find?_upsert_of_fresh` : what an insertion does
  to a first-match scan; `find?_upsert_key`, `find?_remove_key` the searches for one key;
* `keys_install`, `find?_install_key` : the installed store lists the keys by their first
  occurrences, each with the record of its last.
-/

namespace KeyedList

variable {α κ : Type*} [DecidableEq κ] (key : α → κ)

/-- Overwrite the first record with `v`'s key in place, or append `v`. -/
def upsert (v : α) : List α → List α
  | [] => [v]
  | x :: xs => if key x = key v then v :: xs else x :: upsert v xs

/-- Drop the first record with key `a`. -/
def remove (a : κ) (l : List α) : List α := l.eraseP (fun x => key x = a)

/-- Insert `vs` in order into the store `l`. -/
def upsertAll (l vs : List α) : List α := vs.foldl (fun l v => upsert key v l) l

/-- The store left by inserting `vs` in order into an empty store. -/
def install (vs : List α) : List α := upsertAll key [] vs

/-! ## Through the position of a found record -/

theorem set_findIdx? {v : α} : ∀ {l : List α} {i : Nat},
    l.findIdx? (fun x => key x = key v) = some i → l.set i v = upsert key v l
  | [], _, h => by simp at h
  | x :: xs, i, h => by
    rw [List.findIdx?_cons] at h
    unfold upsert
    split at h <;> rename_i hx
    · simp only [Option.some.injEq] at h
      subst h
      rw [if_pos (by simpa using hx), List.set_cons_zero]
    · obtain ⟨j, hj, rfl⟩ := Option.map_eq_some_iff.mp h
      rw [if_neg (by simpa using hx), List.set_cons_succ, set_findIdx? hj]

theorem append_of_not_mem {v : α} : ∀ {l : List α}, key v ∉ l.map key → l ++ [v] = upsert key v l
  | [], _ => rfl
  | x :: xs, h => by
    simp only [List.map_cons, List.mem_cons, not_or] at h
    unfold upsert
    rw [if_neg (fun hx => h.1 hx.symm), List.cons_append, append_of_not_mem h.2]

theorem not_mem_of_findIdx? {a : κ} {l : List α} (h : l.findIdx? (fun x => key x = a) = none) :
    a ∉ l.map key := by
  intro ha
  obtain ⟨x, hx, rfl⟩ := List.mem_map.mp ha
  have := List.findIdx?_eq_none_iff.mp h x hx
  simp at this

theorem mem_of_findIdx? {a : κ} {l : List α} {i : Nat}
    (h : l.findIdx? (fun x => key x = a) = some i) : a ∈ l.map key := by
  obtain ⟨hi, hx, -⟩ := List.findIdx?_eq_some_iff_getElem.mp h
  exact List.mem_map.mpr ⟨l[i], List.getElem_mem hi, by simpa using hx⟩

theorem append_of_findIdx? {v : α} {l : List α}
    (h : l.findIdx? (fun x => key x = key v) = none) : l ++ [v] = upsert key v l :=
  append_of_not_mem key (not_mem_of_findIdx? key h)

theorem eraseIdx_findIdx? {a : κ} {l : List α} {i : Nat}
    (h : l.findIdx? (fun x => key x = a) = some i) : l.eraseIdx i = remove key a l := by
  rw [remove, List.eraseP_eq_eraseIdx, h]

/-! ## Keys -/

theorem keys_upsert_of_mem {v : α} : ∀ {l : List α}, key v ∈ l.map key →
    (upsert key v l).map key = l.map key
  | [], h => by simp at h
  | x :: xs, h => by
    unfold upsert
    split
    · next hx => rw [List.map_cons, List.map_cons, hx]
    · next hx =>
      have hxs : key v ∈ xs.map key := by
        rcases List.mem_cons.mp h with h | h
        · exact absurd h.symm hx
        · exact h
      rw [List.map_cons, List.map_cons, keys_upsert_of_mem hxs]

theorem keys_upsert_of_not_mem {v : α} {l : List α} (h : key v ∉ l.map key) :
    (upsert key v l).map key = l.map key ++ [key v] := by
  rw [← append_of_not_mem key h, List.map_append]
  rfl

theorem nodup_upsert {v : α} {l : List α} (h : (l.map key).Nodup) :
    ((upsert key v l).map key).Nodup := by
  by_cases hv : key v ∈ l.map key
  · rwa [keys_upsert_of_mem key hv]
  · rw [keys_upsert_of_not_mem key hv]
    refine List.nodup_append.mpr ⟨h, List.nodup_singleton _, ?_⟩
    rintro a ha b hb rfl
    exact hv (List.mem_singleton.mp hb ▸ ha)

theorem nodup_remove {a : κ} {l : List α} (h : (l.map key).Nodup) :
    ((remove key a l).map key).Nodup :=
  h.sublist ((List.eraseP_sublist).map key)

theorem nodup_upsertAll {l : List α} (vs : List α) (h : (l.map key).Nodup) :
    ((upsertAll key l vs).map key).Nodup := by
  induction vs generalizing l with
  | nil => exact h
  | cons v vs ih => exact ih (nodup_upsert key h)

theorem length_upsert_of_mem {v : α} {l : List α} (h : key v ∈ l.map key) :
    (upsert key v l).length = l.length := by
  rw [← List.length_map (f := key), keys_upsert_of_mem key h, List.length_map]

theorem length_upsert_of_not_mem {v : α} {l : List α} (h : key v ∉ l.map key) :
    (upsert key v l).length = l.length + 1 := by
  rw [← append_of_not_mem key h, List.length_append, List.length_singleton]

theorem length_upsert_le (v : α) (l : List α) : (upsert key v l).length ≤ l.length + 1 := by
  by_cases h : key v ∈ l.map key
  · rw [length_upsert_of_mem key h]; omega
  · exact Nat.le_of_eq (length_upsert_of_not_mem key h)

theorem length_upsertAll_le (vs l : List α) :
    (upsertAll key l vs).length ≤ l.length + vs.length := by
  induction vs generalizing l with
  | nil => exact Nat.le_refl _
  | cons v vs ih =>
    have h1 := ih (upsert key v l)
    have h2 := length_upsert_le key v l
    simp only [upsertAll, List.foldl_cons, List.length_cons] at h1 ⊢
    omega

theorem length_install_le (vs : List α) : (install key vs).length ≤ vs.length := by
  simpa [install] using length_upsertAll_le key vs []

theorem length_remove_of_mem {a : κ} {l : List α} (h : a ∈ l.map key) :
    (remove key a l).length = l.length - 1 := by
  obtain ⟨x, hx, hxa⟩ := List.mem_map.mp h
  exact List.length_eraseP_of_mem hx (by simpa using hxa)

theorem mem_remove {a : κ} {l : List α} (h : (l.map key).Nodup) (x : α) :
    x ∈ remove key a l ↔ x ∈ l ∧ key x ≠ a := by
  induction l with
  | nil => simp [remove]
  | cons y ys ih =>
    simp only [List.map_cons, List.nodup_cons] at h
    by_cases hy : key y = a
    · have hya : ∀ z ∈ ys, key z ≠ a := by
        intro z hz hza
        apply h.1
        rw [hy, ← hza]
        exact List.mem_map_of_mem hz
      rw [remove, List.eraseP_cons_of_pos (by simpa using hy), List.mem_cons]
      constructor
      · intro hx
        exact ⟨Or.inr hx, hya x hx⟩
      · rintro ⟨rfl | hx, hxa⟩
        · exact absurd hy hxa
        · exact hx
    · have hih := ih h.2
      rw [remove] at hih
      rw [remove, List.eraseP_cons_of_neg (by simpa using hy), List.mem_cons, List.mem_cons, hih]
      constructor
      · rintro (rfl | ⟨hx, hxa⟩)
        · exact ⟨Or.inl rfl, hy⟩
        · exact ⟨Or.inr hx, hxa⟩
      · rintro ⟨rfl | hx, hxa⟩
        · exact Or.inl rfl
        · exact Or.inr ⟨hx, hxa⟩

/-! ## Membership -/

theorem mem_upsert {v x : α} {l : List α} (h : x ∈ upsert key v l) : x = v ∨ x ∈ l := by
  induction l with
  | nil => exact Or.inl (List.mem_singleton.mp h)
  | cons y ys ih =>
    unfold upsert at h
    split at h <;> rcases List.mem_cons.mp h with h | h
    · exact Or.inl h
    · exact Or.inr (List.mem_cons_of_mem _ h)
    · exact Or.inr (h ▸ List.mem_cons_self)
    · exact (ih h).imp id (List.mem_cons_of_mem _)

theorem forall_upsert {P : α → Prop} {v : α} {l : List α} (hv : P v) (hl : ∀ x ∈ l, P x) :
    ∀ x ∈ upsert key v l, P x := by
  intro x hx
  rcases mem_upsert key hx with rfl | hx
  · exact hv
  · exact hl x hx

theorem forall_remove {P : α → Prop} {a : κ} {l : List α} (hl : ∀ x ∈ l, P x) :
    ∀ x ∈ remove key a l, P x := fun x hx => hl x (List.mem_of_mem_eraseP hx)

/-! ## First-match scans -/

/-- A scan that stops at another key stops there still, if the overwritten record (if any) would
have stopped it exactly when the new one does. -/
theorem find?_upsert_of_found {v x : α} {p : α → Bool} : ∀ {l : List α},
    (∀ y ∈ l, key y = key v → p y = p v) → key x ≠ key v → l.find? p = some x →
    (upsert key v l).find? p = some x
  | [], _, _, hx => by simp at hx
  | y :: ys, hov, hne, hx => by
    unfold upsert
    cases hy : p y with
    | true =>
      rw [List.find?_cons_of_pos hy, Option.some.injEq] at hx
      subst hx
      rw [if_neg hne, List.find?_cons_of_pos hy]
    | false =>
      have hneg : ¬ p y = true := by rw [hy]; exact Bool.false_ne_true
      rw [List.find?_cons_of_neg hneg] at hx
      split
      · next hk =>
        have hv := hov y List.mem_cons_self hk
        rw [List.find?_cons_of_neg (hv ▸ hneg), hx]
      · rw [List.find?_cons_of_neg hneg]
        exact find?_upsert_of_found (fun z hz => hov z (List.mem_cons_of_mem _ hz)) hne hx

theorem find?_upsert_of_fresh {v x : α} {l : List α} {p : α → Bool} (hv : key v ∉ l.map key)
    (hx : l.find? p = some x) : (upsert key v l).find? p = some x := by
  have hne : ∀ y ∈ l, key y ≠ key v := by
    intro y hy he
    apply hv
    rw [← he]
    exact List.mem_map_of_mem hy
  apply find?_upsert_of_found key _ (hne x (List.mem_of_find?_eq_some hx)) hx
  intro y hy he
  exact absurd he (hne y hy)

theorem find?_upsert_of_none {v : α} {l : List α} {p : α → Bool} (hv : p v = false)
    (hl : l.find? p = none) : (upsert key v l).find? p = none := by
  rw [List.find?_eq_none] at hl ⊢
  refine forall_upsert key ?_ hl
  rw [hv]
  exact Bool.false_ne_true

theorem find?_upsert_of_fresh_none {v : α} {l : List α} {p : α → Bool} (hv : key v ∉ l.map key)
    (hl : l.find? p = none) : (upsert key v l).find? p = if p v then some v else none := by
  rw [← append_of_not_mem key hv, List.find?_append, hl, Option.none_or, List.find?_singleton]

/-! ## Searches by key -/

theorem isSome_find?_key {a : κ} {l : List α} :
    (l.find? (fun x => key x = a)).isSome = true ↔ a ∈ l.map key := by
  simp [List.find?_isSome]

theorem find?_key_eq_some {l : List α} (h : (l.map key).Nodup) {a : κ} {x : α} :
    l.find? (fun y => key y = a) = some x ↔ x ∈ l ∧ key x = a := by
  constructor
  · intro hx
    exact ⟨List.mem_of_find?_eq_some hx, by simpa using List.find?_some hx⟩
  · rintro ⟨hx, rfl⟩
    obtain ⟨y, hy⟩ := Option.isSome_iff_exists.mp
      ((isSome_find?_key key).mpr (List.mem_map_of_mem hx))
    have hyx : key y = key x := by simpa using List.find?_some hy
    rw [hy, List.inj_on_of_nodup_map h (List.mem_of_find?_eq_some hy) hx hyx]

theorem find?_upsert_key (v : α) (a : κ) (l : List α) :
    (upsert key v l).find? (fun x => key x = a) =
      if key v = a then some v else l.find? (fun x => key x = a) := by
  induction l with
  | nil => simp [upsert, List.find?_singleton]
  | cons x xs ih =>
    unfold upsert
    by_cases hx : key x = key v
    · rw [if_pos hx, List.find?_cons, List.find?_cons, hx]
      by_cases hv : key v = a <;> simp [hv]
    · rw [if_neg hx, List.find?_cons, List.find?_cons, ih]
      by_cases ha : key x = a
      · have hv : key v ≠ a := fun hv => hx (ha.trans hv.symm)
        simp [ha, hv]
      · simp [ha]

theorem find?_remove_key {l : List α} (h : (l.map key).Nodup) (a b : κ) :
    (remove key a l).find? (fun x => key x = b) =
      if a = b then none else l.find? (fun x => key x = b) := by
  by_cases hab : a = b
  · subst hab
    rw [if_pos rfl, List.find?_eq_none]
    intro x hx
    simpa using ((mem_remove key h x).mp hx).2
  · rw [if_neg hab]
    clear h
    induction l with
    | nil => rfl
    | cons x xs ih =>
      rw [remove] at ih ⊢
      by_cases hx : key x = a
      · have hxb : ¬ key x = b := fun hxb => hab (hx.symm.trans hxb)
        rw [List.eraseP_cons_of_pos (by simpa using hx), List.find?_cons_of_neg (by simpa using hxb)]
      · rw [List.eraseP_cons_of_neg (by simpa using hx), List.find?_cons, List.find?_cons, ih]

/-! ## The installed store -/

theorem nodup_install (vs : List α) : ((install key vs).map key).Nodup :=
  nodup_upsertAll key vs List.nodup_nil

theorem install_append_singleton (vs : List α) (v : α) :
    install key (vs ++ [v]) = upsert key v (install key vs) := List.foldl_append

/-- The keys are listed in the order of their first occurrences. -/
theorem keys_install [BEq κ] [LawfulBEq κ] (vs : List α) :
    (install key vs).map key = (vs.map key).eraseDups := by
  induction vs using List.reverseRecOn with
  | nil => rfl
  | append_singleton vs v ih =>
    rw [install_append_singleton, List.map_append, List.eraseDups_append, ← ih]
    have hmem : key v ∈ (install key vs).map key ↔ key v ∈ vs.map key := by
      rw [ih, List.mem_eraseDups]
    by_cases hv : key v ∈ vs.map key
    · have hnone : ([v].map key).removeAll (vs.map key) = [] := by
        rw [List.map_singleton, List.cons_removeAll, if_neg (by simpa using hv)]
        rfl
      rw [keys_upsert_of_mem key (hmem.mpr hv), hnone, List.eraseDups_nil, List.append_nil]
    · have hone : ([v].map key).removeAll (vs.map key) = [key v] := by
        rw [List.map_singleton, List.cons_removeAll, if_pos (by simpa using hv)]
        rfl
      rw [keys_upsert_of_not_mem key (mt hmem.mp hv), hone]
      rfl

/-- Each key has the record that was inserted last under it. -/
theorem find?_install_key (vs : List α) (a : κ) :
    (install key vs).find? (fun x => key x = a) = vs.reverse.find? (fun x => key x = a) := by
  induction vs using List.reverseRecOn with
  | nil => rfl
  | append_singleton vs v ih =>
    rw [install_append_singleton, find?_upsert_key, ih, List.reverse_concat, List.find?_cons]
    by_cases hv : key v = a
    · simp only [hv, decide_true, if_true]
    · simp only [hv, decide_false, if_false]

end KeyedList

open KeyedList

/-- A list of records with pairwise distinct keys, in the order the keys were first inserted. -/
@[ext]
structure OrderedMap {α κ : Type*} (key : α → κ) where
  entries : List α
  nodup : (entries.map key).Nodup

namespace OrderedMap

variable {α κ : Type*} {key : α → κ}

def empty : OrderedMap key := ⟨[], List.nodup_nil⟩

def length (m : OrderedMap key) : Nat := m.entries.length

def keys (m : OrderedMap key) : List κ := m.entries.map key

variable [DecidableEq κ]

instance (m : OrderedMap key) (a : κ) : Decidable (a ∈ m.keys) := List.instDecidableMemOfLawfulBEq _ _

def upsert (m : OrderedMap key) (v : α) : OrderedMap key :=
  ⟨KeyedList.upsert key v m.entries, nodup_upsert key m.nodup⟩

def remove (m : OrderedMap key) (a : κ) : OrderedMap key :=
  ⟨KeyedList.remove key a m.entries, nodup_remove key m.nodup⟩

def install (vs : List α) : OrderedMap key :=
  ⟨KeyedList.install key vs, nodup_upsertAll key vs List.nodup_nil⟩

@[simp] theorem entries_upsert (m : OrderedMap key) (v : α) :
    (m.upsert v).entries = KeyedList.upsert key v m.entries := rfl

@[simp] theorem entries_remove (m : OrderedMap key) (a : κ) :
    (m.remove a).entries = KeyedList.remove key a m.entries := rfl

end OrderedMap
