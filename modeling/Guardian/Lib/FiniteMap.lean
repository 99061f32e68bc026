import Guardian.Lib.OrderedMap
import Mathlib.Data.Finmap

/-!
# Keyed lists as finite maps

* `KeyedList.Represents key l m` : the first record with key `a` in the list `l` is the value of `a`
  in the finite map `m`, for every `a`;
* `Represents.upsert`, `Represents.remove` : the list operations are the map's insertion and removal;
* `Represents.mem_iff`, `Represents.card` : the keys, and their number.
-/

namespace KeyedList

variable {α κ : Type*} [DecidableEq κ] (key : α → κ)

/-- The list and the map hold the same record under every key. -/
def Represents (l : List α) (m : Finmap fun _ : κ => α) : Prop :=
  ∀ a, l.find? (fun x => key x = a) = m.lookup a

theorem represents_nil : Represents key [] ∅ := by
  intro a
  rw [Finmap.lookup_empty]
  rfl

variable {key} {l : List α} {m : Finmap fun _ : κ => α}

theorem Represents.upsert (h : Represents key l m) (v : α) :
    Represents key (KeyedList.upsert key v l) (m.insert (key v) v) := by
  intro a
  rw [find?_upsert_key]
  by_cases hv : key v = a
  · subst hv
    rw [if_pos rfl, Finmap.lookup_insert]
  · rw [if_neg hv, Finmap.lookup_insert_of_ne m (Ne.symm hv)]
    exact h a

theorem Represents.remove (h : Represents key l m) (hl : (l.map key).Nodup) (a : κ) :
    Represents key (KeyedList.remove key a l) (m.erase a) := by
  intro b
  rw [find?_remove_key key hl]
  by_cases hab : a = b
  · subst hab
    rw [if_pos rfl, Finmap.lookup_erase]
  · rw [if_neg hab, Finmap.lookup_erase_ne (Ne.symm hab)]
    exact h b

theorem Represents.mem_iff (h : Represents key l m) {a : κ} : a ∈ m ↔ a ∈ l.map key := by
  rw [← Finmap.lookup_isSome, ← h a]
  exact isSome_find?_key key

theorem Represents.card (h : Represents key l m) (hl : (l.map key).Nodup) :
    m.keys.card = l.length := by
  have hkeys : m.keys = (l.map key).toFinset := by
    ext a
    rw [Finmap.mem_keys, h.mem_iff, List.mem_toFinset]
  rw [hkeys, List.toFinset_card_of_nodup hl, List.length_map]

end KeyedList
