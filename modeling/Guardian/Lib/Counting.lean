import Guardian.Lib.Runs
import Mathlib.Algebra.BigOperators.Ring.Finset
import Mathlib.Data.UInt
import Mathlib.Tactic.Abel

/-!
# Counters of an interleaving

* `Interleave.run_counter` : what the shared state counts is what the local states account for, in
  every configuration of every schedule;
* `sum_one_if` : a count of threads as a 64-bit number.
-/

namespace Interleave

variable {σ ι M : Type*} {ℓ : ι → Type*} [DecidableEq ι] [Fintype ι] [AddCommGroup M]

/-- If every step moves the counter `f` by as much as the share `w` of its thread, then the counter has
grown by the shares of all threads. -/
theorem run_counter (step : ∀ i, σ × ℓ i → σ × ℓ i) (f : σ → M) (w : ∀ i, ℓ i → M)
    (hstep : ∀ i s l, f (step i (s, l)).1 + w i l = f s + w i (step i (s, l)).2)
    {c : σ × ∀ i, ℓ i} (hstart : ∀ i, w i (c.2 i) = 0) (schedule : List ι) :
    f (run step c schedule).1 = f c.1 + ∑ i, w i ((run step c schedule).2 i) := by
  apply run_inv step (P := fun c' => f c'.1 = f c.1 + ∑ i, w i (c'.2 i))
  · intro c' i hc'
    have hsum : ∑ j, w j ((exec step c' i).2 j) + w i (c'.2 i) =
        ∑ j, w j (c'.2 j) + w i (step i (c'.1, c'.2 i)).2 := by
      rw [← Finset.add_sum_erase _ _ (Finset.mem_univ i),
        ← Finset.add_sum_erase _ (fun j => w j (c'.2 j)) (Finset.mem_univ i)]
      have hrest : ∑ j ∈ Finset.univ.erase i, w j ((exec step c' i).2 j) =
          ∑ j ∈ Finset.univ.erase i, w j (c'.2 j) := by
        apply Finset.sum_congr rfl
        intro j hj
        simp only [exec, Function.update_of_ne (Finset.ne_of_mem_erase hj)]
      rw [hrest]
      simp only [exec, Function.update_self]
      abel
    have hmove := hstep i c'.1 (c'.2 i)
    have hfinal : f (exec step c' i).1 + w i (c'.2 i) =
        f c.1 + ∑ j, w j ((exec step c' i).2 j) + w i (c'.2 i) := by
      calc f (exec step c' i).1 + w i (c'.2 i)
          = f c'.1 + w i (step i (c'.1, c'.2 i)).2 := hmove
        _ = f c.1 + (∑ j, w j (c'.2 j) + w i (step i (c'.1, c'.2 i)).2) := by rw [hc', add_assoc]
        _ = f c.1 + ∑ j, w j ((exec step c' i).2 j) + w i (c'.2 i) := by rw [← hsum, add_assoc]
    exact add_right_cancel hfinal
  · simp [hstart]

end Interleave

theorem sum_one_if {ι : Type*} [Fintype ι] (p : ι → Prop) [DecidablePred p] :
    ∑ i, (if p i then 1 else 0 : UInt64) = UInt64.ofNat (Finset.univ.filter p).card := by
  let cast : ℕ →+ UInt64 := ⟨⟨UInt64.ofNat, rfl⟩, UInt64.ofNat_add⟩
  calc ∑ i, (if p i then 1 else 0 : UInt64) = ∑ i, cast (if p i then 1 else 0) := by
        apply Finset.sum_congr rfl
        intro i _
        by_cases h : p i
        · rw [if_pos h, if_pos h]
          rfl
        · rw [if_neg h, if_neg h]
          rfl
    _ = cast (∑ i, if p i then 1 else 0) := (map_sum cast _ _).symm
    _ = UInt64.ofNat (Finset.univ.filter p).card := by rw [← Finset.card_filter]; rfl
