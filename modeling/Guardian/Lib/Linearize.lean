import Guardian.Lib.Runs
import Mathlib.Data.List.Infix

/-!
# Calls that take effect one at a time

Threads of an interleaving make one call each; `answer` is what the local state of a thread is bound
to answer, and `S` serves the calls one after the other.

* `Interleave.commits` : the threads of a schedule in the order in which their answers become fixed;
* `Interleave.StepCommits` : a step is silent, or its call takes effect with it;
* `Interleave.commits_spec` : if every step does one or the other, `S` serves the calls in that order;
* `Interleave.Linearizable` : the calls of every schedule take effect in one order, which later steps
  only extend; `linearizable_of_commits`;
* `Interleave.run_map`, `Linearizable.of_map` : threads that do more around the calls.
-/

namespace Interleave

variable {σ ι τ ρ : Type*} {ℓ : ι → Type*} [DecidableEq ι] (step : ∀ i, σ × ℓ i → σ × ℓ i)

section Commits

variable (answer : ∀ i, ℓ i → Option ρ)

/-- The threads of a schedule in the order in which their answers become fixed. -/
def commits (c : σ × ∀ i, ℓ i) : List ι → List ι
  | [] => []
  | i :: schedule =>
    if (answer i (c.2 i)).isNone && (answer i ((exec step c i).2 i)).isSome then
      i :: commits (exec step c i) schedule
    else commits (exec step c i) schedule

theorem commits_append (c : σ × ∀ i, ℓ i) (schedule later : List ι) :
    commits step answer c (schedule ++ later) =
      commits step answer c schedule ++ commits step answer (run step c schedule) later := by
  induction schedule generalizing c with
  | nil => rfl
  | cons i schedule ih =>
    simp only [List.cons_append, commits, run_cons, ih]
    split <;> rfl

variable (S : Machine τ ι ρ) (Rel : σ × (∀ i, ℓ i) → τ → Prop)

/-- The step of thread `i` leaves its answer open or fixed, as it was, or its call takes effect with
the step. -/
def StepCommits (c : σ × ∀ i, ℓ i) (t : τ) (i : ι) : Prop :=
  (answer i ((exec step c i).2 i) = answer i (c.2 i) ∧ Rel (exec step c i) t) ∨
    (answer i (c.2 i) = none ∧ answer i ((exec step c i).2 i) = some (S.step t i).1 ∧
      Rel (exec step c i) (S.step t i).2)

theorem answer_exec_of_ne (c : σ × ∀ i, ℓ i) {i j : ι} (h : j ≠ i) :
    answer j ((exec step c i).2 j) = answer j (c.2 j) := by
  simp only [exec, Function.update_of_ne h]

variable {step answer S Rel} {C : σ × (∀ i, ℓ i) → ι → Prop}

/-- `S` serves the calls in the order of `commits`, with the answers of the threads; whose answer was
fixed already does not occur in it. -/
theorem commits_spec (hstep : ∀ c t i, Rel c t → C c i → StepCommits step answer S Rel c t i)
    {c : σ × ∀ i, ℓ i} {t : τ} (hc : Rel c t) {schedule : List ι} (h : Along step C c schedule) :
    Rel (run step c schedule) (S.final t (commits step answer c schedule)) ∧
      (commits step answer c schedule).Nodup ∧
      (∀ i ∈ commits step answer c schedule, answer i (c.2 i) = none) ∧
      ∀ i r, answer i ((run step c schedule).2 i) = some r ↔
        answer i (c.2 i) = some r ∨ (i, r) ∈ S.trace t (commits step answer c schedule) := by
  induction schedule generalizing c t with
  | nil =>
    refine ⟨hc, List.nodup_nil, fun i hi => absurd hi List.not_mem_nil, fun i r => ?_⟩
    simp [commits]
  | cons i schedule ih =>
    obtain ⟨hC, hrest⟩ := h
    rcases hstep c t i hc hC with ⟨hsame, hrel⟩ | ⟨hopen, hfixed, hrel⟩
    · -- a silent step fixes nobody's answer
      obtain ⟨hfinal, hnodup, hfresh, hanswer⟩ := ih hrel hrest
      have hall : ∀ j, answer j ((exec step c i).2 j) = answer j (c.2 j) := by
        intro j
        by_cases hj : j = i
        · rw [hj, hsame]
        · exact answer_exec_of_ne step answer c hj
      have hskip : commits step answer c (i :: schedule) =
          commits step answer (exec step c i) schedule := by
        rw [commits, if_neg]
        rw [hsame]
        cases answer i (c.2 i) <;> simp
      rw [hskip]
      refine ⟨hfinal, hnodup, fun j hj => (hall j).symm.trans (hfresh j hj), fun j r => ?_⟩
      rw [run_cons, hanswer j r, hall j]
    · -- the call of `i` is the next that `S` serves
      obtain ⟨hfinal, hnodup, hfresh, hanswer⟩ := ih hrel hrest
      have htake : commits step answer c (i :: schedule) =
          i :: commits step answer (exec step c i) schedule := by
        rw [commits, if_pos]
        rw [hopen, hfixed]
        rfl
      have hi : i ∉ commits step answer (exec step c i) schedule := by
        intro hmem
        rw [hfresh i hmem] at hfixed
        cases hfixed
      rw [htake]
      refine ⟨hfinal, List.nodup_cons.mpr ⟨hi, hnodup⟩, ?_, fun j r => ?_⟩
      · intro j hj
        rcases List.mem_cons.mp hj with rfl | hj
        · exact hopen
        · have hne : j ≠ i := fun heq => hi (heq ▸ hj)
          rw [← answer_exec_of_ne step answer c hne]
          exact hfresh j hj
      · rw [run_cons, hanswer j r, Machine.trace_cons, List.mem_cons, ← or_assoc]
        apply or_congr_left
        by_cases hj : j = i
        · subst hj
          rw [hopen, hfixed]
          simp [eq_comm]
        · rw [answer_exec_of_ne step answer c hj]
          simp [hj]

end Commits

/-- The calls of the threads take effect in one order: after every schedule whose steps meet `C`,
`order schedule` lists calls that have begun, each at most once, among them every call that has
returned, with the answers that `S` gives when it serves them in this order; later steps only extend
it, so that a call which returns before another begins comes before it; and `Rel` relates the
configuration to the state that `S` is left in. -/
structure LinearizedBy (C : σ × (∀ i, ℓ i) → ι → Prop) (idle : ∀ i, ℓ i → Prop)
    (returned : ∀ i, ℓ i → Option ρ) (S : Machine τ ι ρ) (Rel : σ × (∀ i, ℓ i) → τ → Prop)
    (c : σ × ∀ i, ℓ i) (t : τ) (order : List ι → List ι) : Prop where
  nodup : ∀ schedule, Along step C c schedule → (order schedule).Nodup
  grows : ∀ schedule later, order schedule <+: order (schedule ++ later)
  begun : ∀ schedule, Along step C c schedule →
    ∀ i, idle i ((run step c schedule).2 i) → i ∉ order schedule
  answered : ∀ schedule, Along step C c schedule →
    ∀ i r, returned i ((run step c schedule).2 i) = some r → (i, r) ∈ S.trace t (order schedule)
  state : ∀ schedule, Along step C c schedule → Rel (run step c schedule) (S.final t (order schedule))

/-- The calls of the threads take effect in some order, see `LinearizedBy`. -/
def Linearizable (C : σ × (∀ i, ℓ i) → ι → Prop) (idle : ∀ i, ℓ i → Prop)
    (returned : ∀ i, ℓ i → Option ρ) (S : Machine τ ι ρ) (Rel : σ × (∀ i, ℓ i) → τ → Prop)
    (c : σ × ∀ i, ℓ i) (t : τ) : Prop :=
  ∃ order, LinearizedBy step C idle returned S Rel c t order

variable {step} {C : σ × (∀ i, ℓ i) → ι → Prop} {idle : ∀ i, ℓ i → Prop}
  {returned answer : ∀ i, ℓ i → Option ρ} {S : Machine τ ι ρ} {Rel Rel' : σ × (∀ i, ℓ i) → τ → Prop}
  {c : σ × ∀ i, ℓ i} {t : τ}

variable (step) in
theorem along_true (c : σ × ∀ i, ℓ i) (schedule : List ι) :
    Along step (fun _ _ => True) c schedule := by
  induction schedule generalizing c with
  | nil => trivial
  | cons i schedule ih => exact ⟨trivial, ih _⟩

variable (answer Rel) in
/-- Threads each of whose steps is silent or commits make linearizable calls. -/
theorem linearizable_of_commits
    (hstep : ∀ c t i, Rel c t → C c i → StepCommits step answer S Rel c t i)
    (hidle : ∀ i l, idle i l → answer i l = none)
    (hreturned : ∀ i l r, returned i l = some r → answer i l = some r)
    (hRel : ∀ c t, Rel c t → Rel' c t) (hc : Rel c t) (hopen : ∀ i, answer i (c.2 i) = none) :
    Linearizable step C idle returned S Rel' c t := by
  refine ⟨commits step answer c, ?_, ?_, ?_, ?_, ?_⟩
  · intro schedule h
    exact (commits_spec hstep hc h).2.1
  · intro schedule later
    rw [commits_append]
    exact List.prefix_append _ _
  · intro schedule h i hi hmem
    obtain ⟨-, -, -, hanswer⟩ := commits_spec hstep hc h
    have hin : i ∈ (S.trace t (commits step answer c schedule)).map Prod.fst := by
      rwa [Machine.map_fst_trace]
    obtain ⟨⟨j, r⟩, hmem', rfl⟩ := List.mem_map.mp hin
    have hsome := (hanswer j r).mpr (Or.inr hmem')
    rw [hidle j _ hi] at hsome
    cases hsome
  · intro schedule h i r hr
    obtain ⟨-, -, -, hanswer⟩ := commits_spec hstep hc h
    rcases (hanswer i r).mp (hreturned i _ r hr) with hstart | hmem
    · rw [hopen i] at hstart
      cases hstart
    · exact hmem
  · intro schedule h
    exact hRel _ _ (commits_spec hstep hc h).1

/-! ## Threads that do more around their calls -/

section Map

variable {σ' : Type*} {ℓ' : ι → Type*} {step' : ∀ i, σ' × ℓ' i → σ' × ℓ' i} {f : σ → σ'}
  {g : ∀ i, ℓ i → ℓ' i}

theorem run_map (hmap : ∀ i s l, step' i (f s, g i l) = (f (step i (s, l)).1, g i (step i (s, l)).2))
    (c : σ × ∀ i, ℓ i) (schedule : List ι) :
    run step' (f c.1, fun i => g i (c.2 i)) schedule =
      (f (run step c schedule).1, fun i => g i ((run step c schedule).2 i)) := by
  induction schedule generalizing c with
  | nil => rfl
  | cons i schedule ih =>
    rw [run_cons, run_cons, ← ih]
    congr 1
    refine Prod.ext ?_ (funext fun j => ?_)
    · simp only [exec, hmap]
    · by_cases hj : j = i
      · subst hj
        simp only [exec, hmap, Function.update_self]
      · simp only [exec, Function.update_of_ne hj]

/-- What the threads do before, between and after the steps of their calls does not matter to them. -/
theorem Linearizable.of_map {idle' : ∀ i, ℓ' i → Prop} {returned' : ∀ i, ℓ' i → Option ρ}
    {Rel' : σ' × (∀ i, ℓ' i) → τ → Prop}
    (h : Linearizable step' (fun _ _ => True) idle' returned' S Rel' (f c.1, fun i => g i (c.2 i)) t)
    (hmap : ∀ i s l, step' i (f s, g i l) = (f (step i (s, l)).1, g i (step i (s, l)).2))
    (hidle : ∀ i l, idle i l → idle' i (g i l))
    (hreturned : ∀ i l r, returned i l = some r → returned' i (g i l) = some r)
    (hRel : ∀ s l t, Rel' (f s, fun i => g i (l i)) t → Rel (s, l) t) :
    Linearizable step (fun _ _ => True) idle returned S Rel c t := by
  obtain ⟨order, h⟩ := h
  refine ⟨order, ?_, h.grows, ?_, ?_, ?_⟩
  · intro schedule _
    exact h.nodup schedule (along_true _ _ _)
  · intro schedule _ i hi
    apply h.begun schedule (along_true _ _ _) i
    rw [run_map hmap]
    exact hidle i _ hi
  · intro schedule _ i r hr
    apply h.answered schedule (along_true _ _ _) i r
    rw [run_map hmap]
    exact hreturned i _ r hr
  · intro schedule _
    have hstate := h.state schedule (along_true _ _ _)
    rw [run_map hmap] at hstate
    exact hRel _ _ _ hstate

end Map

end Interleave
