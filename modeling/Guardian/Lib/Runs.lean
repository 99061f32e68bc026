import Mathlib.Logic.Function.Iterate
import Mathlib.Data.List.Basic

/-!
# Runs of a state machine and interleavings of threads

* `Machine σ ε ο` : a total step function on states `σ`, driven by events `ε`, answering outputs
  `ο`; `Machine.final` and `Machine.trace` are the state and the answered events of a run;
* `Machine.final_inv`, `Machine.final_inv_of_mem` : an invariant of every step, or of those that a run
  takes, holds after the run;
* `Machine.final_observe` : a quantity computed from the answered events alone (`observe`) stays
  related to the state if every step keeps it related;
* `Machine.final_countP` : a counter counts the answered events at which it is incremented;
* `Machine.forall_final_take_iff` : where each step either keeps an invariant or not, the runs that
  keep it throughout; `Machine.Along.of_inv` for what the steps of such a run do;
* `Machine.Simulates` : two machines that answer alike and stay related; `Simulates.run`, and
  `Machine.trace_eq_of_mem` for those that do so at some events only;
* `Machine.Unwinds` : events that can be dropped from a run without its other events seeing it;
  `Unwinds.run`;
* `Reaches` : some number of steps of one function leads from a state to another; `Reaches.first` for
  a loop that scans a list;
* `Interleave.exec` : one step of one of many threads over a shared state; `Interleave.run` a whole
  schedule; `Interleave.run_inv`, `Interleave.run_inv_along`, `Interleave.Along.congr_inv` its
  invariant rules; `Interleave.run_iff_along` for what a step loses for good;
  `Interleave.run_stepsLeft`, `Interleave.run_stepsLeft_eq_zero` for how far a thread has come by its own
  steps.
-/

/-- A state machine: each event is answered and moves the state. -/
structure Machine (σ ε ο : Type*) where
  step : σ → ε → ο × σ

namespace Machine

variable {σ σ' ε ο τ : Type*} (M : Machine σ ε ο)

/-- The state after the events `es`. -/
def final (s : σ) : List ε → σ
  | [] => s
  | e :: es => final (M.step s e).2 es

/-- The events `es` with the answers the machine gives to them. -/
def trace (s : σ) : List ε → List (ε × ο)
  | [] => []
  | e :: es => (e, (M.step s e).1) :: trace (M.step s e).2 es

@[simp] theorem final_nil (s : σ) : M.final s [] = s := rfl

@[simp] theorem final_cons (s : σ) (e : ε) (es : List ε) :
    M.final s (e :: es) = M.final (M.step s e).2 es := rfl

@[simp] theorem trace_nil (s : σ) : M.trace s [] = [] := rfl

@[simp] theorem trace_cons (s : σ) (e : ε) (es : List ε) :
    M.trace s (e :: es) = (e, (M.step s e).1) :: M.trace (M.step s e).2 es := rfl

theorem final_take_succ {s : σ} {es : List ε} {n : Nat} {e : ε} (h : es[n]? = some e) :
    M.final s (es.take (n + 1)) = (M.step (M.final s (es.take n)) e).2 := by
  induction n generalizing s es with
  | zero =>
    cases es with
    | nil => cases h
    | cons e' es =>
      obtain rfl : e' = e := by simpa using h
      rfl
  | succ n ih =>
    cases es with
    | nil => cases h
    | cons e' es => exact ih h

/-- An invariant of the steps that a run takes holds after it. -/
theorem final_inv_of_mem (P : σ → Prop) {es : List ε} (hstep : ∀ s, ∀ e ∈ es, P s → P (M.step s e).2)
    {s : σ} (hs : P s) : P (M.final s es) := by
  induction es generalizing s with
  | nil => exact hs
  | cons e es ih =>
    apply ih (fun s e he => hstep s e (List.mem_cons_of_mem _ he))
    exact hstep s e List.mem_cons_self hs

theorem final_inv (P : σ → Prop) (hstep : ∀ s e, P s → P (M.step s e).2) {s : σ} (hs : P s)
    (es : List ε) : P (M.final s es) :=
  M.final_inv_of_mem P (fun s e _ => hstep s e) hs

/-- What is computed from the answered events alone stays related to the state. -/
theorem final_observe (observe : τ → ε × ο → τ) (R : σ → τ → Prop)
    (hstep : ∀ s t e, R s t → R (M.step s e).2 (observe t (e, (M.step s e).1)))
    {s : σ} {t : τ} (h : R s t) (es : List ε) :
    R (M.final s es) ((M.trace s es).foldl observe t) := by
  induction es generalizing s t with
  | nil => exact h
  | cons e es ih => exact ih (hstep s t e h)

theorem map_fst_trace (s : σ) (es : List ε) : (M.trace s es).map Prod.fst = es := by
  induction es generalizing s with
  | nil => rfl
  | cons e es ih => rw [trace_cons, List.map_cons, ih]

theorem length_trace (s : σ) (es : List ε) : (M.trace s es).length = es.length := by
  rw [← List.length_map (f := Prod.fst), map_fst_trace]

theorem countP_trace (p : ε → Bool) (s : σ) (es : List ε) :
    (M.trace s es).countP (fun a => p a.1) = es.countP p := by
  calc (M.trace s es).countP (p ∘ Prod.fst)
      = ((M.trace s es).map Prod.fst).countP p := List.countP_map.symm
    _ = es.countP p := by rw [map_fst_trace]

theorem forall_mem_trace_of_inv {P : σ → Prop} (hstep : ∀ s e, P s → P (M.step s e).2)
    {Q : ε × ο → Prop} (h : ∀ s e, P s → Q (e, (M.step s e).1)) {s : σ} (hs : P s) (es : List ε) :
    ∀ a ∈ M.trace s es, Q a := by
  induction es generalizing s with
  | nil => exact fun a ha => absurd ha List.not_mem_nil
  | cons e es ih =>
    intro a ha
    rcases List.mem_cons.mp ha with rfl | ha
    · exact h s e hs
    · exact ih (hstep s e hs) a ha

theorem forall_mem_trace {P : ε × ο → Prop} (h : ∀ s e, P (e, (M.step s e).1)) (s : σ)
    (es : List ε) : ∀ a ∈ M.trace s es, P a :=
  M.forall_mem_trace_of_inv (P := fun _ => True) (fun _ _ _ => trivial) (fun s e _ => h s e) trivial
    es

/-- A counter that a step increments (by `succ`) exactly when `p` holds of the answered event has
been incremented as often as such events were answered. -/
theorem final_countP {τ : Type*} (c : σ → τ) (succ : τ → τ) (p : ε × ο → Bool)
    (hstep : ∀ s e, c (M.step s e).2 = if p (e, (M.step s e).1) then succ (c s) else c s)
    (s : σ) (es : List ε) : c (M.final s es) = succ^[(M.trace s es).countP p] (c s) := by
  induction es generalizing s with
  | nil => rfl
  | cons e es ih =>
    rw [final_cons, ih, hstep, trace_cons, List.countP_cons]
    cases p (e, (M.step s e).1) with
    | true => rw [if_pos rfl, if_pos rfl, Function.iterate_add_apply, Function.iterate_one]
    | false => rw [if_neg Bool.false_ne_true, if_neg Bool.false_ne_true, Nat.add_zero]

/-- Every step of the run meets the condition `C` on its state and event. -/
def Along (C : σ → ε → Prop) : σ → List ε → Prop
  | _, [] => True
  | s, e :: es => C s e ∧ Along C (M.step s e).2 es

/-- If a step keeps `P` exactly when it meets `C`, then `P` holds in every state of a run iff it
holds at its start and every step meets `C`. -/
theorem forall_final_take_iff {P : σ → Prop} {C : σ → ε → Prop}
    (hstep : ∀ s e, P s → (P (M.step s e).2 ↔ C s e)) (s : σ) (es : List ε) :
    (∀ n, P (M.final s (es.take n))) ↔ P s ∧ M.Along C s es := by
  induction es generalizing s with
  | nil =>
    constructor
    · intro h
      exact ⟨h 0, trivial⟩
    · rintro ⟨hs, -⟩ n
      rwa [List.take_nil]
  | cons e es ih =>
    constructor
    · intro h
      have hs : P s := h 0
      have htail : ∀ n, P (M.final (M.step s e).2 (es.take n)) := fun n => h (n + 1)
      exact ⟨hs, (hstep s e hs).mp (htail 0), ((ih _).mp htail).2⟩
    · rintro ⟨hs, hc, hrest⟩ (_ | n)
      · exact hs
      · exact (ih _).mpr ⟨(hstep s e hs).mpr hc, hrest⟩ n

theorem Along.of_inv {P : σ → Prop} {C D : σ → ε → Prop}
    (hstep : ∀ s e, P s → C s e → P (M.step s e).2) (hD : ∀ s e, P s → D s e)
    {s : σ} (hs : P s) {es : List ε} (h : M.Along C s es) : M.Along D s es := by
  induction es generalizing s with
  | nil => trivial
  | cons e es ih => exact ⟨hD s e hs, ih (hstep s e hs h.1) h.2⟩

/-- `R` relates two machines that answer every event alike and stay related. -/
def Simulates (M : Machine σ ε ο) (N : Machine σ' ε ο) (R : σ → σ' → Prop) : Prop :=
  ∀ s t e, R s t → (M.step s e).1 = (N.step t e).1 ∧ R (M.step s e).2 (N.step t e).2

variable {M} {N : Machine σ' ε ο} {R : σ → σ' → Prop}

/-- Related machines stay related along every run, with the same answers. -/
theorem Simulates.run (h : Simulates M N R) {s : σ} {t : σ'} (hst : R s t) (es : List ε) :
    M.trace s es = N.trace t es ∧ R (M.final s es) (N.final t es) := by
  induction es generalizing s t with
  | nil => exact ⟨rfl, hst⟩
  | cons e es ih =>
    obtain ⟨ho, hr⟩ := h s t e hst
    obtain ⟨ht, hf⟩ := ih hr
    exact ⟨by rw [trace_cons, trace_cons, ho, ht], hf⟩

theorem trace_eq_of_mem {C : ε → Prop} (h : ∀ s t e, C e → R s t →
    (M.step s e).1 = (N.step t e).1 ∧ R (M.step s e).2 (N.step t e).2)
    {s : σ} {t : σ'} (hst : R s t) {es : List ε} (hes : ∀ e ∈ es, C e) :
    M.trace s es = N.trace t es := by
  induction es generalizing s t with
  | nil => rfl
  | cons e es ih =>
    obtain ⟨ho, hr⟩ := h s t e (hes e List.mem_cons_self) hst
    rw [trace_cons, trace_cons, ho, ih hr fun e' he' => hes e' (List.mem_cons_of_mem _ he')]

variable (M) {ω : Type*}

/-- What the events of a run that meet `keep` see of their answers. -/
def seen (keep : ε → Bool) (see : ο → ω) (s : σ) (es : List ε) : List (ε × ω) :=
  ((M.trace s es).filter fun a => keep a.1).map fun a => (a.1, see a.2)

/-- The other events keep related states related, without a counterpart; those that meet `keep` do so
in step, and see the same. -/
structure Unwinds (keep : ε → Bool) (see : ο → ω) (R : σ → σ → Prop) : Prop where
  dropped : ∀ s t e, R s t → keep e = false → R (M.step s e).2 t
  kept : ∀ s t e, R s t → keep e = true →
    see (M.step s e).1 = see (M.step t e).1 ∧ R (M.step s e).2 (M.step t e).2

variable {M}

/-- The kept events of a run see what they see in the run without the other events. -/
theorem Unwinds.run {keep : ε → Bool} {see : ο → ω} {R : σ → σ → Prop} (h : M.Unwinds keep see R)
    {s t : σ} (hst : R s t) (es : List ε) :
    M.seen keep see s es = M.seen keep see t (es.filter keep) ∧
      R (M.final s es) (M.final t (es.filter keep)) := by
  induction es generalizing s t with
  | nil => exact ⟨rfl, hst⟩
  | cons e es ih =>
    cases hk : keep e with
    | false =>
      obtain ⟨hseen, hfinal⟩ := ih (h.dropped s t e hst hk)
      rw [List.filter_cons, if_neg (by simp [hk])]
      refine ⟨?_, hfinal⟩
      rw [← hseen, seen, trace_cons, List.filter_cons, if_neg (by simp [hk])]
      rfl
    | true =>
      obtain ⟨hsee, hr⟩ := h.kept s t e hst hk
      obtain ⟨hseen, hfinal⟩ := ih hr
      rw [List.filter_cons, if_pos hk]
      refine ⟨?_, hfinal⟩
      unfold seen at hseen ⊢
      rw [trace_cons, trace_cons, List.filter_cons, List.filter_cons, if_pos hk, if_pos hk,
        List.map_cons, List.map_cons, hseen, hsee]

end Machine

/-! ## A thread that runs alone -/

/-- Some number of steps `f` leads from `x` to `y`. -/
def Reaches {σ : Type*} (f : σ → σ) (x y : σ) : Prop := ∃ n, f^[n] x = y

namespace Reaches

variable {σ : Type*} {f : σ → σ} {x y z : σ}

theorem refl (x : σ) : Reaches f x x := ⟨0, rfl⟩

theorem step (h : Reaches f (f x) y) : Reaches f x y := by
  obtain ⟨n, hn⟩ := h
  exact ⟨n + 1, hn⟩

theorem trans (hxy : Reaches f x y) (hyz : Reaches f y z) : Reaches f x z := by
  obtain ⟨n, rfl⟩ := hxy
  obtain ⟨m, rfl⟩ := hyz
  exact ⟨m + n, Function.iterate_add_apply f m n x⟩

/-- A loop over a list that stops at the first element with the property `p`, or runs off the end. -/
theorem first {s : σ} {ℓ α : Type*} {f : σ × ℓ → σ × ℓ} {miss : ℓ} (l : List α) (p : α → Bool)
    (head : Nat → ℓ) (hit : Nat → α → ℓ) (hmiss : ∀ k, l[k]? = none → f (s, head k) = (s, miss))
    (hhit : ∀ k a, l[k]? = some a → f (s, head k) = (s, if p a then hit k a else head (k + 1))) :
    (∃ k a, l.findIdx? p = some k ∧ l.find? p = some a ∧ Reaches f (s, head 0) (s, hit k a)) ∨
      (l.findIdx? p = none ∧ l.find? p = none ∧ Reaches f (s, head 0) (s, miss)) := by
  suffices h : ∀ rest k, l.drop k = rest →
      (∃ j a, rest.findIdx? p = some j ∧ rest.find? p = some a ∧
        Reaches f (s, head k) (s, hit (k + j) a)) ∨
      (rest.findIdx? p = none ∧ rest.find? p = none ∧ Reaches f (s, head k) (s, miss)) by
    have hall := h l 0 rfl
    simp only [Nat.zero_add] at hall
    exact hall
  intro rest
  induction rest with
  | nil =>
    intro k hdrop
    have hnone : l[k]? = none := by rw [← List.head?_drop, hdrop, List.head?_nil]
    refine Or.inr ⟨rfl, rfl, Reaches.step ?_⟩
    rw [hmiss k hnone]
    exact Reaches.refl _
  | cons a rest ih =>
    intro k hdrop
    have hsome : l[k]? = some a := by rw [← List.head?_drop, hdrop, List.head?_cons]
    have hnext : l.drop (k + 1) = rest := by rw [← List.tail_drop, hdrop, List.tail_cons]
    have hstep := hhit k a hsome
    cases hp : p a with
    | true =>
      rw [hp, if_pos rfl] at hstep
      refine Or.inl ⟨0, a, by simp [List.findIdx?_cons, hp], by simp [hp], Reaches.step ?_⟩
      rw [hstep]
      exact Reaches.refl _
    | false =>
      rw [hp, if_neg Bool.false_ne_true] at hstep
      rcases ih (k + 1) hnext with ⟨j, b, hidx, hfind, hreach⟩ | ⟨hidx, hfind, hreach⟩
      · refine Or.inl ⟨j + 1, b, by simp [List.findIdx?_cons, hp, hidx], by simp [hp, hfind],
          Reaches.step ?_⟩
        have hk : k + 1 + j = k + (j + 1) := by omega
        rw [hstep, ← hk]
        exact hreach
      · refine Or.inr ⟨by simp [List.findIdx?_cons, hp, hidx], by simp [hp, hfind], Reaches.step ?_⟩
        rw [hstep]
        exact hreach

end Reaches

/-! ## Interleavings -/

namespace Interleave

variable {σ ι : Type*} {ℓ : ι → Type*} [DecidableEq ι]

/-- Thread `i` takes one step: it reads and writes the shared state and its own local state. -/
def exec (step : ∀ i, σ × ℓ i → σ × ℓ i) (c : σ × ∀ i, ℓ i) (i : ι) : σ × ∀ i, ℓ i :=
  let r := step i (c.1, c.2 i)
  (r.1, Function.update c.2 i r.2)

/-- The configuration after the steps of a schedule. -/
def run (step : ∀ i, σ × ℓ i → σ × ℓ i) (c : σ × ∀ i, ℓ i) (schedule : List ι) : σ × ∀ i, ℓ i :=
  schedule.foldl (exec step) c

variable (step : ∀ i, σ × ℓ i → σ × ℓ i)

@[simp] theorem run_nil (c : σ × ∀ i, ℓ i) : run step c [] = c := rfl

@[simp] theorem run_cons (c : σ × ∀ i, ℓ i) (i : ι) (schedule : List ι) :
    run step c (i :: schedule) = run step (exec step c i) schedule := rfl

theorem run_append (c : σ × ∀ i, ℓ i) (schedule schedule' : List ι) :
    run step c (schedule ++ schedule') = run step (run step c schedule) schedule' :=
  List.foldl_append

theorem run_replicate (c : σ × ∀ i, ℓ i) (i : ι) (n : Nat) :
    run step c (List.replicate n i) =
      (((step i)^[n] (c.1, c.2 i)).1, Function.update c.2 i ((step i)^[n] (c.1, c.2 i)).2) := by
  induction n generalizing c with
  | zero => rw [List.replicate_zero, run_nil, Function.iterate_zero_apply, Function.update_eq_self]
  | succ n ih =>
    rw [List.replicate_succ, run_cons, ih, Function.iterate_succ_apply, exec]
    simp only [Function.update_self, Function.update_idem]

theorem run_replicate_eq {c : σ × ∀ i, ℓ i} {i : ι} {n : Nat} {r : σ × ℓ i}
    (h : (step i)^[n] (c.1, c.2 i) = r) :
    run step c (List.replicate n i) = (r.1, Function.update c.2 i r.2) := by
  rw [run_replicate, h]

/-- Every step of the schedule meets the condition `C` on the configuration and the thread. -/
def Along (C : σ × (∀ i, ℓ i) → ι → Prop) : σ × (∀ i, ℓ i) → List ι → Prop
  | _, [] => True
  | c, i :: schedule => C c i ∧ Along C (exec step c i) schedule

theorem run_inv_along {P : σ × (∀ i, ℓ i) → Prop} {C : σ × (∀ i, ℓ i) → ι → Prop}
    (hstep : ∀ c i, P c → C c i → P (exec step c i)) {c : σ × ∀ i, ℓ i} (hc : P c)
    {schedule : List ι} (h : Along step C c schedule) : P (run step c schedule) := by
  induction schedule generalizing c with
  | nil => exact hc
  | cons i schedule ih => exact ih (hstep c i hc h.1) h.2

variable {step}

theorem Along.take {C : σ × (∀ i, ℓ i) → ι → Prop} {c : σ × ∀ i, ℓ i} {schedule : List ι}
    (h : Along step C c schedule) (n : Nat) : Along step C c (schedule.take n) := by
  induction schedule generalizing c n with
  | nil =>
    rw [List.take_nil]
    exact h
  | cons i schedule ih =>
    cases n with
    | zero => trivial
    | succ n => exact ⟨h.1, ih h.2 n⟩

/-- Along a schedule that keeps `P`, conditions that `P` makes equivalent hold alike. -/
theorem Along.congr_inv {P : σ × (∀ i, ℓ i) → Prop} {C D : σ × (∀ i, ℓ i) → ι → Prop}
    (hstep : ∀ c i, P c → C c i → P (exec step c i)) (hiff : ∀ c i, P c → (C c i ↔ D c i))
    {c : σ × ∀ i, ℓ i} (hc : P c) (schedule : List ι) :
    Along step C c schedule ↔ Along step D c schedule := by
  induction schedule generalizing c with
  | nil => exact Iff.rfl
  | cons i schedule ih =>
    constructor
    · rintro ⟨hC, hrest⟩
      exact ⟨(hiff c i hc).mp hC, (ih (hstep c i hc hC)).mp hrest⟩
    · rintro ⟨hD, hrest⟩
      have hC := (hiff c i hc).mpr hD
      exact ⟨hC, (ih (hstep c i hc hC)).mpr hrest⟩

variable (step)

theorem run_inv {P : σ × (∀ i, ℓ i) → Prop} (hstep : ∀ c i, P c → P (exec step c i))
    {c : σ × ∀ i, ℓ i} (hc : P c) (schedule : List ι) : P (run step c schedule) := by
  induction schedule generalizing c with
  | nil => exact hc
  | cons i schedule ih => exact ih (hstep c i hc)

/-- Where each step of a kept `P` keeps `Q` exactly when it meets `C`, and never regains it, the
schedules that keep `Q` are those whose steps all meet `C`. -/
theorem run_iff_along {P Q : σ × (∀ i, ℓ i) → Prop} {C : σ × (∀ i, ℓ i) → ι → Prop}
    (hP : ∀ c i, P c → P (exec step c i)) (hQ : ∀ c i, P c → (Q (exec step c i) ↔ Q c ∧ C c i))
    {c : σ × ∀ i, ℓ i} (hc : P c) (schedule : List ι) :
    Q (run step c schedule) ↔ Q c ∧ Along step C c schedule := by
  induction schedule generalizing c with
  | nil => exact (and_iff_left trivial).symm
  | cons i schedule ih => rw [run_cons, ih (hP c i hc), hQ c i hc, and_assoc, Along]

/-- Where each step of a thread lowers what the thread has left, the steps it takes in a schedule are
counted off, whatever the other threads do in between. -/
theorem run_stepsLeft (left : ∀ i, ℓ i → Nat)
    (hstep : ∀ s i l, left i (step i (s, l)).2 ≤ left i l - 1)
    (c : σ × ∀ i, ℓ i) (schedule : List ι) (i : ι) :
    left i ((run step c schedule).2 i) ≤ left i (c.2 i) - schedule.count i := by
  induction schedule generalizing c with
  | nil => exact Nat.le_refl _
  | cons j schedule ih =>
    have hrest := ih (exec step c j)
    rw [run_cons]
    by_cases hj : j = i
    · subst hj
      have hat : (exec step c j).2 j = (step j (c.1, c.2 j)).2 := Function.update_self ..
      have hone := hstep c.1 j (c.2 j)
      rw [hat] at hrest
      rw [List.count_cons_self]
      omega
    · have hat : (exec step c j).2 i = c.2 i := Function.update_of_ne (Ne.symm hj) ..
      rw [hat] at hrest
      rw [List.count_cons_of_ne hj]
      exact hrest

theorem run_stepsLeft_eq_zero (left : ∀ i, ℓ i → Nat)
    (hstep : ∀ s i l, left i (step i (s, l)).2 ≤ left i l - 1)
    {c : σ × ∀ i, ℓ i} {schedule : List ι} {i : ι} (h : left i (c.2 i) ≤ schedule.count i) :
    left i ((run step c schedule).2 i) = 0 := by
  have hleft := run_stepsLeft step left hstep c schedule i
  omega

end Interleave
