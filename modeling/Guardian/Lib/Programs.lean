import Guardian.Lib.Locked

/-!
# Programs that call several locked objects

Each thread runs a program: it calls one object after the other and goes on with their answers. It holds
at most one lock at a time.

* `Program` : the calls of a thread and what it does with the answers;
* `ProgramPc`, `lockedStep` : the steps of the calls, each under the lock of its object;
* `atomicStep` : every call served at once;
* `Tracks`, `tracks_step` : every step is silent or serves the next call of its thread;
* `tracks_run` : so every schedule has an order of the calls, one of its sublists, that serves them one
  at a time with the same answers;
* `served_at` : a call that has been answered was served at a moment of that order.
-/

open LockedObject

namespace Interleave

/-! ## Silent steps -/

variable {σ τ ι : Type*} {ℓ ℓ' : ι → Type*} [DecidableEq ι]

/-- Where each step of `step` has no counterpart in `step'`, or one step of the same thread, every
schedule has one of its sublists as counterpart. -/
theorem run_refines {step : ∀ i, σ × ℓ i → σ × ℓ i} {step' : ∀ i, τ × ℓ' i → τ × ℓ' i}
    {R : σ × (∀ i, ℓ i) → τ × (∀ i, ℓ' i) → Prop}
    (hstep : ∀ c d i, R c d → R (exec step c i) d ∨ R (exec step c i) (exec step' d i))
    {c : σ × ∀ i, ℓ i} {d : τ × ∀ i, ℓ' i} (h : R c d) (schedule : List ι) :
    ∃ order : List ι, order.Sublist schedule ∧ R (run step c schedule) (run step' d order) := by
  induction schedule generalizing c d with
  | nil => exact ⟨[], List.Sublist.refl _, h⟩
  | cons i schedule ih =>
    rcases hstep c d i h with hsilent | hserves
    · obtain ⟨order, hsub, hrel⟩ := ih hsilent
      exact ⟨order, hsub.cons i, hrel⟩
    · obtain ⟨order, hsub, hrel⟩ := ih hserves
      exact ⟨i :: order, hsub.cons_cons i, hrel⟩

end Interleave

open Interleave

/-! ## Programs -/

/-- The calls of a thread: it returns, or calls the object `l` and goes on with the answer. -/
inductive Program {Λ : Type*} (κ ρ : Λ → Type*) (α : Type*) where
  | done (a : α)
  | call (l : Λ) (k : κ l) (next : ρ l → Program κ ρ α)

/-- Where a thread is: between two calls, or in a call. -/
inductive ProgramPc {Λ : Type*} (κ μ ρ : Λ → Type*) (α : Type*) where
  | outside (p : Program κ ρ α)
  | calling (l : Λ) (k : κ l) (next : ρ l → Program κ ρ α) (pc : LockPc (ρ l) (μ l))

variable {Λ ι α : Type*} {κ σ μ ρ : Λ → Type*}

/-- What is left of the program: a call whose section is over counts as answered. -/
def ProgramPc.program : ProgramPc κ μ ρ α → Program κ ρ α
  | .outside p => p
  | .calling l k next pc =>
    match pc.answer with
    | some r => next r
    | none => .call l k next

section Steps

variable [DecidableEq Λ] [DecidableEq ι]

/-- One step of thread `i`. -/
def lockedStep (O : ∀ l, LockedObject (κ l) (σ l) (μ l) (ρ l)) (i : ι) :
    (∀ l, Guarded ι (σ l)) × ProgramPc κ μ ρ α → (∀ l, Guarded ι (σ l)) × ProgramPc κ μ ρ α
  | (s, .outside (.done a)) => (s, .outside (.done a))
  | (s, .outside (.call l k next)) => (s, .calling l k next .start)
  | (s, .calling l k next pc) =>
    match pc.result with
    | some r => (s, .outside (next r))
    | none =>
      let b := (O l).step (fun _ => k) i (s l, pc)
      (Function.update s l b.1, .calling l k next b.2)

/-- The next call of a thread, served at once. -/
def atomicStep (serve : ∀ l, σ l → κ l → ρ l × σ l) :
    (∀ l, σ l) × Program κ ρ α → (∀ l, σ l) × Program κ ρ α
  | (t, .done a) => (t, .done a)
  | (t, .call l k next) => (Function.update t l (serve l (t l) k).2, next (serve l (t l) k).1)

end Steps

/-! ## One object of many -/

/-- What a thread looks like to the object `l`: it makes the call `k`, or is about to start one. -/
inductive SeenBy (l : Λ) : ProgramPc κ μ ρ α → κ l → LockPc (ρ l) (μ l) → Prop where
  | outside (p : Program κ ρ α) (k : κ l) : SeenBy l (.outside p) k .start
  | here (k : κ l) (next : ρ l → Program κ ρ α) (pc : LockPc (ρ l) (μ l)) :
      SeenBy l (.calling l k next pc) k pc
  | elsewhere {l' : Λ} (hl : l' ≠ l) (k' : κ l') (next : ρ l' → Program κ ρ α)
      (pc : LockPc (ρ l') (μ l')) (k : κ l) : SeenBy l (.calling l' k' next pc) k .start

theorem SeenBy.own {l : Λ} {k k' : κ l} {next : ρ l → Program κ ρ α} {pc seen : LockPc (ρ l) (μ l)}
    (h : SeenBy l (.calling l k next pc) k' seen) : k' = k ∧ seen = pc := by
  cases h with
  | here => exact ⟨rfl, rfl⟩
  | elsewhere hl => exact absurd rfl hl

theorem SeenBy.other {l l' : Λ} (hl : l' ≠ l) {k' : κ l'} {next : ρ l' → Program κ ρ α}
    {pc : LockPc (ρ l') (μ l')} {k : κ l} {seen : LockPc (ρ l) (μ l)}
    (h : SeenBy l (.calling l' k' next pc) k seen) : seen = .start := by
  cases h with
  | here => exact absurd rfl hl
  | elsewhere => rfl

namespace LockedObject

variable {κ σ μ ρ : Type*} {O : LockedObject κ σ μ ρ} {serve : σ → κ → ρ × σ} {call : ι → κ}

theorem step_congr [DecidableEq ι] {call' : ι → κ} {i : ι} (h : call i = call' i) :
    O.step call i = O.step call' i := by
  funext ⟨s, pc⟩
  cases pc <;> simp only [step, h]

theorem Between.recall [DecidableEq ι] {c : Guarded ι σ × (ι → LockPc ρ μ)} {t : σ}
    (h : Between O serve call c t) {i : ι} (hpc : c.2 i = .start) (k : κ) :
    Between O serve (Function.update call i k) c t := by
  have hother : ∀ j, c.2 j ≠ .start → Function.update call i k j = call j := by
    intro j hj
    apply Function.update_of_ne
    rintro rfl
    exact hj hpc
  refine ⟨?_, h.free, h.holds_iff, ?_, h.release⟩
  · intro j m hj
    rw [hother j (by rw [hj]; simp)]
    exact h.acquire j m hj
  · intro j m hj
    rw [hother j (by rw [hj]; simp)]
    exact h.inside j m hj

theorem Between.silent_or_serves [DecidableEq ι] (hO : O.Atomic serve) {g : Guarded ι σ}
    {pcs : ι → LockPc ρ μ} {t : σ} (h : Between O serve call (g, pcs) t) {i : ι} {k : κ}
    {pc : LockPc ρ μ} (hk : call i = k) (hpc : pcs i = pc) :
    let b := O.step (fun _ => k) i (g, pc)
    (b.2.answer = pc.answer ∧ Between O serve call (b.1, Function.update pcs i b.2) t) ∨
      (pc.answer = none ∧ b.2.answer = some (serve t k).1 ∧
        Between O serve call (b.1, Function.update pcs i b.2) (serve t k).2) := by
  subst hk hpc
  have hstep := between_step hO (g, pcs) t i h
  unfold StepCommits at hstep
  have hsame : O.step call i = O.step (fun _ => call i) i := step_congr rfl
  simp only [exec, Function.update_self, serial, hsame] at hstep
  exact hstep

end LockedObject

/-- The objects and programs `d` are what the threads have made of them: each object is as its calls so
far leave it, and each thread has the rest of its program to run. -/
structure Tracks (O : ∀ l, LockedObject (κ l) (σ l) (μ l) (ρ l)) (serve : ∀ l, σ l → κ l → ρ l × σ l)
    (c : (∀ l, Guarded ι (σ l)) × (ι → ProgramPc κ μ ρ α)) (d : (∀ l, σ l) × (ι → Program κ ρ α)) :
    Prop where
  programs : ∀ i, (c.2 i).program = d.2 i
  objects : ∀ l, ∃ call pcs, (∀ i, SeenBy l (c.2 i) (call i) (pcs i)) ∧
    Between (O l) (serve l) call (c.1 l, pcs) (d.1 l)

variable {O : ∀ l, LockedObject (κ l) (σ l) (μ l) (ρ l)} {serve : ∀ l, σ l → κ l → ρ l × σ l}
  {c : (∀ l, Guarded ι (σ l)) × (ι → ProgramPc κ μ ρ α)} {d : (∀ l, σ l) × (ι → Program κ ρ α)}

theorem tracks_start [∀ l, Inhabited (κ l)] (s : ∀ l, σ l) (programs : ι → Program κ ρ α) :
    Tracks O serve (fun l => ⟨none, s l⟩, fun i => .outside (programs i)) (s, programs) where
  programs := fun _ => rfl
  objects := fun l => ⟨fun _ => default, fun _ => .start, fun _ => .outside _ _,
    between_start (O l) (serve l) (fun _ => default) (s l)⟩

theorem Tracks.free (h : Tracks O serve c d) {l : Λ} (hl : (c.1 l).lock = none) :
    (c.1 l).state = d.1 l := by
  obtain ⟨call, pcs, -, hbetween⟩ := h.objects l
  exact hbetween.free hl

theorem Tracks.holder (h : Tracks O serve c d) {l : Λ} {i : ι} (hlock : (c.1 l).lock = some i) :
    ∃ k next pc, c.2 i = .calling l k next pc := by
  obtain ⟨call, pcs, hpcs, hbetween⟩ := h.objects l
  have hholds := (hbetween.holds_iff i).mpr hlock
  have hseen := hpcs i
  change (pcs i).holds = true at hholds
  generalize c.2 i = pc at hseen ⊢
  generalize call i = k, pcs i = seen at hseen hholds
  cases hseen with
  | here k next pc => exact ⟨_, _, _, rfl⟩
  | outside | elsewhere => cases hholds

variable [DecidableEq ι]

theorem Tracks.outside (h : Tracks O serve c d) {i : ι} {pc : ProgramPc κ μ ρ α}
    (hprogram : pc.program = d.2 i)
    (hseen : ∀ l k seen, SeenBy l (c.2 i) k seen → ∃ k' seen', SeenBy l pc k' seen' ∧
      seen.holds = false ∧ seen' = .start) :
    Tracks O serve (c.1, Function.update c.2 i pc) d := by
  refine ⟨?_, ?_⟩
  · intro j
    by_cases hj : j = i
    · subst hj
      simp only [Function.update_self, hprogram]
    · simp only [Function.update_of_ne hj, h.programs j]
  · intro l
    obtain ⟨call, pcs, hpcs, hbetween⟩ := h.objects l
    obtain ⟨k', seen', hseen', hold, rfl⟩ := hseen l _ _ (hpcs i)
    refine ⟨Function.update call i k', Function.update pcs i .start, ?_, ?_⟩
    · intro j
      by_cases hj : j = i
      · subst hj
        simp only [Function.update_self]
        exact hseen'
      · simp only [Function.update_of_ne hj]
        exact hpcs j
    · have hmoved : Between (O l) (serve l) call (c.1 l, Function.update pcs i .start) (d.1 l) := by
        apply hbetween.outside hold rfl
        intro m hm
        cases hm
      exact hmoved.recall (Function.update_self ..) k'

variable [DecidableEq Λ]

theorem Tracks.calling (h : Tracks O serve c d) {i : ι} {l : Λ} {k : κ l}
    {next : ρ l → Program κ ρ α} {pc pc' : LockPc (ρ l) (μ l)} {g : Guarded ι (σ l)} {t : σ l}
    {p : Program κ ρ α} (hpc : c.2 i = .calling l k next pc)
    (hprogram : (ProgramPc.calling l k next pc').program = p)
    (hbetween : ∀ call pcs, (∀ j, SeenBy l (c.2 j) (call j) (pcs j)) →
      Between (O l) (serve l) call (c.1 l, pcs) (d.1 l) →
      Between (O l) (serve l) call (g, Function.update pcs i pc') t) :
    Tracks O serve (Function.update c.1 l g, Function.update c.2 i (.calling l k next pc'))
      (Function.update d.1 l t, Function.update d.2 i p) := by
  refine ⟨?_, ?_⟩
  · intro j
    by_cases hj : j = i
    · subst hj
      simp only [Function.update_self, hprogram]
    · simp only [Function.update_of_ne hj, h.programs j]
  · intro l'
    obtain ⟨call, pcs, hpcs, hold⟩ := h.objects l'
    by_cases hl : l' = l
    · subst hl
      refine ⟨call, Function.update pcs i pc', ?_, ?_⟩
      · intro j
        by_cases hj : j = i
        · subst hj
          have hseen := hpcs j
          rw [hpc] at hseen
          simp only [Function.update_self, hseen.own.1]
          exact .here _ _ _
        · simp only [Function.update_of_ne hj]
          exact hpcs j
      · simp only [Function.update_self]
        exact hbetween call pcs hpcs hold
    · -- the other objects see nothing of it
      refine ⟨call, pcs, ?_, ?_⟩
      · intro j
        by_cases hj : j = i
        · subst hj
          have hseen := hpcs j
          rw [hpc] at hseen
          simp only [Function.update_self, hseen.other (Ne.symm hl)]
          exact .elsewhere (Ne.symm hl) _ _ _ _
        · simp only [Function.update_of_ne hj]
          exact hpcs j
      · simp only [Function.update_of_ne hl]
        exact hold

theorem Tracks.within (hO : ∀ l, (O l).Atomic (serve l)) (h : Tracks O serve c d) {i : ι} {l : Λ}
    {k : κ l} {next : ρ l → Program κ ρ α} {pc : LockPc (ρ l) (μ l)}
    (hpc : c.2 i = .calling l k next pc) :
    let b := (O l).step (fun _ => k) i (c.1 l, pc)
    let c' := (Function.update c.1 l b.1, Function.update c.2 i (.calling l k next b.2))
    Tracks O serve c' d ∨ Tracks O serve c' (exec (fun _ => atomicStep serve) d i) := by
  intro b c'
  have hprogram : (ProgramPc.calling l k next pc).program = d.2 i := by rw [← hpc, h.programs i]
  have hown : ∀ (call : ι → κ l) (pcs : ι → LockPc (ρ l) (μ l)),
      (∀ j, SeenBy l (c.2 j) (call j) (pcs j)) → call i = k ∧ pcs i = pc := by
    intro call pcs hpcs
    have hseen := hpcs i
    rw [hpc] at hseen
    exact hseen.own
  obtain ⟨call, pcs, hpcs, hbetween⟩ := h.objects l
  obtain ⟨hk, hpci⟩ := hown call pcs hpcs
  rcases hbetween.silent_or_serves (hO l) hk hpci with ⟨hsame, -⟩ | ⟨hnone, hsome, -⟩
  · left
    have hmoved : Tracks O serve c' (Function.update d.1 l (d.1 l), Function.update d.2 i (d.2 i)) := by
      apply h.calling hpc
      · rw [← hprogram]
        simp only [ProgramPc.program, b, hsame]
      · intro call pcs hpcs hbetween
        obtain ⟨hk, hpci⟩ := hown call pcs hpcs
        rcases hbetween.silent_or_serves (hO l) hk hpci with ⟨-, hkept⟩ | ⟨hnone, hsome, -⟩
        · exact hkept
        · rw [hnone, hsome] at hsame
          cases hsame
    rw [Function.update_eq_self, Function.update_eq_self] at hmoved
    exact hmoved
  · right
    have hcall : d.2 i = .call l k next := by
      rw [← hprogram]
      simp only [ProgramPc.program, hnone]
    simp only [exec, hcall, atomicStep]
    apply h.calling hpc
    · simp only [ProgramPc.program, b, hsome]
    · intro call pcs hpcs hbetween
      obtain ⟨hk, hpci⟩ := hown call pcs hpcs
      rcases hbetween.silent_or_serves (hO l) hk hpci with ⟨hsame, -⟩ | ⟨-, -, hserved⟩
      · rw [hnone, hsome] at hsame
        cases hsame
      · exact hserved

/-- **Every step is silent, or it serves the next call of its thread.** -/
theorem tracks_step (hO : ∀ l, (O l).Atomic (serve l)) (h : Tracks O serve c d) (i : ι) :
    Tracks O serve (exec (lockedStep O) c i) d ∨
      Tracks O serve (exec (lockedStep O) c i) (exec (fun _ => atomicStep serve) d i) := by
  have hprogram := h.programs i
  cases hpc : c.2 i with
  | outside p =>
    left
    rw [hpc] at hprogram
    have hstart : ∀ l k seen, SeenBy l (c.2 i) k seen → seen = .start := by
      intro l k seen hseen
      rw [hpc] at hseen
      cases hseen
      rfl
    cases p with
    | done a =>
      simp only [exec, hpc, lockedStep]
      refine h.outside hprogram ?_
      intro l k seen hseen
      rw [hstart l k seen hseen]
      exact ⟨k, .start, .outside _ _, rfl, rfl⟩
    | call l k next =>
      simp only [exec, hpc, lockedStep]
      refine h.outside hprogram ?_
      intro l' k' seen hseen
      rw [hstart l' k' seen hseen]
      by_cases hl : l = l'
      · subst hl
        exact ⟨k, .start, .here _ _ _, rfl, rfl⟩
      · exact ⟨k', .start, .elsewhere hl _ _ _ _, rfl, rfl⟩
  | calling l k next pc =>
    cases hres : pc.result with
    | some r =>
      left
      obtain rfl : pc = .returned r := LockPc.eq_returned hres
      rw [hpc] at hprogram
      simp only [exec, hpc, lockedStep, hres]
      refine h.outside hprogram ?_
      intro l' k' seen hseen
      rw [hpc] at hseen
      refine ⟨k', .start, .outside _ _, ?_, rfl⟩
      by_cases hl : l = l'
      · subst hl
        rw [hseen.own.2]
        rfl
      · rw [hseen.other hl]
        rfl
    | none =>
      simp only [exec, hpc, lockedStep, hres]
      exact h.within hO hpc

/-- **Whatever the schedule, the calls take effect one at a time**, in the order of one of its sublists:
each thread is as far as this order serves its calls, with the same answers. -/
theorem tracks_run (hO : ∀ l, (O l).Atomic (serve l)) (h : Tracks O serve c d) (schedule : List ι) :
    ∃ order : List ι, order.Sublist schedule ∧ Tracks O serve (run (lockedStep O) c schedule)
      (run (fun _ => atomicStep serve) d order) :=
  run_refines (R := Tracks O serve) (fun _ _ i h => tracks_step hO h i) h schedule

/-! ## Calls that have been served -/

theorem done_run {i : ι} {a : α} (h : d.2 i = .done a) (order : List ι) :
    (run (fun _ => atomicStep serve) d order).2 i = .done a := by
  refine run_inv (fun _ => atomicStep serve)
    (P := fun d : (∀ l, σ l) × (ι → Program κ ρ α) => d.2 i = .done a) ?_ h order
  intro d j hd
  by_cases hj : j = i
  · subst hj
    simp only [exec, hd, atomicStep, Function.update_self]
  · simp only [exec, Function.update_of_ne (Ne.symm hj), hd]

theorem done_from {i : ι} {a : α} {order : List ι} {n : Nat}
    (h : (run (fun _ => atomicStep serve) d (order.take n)).2 i = .done a) :
    (run (fun _ => atomicStep serve) d order).2 i = .done a := by
  rw [← List.take_append_drop n order, run_append]
  exact done_run h _

theorem served_first {i : ι} {l : Λ} {k : κ l} {next : ρ l → Program κ ρ α} {a : α}
    (hcall : d.2 i = .call l k next) {order : List ι}
    (hdone : (run (fun _ => atomicStep serve) d order).2 i = .done a) :
    ∃ n < order.length, (run (fun _ => atomicStep serve) d (order.take (n + 1))).2 i =
      next (serve l ((run (fun _ => atomicStep serve) d (order.take n)).1 l) k).1 := by
  induction order generalizing d with
  | nil =>
    rw [run_nil, hcall] at hdone
    cases hdone
  | cons j order ih =>
    by_cases hj : j = i
    · subst hj
      refine ⟨0, by simp, ?_⟩
      simp only [List.take_succ_cons, List.take_zero, run_cons, run_nil, exec, hcall, atomicStep,
        Function.update_self]
    · have hkept : (exec (fun _ => atomicStep serve) d j).2 i = .call l k next := by
        simp only [exec, Function.update_of_ne (Ne.symm hj), hcall]
      obtain ⟨n, hn, hnext⟩ := ih hkept hdone
      exact ⟨n + 1, Nat.succ_lt_succ hn, hnext⟩

/-- A call of a program that has returned was served at some moment since it was next. -/
theorem served_at {i : ι} {l : Λ} {k : κ l} {next : ρ l → Program κ ρ α} {a : α} {order : List ι}
    {m : Nat} (hcall : (run (fun _ => atomicStep serve) d (order.take m)).2 i = .call l k next)
    (hdone : (run (fun _ => atomicStep serve) d order).2 i = .done a) :
    ∃ n, m ≤ n ∧ n < order.length ∧ (run (fun _ => atomicStep serve) d (order.take (n + 1))).2 i =
      next (serve l ((run (fun _ => atomicStep serve) d (order.take n)).1 l) k).1 := by
  have htake : ∀ n, run (fun _ => atomicStep serve) d (order.take (m + n)) =
      run (fun _ => atomicStep serve) (run (fun _ => atomicStep serve) d (order.take m))
        ((order.drop m).take n) := by
    intro n
    rw [List.take_add, run_append]
  have hrest : (run (fun _ => atomicStep serve) (run (fun _ => atomicStep serve) d (order.take m))
      (order.drop m)).2 i = .done a := by
    rw [← run_append, List.take_append_drop, hdone]
  obtain ⟨n, hn, hnext⟩ := served_first hcall hrest
  rw [← htake, ← htake, ← Nat.add_assoc] at hnext
  rw [List.length_drop] at hn
  exact ⟨m + n, by omega, by omega, hnext⟩

/-! ## Every program can return -/

theorem reaches_calling {i : ι} {l : Λ} {k : κ l} (next : ρ l → Program κ ρ α)
    (s : ∀ l, Guarded ι (σ l)) {pc pc' : LockPc (ρ l) (μ l)} {g : Guarded ι (σ l)}
    (h : Reaches ((O l).step (fun _ => k) i) (s l, pc) (g, pc')) :
    Reaches (lockedStep O i) (s, .calling l k next pc)
      (Function.update s l g, .calling l k next pc') := by
  obtain ⟨n, hn⟩ := h
  induction n generalizing s pc with
  | zero =>
    cases hn
    rw [Function.update_eq_self]
    exact Reaches.refl _
  | succ n ih =>
    rw [Function.iterate_succ_apply] at hn
    cases hres : pc.result with
    | some r =>
      obtain rfl := LockPc.eq_returned hres
      exact ih s hn
    | none =>
      apply Reaches.step
      simp only [lockedStep, hres]
      have hrest := ih (Function.update s l ((O l).step (fun _ => k) i (s l, pc)).1)
        (by rw [Function.update_self]; exact hn)
      rw [Function.update_idem] at hrest
      exact hrest

theorem run_of_thread {i : ι} {s : ∀ l, Guarded ι (σ l)} {pc : ProgramPc κ μ ρ α}
    (h : Reaches (lockedStep O i) (c.1, c.2 i) (s, pc)) :
    ∃ schedule, run (lockedStep O) c schedule = (s, Function.update c.2 i pc) := by
  obtain ⟨n, hn⟩ := h
  exact ⟨List.replicate n i, run_replicate_eq _ hn⟩

theorem Tracks.answers (hO : ∀ l, (O l).Atomic (serve l)) (h : Tracks O serve c d) {i : ι} {l : Λ}
    {k : κ l} {next : ρ l → Program κ ρ α} {pc : LockPc (ρ l) (μ l)}
    (hpc : c.2 i = .calling l k next pc) (hlock : (c.1 l).lock = none ∨ (c.1 l).lock = some i) :
    ∃ schedule s r, run (lockedStep O) c schedule =
      (Function.update c.1 l ⟨none, s⟩, Function.update c.2 i (.calling l k next (.returned r))) := by
  obtain ⟨call, pcs, hpcs, hbetween⟩ := h.objects l
  have hseen := hpcs i
  rw [hpc] at hseen
  obtain ⟨hk, hpci⟩ := hseen.own
  obtain ⟨s, r, hreach⟩ := hbetween.reaches_return (hO l) (i := i) hlock
  change Reaches _ (c.1 l, pcs i) _ at hreach
  have hstep : (O l).step call i = (O l).step (fun _ => k) i := step_congr hk
  rw [hpci, hstep] at hreach
  have hcalling := reaches_calling (O := O) next c.1 hreach
  rw [← hpc] at hcalling
  obtain ⟨schedule, hrun⟩ := run_of_thread hcalling
  exact ⟨schedule, s, r, hrun⟩

/-- Every thread in a call can come out of it. -/
theorem Tracks.can_return (hO : ∀ l, (O l).Atomic (serve l)) (h : Tracks O serve c d) {i : ι}
    {l : Λ} {k : κ l} {next : ρ l → Program κ ρ α} {pc : LockPc (ρ l) (μ l)}
    (hpc : c.2 i = .calling l k next pc) :
    ∃ schedule r, (run (lockedStep O) c schedule).2 i = .outside (next r) := by
  have hfree : ∀ c d, Tracks O serve c d → c.2 i = .calling l k next pc →
      (c.1 l).lock = none ∨ (c.1 l).lock = some i →
      ∃ schedule r, (run (lockedStep O) c schedule).2 i = .outside (next r) := by
    intro c d h hpc hlock
    obtain ⟨schedule, s, r, hrun⟩ := h.answers hO hpc hlock
    refine ⟨schedule ++ [i], r, ?_⟩
    simp only [run_append, hrun, run_cons, run_nil, exec, Function.update_self, lockedStep,
      LockPc.result]
  by_cases hlock : (c.1 l).lock = none ∨ (c.1 l).lock = some i
  · exact hfree c d h hpc hlock
  · obtain ⟨j, hj⟩ : ∃ j, (c.1 l).lock = some j := by
      cases hl : (c.1 l).lock with
      | none => exact absurd (Or.inl hl) hlock
      | some j => exact ⟨j, rfl⟩
    have hji : i ≠ j := by
      rintro rfl
      exact hlock (Or.inr hj)
    obtain ⟨kj, nextj, pcj, hpcj⟩ := h.holder hj
    obtain ⟨schedule, s, r, hrun⟩ := h.answers hO hpcj (Or.inr hj)
    obtain ⟨order, -, h'⟩ := tracks_run hO h schedule
    rw [hrun] at h'
    obtain ⟨later, r', hlater⟩ := hfree _ _ h' (by simp only [Function.update_of_ne hji, hpc])
      (Or.inl (by simp only [Function.update_self]))
    exact ⟨schedule ++ later, r', by rw [run_append, hrun, hlater]⟩

/-- **No thread is ever stuck**: whatever the threads have done, each program can still return. -/
theorem Tracks.can_finish (hO : ∀ l, (O l).Atomic (serve l)) (h : Tracks O serve c d) (i : ι) :
    ∃ schedule a, (run (lockedStep O) c schedule).2 i = .outside (.done a) := by
  have houtside : ∀ (p : Program κ ρ α) c d, Tracks O serve c d → c.2 i = .outside p →
      ∃ schedule a, (run (lockedStep O) c schedule).2 i = .outside (.done a) := by
    intro p
    induction p with
    | done a => exact fun c d _ hp => ⟨[], a, hp⟩
    | call l k next ih =>
      intro c d h hp
      obtain ⟨order, -, h'⟩ := tracks_run hO h [i]
      have hcalling : (run (lockedStep O) c [i]).2 i = .calling l k next .start := by
        simp only [run_cons, run_nil, exec, hp, lockedStep, Function.update_self]
      obtain ⟨schedule, r, hreturned⟩ := h'.can_return hO hcalling
      obtain ⟨order', -, h''⟩ := tracks_run hO h' schedule
      obtain ⟨later, a, hdone⟩ := ih r _ _ h'' hreturned
      exact ⟨[i] ++ schedule ++ later, a, by rw [run_append, run_append, hdone]⟩
  cases hpc : c.2 i with
  | outside p => exact houtside p c d h hpc
  | calling l k next pc =>
    obtain ⟨schedule, r, hreturned⟩ := h.can_return hO hpc
    obtain ⟨order, -, h'⟩ := tracks_run hO h schedule
    obtain ⟨later, a, hdone⟩ := houtside _ _ _ h' hreturned
    exact ⟨schedule ++ later, a, by rw [run_append, hdone]⟩
