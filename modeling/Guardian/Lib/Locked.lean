import Guardian.Lib.Linearize

/-!
# Calls on an object under a lock

Each thread makes one call: it checks its arguments, takes the lock, works on the object step by step,
releases the lock and returns.

* `LockedObject`, `Guarded`, `LockPc`, `LockedObject.step` : the calls, the object with its lock, the
  points of a call and its steps;
* `Atomic` : a section that nobody disturbs serves its call at once;
* `Between` : what the state between the sections is, while a section runs; `between_step`;
* `Atomic.linearizable` : then the calls of all schedules take effect one at a time;
* `Atomic.returns` : and every call can still return, whatever the others have done.
-/

open Interleave

/-- What a step of a section leads to: the rest of the section, or the answer of the call. -/
inductive Within (ρ μ : Type*) where
  | more (m : μ)
  | done (r : ρ)

/-- The calls on an object: `enter` are the checks before the lock, `body` the steps of the section. -/
structure LockedObject (κ σ μ ρ : Type*) where
  enter : κ → Within ρ μ
  body : κ → σ × μ → σ × Within ρ μ

/-- An object with its lock: the thread that acquired it, or nobody. -/
structure Guarded (ι σ : Type*) where
  lock : Option ι
  state : σ

/-- The next step of a call. -/
inductive LockPc (ρ μ : Type*) where
  | start
  | acquire (m : μ)
  | inside (m : μ)
  | release (r : ρ)
  | returned (r : ρ)

namespace LockPc

variable {ρ μ : Type*}

/-- Where the checks lead. -/
def entered : Within ρ μ → LockPc ρ μ
  | .more m => .acquire m
  | .done r => .returned r

/-- Where a step of the section leads. -/
def continued : Within ρ μ → LockPc ρ μ
  | .more m => .inside m
  | .done r => .release r

/-- The answer of a call whose section is over. -/
def answer : LockPc ρ μ → Option ρ
  | .release r => some r
  | .returned r => some r
  | _ => none

/-- What the call has returned. -/
def result : LockPc ρ μ → Option ρ
  | .returned r => some r
  | _ => none

/-- The call is between its acquisition and its release of the lock. -/
def holds : LockPc ρ μ → Bool
  | .inside _ => true
  | .release _ => true
  | _ => false

theorem eq_returned {pc : LockPc ρ μ} {r : ρ} (h : pc.result = some r) : pc = .returned r := by
  cases pc with
  | returned r' => exact congrArg _ (Option.some.inj h)
  | _ => cases h

end LockPc

namespace LockedObject

variable {κ σ μ ρ ι : Type*} (O : LockedObject κ σ μ ρ)

/-- One step of the call of thread `i`; who finds the lock taken spins. -/
def step [DecidableEq ι] (call : ι → κ) (i : ι) :
    Guarded ι σ × LockPc ρ μ → Guarded ι σ × LockPc ρ μ
  | (s, .start) => (s, .entered (O.enter (call i)))
  | (s, .acquire m) => if s.lock = none then ({ s with lock := some i }, .inside m) else (s, .acquire m)
  | (s, .inside m) =>
    let b := O.body (call i) (s.state, m)
    ({ s with state := b.1 }, .continued b.2)
  | (s, .release r) => ({ s with lock := none }, .returned r)
  | (s, .returned r) => (s, .returned r)

/-- One step of a section that nobody disturbs. -/
def alone (k : κ) : σ × Within ρ μ → σ × Within ρ μ
  | (s, .more m) => O.body k (s, m)
  | (s, .done r) => (s, .done r)

/-- All calls about to start, on a free lock. -/
def start (s : σ) : Guarded ι σ × (ι → LockPc ρ μ) := (⟨none, s⟩, fun _ => .start)

/-- Undisturbed, the section of a call does what `serve` does at once; so does a call that its checks
turn away. -/
structure Atomic (serve : σ → κ → ρ × σ) : Prop where
  rejected : ∀ k r s, O.enter k = .done r → serve s k = (r, s)
  section_ : ∀ k m s, O.enter k = .more m →
    Reaches (O.alone k) (s, .more m) ((serve s k).2, .done (serve s k).1)

/-- The calls of the threads, each served at once. -/
def serial (serve : σ → κ → ρ × σ) (call : ι → κ) : Machine σ ι ρ := ⟨fun s i => serve s (call i)⟩

/-- `t` is the state between the sections: the present one if the lock is free, and else the one that
the section inside the lock started from or, once it is over, has left. -/
structure Between (serve : σ → κ → ρ × σ) (call : ι → κ) (c : Guarded ι σ × (ι → LockPc ρ μ))
    (t : σ) : Prop where
  acquire : ∀ i m, c.2 i = .acquire m → O.enter (call i) = .more m
  free : c.1.lock = none → c.1.state = t
  holds_iff : ∀ i, (c.2 i).holds = true ↔ c.1.lock = some i
  inside : ∀ i m, c.2 i = .inside m → Reaches (O.alone (call i)) (c.1.state, .more m)
    ((serve t (call i)).2, .done (serve t (call i)).1)
  release : ∀ i r, c.2 i = .release r → c.1.state = t

variable {O} {serve : σ → κ → ρ × σ} {call : ι → κ}

theorem alone_done (k : κ) (n : Nat) (s : σ) (r : ρ) :
    (O.alone k)^[n] (s, .done r) = (s, .done r) := Function.iterate_fixed rfl n

theorem reaches_body {k : κ} {s s' : σ} {m : μ} {r : ρ}
    (h : Reaches (O.alone k) (s, .more m) (s', .done r)) :
    Reaches (O.alone k) (O.body k (s, m)) (s', .done r) := by
  obtain ⟨n, hn⟩ := h
  cases n with
  | zero => cases hn
  | succ n => exact ⟨n, hn⟩

theorem reaches_done {k : κ} {s s' : σ} {r r' : ρ}
    (h : Reaches (O.alone k) (s, .done r) (s', .done r')) : s = s' ∧ r = r' := by
  obtain ⟨n, hn⟩ := h
  rw [alone_done] at hn
  cases hn
  exact ⟨rfl, rfl⟩

variable (O serve call) in
theorem between_start (s : σ) : Between O serve call (start s) s where
  acquire := nofun
  free := fun _ => rfl
  holds_iff := fun _ => ⟨nofun, nofun⟩
  inside := nofun
  release := nofun

variable [DecidableEq ι]

/-- A step of thread `i` keeps `Between` if what it does to the lock and the state is right for its own
next point, and leaves them alone while another thread holds the lock. -/
theorem Between.moves {c : Guarded ι σ × (ι → LockPc ρ μ)} {t t' : σ} (h : Between O serve call c t)
    {i : ι} {s : Guarded ι σ} {pc : LockPc ρ μ}
    (hacquire : ∀ m, pc = .acquire m → O.enter (call i) = .more m)
    (hfree : s.lock = none → s.state = t') (hholds : pc.holds = true ↔ s.lock = some i)
    (hothers : ∀ j, j ≠ i → c.1.lock = some j → s = c.1 ∧ t' = t)
    (hgives : ∀ j, j ≠ i → s.lock = some j → c.1.lock = some j)
    (hinside : ∀ m, pc = .inside m → Reaches (O.alone (call i)) (s.state, .more m)
      ((serve t' (call i)).2, .done (serve t' (call i)).1))
    (hrelease : ∀ r, pc = .release r → s.state = t') :
    Between O serve call (s, Function.update c.2 i pc) t' := by
  have hother : ∀ j, j ≠ i → (c.2 j).holds = true → s = c.1 ∧ t' = t :=
    fun j hj hh => hothers j hj ((h.holds_iff j).mp hh)
  have hself : Function.update c.2 i pc i = pc := Function.update_self ..
  have hupd : ∀ j, j ≠ i → Function.update c.2 i pc j = c.2 j :=
    fun j hj => Function.update_of_ne hj ..
  constructor
  · intro j m hj
    by_cases hji : j = i
    · subst hji
      exact hacquire m (hself.symm.trans hj)
    · exact h.acquire j m ((hupd j hji).symm.trans hj)
  · exact hfree
  · intro j
    by_cases hji : j = i
    · subst hji
      simpa only [hself] using hholds
    · simp only [hupd j hji]
      constructor
      · intro hh
        rw [(hother j hji hh).1]
        exact (h.holds_iff j).mp hh
      · intro hlock
        exact (h.holds_iff j).mpr (hgives j hji hlock)
  · intro j m hj
    by_cases hji : j = i
    · subst hji
      exact hinside m (hself.symm.trans hj)
    · have hpc : c.2 j = .inside m := (hupd j hji).symm.trans hj
      obtain ⟨rfl, rfl⟩ := hother j hji (by rw [hpc]; rfl)
      exact h.inside j m hpc
  · intro j r hj
    by_cases hji : j = i
    · subst hji
      exact hrelease r (hself.symm.trans hj)
    · have hpc : c.2 j = .release r := (hupd j hji).symm.trans hj
      obtain ⟨rfl, rfl⟩ := hother j hji (by rw [hpc]; rfl)
      exact h.release j r hpc

theorem Between.outside {c : Guarded ι σ × (ι → LockPc ρ μ)} {t : σ} (h : Between O serve call c t)
    {i : ι} {pc : LockPc ρ μ} (hold : (c.2 i).holds = false) (hnew : pc.holds = false)
    (hacquire : ∀ m, pc = .acquire m → O.enter (call i) = .more m) :
    Between O serve call (c.1, Function.update c.2 i pc) t := by
  apply h.moves hacquire h.free
  · rw [← h.holds_iff i, hold, hnew]
  · exact fun _ _ _ => ⟨rfl, rfl⟩
  · exact fun _ _ hj => hj
  · rintro m rfl
    cases hnew
  · rintro r rfl
    cases hnew

theorem Between.held {c : Guarded ι σ × (ι → LockPc ρ μ)} {t t' : σ} (h : Between O serve call c t)
    {i : ι} {s : σ} {pc : LockPc ρ μ} (hlock : c.1.lock = none ∨ c.1.lock = some i)
    (hnew : pc.holds = true)
    (hinside : ∀ m, pc = .inside m → Reaches (O.alone (call i)) (s, .more m)
      ((serve t' (call i)).2, .done (serve t' (call i)).1))
    (hrelease : ∀ r, pc = .release r → s = t') :
    Between O serve call (⟨some i, s⟩, Function.update c.2 i pc) t' := by
  refine h.moves ?_ ?_ ?_ ?_ ?_ hinside hrelease
  · rintro m rfl
    cases hnew
  · intro hnone
    cases hnone
  · exact ⟨fun _ => rfl, fun _ => hnew⟩
  · intro j hji hj
    rcases hlock with hnone | hsome
    · rw [hnone] at hj
      cases hj
    · exact absurd (Option.some.inj (hj.symm.trans hsome)) hji
  · intro j hji hj
    exact absurd (Option.some.inj hj).symm hji

theorem Between.released {c : Guarded ι σ × (ι → LockPc ρ μ)} {t : σ}
    (h : Between O serve call c t) {i : ι} {r : ρ} (hpc : c.2 i = .release r) :
    Between O serve call (⟨none, c.1.state⟩, Function.update c.2 i (.returned r)) t := by
  have hlock : c.1.lock = some i := (h.holds_iff i).mp (by rw [hpc]; rfl)
  apply h.moves
  · intro m hm
    cases hm
  · exact fun _ => h.release i r hpc
  · exact ⟨fun hh => absurd hh Bool.false_ne_true, fun hh => by cases hh⟩
  · intro j hji hj
    exact absurd (Option.some.inj (hj.symm.trans hlock)) hji
  · intro j hji hj
    cases hj
  · intro m hm
    cases hm
  · intro r' hr
    cases hr

/-- **Every step is silent, or its call takes effect with it**: with the checks that turn it away, or
with the last step of its section. -/
theorem between_step (hO : O.Atomic serve) (c : Guarded ι σ × (ι → LockPc ρ μ)) (t : σ) (i : ι)
    (h : Between O serve call c t) :
    StepCommits (O.step call) (fun _ => LockPc.answer) (serial serve call) (Between O serve call)
      c t i := by
  unfold StepCommits
  simp only [exec, Function.update_self, serial]
  cases hpc : c.2 i with
  | start =>
    simp only [step]
    have hold : (c.2 i).holds = false := by rw [hpc]; rfl
    cases henter : O.enter (call i) with
    | more m =>
      refine Or.inl ⟨rfl, h.outside hold rfl ?_⟩
      rintro m' ⟨⟩
      exact henter
    | done r =>
      rw [hO.rejected _ r t henter]
      refine Or.inr ⟨rfl, rfl, h.outside hold rfl ?_⟩
      intro m hm
      cases hm
  | acquire m =>
    simp only [step]
    have hold : (c.2 i).holds = false := by rw [hpc]; rfl
    by_cases hlock : c.1.lock = none
    · rw [if_pos hlock]
      refine Or.inl ⟨rfl, h.held (Or.inl hlock) rfl ?_ ?_⟩
      · rintro m' ⟨⟩
        rw [h.free hlock]
        exact hO.section_ _ m t (h.acquire i m hpc)
      · intro r hr
        cases hr
    · rw [if_neg hlock]
      refine Or.inl ⟨rfl, h.outside hold rfl ?_⟩
      rintro m' ⟨⟩
      exact h.acquire i m hpc
  | inside m =>
    simp only [step]
    have hlock : c.1.lock = some i := (h.holds_iff i).mp (by rw [hpc]; rfl)
    have hrest := reaches_body (h.inside i m hpc)
    rw [hlock]
    cases hb : O.body (call i) (c.1.state, m) with
    | mk s w =>
      rw [hb] at hrest
      cases w with
      | more m' =>
        refine Or.inl ⟨rfl, h.held (Or.inr hlock) rfl ?_ ?_⟩
        · rintro m'' ⟨⟩
          exact hrest
        · intro r hr
          cases hr
      | done r =>
        obtain ⟨hs, hr⟩ := reaches_done hrest
        subst hs hr
        refine Or.inr ⟨rfl, rfl, h.held (Or.inr hlock) rfl ?_ fun _ _ => rfl⟩
        intro m' hm
        cases hm
  | release r => exact Or.inl ⟨rfl, h.released hpc⟩
  | returned r =>
    have hsame : Function.update c.2 i (.returned r) = c.2 := by rw [← hpc, Function.update_eq_self]
    simp only [step, hsame, true_and]
    exact Or.inl h

/-- **The calls on a locked object take effect one at a time.** Whenever the lock is free, the state is
the one that the calls so far leave in this order. -/
theorem Atomic.linearizable (hO : O.Atomic serve) (call : ι → κ) (s : σ) :
    Linearizable (O.step call) (fun _ _ => True) (fun _ pc => pc = .start) (fun _ => LockPc.result)
      (serial serve call) (fun c t => c.1.lock = none → c.1.state = t) (start s) s := by
  apply linearizable_of_commits (fun _ => LockPc.answer) (Between O serve call)
  · intro c t i h _
    exact between_step hO c t i h
  · rintro i _ rfl
    rfl
  · intro i pc r h
    cases pc <;> first | exact h | cases h
  · intro c t h
    exact h.free
  · exact between_start O serve call s
  · intro i
    rfl

/-! ## Every call can return -/

theorem reaches_returned {i : ι} {s s' : σ} {m : μ} {r : ρ}
    (h : Reaches (O.alone (call i)) (s, .more m) (s', .done r)) :
    Reaches (O.step call i) (⟨some i, s⟩, .inside m) (⟨none, s'⟩, .returned r) := by
  obtain ⟨n, hn⟩ := h
  induction n generalizing s m with
  | zero => cases hn
  | succ n ih =>
    rw [Function.iterate_succ_apply] at hn
    apply Reaches.step
    simp only [step]
    change (O.alone (call i))^[n] (O.body (call i) (s, m)) = _ at hn
    cases hb : O.body (call i) (s, m) with
    | mk s₁ w =>
      rw [hb] at hn
      cases w with
      | more m₁ => exact ih hn
      | done r₁ =>
        rw [alone_done] at hn
        cases hn
        exact Reaches.step (Reaches.refl _)

theorem run_of_reaches {c : Guarded ι σ × (ι → LockPc ρ μ)} {i : ι} {s : Guarded ι σ}
    {pc : LockPc ρ μ} (h : Reaches (O.step call i) (c.1, c.2 i) (s, pc)) :
    ∃ schedule, run (O.step call) c schedule = (s, Function.update c.2 i pc) := by
  obtain ⟨n, hn⟩ := h
  exact ⟨List.replicate n i, run_replicate_eq _ hn⟩

theorem Between.run (hO : O.Atomic serve) {c : Guarded ι σ × (ι → LockPc ρ μ)} {t : σ}
    (h : Between O serve call c t) (schedule : List ι) :
    ∃ t', Between O serve call (run (O.step call) c schedule) t' :=
  ⟨_, (commits_spec (fun c t i h _ => between_step hO c t i h) h (along_true _ c schedule)).1⟩

/-- The holder of the lock can give it back. -/
theorem Between.can_release {c : Guarded ι σ × (ι → LockPc ρ μ)} {t : σ}
    (h : Between O serve call c t) :
    ∃ schedule, (Interleave.run (O.step call) c schedule).1.lock = none := by
  cases hlock : c.1.lock with
  | none => exact ⟨[], hlock⟩
  | some i =>
    have hholds := (h.holds_iff i).mpr hlock
    have hstate : c.1 = ⟨some i, c.1.state⟩ := by rw [← hlock]
    cases hpc : c.2 i with
    | start | acquire m | returned r =>
      rw [hpc] at hholds
      cases hholds
    | release r =>
      refine ⟨[i], ?_⟩
      simp only [run_cons, run_nil, exec, hpc, step]
    | inside m =>
      have hreach := reaches_returned (h.inside i m hpc)
      rw [← hstate, ← hpc] at hreach
      obtain ⟨schedule, hrun⟩ := run_of_reaches hreach
      exact ⟨schedule, by rw [hrun]⟩

/-- On a lock that is free or its own, a call that runs alone returns, with the lock free. -/
theorem Between.reaches_return (hO : O.Atomic serve) {c : Guarded ι σ × (ι → LockPc ρ μ)} {t : σ}
    (h : Between O serve call c t) {i : ι} (hlock : c.1.lock = none ∨ c.1.lock = some i) :
    ∃ s r, Reaches (O.step call i) (c.1, c.2 i) (⟨none, s⟩, .returned r) := by
  have hfree : ∀ pc, c.2 i = pc → pc.holds = false → c.1 = ⟨none, c.1.state⟩ := by
    rintro pc rfl hpc
    rcases hlock with hnone | hsome
    · rw [← hnone]
    · rw [(h.holds_iff i).mpr hsome] at hpc
      cases hpc
  have hacquire : ∀ m, c.1 = ⟨none, c.1.state⟩ → O.enter (call i) = .more m →
      ∃ s r, Reaches (O.step call i) (c.1, .acquire m) (⟨none, s⟩, .returned r) := by
    intro m hc henter
    have hsection := reaches_returned (i := i) (hO.section_ _ m c.1.state henter)
    have hfirst : O.step call i (c.1, .acquire m) = (⟨some i, c.1.state⟩, .inside m) := by
      rw [hc]
      rfl
    rw [← hfirst] at hsection
    exact ⟨_, _, hsection.step⟩
  cases hpc : c.2 i with
  | start =>
    cases henter : O.enter (call i) with
    | more m =>
      obtain ⟨s, r, hr⟩ := hacquire m (hfree _ hpc rfl) henter
      refine ⟨s, r, Reaches.step ?_⟩
      simp only [step, henter]
      exact hr
    | done r =>
      refine ⟨c.1.state, r, Reaches.step ?_⟩
      simp only [step, henter, ← hfree _ hpc rfl]
      exact Reaches.refl _
  | acquire m => exact hacquire m (hfree _ hpc rfl) (h.acquire i m hpc)
  | inside m =>
    have hsome : c.1.lock = some i := (h.holds_iff i).mp (by rw [hpc]; rfl)
    have hstate : c.1 = ⟨some i, c.1.state⟩ := by rw [← hsome]
    rw [hstate]
    exact ⟨_, _, reaches_returned (h.inside i m hpc)⟩
  | release r => exact ⟨_, r, Reaches.step (Reaches.refl _)⟩
  | returned r =>
    refine ⟨c.1.state, r, ?_⟩
    rw [← hfree _ hpc rfl]
    exact Reaches.refl _

/-- **Whatever the threads have done, every call can still return.** -/
theorem Atomic.returns (hO : O.Atomic serve) (call : ι → κ) (s : σ) (schedule : List ι) (i : ι) :
    ∃ later r, (Interleave.run (O.step call) (start s) (schedule ++ later)).2 i = .returned r := by
  obtain ⟨t, h⟩ := (between_start O serve call s).run hO schedule
  obtain ⟨unlock, hlock⟩ := h.can_release
  obtain ⟨t', h'⟩ := h.run hO unlock
  obtain ⟨s', r, hr⟩ := h'.reaches_return hO (Or.inl hlock) (i := i)
  obtain ⟨later, hlater⟩ := run_of_reaches hr
  refine ⟨unlock ++ later, r, ?_⟩
  rw [run_append, run_append, hlater]
  exact Function.update_self ..

end LockedObject
