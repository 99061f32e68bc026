import Guardian.Driver.Managers
import Guardian.Lib.Linearize

/-!
# Caller verification while requests overlap

`GuardianSecurityPolicyVerifyCaller` reads the pinned process id up to three times and writes it once,
and nothing protects it.

* `VerifyPc`, `verifyStep` : a call, one access of the pinned id at a time; `verifyStep_alone`;
* `PinsAlone` : no call finds nothing pinned while another is about to pin its caller;
* `Sound` : what is known of a call from where it is; `verifyStep_commits` : each of its steps is silent
  or decides it;
* `VerifyPc.stepsLeft`, `verifyCalls_returned` : four steps of its own end a call;
* `verifyCaller_linearizable`.
-/

namespace Guardian
open Interleave

/-- Where a call is; `callerSession` is the session of its caller. -/
inductive VerifyPc where
  | start
  /-- at `g_GuardianAllowedServicePid == NULL` -/
  | test (callerSession : UInt32)
  /-- at the assignment -/
  | pin
  /-- at `callerPid == g_GuardianAllowedServicePid` -/
  | compare (callerSession : UInt32)
  /-- at the lookup of the pinned process -/
  | lookup (callerSession : UInt32)
  | returned (status : NTSTATUS)
  deriving DecidableEq

def VerifyPc.result : VerifyPc → Option NTSTATUS
  | .returned status => some status
  | _ => none

/-- The state is the pinned id; `0` is `NULL`. -/
def verifyStep (caller : Caller) : UInt32 × VerifyPc → UInt32 × VerifyPc
  | (pid, .start) =>
    if !caller.irp then (pid, .returned statusAccessDenied)
    else if caller.pid = 0 then (pid, .returned statusAccessDenied)
    else
      match caller.lookupProcess caller.pid with
      | none => (pid, .returned statusAccessDenied)
      | some callerSession => (pid, .test callerSession)
  | (pid, .test callerSession) => if pid = 0 then (pid, .pin) else (pid, .compare callerSession)
  | (_, .pin) => (caller.pid, .returned statusSuccess)
  | (pid, .compare callerSession) =>
    if caller.pid = pid then (pid, .returned statusSuccess) else (pid, .lookup callerSession)
  | (pid, .lookup callerSession) =>
    match caller.lookupProcess pid with
    | none => (pid, .returned statusAccessDenied)
    | some serviceSession =>
      if callerSession = serviceSession then (pid, .returned statusSuccess)
      else (pid, .returned statusAccessDenied)
  | (pid, .returned status) => (pid, .returned status)

/-- The caller has passed the checks that do not look at the pinned id. -/
structure Checked (caller : Caller) (callerSession : UInt32) : Prop where
  irp : caller.irp = true
  pid : caller.pid ≠ 0
  session : caller.lookupProcess caller.pid = some callerSession

theorem verifyStep_start (caller : Caller) (pid : UInt32) :
    (verifyStep caller (pid, .start) = (pid, .returned statusAccessDenied) ∧
      ¬ Admits caller pid) ∨
    ∃ session, verifyStep caller (pid, .start) = (pid, .test session) ∧ Checked caller session := by
  unfold verifyStep
  simp only
  split
  · next h => exact Or.inl ⟨rfl, fun ha => by simp [ha.1] at h⟩
  · next hirp =>
    split
    · next h => exact Or.inl ⟨rfl, fun ha => ha.2.1 h⟩
    · next hpid =>
      cases hl : caller.lookupProcess caller.pid with
      | none =>
        refine Or.inl ⟨rfl, ?_⟩
        rintro ⟨-, -, session, hs, -⟩
        rw [hl] at hs
        cases hs
      | some session => exact Or.inr ⟨session, rfl, by simpa using hirp, hpid, hl⟩

theorem Checked.admits {caller : Caller} {session pid : UInt32} (h : Checked caller session)
    (hp : pid = 0 ∨ caller.pid = pid ∨ caller.lookupProcess pid = some session) :
    Admits caller pid := ⟨h.irp, h.pid, session, h.session, hp⟩

theorem verifyStep_lookup {caller : Caller} {session pid : UInt32} (h : Checked caller session)
    (hp : pid ≠ 0) : verifyStep caller (pid, .lookup session) =
      ((securityPolicyVerifyCaller (some caller) pid).2,
        .returned (securityPolicyVerifyCaller (some caller) pid).1) := by
  unfold verifyStep
  by_cases hs : caller.lookupProcess pid = some session
  · rw [verifyCaller_admits (h.admits (Or.inr (Or.inr hs))), if_neg hp]
    simp only [hs, if_true]
  · have hdeny : ¬ Admits caller pid := by
      rintro ⟨-, -, session', hs', h0 | hown | hsame⟩
      · exact hp h0
      · rw [← hown, h.session] at hs
        exact hs rfl
      · rw [h.session] at hs'
        exact hs (hsame.trans hs'.symm)
    rw [verifyCaller_denies hdeny]
    cases hl : caller.lookupProcess pid with
    | none => simp only [hl]
    | some service =>
      have hne : session ≠ service := fun heq => hs (by rw [hl, heq])
      simp only [hl, if_neg hne]

theorem verifyStep_alone (caller : Caller) (pid : UInt32) :
    (verifyStep caller)^[4] (pid, .start) =
      ((securityPolicyVerifyCaller (some caller) pid).2,
        .returned (securityPolicyVerifyCaller (some caller) pid).1) := by
  have hdone : ∀ n r status,
      (verifyStep caller)^[n] (r, .returned status) = (r, .returned status) := by
    intro n r status
    induction n with
    | zero => rfl
    | succ n ih => rw [Function.iterate_succ_apply, verifyStep, ih]
  rcases verifyStep_start caller pid with ⟨hs, hdeny⟩ | ⟨session, hs, hchecked⟩
  · rw [Function.iterate_succ_apply, hs, hdone, verifyCaller_denies hdeny]
  · rw [Function.iterate_succ_apply, hs, Function.iterate_succ_apply]
    by_cases hp : pid = 0
    · rw [verifyStep, if_pos hp, Function.iterate_succ_apply, verifyStep, hdone,
        verifyCaller_admits (hchecked.admits (Or.inl hp)), if_pos hp]
    · rw [verifyStep, if_neg hp, Function.iterate_succ_apply]
      by_cases hown : caller.pid = pid
      · rw [verifyStep, if_pos hown, hdone,
          verifyCaller_admits (hchecked.admits (Or.inr (Or.inl hown))), if_neg hp]
      · rw [verifyStep, if_neg hown, Function.iterate_one, verifyStep_lookup hchecked hp]

/-! ## Overlapping calls -/

variable {ι : Type} [DecidableEq ι]

/-- The verifications as one call after the other. -/
def verifyCalls (callers : ι → Caller) : Machine UInt32 ι NTSTATUS :=
  ⟨fun pid i => securityPolicyVerifyCaller (some (callers i)) pid⟩

/-- The step does not find nothing pinned while another call is about to pin its caller. -/
def PinsAlone (c : UInt32 × (ι → VerifyPc)) (i : ι) : Prop :=
  ∀ session, c.2 i = .test session → c.1 = 0 → ∀ j, c.2 j ≠ .pin

/-- What a call has found out, where `pid` is pinned. -/
def Sound (caller : Caller) (pid : UInt32) : VerifyPc → Prop
  | .start => True
  | .test session => Checked caller session
  | .pin => pid = 0 ∧ ∃ session, Checked caller session
  | .compare session => pid ≠ 0 ∧ Checked caller session
  | .lookup session => pid ≠ 0 ∧ Checked caller session
  | .returned _ => True

/-- All calls are sound, and one of them at most is about to pin. -/
structure VerifyInv (callers : ι → Caller) (c : UInt32 × (ι → VerifyPc)) (pid : UInt32) : Prop where
  pid_eq : c.1 = pid
  sound : ∀ i, Sound (callers i) c.1 (c.2 i)
  alone : ∀ i j, c.2 i = .pin → c.2 j = .pin → i = j

variable {callers : ι → Caller} {c : UInt32 × (ι → VerifyPc)} {pid : UInt32}

theorem VerifyInv.silent (h : VerifyInv callers c pid) {i : ι} (pc : VerifyPc)
    (hstep : verifyStep (callers i) (c.1, c.2 i) = (c.1, pc)) (hpc : Sound (callers i) c.1 pc)
    (hpin : pc = .pin → ∀ j, c.2 j ≠ .pin) :
    VerifyInv callers (exec (fun i => verifyStep (callers i)) c i) pid := by
  simp only [exec, hstep]
  refine ⟨h.pid_eq, ?_, ?_⟩
  · intro j
    by_cases hj : j = i
    · subst hj
      simp only [Function.update_self]
      exact hpc
    · simp only [Function.update_of_ne hj]
      exact h.sound j
  · intro j k hj hk
    by_cases hji : j = i <;> by_cases hki : k = i
    · rw [hji, hki]
    · subst hji
      simp only [Function.update_self] at hj
      simp only [Function.update_of_ne hki] at hk
      exact absurd hk (hpin hj k)
    · subst hki
      simp only [Function.update_self] at hk
      simp only [Function.update_of_ne hji] at hj
      exact absurd hj (hpin hk j)
    · simp only [Function.update_of_ne hji] at hj
      simp only [Function.update_of_ne hki] at hk
      exact h.alone j k hj hk

theorem VerifyInv.pins (h : VerifyInv callers c pid) {i : ι} (hi : c.2 i = .pin) :
    VerifyInv callers (exec (fun i => verifyStep (callers i)) c i) (callers i).pid := by
  obtain ⟨h0, session, hchecked⟩ : Sound (callers i) c.1 .pin := by
    rw [← hi]
    exact h.sound i
  have hothers : ∀ j, j ≠ i → Sound (callers j) (callers i).pid (c.2 j) ∧ c.2 j ≠ .pin := by
    intro j hj
    have hsound := h.sound j
    refine ⟨?_, fun hjp => hj (h.alone j i hjp hi)⟩
    cases hcj : c.2 j with
    | start | returned status => trivial
    | test session =>
      rw [hcj] at hsound
      exact hsound
    | pin => exact absurd (h.alone j i hcj hi) hj
    | compare session | lookup session =>
      rw [hcj] at hsound
      exact absurd h0 hsound.1
  simp only [exec, hi, verifyStep]
  refine ⟨rfl, ?_, ?_⟩
  · intro j
    by_cases hj : j = i
    · subst hj
      simp only [Function.update_self]
      trivial
    · simp only [Function.update_of_ne hj]
      exact (hothers j hj).1
  · intro j k hj hk
    by_cases hji : j = i
    · subst hji
      simp only [Function.update_self] at hj
      cases hj
    · simp only [Function.update_of_ne hji] at hj
      exact absurd hj (hothers j hji).2

theorem VerifyInv.goesOn (h : VerifyInv callers c pid) {i : ι} (pc : VerifyPc)
    (hstep : verifyStep (callers i) (c.1, c.2 i) = (c.1, pc)) (hpc : Sound (callers i) c.1 pc)
    (hpin : pc = .pin → ∀ j, c.2 j ≠ .pin) (hopen : (c.2 i).result = none)
    (hresult : pc.result = none) :
    StepCommits (fun i => verifyStep (callers i)) (fun _ => VerifyPc.result) (verifyCalls callers)
      (VerifyInv callers) c pid i := by
  refine Or.inl ⟨?_, h.silent pc hstep hpc hpin⟩
  simp only [exec, hstep, Function.update_self]
  rw [hresult, hopen]

theorem VerifyInv.decides (h : VerifyInv callers c pid) {i : ι} (hopen : (c.2 i).result = none)
    (hstep : verifyStep (callers i) (c.1, c.2 i) =
      (c.1, .returned (securityPolicyVerifyCaller (some (callers i)) c.1).1))
    (hkept : (securityPolicyVerifyCaller (some (callers i)) c.1).2 = c.1) :
    StepCommits (fun i => verifyStep (callers i)) (fun _ => VerifyPc.result) (verifyCalls callers)
      (VerifyInv callers) c pid i := by
  obtain rfl := h.pid_eq
  refine Or.inr ⟨hopen, ?_, ?_⟩
  · simp only [exec, hstep, Function.update_self]
    rfl
  · show VerifyInv callers _ (securityPolicyVerifyCaller (some (callers i)) c.1).2
    rw [hkept]
    exact h.silent _ hstep trivial (by simp)

/-- Every step of a call is silent or decides it. -/
theorem verifyStep_commits (h : VerifyInv callers c pid) {i : ι} (hC : PinsAlone c i) :
    StepCommits (fun i => verifyStep (callers i)) (fun _ => VerifyPc.result) (verifyCalls callers)
      (VerifyInv callers) c pid i := by
  have hsound := h.sound i
  cases hpc : c.2 i with
  | start =>
    rcases verifyStep_start (callers i) c.1 with ⟨hs, hdeny⟩ | ⟨session, hs, hchecked⟩
    · have hverify := verifyCaller_denies hdeny
      apply h.decides
      · rw [hpc]
        rfl
      · rw [hpc, hs, hverify]
      · rw [hverify]
    · exact h.goesOn (.test session) (by rw [hpc, hs]) hchecked (by simp) (by rw [hpc]; rfl) rfl
  | test session =>
    rw [hpc] at hsound
    by_cases h0 : c.1 = 0
    · exact h.goesOn .pin (by rw [hpc, verifyStep, if_pos h0]) ⟨h0, session, hsound⟩
        (fun _ => hC session hpc h0) (by rw [hpc]; rfl) rfl
    · exact h.goesOn (.compare session) (by rw [hpc, verifyStep, if_neg h0]) ⟨h0, hsound⟩ (by simp)
        (by rw [hpc]; rfl) rfl
  | pin =>
    rw [hpc] at hsound
    obtain ⟨h0, session, hchecked⟩ := hsound
    have hverify := verifyCaller_admits (hchecked.admits (Or.inl h0))
    rw [if_pos h0] at hverify
    obtain rfl := h.pid_eq
    refine Or.inr ⟨by rw [hpc]; rfl, ?_, ?_⟩
    · simp only [exec, hpc, verifyStep, Function.update_self, verifyCalls, hverify]
      rfl
    · simp only [verifyCalls, hverify]
      exact h.pins hpc
  | compare session =>
    rw [hpc] at hsound
    obtain ⟨h0, hchecked⟩ := hsound
    by_cases hown : (callers i).pid = c.1
    · have hverify := verifyCaller_admits (hchecked.admits (Or.inr (Or.inl hown)))
      rw [if_neg h0] at hverify
      apply h.decides
      · rw [hpc]
        rfl
      · rw [hpc, hverify, verifyStep, if_pos hown]
      · rw [hverify]
    · exact h.goesOn (.lookup session) (by rw [hpc, verifyStep, if_neg hown]) ⟨h0, hchecked⟩
        (by simp) (by rw [hpc]; rfl) rfl
  | lookup session =>
    rw [hpc] at hsound
    obtain ⟨h0, hchecked⟩ := hsound
    have hstep := verifyStep_lookup hchecked h0
    have hkept : (securityPolicyVerifyCaller (some (callers i)) c.1).2 = c.1 := by
      by_cases ha : Admits (callers i) c.1
      · rw [verifyCaller_admits ha, if_neg h0]
      · rw [verifyCaller_denies ha]
    apply h.decides
    · rw [hpc]
      rfl
    · rw [hpc, hstep, hkept]
    · exact hkept
  | returned status =>
    refine Or.inl ⟨?_, h.silent (.returned status) (by rw [hpc, verifyStep]) trivial (by simp)⟩
    simp only [exec, hpc, verifyStep, Function.update_self]

/-- How many steps a call still takes, at most. -/
def VerifyPc.stepsLeft : VerifyPc → Nat
  | .start => 4
  | .test _ => 3
  | .compare _ => 2
  | .pin => 1
  | .lookup _ => 1
  | .returned _ => 0

theorem verifyStep_stepsLeft (caller : Caller) (x : UInt32 × VerifyPc) :
    (verifyStep caller x).2.stepsLeft ≤ x.2.stepsLeft - 1 := by
  obtain ⟨pid, pc⟩ := x
  cases pc with
  | start =>
    rcases verifyStep_start caller pid with ⟨hs, -⟩ | ⟨session, hs, -⟩
    · rw [hs]
      exact Nat.zero_le _
    · rw [hs]
      exact Nat.le_refl _
  | test session =>
    rw [verifyStep]
    split
    · exact Nat.le_succ _
    · exact Nat.le_refl _
  | pin | returned status => exact Nat.le_refl _
  | compare session =>
    rw [verifyStep]
    split
    · exact Nat.zero_le _
    · exact Nat.le_refl _
  | lookup session =>
    rw [verifyStep]
    split
    · exact Nat.le_refl _
    · split <;> exact Nat.le_refl _

theorem VerifyPc.stepsLeft_le (pc : VerifyPc) : pc.stepsLeft ≤ 4 := by
  cases pc <;> simp [stepsLeft]

theorem VerifyPc.returned_of_stepsLeft {pc : VerifyPc} (h : pc.stepsLeft = 0) :
    ∃ status, pc = .returned status := by
  cases pc with
  | returned status => exact ⟨status, rfl⟩
  | _ => cases h

/-- Four steps of its own end a call, whatever the others do between them. -/
theorem verifyCalls_returned {callers : ι → Caller} {c : UInt32 × (ι → VerifyPc)} {schedule : List ι}
    {i : ι} (h : 4 ≤ schedule.count i) :
    ∃ status, (run (fun i => verifyStep (callers i)) c schedule).2 i = .returned status := by
  apply VerifyPc.returned_of_stepsLeft
  apply run_stepsLeft_eq_zero (fun i => verifyStep (callers i)) (fun _ => VerifyPc.stepsLeft)
  · exact fun s i l => verifyStep_stepsLeft (callers i) (s, l)
  · exact Nat.le_trans (c.2 i).stepsLeft_le h

theorem verifyStep_pinned (caller : Caller) {pid : UInt32} (h : pid ≠ 0) {pc : VerifyPc}
    (hpc : pc ≠ .pin) :
    (verifyStep caller (pid, pc)).1 = pid ∧ (verifyStep caller (pid, pc)).2 ≠ .pin := by
  cases pc with
  | start =>
    rcases verifyStep_start caller pid with ⟨hs, -⟩ | ⟨session, hs, -⟩
    · rw [hs]
      exact ⟨rfl, nofun⟩
    · rw [hs]
      exact ⟨rfl, nofun⟩
  | test session =>
    rw [verifyStep, if_neg h]
    exact ⟨rfl, nofun⟩
  | pin => exact absurd rfl hpc
  | compare session =>
    rw [verifyStep]
    split <;> exact ⟨rfl, nofun⟩
  | lookup session =>
    rw [verifyStep]
    split
    · exact ⟨rfl, nofun⟩
    · split <;> exact ⟨rfl, nofun⟩
  | returned status => exact ⟨rfl, nofun⟩

theorem pinned_alone {c : UInt32 × (ι → VerifyPc)} (h : c.1 ≠ 0) (hpin : ∀ i, c.2 i ≠ .pin)
    (schedule : List ι) : Along (fun i => verifyStep (callers i)) PinsAlone c schedule := by
  induction schedule generalizing c with
  | nil => trivial
  | cons i schedule ih =>
    obtain ⟨hpid, hpc⟩ := verifyStep_pinned (callers i) h (hpin i)
    refine ⟨fun _ _ h0 => absurd h0 h, ih ?_ ?_⟩
    · show (verifyStep (callers i) (c.1, c.2 i)).1 ≠ 0
      rw [hpid]
      exact h
    · intro j
      by_cases hj : j = i
      · subst hj
        simp only [exec, Function.update_self]
        exact hpc
      · simp only [exec, Function.update_of_ne hj]
        exact hpin j

/-- **Caller verification takes its calls one at a time while nobody races to be pinned**: where no call
finds nothing pinned while another is about to pin its caller, all calls are answered as if each had
been served alone, in an order that respects who returned before whom began, and what is pinned is what
this order pins. Once a service is pinned that holds of every schedule. No call ever waits: four steps
of its own end it, whatever the others do between them. -/
theorem verifyCaller_linearizable (callers : ι → Caller) (pid : UInt32) :
    Linearizable (fun i => verifyStep (callers i)) PinsAlone (fun _ pc => pc = .start)
        (fun _ => VerifyPc.result) (verifyCalls callers) (fun c pid => c.1 = pid)
        (pid, fun _ => .start) pid ∧
      (pid ≠ 0 → ∀ schedule,
        Along (fun i => verifyStep (callers i)) PinsAlone (pid, fun _ => .start) schedule) ∧
      ∀ (schedule : List ι) i, 4 ≤ schedule.count i →
        ∃ status, (run (fun i => verifyStep (callers i)) (pid, fun _ => .start) schedule).2 i =
          .returned status := by
  refine ⟨?_, fun h => pinned_alone h nofun, fun _ _ => verifyCalls_returned⟩
  · apply linearizable_of_commits _ (VerifyInv callers)
    · intro c t i h hC
      exact verifyStep_commits h hC
    · rintro i l rfl
      rfl
    · intro i l r hr
      exact hr
    · intro c t h
      exact h.pid_eq
    · refine ⟨rfl, fun _ => trivial, ?_⟩
      intro i j hi
      cases hi
    · intro i
      rfl

/-- Two processes, of the sessions 0 and 1. -/
def rivals : Fin 2 → Caller
  | 0 => ⟨true, 4, fun pid => some (if pid = 8 then 1 else 0)⟩
  | 1 => ⟨true, 8, fun pid => some (if pid = 8 then 1 else 0)⟩

/-- Both find nothing pinned, both are let through, and the second one stays pinned: alone, one of them
would have been denied. -/
example : run (fun i => verifyStep (rivals i)) (0, fun _ => .start) [0, 1, 0, 1, 0, 1] =
    (8, fun _ => .returned statusSuccess) := by decide

end Guardian
