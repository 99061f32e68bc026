import Guardian.Enforce.KillSwitch
import Guardian.Lib.Locked

/-!
# The kill switch under its lock

Set writes the mode and then the VPN interface, Evaluate reads the mode and then the VPN interface, on
any number of processors at once and each under `g_KillSwitchLock`.

* `KillSwitchCall`, `killSwitchObject`, `killSwitchServe` : the calls, step by step and at once;
* `killSwitch_atomic` : a section that nobody disturbs serves its call at once;
* `killSwitch_verdicts` : every verdict is that of one request, with its own mode and its own interface;
* `killSwitch_linearizable` : the calls take effect one at a time and none is ever stuck.
-/

namespace Guardian
open KillSwitchMode Interleave LockedObject

inductive KillSwitchCall where
  | set (config : Option KillSwitchV1)
  | evaluate (interfaceLuid : UInt64)

inductive KillSwitchAnswer where
  | set (status : NTSTATUS)
  | evaluate (action : Option ClassifyAction)
  deriving DecidableEq

/-- The next access of a section to the statics. -/
inductive KillSwitchAccess where
  | writeMode (mode : KillSwitchMode) (vpnInterfaceLuid : UInt64)
  | writeLuid (vpnInterfaceLuid : UInt64)
  | readMode (interfaceLuid : UInt64)
  | readLuid (interfaceLuid : UInt64) (mode : KillSwitchMode)

/-- Up to the lock. -/
def killSwitchEnter : KillSwitchCall → Within KillSwitchAnswer KillSwitchAccess
  | .set none => .done (.set statusInvalidParameter)
  | .set (some config) =>
    if config.version ≠ killSwitchVersion then .done (.set statusInvalidParameter)
    else
      match ofUInt32 config.mode with
      | none => .done (.set statusInvalidParameter)
      | some .restore => .more (.writeMode off 0)
      | some mode => .more (.writeMode mode config.vpnInterfaceLuid)
  | .evaluate interfaceLuid => .more (.readMode interfaceLuid)

/-- One access; Evaluate decides on what it has read. -/
def killSwitchBody (s : KillSwitchState) :
    KillSwitchAccess → KillSwitchState × Within KillSwitchAnswer KillSwitchAccess
  | .writeMode mode vpnInterfaceLuid => ({ s with mode := mode }, .more (.writeLuid vpnInterfaceLuid))
  | .writeLuid vpnInterfaceLuid =>
    ({ s with vpnInterfaceLuid := vpnInterfaceLuid }, .done (.set statusSuccess))
  | .readMode interfaceLuid => (s, .more (.readLuid interfaceLuid s.mode))
  | .readLuid interfaceLuid mode =>
    (s, .done (.evaluate (killSwitchEvaluate interfaceLuid ⟨mode, s.vpnInterfaceLuid⟩)))

def killSwitchObject :
    LockedObject KillSwitchCall KillSwitchState KillSwitchAccess KillSwitchAnswer where
  enter := killSwitchEnter
  body := fun _ p => killSwitchBody p.1 p.2

/-- A call that takes effect at once. -/
def killSwitchServe (s : KillSwitchState) : KillSwitchCall → KillSwitchAnswer × KillSwitchState
  | .set config => (.set (killSwitchSet config s).1, (killSwitchSet config s).2)
  | .evaluate interfaceLuid => (.evaluate (killSwitchEvaluate interfaceLuid s), s)

theorem reaches_write (k : KillSwitchCall) (s : KillSwitchState) (mode : KillSwitchMode)
    (vpnInterfaceLuid : UInt64) :
    Reaches (killSwitchObject.alone k) (s, .more (.writeMode mode vpnInterfaceLuid))
      (⟨mode, vpnInterfaceLuid⟩, .done (.set statusSuccess)) :=
  ⟨2, rfl⟩

theorem killSwitch_atomic : killSwitchObject.Atomic killSwitchServe where
  rejected := by
    intro k r s h
    cases k with
    | evaluate luid => cases h
    | set config =>
      cases config with
      | none =>
        cases h
        rfl
      | some config =>
        simp only [killSwitchObject, killSwitchEnter, killSwitchServe, killSwitchSet] at h ⊢
        by_cases hv : config.version = killSwitchVersion
        · simp only [hv, ne_eq, not_true_eq_false, if_false] at h ⊢
          cases hm : ofUInt32 config.mode with
          | none =>
            rw [hm] at h
            cases h
            rfl
          | some mode =>
            rw [hm] at h
            cases mode <;> cases h
        · simp only [hv, ne_eq, not_false_eq_true, if_true] at h ⊢
          cases h
          rfl
  section_ := by
    intro k m s h
    cases k with
    | evaluate luid =>
      cases h
      exact ⟨2, rfl⟩
    | set config =>
      cases config with
      | none => cases h
      | some config =>
        simp only [killSwitchObject, killSwitchEnter, killSwitchServe, killSwitchSet] at h ⊢
        by_cases hv : config.version = killSwitchVersion
        · simp only [hv, ne_eq, not_true_eq_false, if_false] at h ⊢
          cases hm : ofUInt32 config.mode with
          | none =>
            rw [hm] at h
            cases h
          | some mode =>
            rw [hm] at h
            cases mode <;> cases h <;> exact reaches_write _ s _ _
        · simp only [hv, ne_eq, not_false_eq_true, if_true] at h
          cases h

/-! ## Whole verdicts -/

/-- The kill switch is the initial one or what one accepted request of the threads `threads` puts in
force. -/
def OfOneRequest {ι : Type} (call : ι → KillSwitchCall) (s₀ : KillSwitchState) (threads : List ι)
    (verdict : UInt64 → Option ClassifyAction) : Prop :=
  (∀ luid, verdict luid = killSwitchEvaluate luid s₀) ∨
    ∃ i ∈ threads, ∃ config mode, call i = .set (some config) ∧ ofUInt32 config.mode = some mode ∧
      ∀ luid, verdict luid = KillSwitchRequest.verdict ⟨mode, config.vpnInterfaceLuid⟩ luid

variable {ι : Type}

theorem killSwitchServe_ofOneRequest {call : ι → KillSwitchCall} {s₀ s : KillSwitchState}
    {threads : List ι} {i : ι} (hi : i ∈ threads)
    (h : OfOneRequest call s₀ threads fun luid => killSwitchEvaluate luid s) :
    OfOneRequest call s₀ threads fun luid =>
      killSwitchEvaluate luid (killSwitchServe s (call i)).2 := by
  cases hcall : call i with
  | evaluate luid => exact h
  | set config =>
    simp only [killSwitchServe]
    cases hs : ntSuccess (killSwitchSet config s).1 with
    | false =>
      rw [killSwitchSet_failed hs]
      exact h
    | true =>
      obtain ⟨c, mode, rfl, hmode, henforces, -⟩ := killSwitchSet_accepted hs
      exact Or.inr ⟨i, hi, c, mode, hcall, hmode, henforces⟩

theorem served_verdicts (call : ι → KillSwitchCall) (s₀ : KillSwitchState) {threads order : List ι}
    (horder : ∀ i ∈ order, i ∈ threads) {s : KillSwitchState}
    (h : OfOneRequest call s₀ threads fun luid => killSwitchEvaluate luid s) {i : ι} {luid : UInt64}
    {action : Option ClassifyAction} (hcall : call i = .evaluate luid)
    (hmem : (i, .evaluate action) ∈ (serial killSwitchServe call).trace s order) :
    ∃ verdict, OfOneRequest call s₀ threads verdict ∧ action = verdict luid := by
  induction order generalizing s with
  | nil => cases hmem
  | cons j order ih =>
    have hj : j ∈ threads := horder j List.mem_cons_self
    rw [Machine.trace_cons, List.mem_cons] at hmem
    rcases hmem with heq | hmem
    · obtain ⟨rfl, hans⟩ := Prod.mk.inj heq
      simp only [serial, hcall, killSwitchServe, KillSwitchAnswer.evaluate.injEq] at hans
      exact ⟨_, h, hans⟩
    · exact ih (fun i hi => horder i (List.mem_cons_of_mem _ hi)) (killSwitchServe_ofOneRequest hj h)
        hmem

variable [DecidableEq ι]

/-- Every verdict, however the calls interleave, is that of the initial kill switch or of one request
that has begun. -/
theorem killSwitch_verdicts {call : ι → KillSwitchCall} {s₀ : KillSwitchState} {schedule : List ι}
    {i : ι} {luid : UInt64} {action : Option ClassifyAction} (hcall : call i = .evaluate luid)
    (hret : (run (killSwitchObject.step call) (start s₀) schedule).2 i =
      .returned (.evaluate action)) :
    ∃ threads verdict,
      (∀ j ∈ threads, (run (killSwitchObject.step call) (start s₀) schedule).2 j ≠ .start) ∧
      OfOneRequest call s₀ threads verdict ∧ action = verdict luid := by
  obtain ⟨order, h⟩ := killSwitch_atomic.linearizable call s₀
  have halong := along_true (killSwitchObject.step call) (start s₀) schedule
  have hans := h.answered schedule halong i (.evaluate action) (by rw [hret]; rfl)
  obtain ⟨verdict, hone, hverdict⟩ := served_verdicts call s₀
    (fun j (hj : j ∈ order schedule) => hj) (Or.inl fun _ => rfl) hcall hans
  exact ⟨_, verdict, fun j hj hstart => h.begun schedule halong j hstart hj, hone, hverdict⟩

/-- **The kill switch takes its calls one at a time**: Sets and Evaluates on any processors, step by
step, are linearizable; so every verdict is that of one request, with the mode and the interface that
were asked for together; and no call is ever stuck. -/
theorem killSwitch_linearizable (call : ι → KillSwitchCall) (s₀ : KillSwitchState) :
    Linearizable (killSwitchObject.step call) (fun _ _ => True) (fun _ pc => pc = .start)
        (fun _ => LockPc.result) (serial killSwitchServe call)
        (fun c t => c.1.lock = none → c.1.state = t) (start s₀) s₀ ∧
      (∀ schedule i luid action, call i = .evaluate luid →
        (run (killSwitchObject.step call) (start s₀) schedule).2 i = .returned (.evaluate action) →
        ∃ threads verdict,
          (∀ j ∈ threads, (run (killSwitchObject.step call) (start s₀) schedule).2 j ≠ .start) ∧
          OfOneRequest call s₀ threads verdict ∧ action = verdict luid) ∧
      ∀ schedule i, ∃ later r,
        (run (killSwitchObject.step call) (start s₀) (schedule ++ later)).2 i = .returned r := by
  refine ⟨killSwitch_atomic.linearizable call s₀, ?_, killSwitch_atomic.returns call s₀⟩
  intro schedule i luid action hcall hret
  exact killSwitch_verdicts hcall hret

end Guardian
