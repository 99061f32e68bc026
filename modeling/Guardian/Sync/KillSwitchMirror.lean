import Guardian.Driver.Globals
import Guardian.Lib.Runs

/-!
# The reported kill-switch mode under parallel requests

SET_KILL_SWITCH sets the kill switch, reads the mode back and copies it to the driver state. Only the
first of the three is under a lock, and requests are dispatched in parallel.

* `MirrorPc`, `mirrorStep` : the three steps; `mirrorStep_alone`;
* `SetsApart` : no Set takes effect while another request holds the mode that it has read back;
* `mirror_agrees` : once a request has copied, what is reported was in force at some moment; along
  `SetsApart`, it is what is in force whenever no request is between its Set and its copy.
-/

namespace Guardian
open Interleave

/-- The next step of a request. -/
inductive MirrorPc where
  | start
  | getMode
  | copy (mode : KillSwitchMode)
  | returned (status : NTSTATUS)
  deriving DecidableEq

/-- The request is between its Set and its copy. -/
def MirrorPc.copying : MirrorPc → Bool
  | .getMode => true
  | .copy _ => true
  | _ => false

/-- The mode that was read back and is about to be copied. -/
def MirrorPc.held : MirrorPc → Option KillSwitchMode
  | .copy mode => some mode
  | _ => none

/-- One step of the handler of SET_KILL_SWITCH; the section of the Set is one step. -/
def mirrorStep (config : Option KillSwitchV1) : Globals × MirrorPc → Globals × MirrorPc
  | (g, .start) =>
    let (status, killSwitch) := killSwitchSet config g.killSwitch
    ({ g with killSwitch := killSwitch }, if ntSuccess status then .getMode else .returned status)
  | (g, .getMode) => (g, .copy (killSwitchGetMode g.killSwitch))
  | (g, .copy mode) =>
    ({ g with driverState := { g.driverState with killSwitchMode := mode.toUInt32 } },
      .returned statusSuccess)
  | (g, .returned status) => (g, .returned status)

theorem killSwitchSet_status {config : Option KillSwitchV1} {s : KillSwitchState}
    (h : ntSuccess (killSwitchSet config s).1 = true) :
    (killSwitchSet config s).1 = statusSuccess := by
  unfold killSwitchSet at h ⊢
  cases config with
  | none => cases h
  | some config =>
    by_cases hv : config.version = killSwitchVersion
    · simp only [hv, ne_eq, not_true_eq_false, if_false] at h ⊢
      cases hm : KillSwitchMode.ofUInt32 config.mode with
      | none =>
        rw [hm] at h
        cases h
      | some mode => cases mode <;> rfl
    · simp only [hv, ne_eq, not_false_eq_true, if_true] at h
      cases h

/-- **The steps of a request that runs alone are those of the handler.** -/
theorem mirrorStep_alone (config : Option KillSwitchV1) (g : Globals) :
    (mirrorStep config)^[3] (g, .start) =
      let (status, killSwitch) := killSwitchSet config g.killSwitch
      ({ g with
        killSwitch := killSwitch
        driverState := if ntSuccess status then
          { g.driverState with killSwitchMode := (killSwitchGetMode killSwitch).toUInt32 }
          else g.driverState }, .returned status) := by
  cases hok : ntSuccess (killSwitchSet config g.killSwitch).1 with
  | false => simp [Function.iterate_succ, mirrorStep, hok]
  | true =>
    have hstatus := killSwitchSet_status hok
    simp [Function.iterate_succ, mirrorStep, hstatus]

theorem start_not_success (config : Option KillSwitchV1) (s : KillSwitchState) :
    (if ntSuccess (killSwitchSet config s).1 then MirrorPc.getMode
      else .returned (killSwitchSet config s).1) ≠ .returned statusSuccess := by
  intro h
  cases hok : ntSuccess (killSwitchSet config s).1 with
  | true =>
    rw [hok, if_pos rfl] at h
    cases h
  | false =>
    rw [hok, if_neg Bool.false_ne_true] at h
    rw [MirrorPc.returned.inj h] at hok
    cases hok

/-- The reported mode is the one in force. -/
def Mirrored (g : Globals) : Prop := g.driverState.killSwitchMode = g.killSwitch.mode.toUInt32

instance (g : Globals) : Decidable (Mirrored g) :=
  inferInstanceAs (Decidable (g.driverState.killSwitchMode = g.killSwitch.mode.toUInt32))

variable {ι : Type} [DecidableEq ι]

/-- A request has copied the mode that it has read back. -/
def SomeCopied (c : Globals × (ι → MirrorPc)) : Prop := ∃ i, c.2 i = .returned statusSuccess

/-- A Set takes effect only while no request holds a mode that it has read back. -/
def SetsApart (c : Globals × (ι → MirrorPc)) (i : ι) : Prop :=
  c.2 i = .start → ∀ j, (c.2 j).held = none

instance [Fintype ι] (c : Globals × (ι → MirrorPc)) (i : ι) : Decidable (SetsApart c i) :=
  inferInstanceAs (Decidable (c.2 i = .start → ∀ j, (c.2 j).held = none))

variable {configs : ι → Option KillSwitchV1} {c : Globals × (ι → MirrorPc)}

theorem someCopied_of_moved {i : ι} {g : Globals} {pc : MirrorPc}
    (hpc : pc = .returned statusSuccess → c.2 i = pc)
    (h : SomeCopied (g, Function.update c.2 i pc)) : SomeCopied c := by
  obtain ⟨j, hj⟩ := h
  by_cases hji : j = i
  · subst hji
    have hret : pc = .returned statusSuccess := (Function.update_self j pc c.2).symm.trans hj
    exact ⟨j, (hpc hret).trans hret⟩
  · exact ⟨j, (Function.update_of_ne hji ..).symm.trans hj⟩

/-- Modes that were read back are in force, and so is the reported one if no request is yet to copy and
it was so at the start or has been copied since. -/
structure MirrorInv (g₀ : Globals) (c : Globals × (ι → MirrorPc)) : Prop where
  held : ∀ i mode, (c.2 i).held = some mode → mode = c.1.killSwitch.mode
  mirrored : (∀ i, (c.2 i).copying = false) → Mirrored g₀ ∨ SomeCopied c → Mirrored c.1

variable {g₀ : Globals}

theorem mirrorInv_moved {i : ι} {g : Globals} {pc : MirrorPc}
    (hpc : ∀ mode, pc.held = some mode → mode = g.killSwitch.mode)
    (hothers : ∀ j mode, j ≠ i → (c.2 j).held = some mode → mode = g.killSwitch.mode)
    (hmirrored : pc.copying = false → (∀ j, j ≠ i → (c.2 j).copying = false) →
      Mirrored g₀ ∨ SomeCopied (g, Function.update c.2 i pc) → Mirrored g) :
    MirrorInv g₀ (g, Function.update c.2 i pc) := by
  have hself : Function.update c.2 i pc i = pc := Function.update_self ..
  have hother : ∀ j, j ≠ i → Function.update c.2 i pc j = c.2 j :=
    fun j hj => Function.update_of_ne hj ..
  refine ⟨?_, ?_⟩
  · intro j mode hj
    by_cases hji : j = i
    · subst hji
      exact hpc mode (hself ▸ hj)
    · exact hothers j mode hji (hother j hji ▸ hj)
  · intro hall
    apply hmirrored
    · exact hself ▸ hall i
    · exact fun j hji => hother j hji ▸ hall j

theorem MirrorInv.step (h : MirrorInv g₀ c) {i : ι} (hC : SetsApart c i) :
    MirrorInv g₀ (exec (fun i => mirrorStep (configs i)) c i) := by
  have hquiet : (c.2 i).copying = false → (∀ j, j ≠ i → (c.2 j).copying = false) →
      Mirrored g₀ ∨ SomeCopied c → Mirrored c.1 := by
    intro hi hothers
    apply h.mirrored
    intro j
    by_cases hji : j = i
    · rw [hji, hi]
    · exact hothers j hji
  cases hpc : c.2 i with
  | start =>
    have hnot := start_not_success (configs i) c.1.killSwitch
    simp only [exec, hpc, mirrorStep]
    cases hok : ntSuccess (killSwitchSet (configs i) c.1.killSwitch).1 with
    | true =>
      simp only [if_true]
      apply mirrorInv_moved
      · intro mode hmode
        cases hmode
      · intro j mode _ hj
        rw [hC hpc j] at hj
        cases hj
      · intro hcopying
        cases hcopying
    | false =>
      simp only [hok, Bool.false_eq_true, if_false] at hnot
      simp only [Bool.false_eq_true, if_false, killSwitchSet_failed hok]
      apply mirrorInv_moved
      · intro mode hmode
        cases hmode
      · exact fun j mode _ hj => h.held j mode hj
      · intro _ hothers hcopied
        apply hquiet (by rw [hpc]; rfl) hothers
        exact hcopied.imp_right (someCopied_of_moved fun hret => absurd hret hnot)
  | getMode =>
    simp only [exec, hpc, mirrorStep]
    apply mirrorInv_moved
    · intro mode hmode
      cases hmode
      rfl
    · exact fun j mode _ hj => h.held j mode hj
    · intro hcopying
      cases hcopying
  | copy mode =>
    have hmode : mode = c.1.killSwitch.mode := h.held i mode (by rw [hpc]; rfl)
    simp only [exec, hpc, mirrorStep]
    apply mirrorInv_moved
    · intro mode' hmode'
      cases hmode'
    · exact fun j mode _ hj => h.held j mode hj
    · intro _ _ _
      show mode.toUInt32 = c.1.killSwitch.mode.toUInt32
      rw [hmode]
  | returned status =>
    simp only [exec, hpc, mirrorStep]
    apply mirrorInv_moved
    · intro mode hmode
      cases hmode
    · exact fun j mode _ hj => h.held j mode hj
    · intro _ hothers hcopied
      apply hquiet (by rw [hpc]; rfl) hothers
      exact hcopied.imp_right (someCopied_of_moved fun _ => hpc)

/-! ## What is reported -/

/-- `mode` was in force at some moment of the schedule. -/
def WasInForce (configs : ι → Option KillSwitchV1) (g : Globals) (schedule : List ι)
    (mode : KillSwitchMode) : Prop :=
  ∃ n ≤ schedule.length, (run (fun i => mirrorStep (configs i)) (g, fun _ => .start)
    (schedule.take n)).1.killSwitch.mode = mode

theorem WasInForce.snoc {g : Globals} {schedule : List ι} {mode : KillSwitchMode}
    (h : WasInForce configs g schedule mode) (i : ι) :
    WasInForce configs g (schedule ++ [i]) mode := by
  obtain ⟨n, hn, hmode⟩ := h
  refine ⟨n, by rw [List.length_append]; omega, ?_⟩
  rw [List.take_append_of_le_length hn]
  exact hmode

theorem wasInForce_now (configs : ι → Option KillSwitchV1) (g : Globals) (schedule : List ι) :
    WasInForce configs g schedule (run (fun i => mirrorStep (configs i)) (g, fun _ => .start)
      schedule).1.killSwitch.mode :=
  ⟨schedule.length, Nat.le_refl _, by rw [List.take_length]⟩

/-- The reported mode was in force at some moment, unless no request has copied one. -/
def Accountable (configs : ι → Option KillSwitchV1) (g : Globals) (schedule : List ι)
    (c : Globals × (ι → MirrorPc)) : Prop :=
  (¬ SomeCopied c ∧ c.1.driverState.killSwitchMode = g.driverState.killSwitchMode) ∨
    ∃ mode, c.1.driverState.killSwitchMode = mode.toUInt32 ∧ WasInForce configs g schedule mode

theorem Accountable.moved {g g' : Globals} {schedule : List ι} (h : Accountable configs g schedule c)
    {i : ι} {pc : MirrorPc} (hg : g'.driverState = c.1.driverState)
    (hpc : pc = .returned statusSuccess → c.2 i = pc) :
    Accountable configs g (schedule ++ [i]) (g', Function.update c.2 i pc) := by
  rcases h with ⟨hnone, hfirst⟩ | ⟨mode, hmode, hforce⟩
  · refine Or.inl ⟨fun hsome => hnone (someCopied_of_moved hpc hsome), ?_⟩
    rw [hg, hfirst]
  · exact Or.inr ⟨mode, by rw [hg, hmode], hforce.snoc i⟩

theorem run_accountable (configs : ι → Option KillSwitchV1) (g : Globals) (schedule : List ι) :
    let c := run (fun i => mirrorStep (configs i)) (g, fun _ => .start) schedule
    Accountable configs g schedule c ∧
      ∀ i mode, (c.2 i).held = some mode → WasInForce configs g schedule mode := by
  induction schedule using List.reverseRecOn with
  | nil =>
    refine ⟨Or.inl ⟨?_, rfl⟩, ?_⟩
    · rintro ⟨i, hi⟩
      cases hi
    · intro i mode h
      cases h
  | append_singleton schedule i ih =>
    intro c
    obtain ⟨hreported, hheld⟩ := ih
    have hc : c = exec (fun i => mirrorStep (configs i))
        (run (fun i => mirrorStep (configs i)) (g, fun _ => .start) schedule) i := by
      rw [← run_nil (fun i => mirrorStep (configs i)) (exec _ _ i), ← run_cons, ← run_append]
    have hnow := wasInForce_now configs g schedule
    generalize run (fun i => mirrorStep (configs i)) (g, fun _ => .start) schedule = c' at *
    have hothers : ∀ pc, c.2 = Function.update c'.2 i pc →
        (∀ mode, pc.held = some mode → WasInForce configs g schedule mode) →
        ∀ j mode, (c.2 j).held = some mode → WasInForce configs g (schedule ++ [i]) mode := by
      intro pc hpcs hpc j mode hj
      rw [hpcs] at hj
      by_cases hji : j = i
      · subst hji
        rw [Function.update_self] at hj
        exact (hpc mode hj).snoc j
      · rw [Function.update_of_ne hji] at hj
        exact (hheld j mode hj).snoc i
    cases hpc : c'.2 i with
    | start =>
      simp only [exec, hpc, mirrorStep] at hc
      refine ⟨?_, hothers _ (by rw [hc]) ?_⟩
      · rw [hc]
        exact hreported.moved rfl fun hret => absurd hret (start_not_success _ _)
      · intro mode hmode
        split at hmode <;> cases hmode
    | getMode =>
      simp only [exec, hpc, mirrorStep] at hc
      refine ⟨?_, hothers _ (by rw [hc]) ?_⟩
      · rw [hc]
        exact hreported.moved rfl (by simp)
      · rintro mode ⟨⟩
        exact hnow
    | copy mode =>
      simp only [exec, hpc, mirrorStep] at hc
      refine ⟨Or.inr ⟨mode, by rw [hc], (hheld i mode (by rw [hpc]; rfl)).snoc i⟩, ?_⟩
      apply hothers _ (by rw [hc])
      intro mode' hmode
      cases hmode
    | returned status =>
      simp only [exec, hpc, mirrorStep] at hc
      refine ⟨?_, hothers _ (by rw [hc]) ?_⟩
      · rw [hc]
        exact hreported.moved rfl fun _ => hpc
      · intro mode hmode
        cases hmode

/-- **What is reported was in force**: from any state and in every schedule of requests, the reported
mode is one that was in force at some moment of the schedule, or no request has copied one yet and the
report is the first one. Along every schedule in which no Set takes effect while another request holds
the mode that it has read back, it is the one that is in force whenever no request is between its Set
and its copy, if it was so at the start or some request has copied one. -/
theorem mirror_agrees (configs : ι → Option KillSwitchV1) (g : Globals) (schedule : List ι) :
    let c := run (fun i => mirrorStep (configs i)) (g, fun _ => .start) schedule
    ((¬ SomeCopied c ∧ c.1.driverState.killSwitchMode = g.driverState.killSwitchMode) ∨
        ∃ mode, c.1.driverState.killSwitchMode = mode.toUInt32 ∧
          WasInForce configs g schedule mode) ∧
      (Along (fun i => mirrorStep (configs i)) SetsApart (g, fun _ => .start) schedule →
        (∀ i, (c.2 i).copying = false) → Mirrored g ∨ SomeCopied c → Mirrored c.1) := by
  intro c
  refine ⟨(run_accountable configs g schedule).1, ?_⟩
  intro h hquiet
  have hstart : MirrorInv g (g, fun _ : ι => MirrorPc.start) := by
    refine ⟨?_, ?_⟩
    · intro i mode hmode
      cases hmode
    · rintro - (hg | ⟨i, hi⟩)
      · exact hg
      · cases hi
  have hinv : MirrorInv g c := run_inv_along _ (fun c i hc hC => hc.step hC) hstart h
  exact hinv.mirrored hquiet

/-- BlockAll is in force, as after a load that finds it in the registry, and Off is reported. -/
def blockedImage : Globals := { imageGlobals with killSwitch := ⟨.blockAll, 0⟩ }

/-- Two requests: Off, and AllowVpnOnly. -/
def offAndAllow : Fin 2 → Option KillSwitchV1
  | 0 => some ⟨killSwitchVersion, KillSwitchMode.off.toUInt32, 0⟩
  | 1 => some ⟨killSwitchVersion, KillSwitchMode.allowVpnOnly.toUInt32, 7⟩

/-- In turn, both set before either reads back, and they leave AllowVpnOnly in force and reported. -/
theorem mirror_agrees_apart :
    ¬ Mirrored blockedImage ∧
      let c := run (fun i => mirrorStep (offAndAllow i)) (blockedImage, fun _ => .start)
        [0, 1, 0, 1, 0, 1]
      Mirrored c.1 ∧ c.1.driverState.killSwitchMode = KillSwitchMode.allowVpnOnly.toUInt32 := by
  refine ⟨by decide, ?_⟩
  intro c
  have hcopied : SomeCopied c := ⟨1, by decide⟩
  refine ⟨(mirror_agrees offAndAllow blockedImage [0, 1, 0, 1, 0, 1]).2 ?_ (by decide)
    (Or.inr hcopied), by decide⟩
  exact ⟨by decide, by decide, by decide, by decide, by decide, by decide, trivial⟩

/-- The first one copies what it has read back before the second one was served: AllowVpnOnly is in
force, and Off is reported. -/
example :
    let g := (run (fun i => mirrorStep (offAndAllow i)) (blockedImage, fun _ => .start)
      [0, 0, 1, 1, 1, 0]).1
    g.killSwitch.mode = .allowVpnOnly ∧ g.driverState.killSwitchMode = KillSwitchMode.off.toUInt32 := by
  decide

end Guardian
