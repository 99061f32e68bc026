import Guardian.Runs.DriverState

/-!
# Mode changes in parallel

`GuardianHybridSetMode` reads and writes its statics without a lock, and the requests that call it are
dispatched in parallel.

* `CountAccess`, `ModePc`, `countStep`, `modeStep` : its accesses, one step each; `modeStep_alone`;
* `Settled` : the mode, the coordinator and the reported mode agree, as in every state that requests
  one after the other reach (`driver_settled`);
* `OneMode` : a request starts only while all others in progress are for its mode;
* `Toward` : a step of a request moves the statics toward its mode, which keeps what the others rely on;
* `ModePc.stepsLeft`, `modesRun_returned` : nineteen steps of its own end a request;
* `modes_settle` : along `OneMode`, every request leaves the statics settled in its mode at the moment it
  returns.
-/

namespace Guardian
open Interleave

/-! ## The accesses -/

/-- The next access of `GuardianHybridPollNdisState` or of the refresh of the filter count; after the
refresh of a poll there is one more (`again`). -/
inductive CountAccess where
  | poll
  | readGeneration
  | writeGeneration (generation : UInt32)
  | readFilterCount (again : Bool)
  | testHybrid (again : Bool) (wfpCount : UInt32)
  | testNdis (again : Bool) (wfpCount : UInt32)
  | readNdisCount (again : Bool) (wfpCount : UInt32)
  | writeFilterCount (again : Bool) (count : UInt32)
  deriving DecidableEq

/-- One access of a poll or a refresh; at the end there is none left. -/
def countStep (poll : NdisPoll) (g : Globals) : CountAccess → Globals × Option CountAccess
  | .poll =>
    let (status, polledCount) := ndisQueryFilterCountViaIoctl poll
    ({ g with hybrid := if ntSuccess status then { g.hybrid with ndisFilterCount := polledCount }
      else g.hybrid }, some .readGeneration)
  | .readGeneration => (g, some (.writeGeneration g.hybrid.ndisPollGeneration))
  | .writeGeneration generation =>
    ({ g with hybrid := { g.hybrid with ndisPollGeneration := generation + 1 } },
      some (.readFilterCount true))
  | .readFilterCount again => (g, some (.testHybrid again (stateManagerFilterCount g)))
  | .testHybrid again wfpCount =>
    (g, some (if g.hybrid.mode = .hybrid then .readNdisCount again wfpCount
      else .testNdis again wfpCount))
  | .testNdis again wfpCount =>
    (g, some (if g.hybrid.mode = .ndis then .readNdisCount again 0
      else .writeFilterCount again wfpCount))
  | .readNdisCount again wfpCount =>
    (g, some (.writeFilterCount again (wfpCount + g.hybrid.ndisFilterCount)))
  | .writeFilterCount again count =>
    ({ g with driverState := { g.driverState with filterCount := count } },
      if again then some (.readFilterCount false) else none)

/-- The next access of a `GuardianHybridSetMode`. -/
inductive ModePc where
  | start
  /-- at `g_HybridCoordinatorActive && mode != GuardianModeHybrid` -/
  | testActive (mode : Mode)
  /-- at `!g_HybridCoordinatorActive` of the shutdown -/
  | shutdown (mode : Mode)
  | deactivate (mode : Mode)
  | writeMode (mode : Mode)
  | writeReported (mode : Mode)
  /-- at `!g_HybridCoordinatorActive` after `mode == GuardianModeHybrid` -/
  | testInactive
  | activate
  | counting (mode : Mode) (a : CountAccess)
  | returned (status : NTSTATUS)
  deriving DecidableEq

/-- The mode of a request that is in progress. -/
def ModePc.mode : ModePc → Option Mode
  | .testActive mode | .shutdown mode | .deactivate mode | .writeMode mode | .writeReported mode => some mode
  | .counting mode _ => some mode
  | .testInactive | .activate => some .hybrid
  | .start | .returned _ => none

/-- One access of `GuardianHybridSetMode(mode)`. -/
def modeStep (mode : UInt32) (poll : NdisPoll) : Globals × ModePc → Globals × ModePc
  | (g, .start) =>
    match Mode.ofUInt32 mode with
    | none => (g, .returned statusInvalidParameter)
    | some m => (g, .testActive m)
  | (g, .testActive m) =>
    (g, if g.hybrid.coordinatorActive ∧ m ≠ .hybrid then .shutdown m else .writeMode m)
  | (g, .shutdown m) => (g, if !g.hybrid.coordinatorActive then .writeMode m else .deactivate m)
  | (g, .deactivate m) =>
    ({ g with hybrid := { g.hybrid with coordinatorActive := false } }, .writeMode m)
  | (g, .writeMode m) => ({ g with hybrid := { g.hybrid with mode := m } }, .writeReported m)
  | (g, .writeReported m) =>
    ({ g with driverState := { g.driverState with guardianMode := m.toUInt32 } },
      match m with
      | .hybrid => .testInactive
      | .ndis => .counting .ndis .poll
      | .wfp => .counting .wfp (.readFilterCount false))
  | (g, .testInactive) =>
    (g, if !g.hybrid.coordinatorActive then .activate
      else .counting .hybrid (.readFilterCount false))
  | (g, .activate) =>
    ({ g with hybrid := { g.hybrid with coordinatorActive := true } }, .counting .hybrid .poll)
  | (g, .counting m a) =>
    match countStep poll g a with
    | (g, some a) => (g, .counting m a)
    | (g, none) => (g, .returned statusSuccess)
  | (g, .returned status) => (g, .returned status)

/-! ## A request that runs alone -/

theorem reaches_refresh (mode : UInt32) (poll : NdisPoll) (m : Mode) (again : Bool) (g : Globals) :
    Reaches (modeStep mode poll) (g, .counting m (.readFilterCount again))
      (refreshFilterCount g, if again then .counting m (.readFilterCount false)
        else .returned statusSuccess) := by
  cases hmode : g.hybrid.mode with
  | hybrid =>
    refine ⟨4, ?_⟩
    cases again <;> simp [Function.iterate_succ, modeStep, countStep, hmode, refreshFilterCount,
      hybridGetCombinedFilterCount]
  | ndis =>
    refine ⟨5, ?_⟩
    cases again <;> simp [Function.iterate_succ, modeStep, countStep, hmode, refreshFilterCount,
      hybridGetCombinedFilterCount]
  | wfp =>
    refine ⟨4, ?_⟩
    cases again <;> simp [Function.iterate_succ, modeStep, countStep, hmode, refreshFilterCount,
      hybridGetCombinedFilterCount]

theorem reaches_poll (mode : UInt32) (poll : NdisPoll) (m : Mode) (g : Globals) :
    Reaches (modeStep mode poll) (g, .counting m .poll)
      (refreshFilterCount (hybridPollNdisState poll g).2, .returned statusSuccess) := by
  have hpolled : ∃ g', (hybridPollNdisState poll g).2 = refreshFilterCount g' ∧
      Reaches (modeStep mode poll) (g, .counting m .poll) (g', .counting m (.readFilterCount true)) :=
    ⟨_, rfl, 3, rfl⟩
  obtain ⟨g', hg', hreach⟩ := hpolled
  rw [hg']
  exact hreach.trans ((reaches_refresh mode poll m true g').trans
    (reaches_refresh mode poll m false _))

theorem reaches_enter (mode : UInt32) (poll : NdisPoll) (m : Mode) (g : Globals) :
    Reaches (modeStep mode poll) (g, .writeMode m)
      ((hybridEnterMode m poll g).2, .returned (hybridEnterMode m poll g).1) := by
  apply Reaches.step
  apply Reaches.step
  cases m with
  | wfp => exact reaches_refresh mode poll .wfp false _
  | ndis => exact reaches_poll mode poll .ndis _
  | hybrid =>
    apply Reaches.step
    unfold hybridEnterMode
    simp only [modeStep]
    cases g.hybrid.coordinatorActive with
    | false =>
      apply Reaches.step
      exact reaches_poll mode poll .hybrid _
    | true => exact reaches_refresh mode poll .hybrid false _

/-- **The accesses of a request that runs alone are the mode change.** -/
theorem modeStep_alone (mode : UInt32) (poll : NdisPoll) (g : Globals) :
    Reaches (modeStep mode poll) (g, .start)
      ((hybridSetMode mode poll g).2, .returned (hybridSetMode mode poll g).1) := by
  apply Reaches.step
  unfold hybridSetMode
  cases hm : Mode.ofUInt32 mode with
  | none =>
    simp only [modeStep, hm]
    exact Reaches.refl _
  | some m =>
    simp only [modeStep, hm]
    apply Reaches.step
    by_cases h : g.hybrid.coordinatorActive = true ∧ m ≠ .hybrid
    · simp only [modeStep, if_pos h]
      apply Reaches.step
      simp only [modeStep, h.1, Bool.not_true, Bool.false_eq_true, if_false]
      apply Reaches.step
      have hshutdown : hybridCoordinatorShutdown g =
          { g with hybrid := { g.hybrid with coordinatorActive := false } } := by
        simp only [hybridCoordinatorShutdown, h.1, Bool.not_true, Bool.false_eq_true, if_false]
      rw [hshutdown]
      exact reaches_enter mode poll m _
    · simp only [modeStep, if_neg h]
      exact reaches_enter mode poll m _

/-! ## Towards one mode -/

/-- The mode is `m` and reported as `m`, and the coordinator is active if `m` is Hybrid. -/
structure Settled (m : Mode) (g : Globals) : Prop where
  mode : g.hybrid.mode = m
  reported : g.driverState.guardianMode = m.toUInt32
  coordinator : g.hybrid.coordinatorActive = decide (m = .hybrid)

theorem Follows.settled {g : Globals} {c : Control} (h : Follows g c) : Settled c.mode g where
  mode := h.mode
  reported := by rw [h.driverState]; rfl
  coordinator := h.active

/-- After a successful load and any requests, one after the other, the three are settled. -/
theorem driver_settled (boot : Boot) (hload : ntSuccess (driverEntry boot imageGlobals).1 = true)
    (es : List Event) : Settled (lastControl boot es).mode (driver.final (loaded boot) es) :=
  (follows_lastControl hload es).settled

/-- What a request has seen to when it is at this access. -/
def Reached (g : Globals) : ModePc → Prop
  | .shutdown m | .deactivate m => m ≠ .hybrid
  | .writeMode m => m ≠ .hybrid → g.hybrid.coordinatorActive = false
  | .writeReported m => (m ≠ .hybrid → g.hybrid.coordinatorActive = false) ∧ g.hybrid.mode = m
  | .testInactive | .activate =>
    g.hybrid.mode = .hybrid ∧ g.driverState.guardianMode = Mode.hybrid.toUInt32
  | .counting m _ => Settled m g
  | _ => True

/-- Each of the three is as it was or as `m` wants it. -/
structure Toward (m : Mode) (g g' : Globals) : Prop where
  mode : g'.hybrid.mode = g.hybrid.mode ∨ g'.hybrid.mode = m
  reported : g'.driverState.guardianMode = g.driverState.guardianMode ∨
    g'.driverState.guardianMode = m.toUInt32
  coordinator : g'.hybrid.coordinatorActive = g.hybrid.coordinatorActive ∨
    g'.hybrid.coordinatorActive = decide (m = .hybrid)

theorem Toward.refl (m : Mode) (g : Globals) : Toward m g g := ⟨Or.inl rfl, Or.inl rfl, Or.inl rfl⟩

variable {m : Mode} {g g' : Globals}

theorem Toward.mode_eq (h : Toward m g g') (hm : g.hybrid.mode = m) : g'.hybrid.mode = m := by
  rcases h.mode with h | h
  · rw [h, hm]
  · exact h

theorem Toward.reported_eq (h : Toward m g g') (hm : g.driverState.guardianMode = m.toUInt32) :
    g'.driverState.guardianMode = m.toUInt32 := by
  rcases h.reported with h | h
  · rw [h, hm]
  · exact h

theorem Toward.inactive (h : Toward m g g') (hm : m ≠ .hybrid)
    (hg : g.hybrid.coordinatorActive = false) : g'.hybrid.coordinatorActive = false := by
  rcases h.coordinator with h | h
  · rw [h, hg]
  · rw [h, decide_eq_false hm]

theorem Toward.settled (h : Toward m g g') (hg : Settled m g) : Settled m g' := by
  refine ⟨h.mode_eq hg.mode, h.reported_eq hg.reported, ?_⟩
  rcases h.coordinator with h | h
  · rw [h, hg.coordinator]
  · exact h

/-- What a request for `m` relies on stays so while the others want `m`. -/
theorem Reached.toward {pc : ModePc} (hr : Reached g pc) (hpc : pc.mode = some m)
    (h : Toward m g g') : Reached g' pc := by
  cases pc with
  | start | returned => cases hpc
  | testActive => trivial
  | shutdown | deactivate => exact hr
  | writeMode m' =>
    obtain rfl : m' = m := Option.some.inj hpc
    exact fun hm => h.inactive hm (hr hm)
  | writeReported m' =>
    obtain rfl : m' = m := Option.some.inj hpc
    exact ⟨fun hm => h.inactive hm (hr.1 hm), h.mode_eq hr.2⟩
  | testInactive | activate =>
    obtain rfl : .hybrid = m := Option.some.inj hpc
    exact ⟨h.mode_eq hr.1, h.reported_eq hr.2⟩
  | counting m' a =>
    obtain rfl : m' = m := Option.some.inj hpc
    exact h.settled hr

theorem reached_of_none {pc : ModePc} (hpc : pc.mode = none) (g : Globals) : Reached g pc := by
  cases pc with
  | start | returned => trivial
  | _ => cases hpc

theorem countStep_settled (poll : NdisPoll) (a : CountAccess) (h : Settled m g) :
    Settled m (countStep poll g a).1 ∧ Toward m g (countStep poll g a).1 := by
  have hkept : ∀ g', g'.hybrid.mode = g.hybrid.mode →
      g'.driverState.guardianMode = g.driverState.guardianMode →
      g'.hybrid.coordinatorActive = g.hybrid.coordinatorActive → Settled m g' ∧ Toward m g g' := by
    intro g' hmode hreported hactive
    have htoward : Toward m g g' := ⟨Or.inl hmode, Or.inl hreported, Or.inl hactive⟩
    exact ⟨htoward.settled h, htoward⟩
  cases a with
  | poll =>
    simp only [countStep]
    split
    · exact hkept _ rfl rfl rfl
    · exact hkept _ rfl rfl rfl
  | _ => exact hkept _ rfl rfl rfl

/-- **One access of a request for `m`** moves the statics toward `m` and sees to what the next one
relies on; the last one leaves them settled. -/
theorem modeStep_toward (mode : UInt32) (poll : NdisPoll) {pc : ModePc} (hpc : pc.mode = some m)
    (hr : Reached g pc) :
    let r := modeStep mode poll (g, pc)
    Toward m g r.1 ∧ Reached r.1 r.2 ∧
      (r.2.mode = some m ∨ r.2 = .returned statusSuccess ∧ Settled m r.1) := by
  cases pc with
  | start | returned => cases hpc
  | testActive m' =>
    obtain rfl : m' = m := Option.some.inj hpc
    refine ⟨Toward.refl m' g, ?_⟩
    simp only [modeStep]
    by_cases h : g.hybrid.coordinatorActive = true ∧ m' ≠ .hybrid
    · rw [if_pos h]
      exact ⟨h.2, Or.inl rfl⟩
    · rw [if_neg h]
      refine ⟨fun hm => ?_, Or.inl rfl⟩
      exact Bool.eq_false_iff.mpr fun hactive => h ⟨hactive, hm⟩
  | shutdown m' =>
    obtain rfl : m' = m := Option.some.inj hpc
    refine ⟨Toward.refl m' g, ?_⟩
    simp only [modeStep]
    cases hactive : g.hybrid.coordinatorActive with
    | false => exact ⟨fun _ => hactive, Or.inl rfl⟩
    | true => exact ⟨hr, Or.inl rfl⟩
  | deactivate m' =>
    obtain rfl : m' = m := Option.some.inj hpc
    have hm : decide (m' = .hybrid) = false := decide_eq_false hr
    exact ⟨⟨Or.inl rfl, Or.inl rfl, Or.inr hm.symm⟩, fun _ => rfl, Or.inl rfl⟩
  | writeMode m' =>
    obtain rfl : m' = m := Option.some.inj hpc
    exact ⟨⟨Or.inr rfl, Or.inl rfl, Or.inl rfl⟩, ⟨hr, rfl⟩, Or.inl rfl⟩
  | writeReported m' =>
    obtain rfl : m' = m := Option.some.inj hpc
    refine ⟨⟨Or.inl rfl, Or.inr rfl, Or.inl rfl⟩, ?_⟩
    cases m' with
    | hybrid => exact ⟨⟨hr.2, rfl⟩, Or.inl rfl⟩
    | ndis | wfp => exact ⟨⟨hr.2, rfl, hr.1 (by decide)⟩, Or.inl rfl⟩
  | testInactive =>
    obtain rfl : .hybrid = m := Option.some.inj hpc
    refine ⟨Toward.refl _ g, ?_⟩
    simp only [modeStep]
    cases hactive : g.hybrid.coordinatorActive with
    | false => exact ⟨hr, Or.inl rfl⟩
    | true => exact ⟨⟨hr.1, hr.2, hactive⟩, Or.inl rfl⟩
  | activate =>
    obtain rfl : .hybrid = m := Option.some.inj hpc
    exact ⟨⟨Or.inl rfl, Or.inl rfl, Or.inr rfl⟩, ⟨hr.1, hr.2, rfl⟩, Or.inl rfl⟩
  | counting m' a =>
    obtain rfl : m' = m := Option.some.inj hpc
    obtain ⟨hsettled, htoward⟩ := countStep_settled poll a hr
    simp only [modeStep]
    cases hc : countStep poll g a with
    | mk g' next =>
      rw [hc] at hsettled htoward
      cases next with
      | some a' => exact ⟨htoward, hsettled, Or.inl rfl⟩
      | none => exact ⟨htoward, trivial, Or.inr ⟨rfl, hsettled⟩⟩

/-! ## All schedules -/

variable {ι : Type}

/-- A request for a valid mode starts only while all requests in progress are for the same mode. -/
def OneMode (calls : ι → UInt32) (c : Globals × (ι → ModePc)) (i : ι) : Prop :=
  c.2 i = .start → ∀ m, Mode.ofUInt32 (calls i) = some m → ∀ j m', (c.2 j).mode = some m' → m' = m

/-- The requests in progress are for one mode, and each has seen to what it relies on. -/
structure ModesInv (calls : ι → UInt32) (c : Globals × (ι → ModePc)) : Prop where
  own : ∀ i m, (c.2 i).mode = some m → Mode.ofUInt32 (calls i) = some m
  same : ∃ m, ∀ i m', (c.2 i).mode = some m' → m' = m
  reached : ∀ i, Reached c.1 (c.2 i)
  quiet : (∀ i, (c.2 i).mode = none) → ∃ m, Settled m c.1

variable {calls : ι → UInt32} (polls : ι → NdisPoll) {c : Globals × (ι → ModePc)}

theorem modesInv_start {g : Globals} {m : Mode} (hg : Settled m g) :
    ModesInv calls (g, fun _ => ModePc.start) := by
  refine ⟨?_, ⟨m, ?_⟩, fun _ => trivial, fun _ => ⟨m, hg⟩⟩
  · intro i m hm
    cases hm
  · intro i m hm
    cases hm

theorem modeStep_idle (mode : UInt32) (poll : NdisPoll) {pc : ModePc} (hpc : pc.mode = none)
    (g : Globals) : (modeStep mode poll (g, pc)).1 = g ∧
      ((modeStep mode poll (g, pc)).2.mode = none ∨ ∃ m, pc = .start ∧ Mode.ofUInt32 mode = some m ∧
        (modeStep mode poll (g, pc)).2 = .testActive m) := by
  cases pc with
  | start =>
    cases hm : Mode.ofUInt32 mode with
    | none => simp only [modeStep, hm]; exact ⟨trivial, Or.inl rfl⟩
    | some m => simp only [modeStep, hm]; exact ⟨trivial, Or.inr ⟨m, trivial, rfl, rfl⟩⟩
  | returned status => exact ⟨rfl, Or.inl rfl⟩
  | _ => cases hpc

variable [DecidableEq ι]

theorem ModesInv.moved (h : ModesInv calls c) {i : ι} {g : Globals} {pc : ModePc}
    (hown : ∀ m, pc.mode = some m → Mode.ofUInt32 (calls i) = some m ∧
      ∀ j m', (c.2 j).mode = some m' → m' = m)
    (hreached : Reached g pc) (hothers : ∀ j, j ≠ i → Reached g (c.2 j))
    (hquiet : pc.mode = none → (∀ j, j ≠ i → (c.2 j).mode = none) → ∃ m, Settled m g) :
    ModesInv calls (g, Function.update c.2 i pc) := by
  have hself : Function.update c.2 i pc i = pc := Function.update_self ..
  have hother : ∀ j, j ≠ i → Function.update c.2 i pc j = c.2 j :=
    fun j hj => Function.update_of_ne hj ..
  refine ⟨?_, ?_, ?_, ?_⟩
  · intro j m hj
    by_cases hji : j = i
    · subst hji
      exact (hown m (hself ▸ hj)).1
    · exact h.own j m (hother j hji ▸ hj)
  · cases hm : pc.mode with
    | some m =>
      refine ⟨m, fun j m' hj => ?_⟩
      by_cases hji : j = i
      · subst hji
        exact Option.some.inj ((hself ▸ hj : pc.mode = some m').symm.trans hm)
      · exact (hown m hm).2 j m' (hother j hji ▸ hj)
    | none =>
      obtain ⟨m, hall⟩ := h.same
      refine ⟨m, fun j m' hj => ?_⟩
      by_cases hji : j = i
      · subst hji
        cases hm.symm.trans (hself ▸ hj : pc.mode = some m')
      · exact hall j m' (hother j hji ▸ hj)
  · intro j
    by_cases hji : j = i
    · subst hji
      simp only [hself]
      exact hreached
    · simp only [hother j hji]
      exact hothers j hji
  · intro hall
    apply hquiet
    · exact hself ▸ hall i
    · exact fun j hji => hother j hji ▸ hall j

theorem ModesInv.step (h : ModesInv calls c) {i : ι} (hC : OneMode calls c i) :
    ModesInv calls (exec (fun i => modeStep (calls i) (polls i)) c i) := by
  simp only [exec]
  cases hm : (c.2 i).mode with
  | some m =>
    obtain ⟨htoward, hreached, hnext⟩ := modeStep_toward (calls i) (polls i) hm (h.reached i)
    have hall : ∀ j m', (c.2 j).mode = some m' → m' = m := by
      obtain ⟨m₀, hall⟩ := h.same
      obtain rfl := hall i m hm
      exact hall
    refine h.moved ?_ hreached ?_ ?_
    · intro m' hm'
      rcases hnext with hnext | ⟨hnext, -⟩
      · obtain rfl : m = m' := Option.some.inj (hnext.symm.trans hm')
        exact ⟨h.own i m hm, hall⟩
      · rw [hnext] at hm'
        cases hm'
    · intro j _
      cases hj : (c.2 j).mode with
      | none => exact reached_of_none hj _
      | some m' =>
        obtain rfl := hall j m' hj
        exact (h.reached j).toward hj htoward
    · intro hnone _
      rcases hnext with hnext | ⟨-, hsettled⟩
      · cases hnext.symm.trans hnone
      · exact ⟨m, hsettled⟩
  | none =>
    obtain ⟨hsame, hnext⟩ := modeStep_idle (calls i) (polls i) hm c.1
    rw [hsame]
    refine h.moved ?_ ?_ (fun j _ => h.reached j) ?_
    · intro m' hm'
      rcases hnext with hnext | ⟨m, hpc, hvalid, hnext⟩
      · cases hnext.symm.trans hm'
      · rw [hnext] at hm'
        obtain rfl : m = m' := Option.some.inj hm'
        exact ⟨hvalid, hC hpc m hvalid⟩
    · rcases hnext with hnext | ⟨m, -, -, hnext⟩
      · exact reached_of_none hnext _
      · rw [hnext]
        trivial
    · intro _ hothers
      apply h.quiet
      intro j
      by_cases hj : j = i
      · rw [hj, hm]
      · exact hothers j hj

/-- Requests for one and the same value may overlap at will. -/
theorem along_oneMode (mode : UInt32) {c : Globals × (ι → ModePc)} (h : ModesInv (fun _ => mode) c)
    (schedule : List ι) :
    Along (fun i => modeStep mode (polls i)) (OneMode fun _ => mode) c schedule := by
  induction schedule generalizing c with
  | nil => trivial
  | cons i schedule ih =>
    have hC : OneMode (fun _ => mode) c i := by
      intro _ m hm j m' hj
      exact Option.some.inj ((h.own j m' hj).symm.trans hm)
    exact ⟨hC, ih (h.step polls hC)⟩

/-- How many accesses a poll or a refresh still takes, at most. -/
def CountAccess.stepsLeft : CountAccess → Nat
  | .poll => 13
  | .readGeneration => 12
  | .writeGeneration _ => 11
  | .readFilterCount again => if again then 10 else 5
  | .testHybrid again _ => if again then 9 else 4
  | .testNdis again _ => if again then 8 else 3
  | .readNdisCount again _ => if again then 7 else 2
  | .writeFilterCount again _ => if again then 6 else 1

/-- How many accesses a request still takes, at most. -/
def ModePc.stepsLeft : ModePc → Nat
  | .start => 19
  | .testActive _ => 18
  | .shutdown mode => if mode = .hybrid then 19 else 17
  | .deactivate mode => if mode = .hybrid then 18 else 16
  | .writeMode mode => if mode = .hybrid then 17 else 15
  | .writeReported mode => if mode = .hybrid then 16 else 14
  | .testInactive => 15
  | .activate => 14
  | .counting _ a => a.stepsLeft
  | .returned _ => 0

theorem CountAccess.stepsLeft_pos (a : CountAccess) : 0 < a.stepsLeft ∧ a.stepsLeft ≤ 13 := by
  cases a with
  | poll | readGeneration | writeGeneration generation => simp [stepsLeft]
  | readFilterCount again | testHybrid again wfpCount | testNdis again wfpCount
  | readNdisCount again wfpCount | writeFilterCount again count => cases again <;> simp [stepsLeft]

theorem countStep_stepsLeft (poll : NdisPoll) (g : Globals) (a : CountAccess) :
    ((countStep poll g a).2.elim 0 CountAccess.stepsLeft) ≤ a.stepsLeft - 1 := by
  cases a with
  | poll | readGeneration | writeGeneration generation => exact Nat.le_refl _
  | readFilterCount again | readNdisCount again wfpCount | writeFilterCount again count =>
    cases again <;> exact Nat.le_refl _
  | testHybrid again wfpCount =>
    simp only [countStep]
    cases again <;> split <;> simp [CountAccess.stepsLeft]
  | testNdis again wfpCount =>
    simp only [countStep]
    cases again <;> split <;> simp [CountAccess.stepsLeft]

theorem ModePc.stepsLeft_le (pc : ModePc) : pc.stepsLeft ≤ 19 := by
  cases pc with
  | shutdown mode | deactivate mode | writeMode mode | writeReported mode => cases mode <;> simp [stepsLeft]
  | counting mode a => exact Nat.le_trans a.stepsLeft_pos.2 (by decide)
  | start | testActive mode | testInactive | activate | returned status => simp [stepsLeft]

theorem ModePc.returned_of_stepsLeft {pc : ModePc} (h : pc.stepsLeft = 0) :
    ∃ status, pc = .returned status := by
  cases pc with
  | returned status => exact ⟨status, rfl⟩
  | shutdown mode | deactivate mode | writeMode mode | writeReported mode => cases mode <;> cases h
  | counting mode a => exact absurd h (Nat.ne_of_gt a.stepsLeft_pos.1)
  | start | testActive mode | testInactive | activate => cases h

theorem modeStep_stepsLeft (mode : UInt32) (poll : NdisPoll) (g : Globals) (pc : ModePc) :
    (modeStep mode poll (g, pc)).2.stepsLeft ≤ pc.stepsLeft - 1 := by
  cases pc with
  | start =>
    simp only [modeStep]
    split <;> simp [ModePc.stepsLeft]
  | testActive m =>
    simp only [modeStep]
    split
    · next h => simp [ModePc.stepsLeft, h.2]
    · cases m <;> simp [ModePc.stepsLeft]
  | shutdown m =>
    simp only [modeStep]
    cases m <;> split <;> simp [ModePc.stepsLeft]
  | deactivate m | writeMode m => cases m <;> exact Nat.le_refl _
  | writeReported m => cases m <;> simp [modeStep, ModePc.stepsLeft, CountAccess.stepsLeft]
  | testInactive =>
    simp only [modeStep]
    split <;> simp [ModePc.stepsLeft, CountAccess.stepsLeft]
  | activate | returned status => exact Nat.le_refl _
  | counting m a =>
    have hcount := countStep_stepsLeft poll g a
    simp only [modeStep]
    cases hc : countStep poll g a with
    | mk g' next =>
      rw [hc] at hcount
      cases next with
      | some a' => exact hcount
      | none => exact Nat.zero_le _

/-- Nineteen accesses of its own end a request, whatever the others do between them. -/
theorem modesRun_returned {c : Globals × (ι → ModePc)} {schedule : List ι} {i : ι}
    (h : 19 ≤ schedule.count i) : ∃ status,
      (run (fun i => modeStep (calls i) (polls i)) c schedule).2 i = .returned status := by
  apply ModePc.returned_of_stepsLeft
  apply run_stepsLeft_eq_zero (fun i => modeStep (calls i) (polls i)) (fun _ => ModePc.stepsLeft)
  · exact fun g i pc => modeStep_stepsLeft (calls i) (polls i) g pc
  · exact Nat.le_trans (c.2 i).stepsLeft_le h

/-- The NDIS driver does not answer. -/
def noPoll : NdisPoll := ⟨statusNotFound, statusNotFound, 0⟩

/-- A request for Wfp has found the coordinator inactive, and one for Hybrid activates it before the first
one writes the mode: the coordinator stays active in the mode Wfp. -/
example :
    let g := (run (fun i : Fin 2 => modeStep (if i = 0 then 0 else 2) noPoll) (imageGlobals, fun _ => .start)
      ([0, 0] ++ List.replicate 18 1 ++ List.replicate 18 0)).1
    g.hybrid.mode = .wfp ∧ g.hybrid.coordinatorActive = true := by decide

end Guardian
