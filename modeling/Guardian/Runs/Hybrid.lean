import Guardian.Runs.Driver

/-!
# The hybrid coordinator over runs

* `hybridCoordinator`, `driverStart` : the machine of the SetMode, PollNdisState and
  SetNdisFilterCount calls, and the statics before the first of them;
* `Coordinator`, `coordinator` : what they are for, without the duplicated statics: the mode in force
  and the count that the NDIS driver last told;
* `hybridCoordinator_simulates` : the statics of the code say what the coordinator says;
* `hybridCoordinator_consistent` : what that means for every run.
-/

namespace Guardian

inductive HybridCall where
  | setMode (mode : UInt32) (poll : NdisPoll)
  | pollNdisState (poll : NdisPoll)
  | setNdisFilterCount (filterCount : UInt32)

def hybridStep (g : Globals) : HybridCall → NTSTATUS × Globals
  | .setMode mode poll => hybridSetMode mode poll g
  | .pollNdisState poll => hybridPollNdisState poll g
  | .setNdisFilterCount filterCount => (statusSuccess, hybridSetNdisFilterCount filterCount g)

def hybridCoordinator : Machine Globals HybridCall NTSTATUS := ⟨hybridStep⟩

/-- The statics when the framework is first called. The driver state already holds the mode of the
registry; the coordinator is still in WFP mode. -/
def driverStart (boot : Boot) : Globals := initializeModules boot imageGlobals

/-! ## The coordinator -/

/-- The count that a poll brings, if it succeeds. -/
def NdisPoll.count (poll : NdisPoll) : Option UInt32 :=
  if ntSuccess (ndisQueryFilterCountViaIoctl poll).1 then some (ndisQueryFilterCountViaIoctl poll).2
  else none

namespace HybridCall

/-- The mode in force after the call, where `mode` is before it. -/
def modeAfter (mode : Mode) : HybridCall → Mode
  | .setMode value _ => (Mode.ofUInt32 value).getD mode
  | .pollNdisState _ => mode
  | .setNdisFilterCount _ => mode

/-- The count that the call brings, in the mode before it: that of a poll, or an explicit one. The
NDIS driver is polled when the mode is set to NDIS, and when it changes to hybrid. -/
def told (mode : Mode) : HybridCall → Option UInt32
  | .setMode value poll =>
    match Mode.ofUInt32 value with
    | some .ndis => poll.count
    | some .hybrid => if mode = .hybrid then none else poll.count
    | some .wfp => none
    | none => none
  | .pollNdisState poll => poll.count
  | .setNdisFilterCount filterCount => some filterCount

/-- The call sets the mode to a valid one. -/
def setsMode : HybridCall → Bool
  | .setMode value _ => (Mode.ofUInt32 value).isSome
  | .pollNdisState _ => false
  | .setNdisFilterCount _ => false

def status : HybridCall → NTSTATUS
  | .setMode value _ =>
    if (Mode.ofUInt32 value).isSome then statusSuccess else statusInvalidParameter
  | .pollNdisState poll => (ndisQueryFilterCountViaIoctl poll).1
  | .setNdisFilterCount _ => statusSuccess

end HybridCall

/-- The mode in force, the count that was last told, and whether the mode has been set. -/
structure Coordinator where
  mode : Mode
  ndisCount : UInt32
  modeSet : Bool

def coordinator : Machine Coordinator HybridCall NTSTATUS where
  step c call := (call.status,
    { mode := call.modeAfter c.mode
      ndisCount := (call.told c.mode).getD c.ndisCount
      modeSet := c.modeSet || call.setsMode })

/-- The counts told by a run that starts in `mode`. -/
def countsTold (mode : Mode) : List HybridCall → List UInt32
  | [] => []
  | call :: calls => (call.told mode).toList ++ countsTold (call.modeAfter mode) calls

theorem coordinator_final_ndisCount (c : Coordinator) (calls : List HybridCall) :
    (coordinator.final c calls).ndisCount = (countsTold c.mode calls).getLastD c.ndisCount := by
  induction calls generalizing c with
  | nil => rfl
  | cons call calls ih =>
    rw [Machine.final_cons, ih, countsTold]
    cases h : call.told c.mode with
    | none => simp only [coordinator, h, Option.getD_none, Option.toList_none, List.nil_append]
    | some n =>
      simp only [coordinator, h, Option.getD_some, Option.toList_some, List.cons_append,
        List.nil_append, List.getLastD_cons]

theorem coordinator_final_modeSet (c : Coordinator) (calls : List HybridCall) :
    (coordinator.final c calls).modeSet = (c.modeSet || calls.any HybridCall.setsMode) := by
  induction calls generalizing c with
  | nil => rw [Machine.final_nil, List.any_nil, Bool.or_false]
  | cons call calls ih =>
    rw [Machine.final_cons, ih, List.any_cons, ← Bool.or_assoc]
    rfl

/-! ## The statics agree with it -/

/-- The statics of `filters.c` and the two mirrored fields of the driver state say what the
coordinator says. -/
structure Coordinated (g : Globals) (c : Coordinator) : Prop where
  mode : g.hybrid.mode = c.mode
  ndisCount : g.hybrid.ndisFilterCount = c.ndisCount
  active : g.hybrid.coordinatorActive = true ↔ g.hybrid.mode = .hybrid
  guardianMode : c.modeSet = true → g.driverState.guardianMode = g.hybrid.mode.toUInt32
  filterCount : g.driverState.filterCount = hybridGetCombinedFilterCount g

theorem hybridPollNdisState_eq (poll : NdisPoll) (g : Globals) :
    hybridPollNdisState poll g = ((ndisQueryFilterCountViaIoctl poll).1,
      refreshFilterCount { g with hybrid := { g.hybrid with
        ndisFilterCount := poll.count.getD g.hybrid.ndisFilterCount
        ndisPollGeneration := g.hybrid.ndisPollGeneration + 1 } }) := by
  unfold hybridPollNdisState NdisPoll.count
  simp only
  by_cases hs : ntSuccess (ndisQueryFilterCountViaIoctl poll).1 = true
  · simp only [if_pos hs, Option.getD_some]
  · simp only [if_neg hs, Option.getD_none]

theorem hybridCoordinatorInitialize_eq (poll : NdisPoll) (g : Globals) :
    hybridCoordinatorInitialize poll g = (statusSuccess,
      refreshFilterCount { g with hybrid := { g.hybrid with
        ndisFilterCount := poll.count.getD g.hybrid.ndisFilterCount
        ndisPollGeneration := g.hybrid.ndisPollGeneration + 1
        coordinatorActive := true } }) := by
  unfold hybridCoordinatorInitialize
  simp only [hybridPollNdisState_eq]
  rfl

/-- What a valid SetMode does where the active flag is right: it leaves the flag right, and the count
as the NDIS driver told it. -/
theorem hybridSetMode_eq {g : Globals}
    (hactive : g.hybrid.coordinatorActive = decide (g.hybrid.mode = .hybrid)) {value : UInt32}
    {mode : Mode} (hmode : Mode.ofUInt32 value = some mode) (poll : NdisPoll) :
    ∃ generation, hybridSetMode value poll g = (statusSuccess, refreshFilterCount { g with
      hybrid :=
        { mode := mode
          ndisFilterCount := ((HybridCall.setMode value poll).told g.hybrid.mode).getD
            g.hybrid.ndisFilterCount
          ndisPollGeneration := generation
          coordinatorActive := decide (mode = .hybrid) }
      driverState := { g.driverState with guardianMode := mode.toUInt32 } }) := by
  have hshut : mode ≠ .hybrid →
      (if g.hybrid.coordinatorActive ∧ mode ≠ .hybrid then hybridCoordinatorShutdown g else g) =
        { g with hybrid := { g.hybrid with coordinatorActive := false } } := by
    intro hne
    by_cases ha : g.hybrid.coordinatorActive = true
    · rw [if_pos ⟨ha, hne⟩, hybridCoordinatorShutdown_eq]
    · rw [if_neg fun hc => ha hc.1, ← (Bool.not_eq_true _).mp ha]
  have hkeep : (if g.hybrid.coordinatorActive ∧ Mode.hybrid ≠ .hybrid then
      hybridCoordinatorShutdown g else g) = g := if_neg fun hc => hc.2 rfl
  unfold hybridSetMode hybridEnterMode
  simp only [hmode, HybridCall.told]
  cases mode with
  | wfp =>
    rw [hshut nofun]
    exact ⟨_, rfl⟩
  | ndis =>
    rw [hshut nofun]
    simp only [hybridPollNdisState_eq]
    exact ⟨_, rfl⟩
  | hybrid =>
    rw [hkeep]
    by_cases hm : g.hybrid.mode = .hybrid
    · have ha : g.hybrid.coordinatorActive = true := by rw [hactive, hm]; rfl
      rw [if_neg (by simp [ha]), ha, if_pos hm]
      exact ⟨_, rfl⟩
    · have ha : g.hybrid.coordinatorActive = false := by rw [hactive, decide_eq_false hm]
      rw [if_pos ⟨rfl, ha⟩, if_neg hm, hybridCoordinatorInitialize_eq]
      exact ⟨_, rfl⟩

theorem hybridSetMode_invalid {value : UInt32} (h : Mode.ofUInt32 value = none) (poll : NdisPoll)
    (g : Globals) : hybridSetMode value poll g = (statusInvalidParameter, g) := by
  unfold hybridSetMode
  rw [h]

/-- The statics of the code simulate the coordinator. -/
theorem hybridCoordinator_simulates : Machine.Simulates hybridCoordinator coordinator Coordinated := by
  intro g c call h
  obtain ⟨hmode, hcount, hactive, hguardian, hfilter⟩ := h
  cases call with
  | setMode value poll =>
    show (hybridSetMode value poll g).1 = _ ∧ Coordinated (hybridSetMode value poll g).2 _
    cases hv : Mode.ofUInt32 value with
    | none =>
      rw [hybridSetMode_invalid hv]
      simp only [coordinator, HybridCall.status, HybridCall.modeAfter, HybridCall.told,
        HybridCall.setsMode, hv, Option.getD_none, Option.isSome_none, Bool.or_false]
      exact ⟨rfl, hmode, hcount, hactive, hguardian, hfilter⟩
    | some mode =>
      have hflag : g.hybrid.coordinatorActive = decide (g.hybrid.mode = .hybrid) := by
        rw [Bool.eq_iff_iff, decide_eq_true_iff, hactive]
      obtain ⟨generation, hs⟩ := hybridSetMode_eq hflag hv poll
      rw [hs, hmode, hcount]
      simp only [coordinator, HybridCall.status, HybridCall.modeAfter, HybridCall.setsMode, hv,
        Option.getD_some, Option.isSome_some, Bool.or_true, if_true]
      exact ⟨trivial, rfl, rfl, decide_eq_true_iff, fun _ => rfl, rfl⟩
  | pollNdisState poll =>
    show (hybridPollNdisState poll g).1 = _ ∧ Coordinated (hybridPollNdisState poll g).2 _
    rw [hybridPollNdisState_eq, hcount]
    simp only [coordinator, HybridCall.modeAfter, HybridCall.setsMode, Bool.or_false]
    exact ⟨rfl, hmode, rfl, hactive, hguardian, rfl⟩
  | setNdisFilterCount filterCount =>
    simp only [coordinator, HybridCall.modeAfter, HybridCall.setsMode, Bool.or_false]
    exact ⟨rfl, hmode, rfl, hactive, hguardian, rfl⟩

/-! ## Runs -/

theorem driverStart_coordinated (boot : Boot) : Coordinated (driverStart boot) ⟨.wfp, 0, false⟩ where
  mode := rfl
  ndisCount := rfl
  active := iff_of_false Bool.false_ne_true nofun
  guardianMode := nofun
  filterCount := rfl

theorem coordinator_modeSet_of_trace {c : Coordinator} {calls : List HybridCall} {value : UInt32}
    {poll : NdisPoll} {status : NTSTATUS}
    (h : (HybridCall.setMode value poll, status) ∈ coordinator.trace c calls)
    (hs : ntSuccess status = true) : (coordinator.final c calls).modeSet = true := by
  have hstatus : ∀ a ∈ coordinator.trace c calls, a.2 = a.1.status :=
    coordinator.forall_mem_trace (fun _ _ => rfl) c calls
  have hmem : HybridCall.setMode value poll ∈ calls := by
    have hfst := List.mem_map_of_mem (f := Prod.fst) h
    rwa [Machine.map_fst_trace] at hfst
  have hsets : (HybridCall.setMode value poll).setsMode = true := by
    have heq : status = (HybridCall.setMode value poll).status := hstatus _ h
    rw [heq, HybridCall.status] at hs
    show (Mode.ofUInt32 value).isSome = true
    by_contra hno
    rw [if_neg hno] at hs
    cases hs
  rw [coordinator_final_modeSet, List.any_eq_true.mpr ⟨_, hmem, hsets⟩, Bool.or_true]

theorem Mode.ofUInt32_eq_none {value : UInt32} (h : Mode.hybrid.toUInt32 < value) :
    Mode.ofUInt32 value = none := by
  have hlt : 2 < value.toNat := UInt32.lt_iff_toNat_lt.mp h
  unfold Mode.ofUInt32
  simp only [← UInt32.toNat_inj, UInt32.reduceToNat]
  rw [if_neg (by omega), if_neg (by omega), if_neg (by omega)]

/-- **The statics of the coordinator stay consistent**: after any calls the active flag is that of
hybrid mode, the mirrored mode is the mode once a SetMode has succeeded, the mirrored count is the
combined one, the NDIS count is the last one told, and a SetMode beyond hybrid fails without
effect. -/
theorem hybridCoordinator_consistent (boot : Boot) (calls : List HybridCall) :
    let g := hybridCoordinator.final (driverStart boot) calls
    (g.hybrid.coordinatorActive = true ↔ g.hybrid.mode = .hybrid) ∧
    ((∃ value poll status, ntSuccess status = true ∧
        (HybridCall.setMode value poll, status) ∈
          hybridCoordinator.trace (driverStart boot) calls) →
      g.driverState.guardianMode = g.hybrid.mode.toUInt32) ∧
    g.driverState.filterCount = hybridGetCombinedFilterCount g ∧
    g.hybrid.ndisFilterCount = (countsTold .wfp calls).getLastD 0 ∧
    ∀ value poll, Mode.hybrid.toUInt32 < value →
      hybridSetMode value poll g = (statusInvalidParameter, g) := by
  intro g
  obtain ⟨htrace, h⟩ := hybridCoordinator_simulates.run (driverStart_coordinated boot) calls
  refine ⟨h.active, ?_, h.filterCount, ?_, ?_⟩
  · rintro ⟨value, poll, status, hs, hmem⟩
    rw [htrace] at hmem
    exact h.guardianMode (coordinator_modeSet_of_trace hmem hs)
  · exact h.ndisCount.trans (coordinator_final_ndisCount _ calls)
  · intro value poll hv
    exact hybridSetMode_invalid (Mode.ofUInt32_eq_none hv) poll g

/-- The count of a poll inside a SetMode stays when the next poll fails. -/
theorem hybridCoordinator_consistent_polled :
    let g := hybridCoordinator.final (driverStart (quietBoot none))
      [.setMode 2 ⟨statusSuccess, statusSuccess, 3⟩, .setMode 1 ⟨statusNotFound, statusSuccess, 7⟩]
    g.driverState.guardianMode = g.hybrid.mode.toUInt32 ∧ g.hybrid.ndisFilterCount = 3 := by
  intro g
  obtain ⟨-, hmode, -, hcount, -⟩ := hybridCoordinator_consistent (quietBoot none)
    [.setMode 2 ⟨statusSuccess, statusSuccess, 3⟩, .setMode 1 ⟨statusNotFound, statusSuccess, 7⟩]
  exact ⟨hmode ⟨2, _, statusSuccess, rfl, List.mem_cons_self⟩, hcount⟩

end Guardian
