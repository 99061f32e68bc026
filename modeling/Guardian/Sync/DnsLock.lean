import Guardian.Enforce.DnsHistory
import Guardian.Lib.Counting
import Guardian.Lib.Locked

/-!
# The DNS layer under its lock

SetConfig, GetStats and ShouldObserve run on any number of processors at once, each under `g_DnsLock`;
the telemetry of an observed query is recorded after the release.

* `DnsLayerCall`, `dnsObject`, `dnsServe` : the calls, step by step and at once; `dns_atomic`;
* `DnsPc`, `dnsThread` : a call with the record that follows it;
* `dns_accounted` : the telemetry lags behind the statistics by the queries not recorded yet;
* `dns_linearizable` : the calls take effect one at a time, and both hold in every schedule.
-/

namespace Guardian
open Interleave LockedObject

inductive DnsLayerCall where
  | setConfig (config : Option DnsConfigV1)
  | getStats
  | shouldObserve (remotePort : UInt16) (excludedPid : UInt32)

inductive DnsLayerAnswer where
  | status (status : NTSTATUS)
  | stats (stats : DnsStatsV1)
  | observe (observe : Bool)
  deriving DecidableEq

/-- The next step of a section; `checkPid i` is the head of the loop over the excluded PIDs. -/
inductive DnsAccess where
  | copyConfig (config : DnsConfigV1)
  | forceObserveOnly
  | copyStats
  | checkEnabled (excludedPid : UInt32)
  | checkPid (excludedPid : UInt32) (i : Nat)
  | observe

/-- Up to the lock. -/
def dnsEnter : DnsLayerCall → Within DnsLayerAnswer DnsAccess
  | .setConfig none => .done (.status statusInvalidParameter)
  | .setConfig (some config) =>
    if config.version ≠ dnsConfigVersion then .done (.status statusInvalidParameter)
    else .more (.copyConfig config)
  | .getStats => .more .copyStats
  | .shouldObserve remotePort excludedPid =>
    if remotePort ≠ 53 then .done (.observe false) else .more (.checkEnabled excludedPid)

def dnsBody (s : DnsState) : DnsAccess → DnsState × Within DnsLayerAnswer DnsAccess
  | .copyConfig config => ({ s with config := config }, .more .forceObserveOnly)
  | .forceObserveOnly =>
    ({ s with config := { s.config with observeOnly := 1 } }, .done (.status statusSuccess))
  | .copyStats => (s, .done (.stats s.stats))
  | .checkEnabled excludedPid =>
    if s.config.enabled = 0 then
      ({ s with stats := { s.stats with skippedDisabled := s.stats.skippedDisabled + 1 } },
        .done (.observe false))
    else (s, .more (.checkPid excludedPid 0))
  | .checkPid excludedPid i =>
    if i < s.config.excludedPidCount.toNat ∧ i < 16 then
      if s.config.excludedPids.toList[i]? = some excludedPid then
        ({ s with stats := { s.stats with skippedExcluded := s.stats.skippedExcluded + 1 } },
          .done (.observe false))
      else (s, .more (.checkPid excludedPid (i + 1)))
    else (s, .more .observe)
  | .observe =>
    ({ s with stats := { s.stats with observedV4 := s.stats.observedV4 + 1 } }, .done (.observe true))

def dnsObject : LockedObject DnsLayerCall DnsState DnsAccess DnsLayerAnswer where
  enter := dnsEnter
  body := fun _ p => dnsBody p.1 p.2

/-- A call that takes effect at once; what it does to the telemetry comes after the lock. -/
def dnsServe (s : DnsState) : DnsLayerCall → DnsLayerAnswer × DnsState
  | .setConfig config => (.status (dnsLayerSetConfig config s).1, (dnsLayerSetConfig config s).2)
  | .getStats => (.stats (dnsLayerGetStats s), s)
  | .shouldObserve remotePort excludedPid =>
    let r := dnsLayerShouldObserve remotePort excludedPid s telemetryInitialize
    (.observe r.1, r.2.1)

/-! ## Undisturbed sections -/

theorem dnsObject_enter (k : DnsLayerCall) : dnsObject.enter k = dnsEnter k := rfl

theorem dnsObject_alone (k : DnsLayerCall) (s : DnsState) (m : DnsAccess) :
    dnsObject.alone k (s, .more m) = dnsBody s m := rfl

theorem reaches_scan (k : DnsLayerCall) (s : DnsState) (excludedPid : UInt32) (i : Nat) :
    Reaches (dnsObject.alone k) (s, .more (.checkPid excludedPid i))
      (if (dnsScan s.config excludedPid i).2 then
        ({ s with stats := { s.stats with skippedExcluded := s.stats.skippedExcluded + 1 } },
          .done (.observe false))
      else
        ({ s with stats := { s.stats with observedV4 := s.stats.observedV4 + 1 } },
          .done (.observe true))) := by
  fun_induction dnsScan s.config excludedPid i with
  | case1 i hi hfound =>
    apply Reaches.step
    simp only [dnsObject_alone, dnsBody, if_pos hi, if_pos hfound, if_true]
    exact Reaches.refl _
  | case2 i hi hother r ih =>
    apply Reaches.step
    simp only [dnsObject_alone, dnsBody, if_pos hi, if_neg hother]
    exact ih
  | case3 i hi =>
    apply Reaches.step
    simp only [dnsObject_alone, dnsBody, if_neg hi, Bool.false_eq_true, if_false]
    exact Reaches.step (Reaches.refl _)

theorem dns_atomic : dnsObject.Atomic dnsServe where
  rejected := by
    intro k r s h
    cases k with
    | getStats => cases h
    | setConfig config =>
      cases config with
      | none =>
        cases h
        rfl
      | some config =>
        simp only [dnsObject_enter, dnsEnter, dnsServe, dnsLayerSetConfig] at h ⊢
        split at h
        · next hv =>
          cases h
          rw [if_pos hv]
        · cases h
    | shouldObserve remotePort excludedPid =>
      simp only [dnsObject_enter, dnsEnter, dnsServe, dnsLayerShouldObserve] at h ⊢
      split at h
      · next hp =>
        cases h
        rw [if_pos hp]
      · cases h
  section_ := by
    intro k m s h
    cases k with
    | getStats =>
      cases h
      exact ⟨1, rfl⟩
    | setConfig config =>
      cases config with
      | none => cases h
      | some config =>
        simp only [dnsObject_enter, dnsEnter, dnsServe, dnsLayerSetConfig] at h ⊢
        split at h
        · cases h
        · next hv =>
          cases h
          rw [if_neg hv]
          exact ⟨2, rfl⟩
    | shouldObserve remotePort excludedPid =>
      simp only [dnsObject_enter, dnsEnter, dnsServe, dnsLayerShouldObserve] at h ⊢
      split at h
      · cases h
      · next hp =>
        cases h
        rw [if_neg hp]
        apply Reaches.step
        rw [dnsObject_alone, dnsBody]
        by_cases he : s.config.enabled = 0
        · rw [if_pos he, if_pos he]
          exact Reaches.refl _
        · rw [if_neg he, if_neg he, ← dnsScan_eq_dnsExcluded]
          have hscan := reaches_scan (.shouldObserve remotePort excludedPid) s excludedPid 0
          cases hx : (dnsScan s.config excludedPid 0).2 with
          | false | true =>
            rw [hx] at hscan
            exact hscan

/-! ## The record after the release -/

/-- The next step of a call: within the layer, or the record of what it answered, or none. -/
inductive DnsPc where
  | layer (pc : LockPc DnsLayerAnswer DnsAccess)
  | recorded (answer : DnsLayerAnswer)

/-- The part of a call within the layer. -/
def DnsPc.layered : DnsPc → LockPc DnsLayerAnswer DnsAccess
  | .layer pc => pc
  | .recorded answer => .returned answer

variable {ι : Type} [DecidableEq ι]

/-- One step of the call of thread `i`: within the layer, and after the release the record of an
observed query. -/
def dnsThread (call : ι → DnsLayerCall) (i : ι) :
    (Guarded ι DnsState × TelemetryState) × DnsPc → (Guarded ι DnsState × TelemetryState) × DnsPc
  | (s, .layer (.returned (.observe true))) =>
    ((s.1, telemetryRecordDnsObserve s.2), .recorded (.observe true))
  | (s, .layer (.returned answer)) => (s, .recorded answer)
  | (s, .layer pc) =>
    let r := dnsObject.step call i (s.1, pc)
    ((r.1, s.2), .layer r.2)
  | (s, .recorded answer) => (s, .recorded answer)

/-- All calls about to start, on a free lock. -/
def dnsStart (s : DnsState) (t : TelemetryState) :
    (Guarded ι DnsState × TelemetryState) × (ι → DnsPc) := ((⟨none, s⟩, t), fun _ => .layer .start)

theorem dnsThread_layered (call : ι → DnsLayerCall) (i : ι)
    (s : Guarded ι DnsState × TelemetryState) (pc : DnsPc) :
    dnsObject.step call i (s.1, pc.layered) =
      ((dnsThread call i (s, pc)).1.1, (dnsThread call i (s, pc)).2.layered) := by
  cases pc with
  | recorded answer => rfl
  | layer pc =>
    cases pc with
    | returned answer => rcases answer with status | stats | (_ | _) <;> rfl
    | start | acquire m | inside m | release r => rfl

/-- The query is observed and not recorded yet. -/
def DnsPc.unrecorded : DnsPc → Bool
  | .layer (.release (.observe true)) => true
  | .layer (.returned (.observe true)) => true
  | _ => false

theorem dnsEnter_unrecorded (k : DnsLayerCall) :
    (DnsPc.layer (.entered (dnsEnter k))).unrecorded = false := by
  cases k with
  | getStats => rfl
  | setConfig config =>
    cases config with
    | none => rfl
    | some config =>
      simp only [dnsEnter]
      split <;> rfl
  | shouldObserve remotePort excludedPid =>
    simp only [dnsEnter]
    split <;> rfl

/-- A query is counted as observed with the step that answers so. -/
theorem dnsBody_observedV4 (s : DnsState) (m : DnsAccess) :
    (dnsBody s m).1.stats.observedV4 =
      s.stats.observedV4 +
        if (DnsPc.layer (.continued (dnsBody s m).2)).unrecorded then 1 else 0 := by
  cases m with
  | copyConfig config | forceObserveOnly | copyStats => exact (UInt64.add_zero _).symm
  | checkEnabled excludedPid =>
    simp only [dnsBody]
    split <;> exact (UInt64.add_zero _).symm
  | checkPid excludedPid i =>
    simp only [dnsBody]
    split
    · split <;> exact (UInt64.add_zero _).symm
    · exact (UInt64.add_zero _).symm
  | observe => rfl

theorem dnsThread_counts (call : ι → DnsLayerCall) (i : ι) (s : Guarded ι DnsState × TelemetryState)
    (pc : DnsPc) :
    ((dnsThread call i (s, pc)).1.1.state.stats.observedV4 -
        (dnsThread call i (s, pc)).1.2.dnsObserveCount) + (if pc.unrecorded then 1 else 0) =
      (s.1.state.stats.observedV4 - s.2.dnsObserveCount) +
        (if (dnsThread call i (s, pc)).2.unrecorded then 1 else 0) := by
  cases pc with
  | recorded answer => rfl
  | layer pc =>
    cases pc with
    | start =>
      show s.1.state.stats.observedV4 - s.2.dnsObserveCount + 0 =
        s.1.state.stats.observedV4 - s.2.dnsObserveCount +
          if (DnsPc.layer (.entered (dnsEnter (call i)))).unrecorded then 1 else 0
      rw [dnsEnter_unrecorded]
      rfl
    | acquire m =>
      simp only [dnsThread, LockedObject.step]
      split <;> rfl
    | inside m =>
      show (dnsBody s.1.state m).1.stats.observedV4 - s.2.dnsObserveCount + 0 =
        s.1.state.stats.observedV4 - s.2.dnsObserveCount +
          if (DnsPc.layer (.continued (dnsBody s.1.state m).2)).unrecorded then 1 else 0
      rw [dnsBody_observedV4]
      abel
    | release answer => rcases answer with status | stats | (_ | _) <;> rfl
    | returned answer =>
      rcases answer with status | stats | (_ | _)
      · rfl
      · rfl
      · rfl
      · show s.1.state.stats.observedV4 - (s.2.dnsObserveCount + 1) + 1 =
          s.1.state.stats.observedV4 - s.2.dnsObserveCount + 0
        abel

theorem dnsThread_recorded (call : ι → DnsLayerCall) (i : ι)
    {c : (Guarded ι DnsState × TelemetryState) × (ι → DnsPc)} {answer : DnsLayerAnswer}
    (h : (c.2 i).layered = .returned answer) :
    (exec (dnsThread call) c i).2 i = .recorded answer := by
  simp only [exec, Function.update_self]
  cases hpc : c.2 i with
  | recorded answer' =>
    rw [hpc] at h
    cases h
    rfl
  | layer pc =>
    rw [hpc] at h
    obtain rfl : pc = .returned answer := h
    rcases answer with status | stats | (_ | _) <;> rfl

/-- The telemetry lags behind the statistics by the queries that are observed and not recorded yet. -/
theorem dns_accounted [Fintype ι] (call : ι → DnsLayerCall) (s : DnsState) (t : TelemetryState)
    (schedule : List ι) :
    let c := run (dnsThread call) (dnsStart s t) schedule
    c.1.1.state.stats.observedV4 - c.1.2.dnsObserveCount =
      (s.stats.observedV4 - t.dnsObserveCount) +
        UInt64.ofNat (Finset.univ.filter fun i => (c.2 i).unrecorded = true).card := by
  intro c
  rw [← sum_one_if]
  exact run_counter (dnsThread call) (fun s => s.1.state.stats.observedV4 - s.2.dnsObserveCount)
    (fun _ pc => if pc.unrecorded then 1 else 0) (dnsThread_counts call) (c := dnsStart s t)
    (fun _ => rfl) schedule

/-- **The DNS layer takes its calls one at a time**, step by step on any processors: they are
linearizable, so that no query sees half of a configuration; none is ever stuck; and the telemetry
counts every observed query, once its record has been made. -/
theorem dns_linearizable [Fintype ι] (call : ι → DnsLayerCall) (s : DnsState) (t : TelemetryState) :
    Linearizable (dnsThread call) (fun _ _ => True) (fun _ pc => pc = .layer .start)
        (fun _ pc => pc.layered.result) (serial dnsServe call)
        (fun c s' => c.1.1.lock = none → c.1.1.state = s') (dnsStart s t) s ∧
      (∀ schedule i, ∃ later answer,
        (run (dnsThread call) (dnsStart s t) (schedule ++ later)).2 i = .recorded answer) ∧
      ∀ schedule, let c := run (dnsThread call) (dnsStart s t) schedule
        c.1.1.state.stats.observedV4 - c.1.2.dnsObserveCount =
          (s.stats.observedV4 - t.dnsObserveCount) +
            UInt64.ofNat (Finset.univ.filter fun i => (c.2 i).unrecorded = true).card := by
  refine ⟨?_, ?_, dns_accounted call s t⟩
  · apply Linearizable.of_map (f := Prod.fst) (g := fun _ pc => pc.layered)
      (dns_atomic.linearizable call s) (dnsThread_layered call)
    · rintro i _ rfl
      rfl
    · exact fun _ _ _ h => h
    · exact fun _ _ _ h => h
  · intro schedule i
    obtain ⟨later, answer, hret⟩ := dns_atomic.returns call s schedule i
    refine ⟨later ++ [i], answer, ?_⟩
    rw [← List.append_assoc, run_append]
    apply dnsThread_recorded
    have hmap := run_map (dnsThread_layered call) (dnsStart s t) (schedule ++ later)
    exact (congrFun (congrArg Prod.snd hmap) i).symm.trans hret

end Guardian
