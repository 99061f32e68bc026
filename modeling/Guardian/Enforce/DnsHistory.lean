import Guardian.Enforce.Dns
import Guardian.Lib.Runs

/-!
# Histories of the DNS layer

The calls of `dns_observe.c` in any order, with the counters it shares with `telemetry.c`.

* `dnsScan` : the loop over the excluded PIDs with the indices it reads; `dnsScan_spec`;
* `dnsLayer` : the calls as a state machine;
* `lastConfig` : the last accepted configuration, computed from the answered calls alone;
* `Observes` : what that configuration says about a query; `dnsLayerShouldObserve_iff`;
* `dnsLayer_accounted` : observation and counters over every history.
-/

namespace Guardian

/-! ## The scan -/

/-- The loop over the excluded PIDs from index `i` on: the indices it reads, and whether it ends at the
PID. A read behind the array would give `none`. -/
def dnsScan (config : DnsConfigV1) (excludedPid : UInt32) (i : Nat) : List Nat × Bool :=
  if i < config.excludedPidCount.toNat ∧ i < 16 then
    if config.excludedPids.toList[i]? = some excludedPid then ([i], true)
    else
      let r := dnsScan config excludedPid (i + 1)
      (i :: r.1, r.2)
  else ([], false)
termination_by 16 - i

/-- The indices of `ExcludedPids` that a query reads. -/
def dnsReads (remotePort : UInt16) (excludedPid : UInt32) (s : DnsState) : List Nat :=
  if remotePort ≠ 53 then []
  else if s.config.enabled = 0 then []
  else (dnsScan s.config excludedPid 0).1

/-- The PIDs that a configuration excludes: the first ones of its array, 16 at most. -/
def DnsConfigV1.excluded (config : DnsConfigV1) : List UInt32 :=
  config.excludedPids.toList.take (min config.excludedPidCount.toNat 16)

theorem DnsConfigV1.length_excluded (config : DnsConfigV1) :
    config.excluded.length = min config.excludedPidCount.toNat 16 := by
  rw [excluded, List.length_take, Vector.length_toList]
  omega

theorem dnsExcluded_iff (config : DnsConfigV1) (excludedPid : UInt32) :
    dnsExcluded config excludedPid = true ↔ excludedPid ∈ config.excluded := by
  have htake : config.excludedPids.toList.take config.excludedPidCount.toNat = config.excluded := by
    rw [DnsConfigV1.excluded, List.take_eq_take_iff, Vector.length_toList]
    omega
  rw [dnsExcluded, htake, List.contains_iff_mem]

/-- The loop reads the array within its bounds and finds the PIDs that are excluded from `i` on. -/
theorem dnsScan_spec (config : DnsConfigV1) (excludedPid : UInt32) (i : Nat) :
    (∀ j ∈ (dnsScan config excludedPid i).1, j < 16) ∧
      ((dnsScan config excludedPid i).2 = true ↔ excludedPid ∈ config.excluded.drop i) := by
  have hlen := config.length_excluded
  fun_induction dnsScan config excludedPid i with
  | case1 i hi hfound =>
    have hget : config.excluded[i]? = some excludedPid := by
      rw [DnsConfigV1.excluded, List.getElem?_take_of_lt (by omega), hfound]
    refine ⟨?_, iff_of_true rfl ?_⟩
    · intro j hj
      rw [List.mem_singleton.mp hj]
      exact hi.2
    · rw [List.mem_iff_getElem?]
      exact ⟨0, by rw [List.getElem?_drop, Nat.add_zero, hget]⟩
  | case2 i hi hother r ih =>
    obtain ⟨hreads, hfound⟩ := ih
    have hlt : i < config.excluded.length := by omega
    have hne : excludedPid ≠ config.excluded[i] := by
      rintro rfl
      apply hother
      rw [← List.getElem?_eq_getElem hlt, DnsConfigV1.excluded,
        List.getElem?_take_of_lt (by omega)]
    constructor
    · intro j hj
      rcases List.mem_cons.mp hj with rfl | hj
      · exact hi.2
      · exact hreads j hj
    · rw [hfound, List.drop_eq_getElem_cons hlt, List.mem_cons, or_iff_right hne]
  | case3 i hi =>
    refine ⟨nofun, iff_of_false nofun ?_⟩
    rw [List.drop_eq_nil_of_le (by omega)]
    exact List.not_mem_nil

theorem dnsScan_eq_dnsExcluded (config : DnsConfigV1) (excludedPid : UInt32) :
    (dnsScan config excludedPid 0).2 = dnsExcluded config excludedPid := by
  rw [Bool.eq_iff_iff, (dnsScan_spec config excludedPid 0).2, List.drop_zero, dnsExcluded_iff]

theorem dnsReads_lt (remotePort : UInt16) (excludedPid : UInt32) (s : DnsState) :
    ∀ i ∈ dnsReads remotePort excludedPid s, i < 16 := by
  unfold dnsReads
  split_ifs
  · exact nofun
  · exact nofun
  · exact (dnsScan_spec s.config excludedPid 0).1

/-! ## The calls -/

inductive DnsCall where
  | setConfig (config : Option DnsConfigV1)
  | shouldObserve (remotePort : UInt16) (excludedPid : UInt32)

inductive DnsAnswer where
  | status (status : NTSTATUS)
  | observe (observe : Bool)
  deriving DecidableEq

def dnsStep (s : DnsState × TelemetryState) : DnsCall → DnsAnswer × DnsState × TelemetryState
  | .setConfig config =>
    let (status, dns) := dnsLayerSetConfig config s.1
    (.status status, dns, s.2)
  | .shouldObserve remotePort excludedPid =>
    let (observe, dns, t) := dnsLayerShouldObserve remotePort excludedPid s.1 s.2
    (.observe observe, dns, t)

def dnsLayer : Machine (DnsState × TelemetryState) DnsCall DnsAnswer := ⟨dnsStep⟩

/-- The call asks about port 53. -/
def DnsCall.isQuery : DnsCall → Bool
  | .setConfig _ => false
  | .shouldObserve remotePort _ => remotePort == 53

/-- The configuration accepted last, given the one before. -/
def observeConfig (last : Option DnsConfigV1) : DnsCall × DnsAnswer → Option DnsConfigV1
  | (.setConfig (some config), .status status) => if ntSuccess status then some config else last
  | _ => last

def lastConfig (answered : List (DnsCall × DnsAnswer)) : Option DnsConfigV1 :=
  answered.foldl observeConfig none

/-- What the configuration accepted last says about a query; before any, nothing is observed. -/
def Observes (last : Option DnsConfigV1) (remotePort : UInt16) (excludedPid : UInt32) : Prop :=
  remotePort = 53 ∧ ∃ config, last = some config ∧ config.enabled ≠ 0 ∧
    excludedPid ∉ config.excluded

/-! ## One call -/

/-- The stored configuration is the accepted one with `ObserveOnly` set, or the initial one. -/
def storedConfig (last : Option DnsConfigV1) : DnsConfigV1 :=
  match last with
  | some config => { config with observeOnly := 1 }
  | none => dnsLayerInitialize.config

theorem dnsLayerShouldObserve_config (remotePort : UInt16) (excludedPid : UInt32) (s : DnsState)
    (t : TelemetryState) :
    (dnsLayerShouldObserve remotePort excludedPid s t).2.1.config = s.config := by
  unfold dnsLayerShouldObserve
  split_ifs <;> rfl

theorem dnsStep_config {s : DnsState × TelemetryState} {last : Option DnsConfigV1}
    (h : s.1.config = storedConfig last) (call : DnsCall) :
    (dnsStep s call).2.1.config = storedConfig (observeConfig last (call, (dnsStep s call).1)) := by
  cases call with
  | shouldObserve remotePort excludedPid =>
    exact (dnsLayerShouldObserve_config remotePort excludedPid s.1 s.2).trans h
  | setConfig config =>
    cases config with
    | none => exact h
    | some config =>
      simp only [dnsStep, dnsLayerSetConfig]
      split_ifs with hv
      · exact h
      · rfl

/-- A query observes what the last accepted configuration says. -/
theorem dnsLayerShouldObserve_iff {s : DnsState} {last : Option DnsConfigV1}
    (h : s.config = storedConfig last) (remotePort : UInt16) (excludedPid : UInt32)
    (t : TelemetryState) :
    (dnsLayerShouldObserve remotePort excludedPid s t).1 = true ↔
      Observes last remotePort excludedPid := by
  have hstored : s.config.enabled ≠ 0 ∧ dnsExcluded s.config excludedPid = false ↔
      ∃ config, last = some config ∧ config.enabled ≠ 0 ∧ excludedPid ∉ config.excluded := by
    rw [h]
    cases last with
    | none => exact iff_of_false (fun hn => hn.1 rfl) (by simp)
    | some config =>
      have hex : dnsExcluded (storedConfig (some config)) excludedPid =
          dnsExcluded config excludedPid := rfl
      have hen : (storedConfig (some config)).enabled = config.enabled := rfl
      simp only [hex, hen, Option.some.injEq, exists_eq_left', ← dnsExcluded_iff,
        Bool.not_eq_true]
  unfold dnsLayerShouldObserve Observes
  rw [← hstored]
  by_cases hport : remotePort = 53
  · by_cases hen : s.config.enabled = 0
    · simp [hport, hen]
    · cases dnsExcluded s.config excludedPid <;> simp [hport, hen]
  · simp [hport]

/-- The three buckets of the queries. -/
def DnsStatsV1.queries (stats : DnsStatsV1) : UInt64 :=
  stats.skippedDisabled + stats.skippedExcluded + stats.observedV4

/-- A query goes into exactly one bucket; other calls go into none. -/
theorem dnsStep_queries (s : DnsState × TelemetryState) (call : DnsCall) :
    (dnsStep s call).2.1.stats.queries =
      if call.isQuery then s.1.stats.queries + 1 else s.1.stats.queries := by
  cases call with
  | setConfig config =>
    cases config with
    | none => rfl
    | some config =>
      simp only [dnsStep, dnsLayerSetConfig]
      split_ifs <;> first | rfl | contradiction
  | shouldObserve remotePort excludedPid =>
    show (dnsLayerShouldObserve remotePort excludedPid s.1 s.2).2.1.stats.queries = _
    simp only [DnsCall.isQuery, beq_iff_eq]
    unfold dnsLayerShouldObserve DnsStatsV1.queries
    by_cases hport : remotePort = 53
    · rw [if_neg (not_not.mpr hport), if_pos hport]
      split_ifs <;> simp only <;> ac_rfl
    · rw [if_pos hport, if_neg hport]

/-- The two modules count the observed queries alike. -/
def ObservedAlike (s : DnsState × TelemetryState) : Prop :=
  s.1.stats.observedV4 = s.2.dnsObserveCount

theorem dnsStep_observedAlike (s : DnsState × TelemetryState) (call : DnsCall)
    (h : ObservedAlike s) : ObservedAlike (dnsStep s call).2 := by
  unfold ObservedAlike at h ⊢
  cases call with
  | setConfig config =>
    cases config with
    | none => exact h
    | some config =>
      simp only [dnsStep, dnsLayerSetConfig]
      split_ifs <;> exact h
  | shouldObserve remotePort excludedPid =>
    simp only [dnsStep, dnsLayerShouldObserve, telemetryRecordDnsObserve]
    split_ifs
    · exact h
    · exact h
    · exact h
    · rw [h]

/-! ## Whole histories -/

/-- **The DNS layer follows the last accepted configuration and counts every query**, over every
history of calls after its initialisation. -/
theorem dnsLayer_accounted (calls : List DnsCall) :
    let start := (dnsLayerInitialize, telemetryInitialize)
    let s := dnsLayer.final start calls
    let stats := dnsLayerGetStats s.1
    (∀ remotePort excludedPid, (dnsLayerShouldObserve remotePort excludedPid s.1 s.2).1 = true ↔
      Observes (lastConfig (dnsLayer.trace start calls)) remotePort excludedPid) ∧
    (∀ remotePort excludedPid, ∀ i ∈ dnsReads remotePort excludedPid s.1, i < 16) ∧
    s.1.config.observeOnly = 1 ∧
    stats.skippedDisabled + stats.skippedExcluded + stats.observedV4 =
      UInt64.ofNat (calls.countP DnsCall.isQuery) ∧
    stats.observedV4 = (telemetryGet s.2).dnsObserveCount := by
  intro start s stats
  have hconfig : s.1.config = storedConfig (lastConfig (dnsLayer.trace start calls)) :=
    dnsLayer.final_observe observeConfig (fun s last => s.1.config = storedConfig last)
      (fun _ _ call h => dnsStep_config h call) rfl calls
  refine ⟨?_, ?_, ?_, ?_, ?_⟩
  · intro remotePort excludedPid
    exact dnsLayerShouldObserve_iff hconfig remotePort excludedPid s.2
  · intro remotePort excludedPid
    exact dnsReads_lt remotePort excludedPid s.1
  · rw [hconfig]
    cases lastConfig (dnsLayer.trace start calls) <;> rfl
  · have hqueries := dnsLayer.final_countP (fun s => s.1.stats.queries) (· + 1)
      (fun a => a.1.isQuery) dnsStep_queries start calls
    rw [iterate_increment, dnsLayer.countP_trace] at hqueries
    exact hqueries.trans (UInt64.zero_add _)
  · exact dnsLayer.final_inv ObservedAlike dnsStep_observedAlike (s := start) rfl calls

/-- Enabled, without process 4. -/
def enabledConfig : DnsConfigV1 :=
  { DnsConfigV1.zero with
    version := dnsConfigVersion, enabled := 1, excludedPidCount := 1, excludedPids := Vector.replicate 16 4 }

/-- The configuration is accepted, one of version 2 is not; a query of process 8 is observed, one of process 4
is skipped, and a connection to port 80 is not counted. -/
theorem dnsLayer_accounted_enabled :
    let s := dnsLayer.final (dnsLayerInitialize, telemetryInitialize)
      [.setConfig (some enabledConfig), .setConfig (some { DnsConfigV1.zero with version := 2 }),
        .shouldObserve 53 8, .shouldObserve 53 4, .shouldObserve 80 8]
    (dnsLayerShouldObserve 53 8 s.1 s.2).1 = true ∧ (dnsLayerShouldObserve 53 4 s.1 s.2).1 = false ∧
      s.1.stats.queries = 2 ∧ (telemetryGet s.2).dnsObserveCount = 1 := by
  intro s
  obtain ⟨hobserves, -, -, hqueries, hcount⟩ := dnsLayer_accounted
    [.setConfig (some enabledConfig), .setConfig (some { DnsConfigV1.zero with version := 2 }),
      .shouldObserve 53 8, .shouldObserve 53 4, .shouldObserve 80 8]
  have hexcluded : ¬ (dnsLayerShouldObserve 53 4 s.1 s.2).1 = true := by
    rintro hobserved
    obtain ⟨-, config, hlast, -, hno⟩ := (hobserves 53 4).mp hobserved
    cases hlast
    exact hno (by decide)
  refine ⟨(hobserves 53 8).mpr ⟨rfl, enabledConfig, rfl, by decide, by decide⟩, by simpa using hexcluded,
    hqueries, hcount.symm.trans ?_⟩
  decide

end Guardian
