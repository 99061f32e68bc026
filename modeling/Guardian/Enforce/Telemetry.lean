import Guardian.Enforce.KillSwitch
import Mathlib.Logic.Function.Iterate

/-!
# Counters (`telemetry.c`)

All counters wrap at `2^64`, as the interlocked operations do.

* `TelemetryState.actionCount` : the counter of an action; what `telemetryRecordClassify` does to the
  counters, field by field;
* `TelemetryState.sample` : the sampled latencies; `telemetryRecordClassify_sample` when one is taken;
* `iterate_increment` : a counter after `n` increments.
-/

namespace Guardian

def latencySampleMask : UInt64 := 0xFF

/-- `GUARDIAN_TELEMETRY_STATE` -/
structure TelemetryState where
  classifyCount : UInt64
  blockCount : UInt64
  routeCount : UInt64
  permitCount : UInt64
  observeCount : UInt64
  errorCount : UInt64
  dnsObserveCount : UInt64
  latencySum100ns : UInt64
  latencySamples : UInt64
  maxLatency100ns : UInt64
  ipcDispatchCount : UInt64
  ipcRejectCount : UInt64
  ipcLatencySum100ns : UInt64
  ipcLatencySamples : UInt64
  maxIpcLatency100ns : UInt64
  deferredWorkCount : UInt64
  deriving DecidableEq

def telemetryInitialize : TelemetryState := ⟨0, 0, 0, 0, 0, 0, 0, 0, 0, 0, 0, 0, 0, 0, 0, 0⟩

def telemetryRecordClassify (action : ClassifyAction) (latency100ns : UInt64)
    (t : TelemetryState) : TelemetryState :=
  let t := { t with classifyCount := t.classifyCount + 1 }
  let t := match action with
    | .block => { t with blockCount := t.blockCount + 1 }
    | .route => { t with routeCount := t.routeCount + 1 }
    | .observe => { t with observeCount := t.observeCount + 1 }
    | .permit => { t with permitCount := t.permitCount + 1 }
  if t.latencySamples &&& latencySampleMask = 0 then
    { t with
      latencySum100ns := t.latencySum100ns + latency100ns
      latencySamples := t.latencySamples + 1
      maxLatency100ns :=
        if latency100ns > t.maxLatency100ns then latency100ns else t.maxLatency100ns }
  else t

def telemetryRecordError (t : TelemetryState) : TelemetryState :=
  { t with errorCount := t.errorCount + 1 }

def telemetryRecordDnsObserve (t : TelemetryState) : TelemetryState :=
  { t with dnsObserveCount := t.dnsObserveCount + 1 }

def telemetryGet (t : TelemetryState) : TelemetryV1 where
  version := telemetryVersion
  classifyCount := t.classifyCount
  blockCount := t.blockCount
  routeCount := t.routeCount
  permitCount := t.permitCount
  observeCount := t.observeCount
  errorCount := t.errorCount
  dnsObserveCount := t.dnsObserveCount
  maxClassifyLatency100ns := t.maxLatency100ns
  avgClassifyLatency100ns :=
    if t.latencySamples > 0 then t.latencySum100ns / t.latencySamples else 0

/-- The two active counts are those of the policy and the route table. -/
def perfStatsGet (activePolicyCount activeRouteCount : UInt32) (t : TelemetryState) :
    PerfStatsV1 where
  version := perfStatsVersion
  ipcDispatchCount := t.ipcDispatchCount
  ipcRejectCount := t.ipcRejectCount
  maxIpcLatency100ns := t.maxIpcLatency100ns
  deferredWorkCount := t.deferredWorkCount
  activePolicyCount := activePolicyCount
  activeRouteCount := activeRouteCount
  avgIpcLatency100ns :=
    if t.ipcLatencySamples > 0 then t.ipcLatencySum100ns / t.ipcLatencySamples else 0

def perfRecordIpc (rejected : Bool) (latency100ns : UInt64) (t : TelemetryState) :
    TelemetryState :=
  let t := { t with ipcDispatchCount := t.ipcDispatchCount + 1 }
  let t := if rejected then { t with ipcRejectCount := t.ipcRejectCount + 1 } else t
  { t with
    ipcLatencySum100ns := t.ipcLatencySum100ns + latency100ns
    ipcLatencySamples := t.ipcLatencySamples + 1
    maxIpcLatency100ns :=
      if latency100ns > t.maxIpcLatency100ns then latency100ns else t.maxIpcLatency100ns }

/-! ## What is counted -/

theorem iterate_increment (n : Nat) (x : UInt64) : (· + 1)^[n] x = x + UInt64.ofNat n := by
  induction n generalizing x with
  | zero => exact (UInt64.add_zero x).symm
  | succ n ih =>
    have hone : UInt64.ofNat 1 = 1 := rfl
    rw [Function.iterate_succ_apply, ih, Nat.add_comm n 1, UInt64.ofNat_add, hone, UInt64.add_assoc]

/-- The counter of an action. -/
def TelemetryState.actionCount (t : TelemetryState) : ClassifyAction → UInt64
  | .permit => t.permitCount
  | .block => t.blockCount
  | .route => t.routeCount
  | .observe => t.observeCount

/-- The sum, the number and the maximum of the sampled latencies. -/
def TelemetryState.sample (t : TelemetryState) : UInt64 × UInt64 × UInt64 :=
  (t.latencySum100ns, t.latencySamples, t.maxLatency100ns)

section

variable (action : ClassifyAction) (latency100ns : UInt64) (t : TelemetryState)

@[simp] theorem telemetryRecordClassify_classifyCount :
    (telemetryRecordClassify action latency100ns t).classifyCount = t.classifyCount + 1 := by
  unfold telemetryRecordClassify
  cases action <;> simp only <;> split <;> rfl

@[simp] theorem telemetryRecordClassify_errorCount :
    (telemetryRecordClassify action latency100ns t).errorCount = t.errorCount := by
  unfold telemetryRecordClassify
  cases action <;> simp only <;> split <;> rfl

@[simp] theorem telemetryRecordClassify_actionCount (counted : ClassifyAction) :
    (telemetryRecordClassify action latency100ns t).actionCount counted =
      if action = counted then t.actionCount counted + 1 else t.actionCount counted := by
  unfold telemetryRecordClassify
  cases action <;> simp only <;> split <;> cases counted <;> rfl

theorem telemetryRecordClassify_frame : ∃ c b r p o sum samples max,
    telemetryRecordClassify action latency100ns t = { t with
      classifyCount := c
      blockCount := b
      routeCount := r
      permitCount := p
      observeCount := o
      latencySum100ns := sum
      latencySamples := samples
      maxLatency100ns := max } := by
  unfold telemetryRecordClassify
  cases action <;> simp only <;> split <;> exact ⟨_, _, _, _, _, _, _, _, rfl⟩

/-- A latency is sampled where the number of samples, not that of the calls, is a multiple of 256. -/
theorem telemetryRecordClassify_sample :
    (telemetryRecordClassify action latency100ns t).sample =
      if t.latencySamples &&& latencySampleMask = 0 then
        (t.latencySum100ns + latency100ns, t.latencySamples + 1,
          if latency100ns > t.maxLatency100ns then latency100ns else t.maxLatency100ns)
      else t.sample := by
  unfold telemetryRecordClassify TelemetryState.sample
  cases action <;> simp only <;> split <;> rfl

@[simp] theorem telemetryRecordError_actionCount (counted : ClassifyAction) :
    (telemetryRecordError t).actionCount counted = t.actionCount counted := by
  cases counted <;> rfl

end

end Guardian
