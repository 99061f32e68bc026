import Guardian.Runs.Accounting

/-!
# What the latencies measure

`KeQueryPerformanceCounter` returns the counter and stores its frequency through the pointer. The
callers read the variable behind the pointer.

* `RunsAt` : one frequency and counters that do not run backwards;
* `MeasuresElapsed`, `latencies_measured_iff` : the reported latencies are those of the counters
  exactly where no time passes;
* `latencyRecorder`, `SamplesEvery256`, `samplesEvery256_iff` : the sampling of the classify
  latencies stops after the first sample.
-/

namespace Guardian

/-! ## Elapsed time -/

/-- The ticks between two readings of the counter. -/
def elapsed (start stop : PerformanceCounter) : Nat := stop.counter.toNat - start.counter.toNat

/-- The two readings come from a counter of the given frequency, the second not before the first. -/
structure RunsAt (frequency : UInt64) (start stop : PerformanceCounter) : Prop where
  startFrequency : start.frequency = frequency
  stopFrequency : stop.frequency = frequency
  ordered : start.counter ≤ stop.counter

theorem RunsAt.quadPart {f : UInt64} {start stop : PerformanceCounter} (h : RunsAt f start stop) :
    stop.quadPart - start.quadPart = 0 := by
  unfold PerformanceCounter.quadPart
  rw [h.startFrequency, h.stopFrequency, UInt64.sub_self]

theorem RunsAt.elapsed_eq_zero {f : UInt64} {start stop : PerformanceCounter}
    (h : RunsAt f start stop) : elapsed start stop = 0 ↔ stop.counter = start.counter := by
  have hle : start.counter.toNat ≤ stop.counter.toNat := UInt64.le_iff_toNat_le.mp h.ordered
  unfold elapsed
  rw [← UInt64.toNat_inj]
  omega

def Event.request : Event → Option IoctlRequest
  | .ioctl rq => some rq
  | _ => none

/-- The requests of a run, in their order. -/
def requests (es : List Event) : List IoctlRequest := es.filterMap Event.request

def IoctlRequest.elapsed (rq : IoctlRequest) : Nat := Guardian.elapsed rq.start rq.stop

/-- The report has the maximum and the floored mean of the ticks that the requests took. -/
def MeasuresElapsed (rqs : List IoctlRequest) (p : PerfStatsV1) : Prop :=
  p.maxIpcLatency100ns.toNat = (rqs.map IoctlRequest.elapsed).foldr max 0 ∧
    p.avgIpcLatency100ns.toNat = (rqs.map IoctlRequest.elapsed).sum / rqs.length

/-- No request has been measured to take any time. -/
def NothingMeasured (g : Globals) : Prop :=
  g.telemetry.ipcLatencySum100ns = 0 ∧ g.telemetry.maxIpcLatency100ns = 0

theorem driverStep_nothingMeasured {f : UInt64} {e : Event}
    (h : ∀ rq, e.request = some rq → RunsAt f rq.start rq.stop) (g : Globals)
    (hg : NothingMeasured g) : NothingMeasured (driverStep g e).2 := by
  unfold NothingMeasured at hg ⊢
  cases e with
  | ioctl rq =>
    show (evtIoDeviceControl rq g).2.telemetry.ipcLatencySum100ns = 0 ∧
      (evtIoDeviceControl rq g).2.telemetry.maxIpcLatency100ns = 0
    rw [evtIoDeviceControl_telemetry, (h rq rfl).quadPart]
    unfold perfRecordIpc
    cases ntSuccess (evtIoDeviceControl rq g).1.status <;> simp [hg]
  | authConnectV4 values clock out | authConnectV6 values clock out =>
    constructor
    · exact (driverStep_classify_ipc (by nofun)).2.2.1.trans hg.1
    · exact (driverStep_classify_ipc (by nofun)).2.2.2.trans hg.2

theorem nothingMeasured {f : UInt64} {es : List Event}
    (h : ∀ rq ∈ requests es, RunsAt f rq.start rq.stop) (boot : Boot) :
    NothingMeasured (driver.final (loaded boot) es) := by
  apply driver.final_inv_of_mem NothingMeasured
  · intro g e he
    apply driverStep_nothingMeasured (f := f)
    intro rq hrq
    exact h rq (List.mem_filterMap.mpr ⟨e, he, hrq⟩)
  · rw [NothingMeasured, loaded_telemetry]
    exact ⟨rfl, rfl⟩

theorem foldr_max_eq_zero_iff (l : List Nat) : l.foldr max 0 = 0 ↔ ∀ x ∈ l, x = 0 := by
  induction l with
  | nil => simp
  | cons x xs ih => rw [List.foldr_cons, List.forall_mem_cons, ← ih]; omega

/-- A report of zeros is right exactly where no request takes any time. -/
theorem measuresElapsed_iff {f : UInt64} {rqs : List IoctlRequest}
    (h : ∀ rq ∈ rqs, RunsAt f rq.start rq.stop) {p : PerfStatsV1}
    (hmax : p.maxIpcLatency100ns = 0) (havg : p.avgIpcLatency100ns = 0) :
    MeasuresElapsed rqs p ↔ ∀ rq ∈ rqs, rq.stop.counter = rq.start.counter := by
  have hzero : (∀ x ∈ rqs.map IoctlRequest.elapsed, x = 0) ↔
      ∀ rq ∈ rqs, rq.stop.counter = rq.start.counter := by
    rw [List.forall_mem_map]
    exact forall₂_congr fun rq hrq => (h rq hrq).elapsed_eq_zero
  rw [MeasuresElapsed, hmax, havg, UInt64.toNat_zero, ← hzero, eq_comm, foldr_max_eq_zero_iff]
  constructor
  · rintro ⟨hall, -⟩
    exact hall
  · intro hall
    refine ⟨hall, ?_⟩
    rw [List.sum_eq_zero_iff_forall_eq_nat.mpr hall, Nat.zero_div]

theorem evtIoDeviceControl_perfStats {g : Globals} (hg : NothingMeasured g) {rq : IoctlRequest}
    {p : PerfStatsV1} (hp : (evtIoDeviceControl rq g).1.output = some (.perfStats p)) :
    p.maxIpcLatency100ns = 0 ∧ p.avgIpcLatency100ns = 0 := by
  have hreport := evtIoDeviceControl_report hp
  obtain rfl : perfStatsGet _ _ g.telemetry = p := by
    simpa [IoctlCode.report, Output.code] using hreport
  refine ⟨hg.2, ?_⟩
  show (if g.telemetry.ipcLatencySamples > 0 then
    g.telemetry.ipcLatencySum100ns / g.telemetry.ipcLatencySamples else 0) = 0
  rw [hg.1, UInt64.zero_div, ite_self]

/-- **When the latencies are those of the counter**: on a counter of constant frequency a
GET_PERF_STATS reports the maximum and the mean of the ticks that the requests before it took exactly
where none of them took any, and a classification records the ticks it took exactly where it took
none. Both subtract one frequency from the other. -/
theorem latencies_measured_iff (boot : Boot) {es : List Event} {f : UInt64}
    (h : ∀ rq ∈ requests es, RunsAt f rq.start rq.stop) :
    (∀ rq p, (evtIoDeviceControl rq (driver.final (loaded boot) es)).1.output =
        some (.perfStats p) →
      (MeasuresElapsed (requests es) p ↔
        ∀ rq ∈ requests es, rq.stop.counter = rq.start.counter)) ∧
    ∀ values (clock : Clock) g, RunsAt f clock.start clock.stop →
      (classifyConnection values clock g).2.2.telemetry =
        (if ntSuccess (classifyConnection values clock g).1 then
          telemetryRecordClassify (classifyConnection values clock g).2.1.action clock.latency
            g.telemetry
        else telemetryRecordError g.telemetry) ∧
      (clock.latency.toNat = elapsed clock.start clock.stop ↔
        clock.stop.counter = clock.start.counter) := by
  constructor
  · intro rq p hp
    obtain ⟨hmax, havg⟩ := evtIoDeviceControl_perfStats (nothingMeasured h boot) hp
    exact measuresElapsed_iff h hmax havg
  · intro values clock g hclock
    refine ⟨classifyConnection_telemetry values clock g, ?_⟩
    rw [Clock.latency, hclock.quadPart, UInt64.toNat_zero, eq_comm]
    exact hclock.elapsed_eq_zero

/-- A request that takes five ticks. -/
def fiveTicks : IoctlRequest :=
  { plainRequest .getTelemetry [] 76 with start := ⟨0, 10000000⟩, stop := ⟨5, 10000000⟩ }

theorem fiveTicks_runsAt : ∀ rq ∈ requests [.ioctl fiveTicks], RunsAt 10000000 rq.start rq.stop := by
  intro rq hrq
  obtain rfl := List.mem_singleton.mp hrq
  exact ⟨rfl, rfl, by decide⟩

theorem latencies_measured_fiveTicks :
    ∃ p, (evtIoDeviceControl (plainRequest .getPerfStats [] 52)
        (driver.final (loaded (quietBoot none)) [.ioctl fiveTicks])).1.output =
          some (.perfStats p) ∧
      (MeasuresElapsed [fiveTicks] p ↔ ∀ rq ∈ [fiveTicks], rq.stop.counter = rq.start.counter) :=
  ⟨_, rfl, (latencies_measured_iff (quietBoot none) fiveTicks_runsAt).1
    (plainRequest .getPerfStats [] 52) _ rfl⟩

/-- The request of five ticks is reported with a latency of zero; so is a classification of five. -/
theorem not_forall_measuresElapsed :
    (¬ ∀ boot es f rq p, 0 < f → (∀ rq ∈ requests es, RunsAt f rq.start rq.stop) →
      requests es ≠ [] → ((requests es).map IoctlRequest.elapsed).sum < 2 ^ 63 →
      (evtIoDeviceControl rq (driver.final (loaded boot) es)).1.output = some (.perfStats p) →
      MeasuresElapsed (requests es) p) ∧
    ¬ ∀ (clock : Clock) f, 0 < f → RunsAt f clock.start clock.stop →
      clock.latency.toNat = elapsed clock.start clock.stop := by
  constructor
  · intro h
    have hmeasured := h (quietBoot none) [.ioctl fiveTicks] 10000000
      (plainRequest .getPerfStats [] 52) _ (by decide) fiveTicks_runsAt (List.cons_ne_nil _ _)
      (by decide) rfl
    exact absurd hmeasured.1 (by decide)
  · intro h
    have hlatency := h ⟨⟨0, 10000000⟩, ⟨5, 10000000⟩⟩ 10000000 (by decide) ⟨rfl, rfl, by decide⟩
    exact absurd hlatency (by decide)

/-! ## Sampling -/

/-- The calls of `telemetryRecordClassify`, each answered by whether its latency was sampled. -/
def latencyRecorder : Machine TelemetryState (ClassifyAction × UInt64) Bool where
  step t call :=
    let t' := telemetryRecordClassify call.1 call.2 t
    (t'.latencySamples ≠ t.latencySamples, t')

/-- The latencies `l_0`, `l_256`, `l_512` and so on. -/
def dueLatencies (calls : List (ClassifyAction × UInt64)) : List Nat :=
  (calls.zipIdx.filter fun call => call.2 % 256 = 0).map fun call => call.1.2.toNat

/-- From a fresh state on the calls with an index divisible by 256 are sampled, and the report has
the maximum and the floored mean of their latencies. -/
structure SamplesEvery256 (calls : List (ClassifyAction × UInt64)) : Prop where
  sampled : ∀ i call sampled,
    (latencyRecorder.trace telemetryInitialize calls)[i]? = some (call, sampled) →
    (sampled = true ↔ i % 256 = 0)
  samples : (latencyRecorder.final telemetryInitialize calls).latencySamples.toNat =
    (calls.length + 255) / 256
  max : (telemetryGet (latencyRecorder.final telemetryInitialize calls)).maxClassifyLatency100ns.toNat
    = (dueLatencies calls).foldr Nat.max 0
  avg : (telemetryGet (latencyRecorder.final telemetryInitialize calls)).avgClassifyLatency100ns.toNat
    = (dueLatencies calls).sum / (dueLatencies calls).length

/-- One sample has been taken, of the latency `l`. -/
def SampledOnce (l : UInt64) (t : TelemetryState) : Prop := t.sample = (l, 1, l)

theorem SampledOnce.samples {l : UInt64} {t : TelemetryState} (h : SampledOnce l t) :
    t.latencySamples = 1 := congrArg (fun s => s.2.1) h

theorem SampledOnce.reported {l : UInt64} {t : TelemetryState} (h : SampledOnce l t) :
    (telemetryGet t).maxClassifyLatency100ns = l ∧ (telemetryGet t).avgClassifyLatency100ns = l := by
  have hsum : t.latencySum100ns = l := congrArg (fun s => s.1) h
  have hmax : t.maxLatency100ns = l := congrArg (fun s => s.2.2) h
  refine ⟨hmax, ?_⟩
  show (if t.latencySamples > 0 then t.latencySum100ns / t.latencySamples else 0) = l
  rw [hsum, h.samples, if_pos (by decide), UInt64.div_one]

theorem record_first (call : ClassifyAction × UInt64) :
    (latencyRecorder.step telemetryInitialize call).1 = true ∧
      SampledOnce call.2 (latencyRecorder.step telemetryInitialize call).2 := by
  have hmax : (if call.2 > 0 then call.2 else 0) = call.2 := by
    split
    · rfl
    · next h =>
      have hle := UInt64.le_iff_toNat_le.mp (UInt64.not_lt.mp h)
      exact UInt64.toNat_inj.mp (Nat.le_antisymm (Nat.zero_le _) hle)
  have hdue : telemetryInitialize.latencySamples &&& latencySampleMask = 0 := by decide
  have honce : SampledOnce call.2 (telemetryRecordClassify call.1 call.2 telemetryInitialize) := by
    rw [SampledOnce, telemetryRecordClassify_sample, if_pos hdue]
    show (0 + call.2, 0 + 1, if call.2 > 0 then call.2 else 0) = _
    rw [hmax, UInt64.zero_add, UInt64.zero_add]
  refine ⟨decide_eq_true ?_, honce⟩
  rw [honce.samples]
  decide

theorem record_again {l : UInt64} {t : TelemetryState} (h : SampledOnce l t)
    (call : ClassifyAction × UInt64) :
    (latencyRecorder.step t call).1 = false ∧ SampledOnce l (latencyRecorder.step t call).2 := by
  have hsample : (telemetryRecordClassify call.1 call.2 t).sample = t.sample := by
    rw [telemetryRecordClassify_sample, h.samples, if_neg (by decide)]
  have hsamples : (telemetryRecordClassify call.1 call.2 t).latencySamples = t.latencySamples :=
    congrArg (fun s => s.2.1) hsample
  exact ⟨decide_eq_false (not_not.mpr hsamples), hsample.trans h⟩

theorem final_sampledOnce (call : ClassifyAction × UInt64) (calls : List (ClassifyAction × UInt64)) :
    SampledOnce call.2 (latencyRecorder.final telemetryInitialize (call :: calls)) :=
  latencyRecorder.final_inv (SampledOnce call.2) (fun _ e h => (record_again h e).2)
    (record_first call).2 calls

theorem dueLatencies_cons {call : ClassifyAction × UInt64} {calls : List (ClassifyAction × UInt64)}
    (h : calls.length < 256) : dueLatencies (call :: calls) = [call.2.toNat] := by
  have hnone : (calls.zipIdx 1).filter (fun call => call.2 % 256 = 0) = [] := by
    rw [List.filter_eq_nil_iff]
    intro a ha
    have hindex := List.mem_zipIdx ha
    simp only [decide_eq_true_eq]
    omega
  unfold dueLatencies
  rw [List.zipIdx_cons, List.filter_cons_of_pos (by rfl), hnone]
  rfl

/-- Up to 256 calls, sampling the first one alone is sampling every 256th. -/
theorem samplesEvery256_of_le {calls : List (ClassifyAction × UInt64)} (h : calls.length ≤ 256) :
    SamplesEvery256 calls := by
  cases calls with
  | nil => exact ⟨nofun, rfl, rfl, rfl⟩
  | cons call calls =>
    rw [List.length_cons] at h
    have hfinal := final_sampledOnce call calls
    obtain ⟨hmax, havg⟩ := hfinal.reported
    have hdue : dueLatencies (call :: calls) = [call.2.toNat] := dueLatencies_cons (by omega)
    constructor
    · rintro (_ | i) call' sampled hi
      · rw [Machine.trace_cons, (record_first call).1, List.getElem?_cons_zero] at hi
        cases hi
        exact iff_of_true rfl rfl
      · rw [Machine.trace_cons, List.getElem?_cons_succ] at hi
        obtain ⟨hlt, -⟩ := List.getElem?_eq_some_iff.mp hi
        rw [Machine.length_trace] at hlt
        have hunsampled := latencyRecorder.forall_mem_trace_of_inv (P := SampledOnce call.2)
          (Q := fun a => a.2 = false) (fun _ e h => (record_again h e).2)
          (fun _ e h => (record_again h e).1) (record_first call).2 calls
        have hfalse : sampled = false := hunsampled _ (List.mem_of_getElem? hi)
        rw [hfalse]
        exact iff_of_false Bool.false_ne_true (by omega)
    · rw [hfinal.samples, List.length_cons]
      show 1 = _
      omega
    · rw [hdue, hmax]
      exact (Nat.max_zero _).symm
    · rw [hdue, havg, List.sum_singleton, List.length_singleton, Nat.div_one]

/-- **How long the sampling keeps to every 256th call**: up to 256 calls. The mask is applied to the
number of samples, which stays at one after the first. -/
theorem samplesEvery256_iff (calls : List (ClassifyAction × UInt64)) :
    SamplesEvery256 calls ↔ calls.length ≤ 256 := by
  constructor
  · intro h
    cases calls with
    | nil => exact Nat.zero_le _
    | cons call calls =>
      have hsamples := h.samples
      rw [(final_sampledOnce call calls).samples, UInt64.toNat_one] at hsamples
      omega
  · exact samplesEvery256_of_le

/-- Over 257 calls the second sample is due, and not taken. -/
theorem not_forall_samplesEvery256 :
    ¬ ∀ calls : List (ClassifyAction × UInt64),
      (calls.map fun call => call.2.toNat).sum < 2 ^ 63 → SamplesEvery256 calls := by
  intro h
  let rest : List (ClassifyAction × UInt64) := List.replicate 256 (.permit, 0)
  have hlength : rest.length = 256 := List.length_replicate
  have hzero : ∀ call ∈ (ClassifyAction.permit, (0 : UInt64)) :: rest, call.2.toNat = 0 := by
    intro call hcall
    rcases List.mem_cons.mp hcall with rfl | hcall
    · rfl
    · rw [List.eq_of_mem_replicate hcall]
      rfl
  have hsum := List.sum_eq_zero_iff_forall_eq_nat.mpr (List.forall_mem_map.mpr hzero)
  have hsamples := (h ((.permit, 0) :: rest) (by rw [hsum]; decide)).samples
  rw [(final_sampledOnce _ rest).samples, List.length_cons, hlength] at hsamples
  exact absurd hsamples (by decide)

end Guardian
