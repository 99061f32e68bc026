import Guardian.Enforce.Telemetry
import Guardian.Lib.Counting

/-!
# The counters while calls overlap

The records of `telemetry.c` run on any number of processors at once. Their increments and additions
are interlocked, one step each; between them everybody else runs.

* `TelemetryCall`, `RecordPc`, `recordStep` : the records and their steps; `TelemetryCall.record` the
  same at once, `recordStep_alone`;
* `Counter`, `Counter.share` : the interlocked counters, and what a record has added so far;
  `read_recordStep`;
* `RecordPc.stepsLeft`, `recordsRun_finished` : seven steps of its own end a record;
* `telemetry_exact` : no overlap loses a count, and the total leads its parts by the records that are
  between their two increments.
-/

namespace Guardian
open Interleave

inductive TelemetryCall where
  | classify (action : ClassifyAction) (latency100ns : UInt64)
  | error
  | dnsObserve
  | ipc (rejected : Bool) (latency100ns : UInt64)

/-- The record of a call, at once. -/
def TelemetryCall.record : TelemetryCall → TelemetryState → TelemetryState
  | .classify action latency100ns => telemetryRecordClassify action latency100ns
  | .error => telemetryRecordError
  | .dnsObserve => telemetryRecordDnsObserve
  | .ipc rejected latency100ns => perfRecordIpc rejected latency100ns

/-- The next step of a record; `skipped` is the end of one whose latency is not sampled. -/
inductive RecordPc : TelemetryCall → Type where
  | start {call} : RecordPc call
  | countAction {action latency100ns} : RecordPc (.classify action latency100ns)
  | checkSample {action latency100ns} : RecordPc (.classify action latency100ns)
  | addLatency {action latency100ns} : RecordPc (.classify action latency100ns)
  | countSample {action latency100ns} : RecordPc (.classify action latency100ns)
  | compareMax {action latency100ns} : RecordPc (.classify action latency100ns)
  | writeMax {action latency100ns} : RecordPc (.classify action latency100ns)
  | skipped {action latency100ns} : RecordPc (.classify action latency100ns)
  | countReject {rejected latency100ns} : RecordPc (.ipc rejected latency100ns)
  | addIpcLatency {rejected latency100ns} : RecordPc (.ipc rejected latency100ns)
  | countIpcSample {rejected latency100ns} : RecordPc (.ipc rejected latency100ns)
  | compareMaxIpc {rejected latency100ns} : RecordPc (.ipc rejected latency100ns)
  | writeMaxIpc {rejected latency100ns} : RecordPc (.ipc rejected latency100ns)
  | done {call} : RecordPc call

/-- The increment of the counter of an action. -/
def TelemetryState.countAction (t : TelemetryState) : ClassifyAction → TelemetryState
  | .block => { t with blockCount := t.blockCount + 1 }
  | .route => { t with routeCount := t.routeCount + 1 }
  | .observe => { t with observeCount := t.observeCount + 1 }
  | .permit => { t with permitCount := t.permitCount + 1 }

/-- One step of a record. -/
def recordStep : ∀ call, TelemetryState × RecordPc call → TelemetryState × RecordPc call
  | .classify _ _, (t, .start) => ({ t with classifyCount := t.classifyCount + 1 }, .countAction)
  | .classify action _, (t, .countAction) => (t.countAction action, .checkSample)
  | .classify _ _, (t, .checkSample) =>
    (t, if t.latencySamples &&& latencySampleMask = 0 then .addLatency else .skipped)
  | .classify _ latency100ns, (t, .addLatency) =>
    ({ t with latencySum100ns := t.latencySum100ns + latency100ns }, .countSample)
  | .classify _ _, (t, .countSample) => ({ t with latencySamples := t.latencySamples + 1 }, .compareMax)
  | .classify _ latency100ns, (t, .compareMax) =>
    (t, if latency100ns > t.maxLatency100ns then .writeMax else .done)
  | .classify _ latency100ns, (t, .writeMax) => ({ t with maxLatency100ns := latency100ns }, .done)
  | .classify _ _, (t, .skipped) => (t, .skipped)
  | .error, (t, .start) => ({ t with errorCount := t.errorCount + 1 }, .done)
  | .dnsObserve, (t, .start) => ({ t with dnsObserveCount := t.dnsObserveCount + 1 }, .done)
  | .ipc _ _, (t, .start) => ({ t with ipcDispatchCount := t.ipcDispatchCount + 1 }, .countReject)
  | .ipc rejected _, (t, .countReject) =>
    (if rejected then { t with ipcRejectCount := t.ipcRejectCount + 1 } else t, .addIpcLatency)
  | .ipc _ latency100ns, (t, .addIpcLatency) =>
    ({ t with ipcLatencySum100ns := t.ipcLatencySum100ns + latency100ns }, .countIpcSample)
  | .ipc _ _, (t, .countIpcSample) =>
    ({ t with ipcLatencySamples := t.ipcLatencySamples + 1 }, .compareMaxIpc)
  | .ipc _ latency100ns, (t, .compareMaxIpc) =>
    (t, if latency100ns > t.maxIpcLatency100ns then .writeMaxIpc else .done)
  | .ipc _ latency100ns, (t, .writeMaxIpc) => ({ t with maxIpcLatency100ns := latency100ns }, .done)
  | _, (t, .done) => (t, .done)

/-- The record has run to its end. -/
def RecordPc.finished : ∀ {call}, RecordPc call → Bool
  | _, .skipped => true
  | _, .done => true
  | _, _ => false

/-- A recorded classification, after its two increments. -/
def TelemetryState.sampled (t : TelemetryState) (latency100ns : UInt64) : TelemetryState :=
  if t.latencySamples &&& latencySampleMask = 0 then
    { t with
      latencySum100ns := t.latencySum100ns + latency100ns
      latencySamples := t.latencySamples + 1
      maxLatency100ns :=
        if latency100ns > t.maxLatency100ns then latency100ns else t.maxLatency100ns }
  else t

theorem telemetryRecordClassify_eq (action : ClassifyAction) (latency100ns : UInt64)
    (t : TelemetryState) : telemetryRecordClassify action latency100ns t =
      (({ t with classifyCount := t.classifyCount + 1 } : TelemetryState).countAction action).sampled
        latency100ns := by
  cases action <;> rfl

theorem reaches_sampled (action : ClassifyAction) (latency100ns : UInt64) (t : TelemetryState) :
    ∃ pc : RecordPc (.classify action latency100ns), pc.finished = true ∧
      Reaches (recordStep (.classify action latency100ns)) (t, .checkSample)
        (t.sampled latency100ns, pc) := by
  unfold TelemetryState.sampled
  by_cases hs : t.latencySamples &&& latencySampleMask = 0
  · simp only [if_pos hs]
    refine ⟨.done, rfl, ?_⟩
    by_cases hm : latency100ns > t.maxLatency100ns
    · exact ⟨5, by simp [recordStep, hs, hm]⟩
    · exact ⟨4, by simp [recordStep, hs, hm]⟩
  · simp only [if_neg hs]
    exact ⟨.skipped, rfl, 1, by simp [recordStep, hs]⟩

/-- **The steps of a record that runs alone compute the record.** -/
theorem recordStep_alone (call : TelemetryCall) (t : TelemetryState) :
    ∃ pc : RecordPc call, pc.finished = true ∧
      Reaches (recordStep call) (t, .start) (call.record t, pc) := by
  cases call with
  | error => exact ⟨.done, rfl, 1, rfl⟩
  | dnsObserve => exact ⟨.done, rfl, 1, rfl⟩
  | classify action latency100ns =>
    have hcounted : Reaches (recordStep (.classify action latency100ns)) (t, .start)
        (({ t with classifyCount := t.classifyCount + 1 } : TelemetryState).countAction action,
          .checkSample) := ⟨2, rfl⟩
    obtain ⟨pc, hpc, hreach⟩ := reaches_sampled action latency100ns
      (({ t with classifyCount := t.classifyCount + 1 } : TelemetryState).countAction action)
    rw [← telemetryRecordClassify_eq] at hreach
    exact ⟨pc, hpc, hcounted.trans hreach⟩
  | ipc rejected latency100ns =>
    have hcounted : Reaches (recordStep (.ipc rejected latency100ns)) (t, .start)
        (if rejected then
            { t with
              ipcDispatchCount := t.ipcDispatchCount + 1
              ipcRejectCount := t.ipcRejectCount + 1 }
          else { t with ipcDispatchCount := t.ipcDispatchCount + 1 }, .addIpcLatency) := by
      cases rejected <;> exact ⟨2, rfl⟩
    refine ⟨.done, rfl, hcounted.trans ?_⟩
    by_cases hm : latency100ns > t.maxIpcLatency100ns
    · cases rejected <;> exact ⟨4, by simp [recordStep, TelemetryCall.record, perfRecordIpc, hm]⟩
    · cases rejected <;> exact ⟨3, by simp [recordStep, TelemetryCall.record, perfRecordIpc, hm]⟩

/-! ## Counters -/

/-- The counters that only interlocked operations write. -/
inductive Counter where
  | classify
  | block
  | route
  | permit
  | observe
  | error
  | dnsObserve
  | latencySum
  | latencySamples
  | ipcDispatch
  | ipcReject
  | ipcLatencySum
  | ipcLatencySamples
  deriving DecidableEq

def Counter.read : Counter → TelemetryState → UInt64
  | .classify, t => t.classifyCount
  | .block, t => t.blockCount
  | .route, t => t.routeCount
  | .permit, t => t.permitCount
  | .observe, t => t.observeCount
  | .error, t => t.errorCount
  | .dnsObserve, t => t.dnsObserveCount
  | .latencySum, t => t.latencySum100ns
  | .latencySamples, t => t.latencySamples
  | .ipcDispatch, t => t.ipcDispatchCount
  | .ipcReject, t => t.ipcRejectCount
  | .ipcLatencySum, t => t.ipcLatencySum100ns
  | .ipcLatencySamples, t => t.ipcLatencySamples

/-- `InterlockedAdd64` -/
def TelemetryState.add (t : TelemetryState) (v : UInt64) : Counter → TelemetryState
  | .classify => { t with classifyCount := t.classifyCount + v }
  | .block => { t with blockCount := t.blockCount + v }
  | .route => { t with routeCount := t.routeCount + v }
  | .permit => { t with permitCount := t.permitCount + v }
  | .observe => { t with observeCount := t.observeCount + v }
  | .error => { t with errorCount := t.errorCount + v }
  | .dnsObserve => { t with dnsObserveCount := t.dnsObserveCount + v }
  | .latencySum => { t with latencySum100ns := t.latencySum100ns + v }
  | .latencySamples => { t with latencySamples := t.latencySamples + v }
  | .ipcDispatch => { t with ipcDispatchCount := t.ipcDispatchCount + v }
  | .ipcReject => { t with ipcRejectCount := t.ipcRejectCount + v }
  | .ipcLatencySum => { t with ipcLatencySum100ns := t.ipcLatencySum100ns + v }
  | .ipcLatencySamples => { t with ipcLatencySamples := t.ipcLatencySamples + v }

theorem Counter.read_add (x y : Counter) (v : UInt64) (t : TelemetryState) :
    x.read (t.add v y) = if y = x then x.read t + v else x.read t := by
  cases x <;> cases y <;> rfl

/-- The counter of an action. -/
def Counter.ofAction : ClassifyAction → Counter
  | .block => .block
  | .route => .route
  | .observe => .observe
  | .permit => .permit

/-- What a record has added so far, to which counters. -/
def RecordPc.added : ∀ {call}, RecordPc call → List (Counter × UInt64)
  | _, .start => []
  | _, .countAction => [(.classify, 1)]
  | .classify action _, .checkSample => [(.classify, 1), (.ofAction action, 1)]
  | .classify action _, .skipped => [(.classify, 1), (.ofAction action, 1)]
  | .classify action _, .addLatency => [(.classify, 1), (.ofAction action, 1)]
  | .classify action latency100ns, .countSample =>
    [(.classify, 1), (.ofAction action, 1), (.latencySum, latency100ns)]
  | .classify action latency100ns, _ =>
    [(.classify, 1), (.ofAction action, 1), (.latencySum, latency100ns), (.latencySamples, 1)]
  | .error, .done => [(.error, 1)]
  | .dnsObserve, .done => [(.dnsObserve, 1)]
  | _, .countReject => [(.ipcDispatch, 1)]
  | .ipc rejected _, .addIpcLatency =>
    [(.ipcDispatch, 1), (.ipcReject, if rejected then 1 else 0)]
  | .ipc rejected latency100ns, .countIpcSample =>
    [(.ipcDispatch, 1), (.ipcReject, if rejected then 1 else 0), (.ipcLatencySum, latency100ns)]
  | .ipc rejected latency100ns, _ =>
    [(.ipcDispatch, 1), (.ipcReject, if rejected then 1 else 0), (.ipcLatencySum, latency100ns),
      (.ipcLatencySamples, 1)]

/-- The part of such additions that goes to the counter. -/
def Counter.total (x : Counter) (added : List (Counter × UInt64)) : UInt64 :=
  ((added.filter fun a => a.1 = x).map Prod.snd).sum

@[simp] theorem Counter.total_nil (x : Counter) : x.total [] = 0 := by
  rw [total, List.filter_nil, List.map_nil, List.sum_nil]

theorem Counter.total_snoc (x y : Counter) (v : UInt64) (added : List (Counter × UInt64)) :
    x.total (added ++ [(y, v)]) = x.total added + if y = x then v else 0 := by
  rw [total, total, List.filter_append, List.map_append, List.sum_append]
  by_cases h : y = x <;> simp [h]

/-- A step of a record adds to one counter, or to none. -/
theorem recordStep_adds (call : TelemetryCall) (t : TelemetryState) (pc : RecordPc call) :
    (∃ y v, (∀ x : Counter, x.read (recordStep call (t, pc)).1 = x.read (t.add v y)) ∧
      (recordStep call (t, pc)).2.added = pc.added ++ [(y, v)]) ∨
    ((∀ x : Counter, x.read (recordStep call (t, pc)).1 = x.read t) ∧
      (recordStep call (t, pc)).2.added = pc.added) := by
  cases pc with
  | start =>
    cases call with
    | classify action latency100ns => exact Or.inl ⟨.classify, 1, fun _ => rfl, rfl⟩
    | error => exact Or.inl ⟨.error, 1, fun _ => rfl, rfl⟩
    | dnsObserve => exact Or.inl ⟨.dnsObserve, 1, fun _ => rfl, rfl⟩
    | ipc rejected latency100ns => exact Or.inl ⟨.ipcDispatch, 1, fun _ => rfl, rfl⟩
  | @countAction action =>
    refine Or.inl ⟨.ofAction action, 1, fun _ => ?_, rfl⟩
    cases action <;> rfl
  | checkSample =>
    simp only [recordStep]
    split <;> exact Or.inr ⟨fun _ => trivial, rfl⟩
  | @addLatency _ latency100ns => exact Or.inl ⟨.latencySum, latency100ns, fun _ => rfl, rfl⟩
  | countSample => exact Or.inl ⟨.latencySamples, 1, fun _ => rfl, rfl⟩
  | compareMax | compareMaxIpc =>
    simp only [recordStep]
    split <;> exact Or.inr ⟨fun _ => trivial, rfl⟩
  | @countReject rejected =>
    refine Or.inl ⟨.ipcReject, if rejected then 1 else 0, fun x => ?_, rfl⟩
    cases rejected with
    | true => rfl
    | false =>
      have hkept : t.add 0 .ipcReject = t := by
        rw [TelemetryState.add, UInt64.add_zero]
      exact (congrArg x.read hkept).symm
  | @addIpcLatency _ latency100ns => exact Or.inl ⟨.ipcLatencySum, latency100ns, fun _ => rfl, rfl⟩
  | countIpcSample => exact Or.inl ⟨.ipcLatencySamples, 1, fun _ => rfl, rfl⟩
  | writeMax | writeMaxIpc =>
    refine Or.inr ⟨fun x => ?_, rfl⟩
    cases x <;> rfl
  | skipped => exact Or.inr ⟨fun _ => rfl, rfl⟩
  | done => exact Or.inr ⟨fun _ => by cases call <;> rfl, by cases call <;> rfl⟩

namespace Counter

variable (x : Counter)

theorem read_recordStep (call : TelemetryCall) (t : TelemetryState) (pc : RecordPc call) :
    x.read (recordStep call (t, pc)).1 + x.total pc.added =
      x.read t + x.total (recordStep call (t, pc)).2.added := by
  rcases recordStep_adds call t pc with ⟨y, v, hread, hadded⟩ | ⟨hread, hadded⟩
  · rw [hread, hadded, total_snoc, read_add]
    split
    · abel
    · rw [add_zero]
  · rw [hread, hadded]

theorem read_iterate (call : TelemetryCall) (n : Nat) (t : TelemetryState) :
    x.read ((recordStep call)^[n] (t, .start)).1 =
      x.read t + x.total ((recordStep call)^[n] (t, .start)).2.added := by
  induction n with
  | zero =>
    show x.read t = x.read t + x.total []
    rw [total_nil, add_zero]
  | succ n ih =>
    rw [Function.iterate_succ_apply']
    have hstep := x.read_recordStep call ((recordStep call)^[n] (t, .start)).1
      ((recordStep call)^[n] (t, .start)).2
    rw [ih, add_right_comm] at hstep
    exact add_right_cancel hstep

/-- The counter does not depend on which latencies are sampled. -/
def unsampled : Bool :=
  match x with
  | .latencySum => false
  | .latencySamples => false
  | _ => true

variable {x}

/-- All finished records of a call have added the same to an unsampled counter. -/
theorem total_finished (h : x.unsampled = true) {call : TelemetryCall} {pc pc' : RecordPc call}
    (hpc : pc.finished = true) (hpc' : pc'.finished = true) :
    x.total pc.added = x.total pc'.added := by
  have hskip : ∀ action latency100ns,
      x.total (.skipped : RecordPc (.classify action latency100ns)).added =
        x.total (.done : RecordPc (.classify action latency100ns)).added := by
    intro action latency100ns
    have hsum : Counter.latencySum ≠ x := by rintro rfl; cases h
    have hsamples : Counter.latencySamples ≠ x := by rintro rfl; cases h
    have hdone : (.done : RecordPc (.classify action latency100ns)).added =
        (.skipped : RecordPc (.classify action latency100ns)).added ++ [(.latencySum, latency100ns)] ++
          [(.latencySamples, 1)] := rfl
    rw [hdone, total_snoc, total_snoc, if_neg hsum, if_neg hsamples, add_zero, add_zero]
  cases pc <;> cases hpc <;> cases pc' <;> cases hpc'
  · rfl
  · exact hskip _ _
  · exact (hskip _ _).symm
  · rfl

theorem read_record (h : x.unsampled = true) (call : TelemetryCall) {pc : RecordPc call}
    (hpc : pc.finished = true) (t : TelemetryState) :
    x.read (call.record t) = x.read t + x.total pc.added := by
  obtain ⟨pc', hpc', n, hn⟩ := recordStep_alone call t
  have hread := x.read_iterate call n t
  rw [hn] at hread
  rw [hread, total_finished h hpc hpc']

theorem read_records {ι : Type} {call : ι → TelemetryCall} (h : x.unsampled = true)
    (pc : ∀ i, RecordPc (call i)) (hpc : ∀ i, (pc i).finished = true) (order : List ι)
    (t : TelemetryState) :
    x.read (order.foldl (fun t i => (call i).record t) t) =
      x.read t + (order.map fun i => x.total (pc i).added).sum := by
  induction order generalizing t with
  | nil => exact (UInt64.add_zero _).symm
  | cons i order ih =>
    rw [List.foldl_cons, ih, read_record h _ (hpc i), List.map_cons, List.sum_cons, add_assoc]

end Counter

/-! ## All schedules -/

/-- By how much the number of classifications leads the sum over the actions. -/
def TelemetryState.lead (t : TelemetryState) : UInt64 :=
  t.classifyCount - (t.blockCount + t.routeCount + t.permitCount + t.observeCount)

/-- The classification is counted, its action not yet. -/
def RecordPc.uncounted : ∀ {call}, RecordPc call → Bool
  | _, .countAction => true
  | _, _ => false

theorem lead_recordStep (call : TelemetryCall) (t : TelemetryState) (pc : RecordPc call) :
    (recordStep call (t, pc)).1.lead + (if pc.uncounted then 1 else 0) =
      t.lead + (if (recordStep call (t, pc)).2.uncounted then 1 else 0) := by
  cases pc with
  | start =>
    cases call with
    | classify action latency100ns =>
      simp only [recordStep, TelemetryState.lead, RecordPc.uncounted, if_true, Bool.false_eq_true,
        if_false]
      abel
    | error | dnsObserve | ipc rejected latency100ns => rfl
  | @countAction action =>
    cases action <;> simp only [recordStep, TelemetryState.countAction, TelemetryState.lead,
      RecordPc.uncounted, if_true, Bool.false_eq_true, if_false] <;> abel
  | checkSample =>
    by_cases h : t.latencySamples &&& latencySampleMask = 0 <;>
      simp only [recordStep, h, if_true, if_false] <;> rfl
  | @compareMax _ latency100ns =>
    by_cases h : latency100ns > t.maxLatency100ns <;>
      simp only [recordStep, h, if_true, if_false] <;> rfl
  | @compareMaxIpc _ latency100ns =>
    by_cases h : latency100ns > t.maxIpcLatency100ns <;>
      simp only [recordStep, h, if_true, if_false] <;> rfl
  | @countReject rejected => cases rejected <;> rfl
  | done => cases call <;> rfl
  | _ => rfl

variable {ι : Type} [DecidableEq ι] [Fintype ι]

/-- The records of all threads, about to start. -/
def recordsStart (call : ι → TelemetryCall) (t : TelemetryState) :
    TelemetryState × (∀ i, RecordPc (call i)) := (t, fun _ => .start)

/-- The configuration after the steps of a schedule. -/
def recordsRun (call : ι → TelemetryCall) (t : TelemetryState) (schedule : List ι) :
    TelemetryState × (∀ i, RecordPc (call i)) :=
  run (fun i => recordStep (call i)) (recordsStart call t) schedule

theorem read_recordsRun (call : ι → TelemetryCall) (t : TelemetryState) (schedule : List ι)
    (x : Counter) : x.read (recordsRun call t schedule).1 =
      x.read t + ∑ i, x.total ((recordsRun call t schedule).2 i).added := by
  have hstep : ∀ i t (pc : RecordPc (call i)),
      x.read (recordStep (call i) (t, pc)).1 + x.total pc.added =
        x.read t + x.total (recordStep (call i) (t, pc)).2.added := fun i => x.read_recordStep (call i)
  have hstart : ∀ i, x.total ((recordsStart call t).2 i).added = 0 := fun _ => x.total_nil
  exact run_counter (fun i => recordStep (call i)) x.read (fun _ pc => x.total pc.added) hstep hstart
    schedule

theorem lead_recordsRun (call : ι → TelemetryCall) (t : TelemetryState) (schedule : List ι) :
    (recordsRun call t schedule).1.lead = t.lead +
      UInt64.ofNat (Finset.univ.filter fun i => ((recordsRun call t schedule).2 i).uncounted = true).card := by
  have hstep : ∀ i t (pc : RecordPc (call i)),
      (recordStep (call i) (t, pc)).1.lead + (if pc.uncounted then 1 else 0) =
        t.lead + (if (recordStep (call i) (t, pc)).2.uncounted then 1 else 0) :=
    fun i => lead_recordStep (call i)
  have hrun := run_counter (fun i => recordStep (call i)) TelemetryState.lead
    (fun _ pc => if pc.uncounted then 1 else 0) hstep (c := recordsStart call t) (fun _ => rfl) schedule
  rw [sum_one_if] at hrun
  exact hrun

/-- How many steps a record still takes, at most. -/
def RecordPc.stepsLeft : ∀ {call}, RecordPc call → Nat
  | _, .start => 7
  | _, .countAction => 6
  | _, .checkSample => 5
  | _, .addLatency => 4
  | _, .countSample => 3
  | _, .compareMax => 2
  | _, .writeMax => 1
  | _, .skipped => 0
  | _, .countReject => 5
  | _, .addIpcLatency => 4
  | _, .countIpcSample => 3
  | _, .compareMaxIpc => 2
  | _, .writeMaxIpc => 1
  | _, .done => 0

theorem recordStep_stepsLeft (call : TelemetryCall) (t : TelemetryState) (pc : RecordPc call) :
    (recordStep call (t, pc)).2.stepsLeft ≤ pc.stepsLeft - 1 := by
  cases pc with
  | start =>
    cases call with
    | classify action latency100ns => exact Nat.le_refl _
    | error | dnsObserve => exact Nat.zero_le _
    | ipc rejected latency100ns => exact Nat.le_succ _
  | checkSample =>
    simp only [recordStep]
    split
    · exact Nat.le_refl _
    · exact Nat.zero_le _
  | compareMax | compareMaxIpc =>
    simp only [recordStep]
    split
    · exact Nat.le_refl _
    · exact Nat.zero_le _
  | countAction | addLatency | countSample | writeMax | skipped => exact Nat.le_refl _
  | countReject | addIpcLatency | countIpcSample | writeMaxIpc => exact Nat.le_refl _
  | done => cases call <;> exact Nat.le_refl _

theorem RecordPc.finished_of_stepsLeft {call : TelemetryCall} {pc : RecordPc call}
    (h : pc.stepsLeft = 0) : pc.finished = true := by
  cases pc with
  | skipped | done => rfl
  | _ => cases h

omit [Fintype ι] in
/-- Seven steps of its own end a record, whatever the others do between them. -/
theorem recordsRun_finished (call : ι → TelemetryCall) (t : TelemetryState) {schedule : List ι} {i : ι}
    (h : 7 ≤ schedule.count i) : ((recordsRun call t schedule).2 i).finished = true := by
  apply RecordPc.finished_of_stepsLeft
  apply run_stepsLeft_eq_zero (fun i => recordStep (call i)) (fun _ => RecordPc.stepsLeft)
  · exact fun t i pc => recordStep_stepsLeft (call i) t pc
  · exact h

/-- **No overlap of records loses a count**: at any moment every interlocked counter holds what the
records have added so far; the classifications lead the sum over the actions by those that are between
their two increments; and when all records have ended, the counters that do not depend on the sampling
are those that the records leave one after the other, in whatever order. A record ends after at most
seven steps of its own. -/
theorem telemetry_exact (call : ι → TelemetryCall) (t : TelemetryState) (schedule : List ι) :
    let c := recordsRun call t schedule
    (∀ x : Counter, x.read c.1 = x.read t + ∑ i, x.total (c.2 i).added) ∧
      c.1.lead = t.lead + UInt64.ofNat (Finset.univ.filter fun i => (c.2 i).uncounted = true).card ∧
      ((∀ i, (c.2 i).finished = true) → ∀ x : Counter, x.unsampled = true →
        ∀ order : List ι, order.Nodup → (∀ i, i ∈ order) →
          x.read c.1 = x.read (order.foldl (fun t i => (call i).record t) t)) ∧
      ∀ i, 7 ≤ schedule.count i → (c.2 i).finished = true := by
  refine ⟨read_recordsRun call t schedule, lead_recordsRun call t schedule, ?_,
    fun _ => recordsRun_finished call t⟩
  intro hfinished x hx order hnodup hall
  have huniv : order.toFinset = Finset.univ := by
    ext i
    simp [hall i]
  rw [read_recordsRun, Counter.read_records hx _ hfinished, ← huniv, List.sum_toFinset _ hnodup]

/-- Two classifications that block, and a request that is refused. -/
def threeRecords : Fin 3 → TelemetryCall
  | 0 => .classify .block 3
  | 1 => .classify .block 2
  | 2 => .ipc true 1

/-- Step by step in turn, all three end, and both blocked connections and the request are counted. -/
theorem telemetry_exact_inTurn :
    let c := recordsRun threeRecords telemetryInitialize (List.replicate 7 [0, 1, 2]).flatten
    (∀ i, (c.2 i).finished = true) ∧ c.1.blockCount = 2 ∧ c.1.ipcRejectCount = 1 ∧ c.1.lead = 0 := by
  obtain ⟨-, hlead, hserial, hends⟩ := telemetry_exact threeRecords telemetryInitialize
    (List.replicate 7 [0, 1, 2]).flatten
  have hfinished := fun i => hends i (by revert i; decide)
  have hserial := fun x hx => hserial hfinished x hx [0, 1, 2] (by decide) (by decide)
  exact ⟨hfinished, hserial .block rfl, hserial .ipcReject rfl, by rw [hlead]; decide⟩

end Guardian
