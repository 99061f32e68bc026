import Guardian.Ipc.Outputs
import Guardian.Runs.Driver

/-!
# The counters over runs

What the reported counters add up to, modulo `2^64`.

* `classifyConnection_telemetry` : a classification records its action or an error, once;
* `classifier` : classifications between arbitrary changes of the tables and the kill switch;
  `classify_accounted`;
* `Event.isRequest`, `ipc_accounted` : the requests of a run of the loaded driver, and the rejected
  ones among them.
-/

namespace Guardian

/-! ## Classifications -/

/-- A classification that succeeds records the action it returns, a failing one an error. -/
theorem classifyConnection_telemetry (values : Option IncomingValues) (clock : Clock) (g : Globals) :
    (classifyConnection values clock g).2.2.telemetry =
      if ntSuccess (classifyConnection values clock g).1 then
        telemetryRecordClassify (classifyConnection values clock g).2.1.action clock.latency
          g.telemetry
      else telemetryRecordError g.telemetry := by
  rw [classifyConnection_eq]
  cases killSwitchEvaluate 0 g.killSwitch with
  | some action => rfl
  | none => cases values <;> rfl

/-- A classification, or what any calls of the policy, route and kill-switch modules leave. -/
inductive ClassifierEvent where
  | classify (inFixedValues : Option IncomingValues) (clock : Clock)
  | change (policy : PolicyTable) (route : RouteTable) (killSwitch : KillSwitchState)

def ClassifierEvent.isCall : ClassifierEvent → Bool
  | .classify _ _ => true
  | .change _ _ _ => false

/-- The status and the result of a classification. -/
abbrev ClassifierAnswer := Option (NTSTATUS × ClassifyResult)

def classifierStep (g : Globals) : ClassifierEvent → ClassifierAnswer × Globals
  | .classify inFixedValues clock =>
    let (status, result, g) := classifyConnection inFixedValues clock g
    (some (status, result), g)
  | .change policy route killSwitch =>
    (none, { g with policy := policy, route := route, killSwitch := killSwitch })

def classifier : Machine Globals ClassifierEvent ClassifierAnswer := ⟨classifierStep⟩

/-- The classification succeeded with this action. -/
def succeededWith (action : ClassifyAction) : ClassifierEvent × ClassifierAnswer → Bool
  | (_, some (status, result)) => ntSuccess status && result.action = action
  | (_, none) => false

/-- The counter of an action in the report. -/
def TelemetryV1.actionCount (t : TelemetryV1) : ClassifyAction → UInt64
  | .permit => t.permitCount
  | .block => t.blockCount
  | .route => t.routeCount
  | .observe => t.observeCount

theorem telemetryGet_actionCount (t : TelemetryState) (action : ClassifyAction) :
    (telemetryGet t).actionCount action = t.actionCount action := by cases action <;> rfl

theorem classifierStep_actionCount (action : ClassifyAction) (g : Globals) (e : ClassifierEvent) :
    (classifierStep g e).2.telemetry.actionCount action =
      if succeededWith action (e, (classifierStep g e).1) then g.telemetry.actionCount action + 1
      else g.telemetry.actionCount action := by
  cases e with
  | change policy route killSwitch => rfl
  | classify values clock =>
    simp only [classifierStep, succeededWith, classifyConnection_telemetry]
    by_cases hs : ntSuccess (classifyConnection values clock g).1 = true
    · simp [hs]
    · simp [hs]

theorem classifierStep_calls (g : Globals) (e : ClassifierEvent) :
    (classifierStep g e).2.telemetry.classifyCount + (classifierStep g e).2.telemetry.errorCount =
      if e.isCall then g.telemetry.classifyCount + g.telemetry.errorCount + 1
      else g.telemetry.classifyCount + g.telemetry.errorCount := by
  cases e with
  | change policy route killSwitch => rfl
  | classify values clock =>
    simp only [classifierStep, ClassifierEvent.isCall, classifyConnection_telemetry, if_true]
    cases ntSuccess (classifyConnection values clock g).1 with
    | true =>
      simp only [if_true, telemetryRecordClassify_classifyCount, telemetryRecordClassify_errorCount]
      rw [UInt64.add_assoc, UInt64.add_comm 1, ← UInt64.add_assoc]
    | false =>
      simp only [Bool.false_eq_true, if_false, telemetryRecordError]
      rw [UInt64.add_assoc]

/-- The four counters of the actions add up to the counter of the classifications. -/
def ActionsAddUp (g : Globals) : Prop :=
  g.telemetry.classifyCount = g.telemetry.actionCount .block + g.telemetry.actionCount .route +
    g.telemetry.actionCount .permit + g.telemetry.actionCount .observe

theorem classifierStep_actionsAddUp (g : Globals) (e : ClassifierEvent) (h : ActionsAddUp g) :
    ActionsAddUp (classifierStep g e).2 := by
  cases e with
  | change policy route killSwitch => exact h
  | classify values clock =>
    unfold ActionsAddUp at h ⊢
    simp only [classifierStep, classifyConnection_telemetry]
    cases ntSuccess (classifyConnection values clock g).1 with
    | true =>
      simp only [if_true, telemetryRecordClassify_classifyCount, telemetryRecordClassify_actionCount]
      rw [h]
      cases (classifyConnection values clock g).2.1.action <;> simp <;> ac_rfl
    | false =>
      simp only [Bool.false_eq_true, if_false, telemetryRecordError_actionCount]
      exact h

/-- **The classify counters lose nothing**: from a fresh telemetry state on, over every run, each
classification goes up in exactly one of the counters of classifications and of errors, their sum is
the number of calls, the counters of the four actions add up to the former, and each of these is the
number of successful calls with that action. -/
theorem classify_accounted (g : Globals) (es : List ClassifierEvent) :
    let start := { g with telemetry := telemetryInitialize }
    let answered := classifier.trace start es
    let t := telemetryGet (classifier.final start es).telemetry
    (∀ values clock (g : Globals),
      let t := (classifyConnection values clock g).2.2.telemetry
      (t.classifyCount = g.telemetry.classifyCount + 1 ∧ t.errorCount = g.telemetry.errorCount) ∨
        (t.classifyCount = g.telemetry.classifyCount ∧
          t.errorCount = g.telemetry.errorCount + 1)) ∧
    t.classifyCount + t.errorCount = UInt64.ofNat (es.countP ClassifierEvent.isCall) ∧
    t.classifyCount = t.blockCount + t.routeCount + t.permitCount + t.observeCount ∧
    ∀ action, t.actionCount action = UInt64.ofNat (answered.countP (succeededWith action)) := by
  intro start answered t
  refine ⟨?_, ?_, ?_, ?_⟩
  · intro values clock g
    simp only [classifyConnection_telemetry]
    cases ntSuccess (classifyConnection values clock g).1 with
    | true => exact Or.inl ⟨by simp, by simp⟩
    | false => exact Or.inr ⟨rfl, rfl⟩
  · have hcalls := classifier.final_countP
      (fun g => g.telemetry.classifyCount + g.telemetry.errorCount) (· + 1) (fun a => a.1.isCall)
      classifierStep_calls start es
    rw [iterate_increment, classifier.countP_trace] at hcalls
    exact hcalls.trans (UInt64.zero_add _)
  · exact classifier.final_inv ActionsAddUp classifierStep_actionsAddUp (s := start) rfl es
  · intro action
    have hcount := classifier.final_countP (fun g => g.telemetry.actionCount action) (· + 1)
      (succeededWith action) (classifierStep_actionCount action) start es
    have hzero : start.telemetry.actionCount action = 0 := by cases action <;> rfl
    rw [iterate_increment, hzero, UInt64.zero_add] at hcount
    exact (telemetryGet_actionCount _ action).trans hcount

/-! ## Requests -/

def Event.isRequest : Event → Bool
  | .ioctl _ => true
  | _ => false

def Response.isCompletion : Response → Bool
  | .completed _ => true
  | .classified _ => false

/-- The request was completed with a failure. -/
def rejected : Event × Response → Bool
  | (_, .completed completion) => !ntSuccess completion.status
  | (_, .classified _) => false

theorem loaded_telemetry (boot : Boot) : (loaded boot).telemetry = telemetryInitialize := by
  obtain ⟨w, d, c, h, r, s, state, heq, -⟩ := driverEntry_frame boot imageGlobals
  rw [loaded, heq]
  rfl

theorem classifyConnection_ipc (values : Option IncomingValues) (clock : Clock) (g : Globals) :
    let t := (classifyConnection values clock g).2.2.telemetry
    t.ipcDispatchCount = g.telemetry.ipcDispatchCount ∧
      t.ipcRejectCount = g.telemetry.ipcRejectCount ∧
      t.ipcLatencySum100ns = g.telemetry.ipcLatencySum100ns ∧
      t.maxIpcLatency100ns = g.telemetry.maxIpcLatency100ns := by
  rw [classifyConnection_telemetry]
  split
  · obtain ⟨c, b, r, p, o, sum, samples, max, hf⟩ := telemetryRecordClassify_frame
      (classifyConnection values clock g).2.1.action clock.latency g.telemetry
    rw [hf]
    exact ⟨rfl, rfl, rfl, rfl⟩
  · exact ⟨rfl, rfl, rfl, rfl⟩

theorem driverStep_classify_ipc {g : Globals} {e : Event} (h : ∀ rq, e ≠ .ioctl rq) :
    let t := (driverStep g e).2.telemetry
    t.ipcDispatchCount = g.telemetry.ipcDispatchCount ∧
      t.ipcRejectCount = g.telemetry.ipcRejectCount ∧
      t.ipcLatencySum100ns = g.telemetry.ipcLatencySum100ns ∧
      t.maxIpcLatency100ns = g.telemetry.maxIpcLatency100ns := by
  cases e with
  | ioctl rq => exact absurd rfl (h rq)
  | authConnectV4 values clock out | authConnectV6 values clock out =>
    have hclassify := classifyConnection_ipc values clock g
    rw [← authConnectClassifyV4_frame values clock out g] at hclassify
    exact hclassify

theorem driverStep_dispatched (g : Globals) (e : Event) :
    (driverStep g e).2.telemetry.ipcDispatchCount =
      if e.isRequest then g.telemetry.ipcDispatchCount + 1 else g.telemetry.ipcDispatchCount := by
  cases e with
  | ioctl rq =>
    show (evtIoDeviceControl rq g).2.telemetry.ipcDispatchCount = g.telemetry.ipcDispatchCount + 1
    rw [evtIoDeviceControl_telemetry]
    unfold perfRecordIpc
    cases ntSuccess (evtIoDeviceControl rq g).1.status <;> rfl
  | authConnectV4 values clock out | authConnectV6 values clock out =>
    exact (driverStep_classify_ipc (by nofun)).1

theorem driverStep_rejected (g : Globals) (e : Event) :
    (driverStep g e).2.telemetry.ipcRejectCount =
      if rejected (e, (driverStep g e).1) then g.telemetry.ipcRejectCount + 1
      else g.telemetry.ipcRejectCount := by
  cases e with
  | ioctl rq =>
    show (evtIoDeviceControl rq g).2.telemetry.ipcRejectCount =
      if !ntSuccess (evtIoDeviceControl rq g).1.status then g.telemetry.ipcRejectCount + 1
      else g.telemetry.ipcRejectCount
    rw [evtIoDeviceControl_telemetry]
    unfold perfRecordIpc
    cases ntSuccess (evtIoDeviceControl rq g).1.status <;> rfl
  | authConnectV4 values clock out | authConnectV6 values clock out =>
    exact (driverStep_classify_ipc (by nofun)).2.1

theorem driverStep_isCompletion (g : Globals) (e : Event) :
    (driverStep g e).1.isCompletion = e.isRequest := by cases e <;> rfl

/-- **The IPC counters are exact**: over every run of a loaded driver each request is completed once
and recorded once, with the status of its completion; the next GET_PERF_STATS reports the number of
requests and that of the rejected ones among them, the latter not above the former before they
wrap. -/
theorem ipc_accounted (boot : Boot) (es : List Event) :
    let g := driver.final (loaded boot) es
    let answered := driver.trace (loaded boot) es
    let requests := es.countP Event.isRequest
    answered.countP (fun a => a.2.isCompletion) = requests ∧
    (∀ rq (g : Globals),
      let r := evtIoDeviceControl rq g
      r.2.telemetry.ipcDispatchCount = g.telemetry.ipcDispatchCount + 1 ∧
      r.2.telemetry.ipcRejectCount =
        if ntSuccess r.1.status then g.telemetry.ipcRejectCount
        else g.telemetry.ipcRejectCount + 1) ∧
    ∀ rq p, (evtIoDeviceControl rq g).1.output = some (.perfStats p) →
      p.ipcDispatchCount = UInt64.ofNat requests ∧
      p.ipcRejectCount = UInt64.ofNat (answered.countP rejected) ∧
      (requests < 2 ^ 64 → p.ipcRejectCount ≤ p.ipcDispatchCount) := by
  intro g answered requests
  have hrequests : answered.countP (fun a => a.1.isRequest) = requests :=
    driver.countP_trace Event.isRequest (loaded boot) es
  refine ⟨?_, ?_, ?_⟩
  · rw [← hrequests]
    apply List.countP_congr
    intro a ha
    have hsame := driver.forall_mem_trace (P := fun a => a.2.isCompletion = a.1.isRequest)
      driverStep_isCompletion (loaded boot) es a ha
    rw [hsame]
  · intro rq g
    refine ⟨driverStep_dispatched g (.ioctl rq), ?_⟩
    have hrejected := driverStep_rejected g (.ioctl rq)
    cases hs : ntSuccess (evtIoDeviceControl rq g).1.status with
    | true => simpa [driverStep, rejected, hs] using hrejected
    | false => simpa [driverStep, rejected, hs] using hrejected
  · intro rq p hp
    have hdispatch := driver.final_countP (fun g => g.telemetry.ipcDispatchCount) (· + 1)
      (fun a => a.1.isRequest) driverStep_dispatched (loaded boot) es
    have hreject := driver.final_countP (fun g => g.telemetry.ipcRejectCount) (· + 1) rejected
      driverStep_rejected (loaded boot) es
    rw [iterate_increment, loaded_telemetry, hrequests] at hdispatch
    rw [iterate_increment, loaded_telemetry] at hreject
    have hreport := evtIoDeviceControl_report hp
    obtain rfl : perfStatsGet _ _ g.telemetry = p := by
      simpa [IoctlCode.report, Output.code] using hreport
    have hd : g.telemetry.ipcDispatchCount = UInt64.ofNat requests :=
      hdispatch.trans (UInt64.zero_add _)
    have hr : g.telemetry.ipcRejectCount = UInt64.ofNat (answered.countP rejected) :=
      hreject.trans (UInt64.zero_add _)
    refine ⟨hd, hr, ?_⟩
    intro hwrap
    have hle : answered.countP rejected ≤ requests := by
      rw [← hrequests]
      apply List.countP_mono_left
      intro a ha hrej
      have hsame := driver.forall_mem_trace (P := fun a => a.2.isCompletion = a.1.isRequest)
        driverStep_isCompletion (loaded boot) es a ha
      rw [← hsame]
      obtain ⟨e, _ | _⟩ := a
      · rfl
      · cases hrej
    show g.telemetry.ipcRejectCount ≤ g.telemetry.ipcDispatchCount
    rw [hd, hr, UInt64.le_iff_toNat_le, UInt64.toNat_ofNat_of_lt' (Nat.lt_of_le_of_lt hle hwrap),
      UInt64.toNat_ofNat_of_lt' hwrap]
    exact hle

/-- A served and a rejected request. -/
def servedAndRejected : List Event :=
  [.ioctl (plainRequest .getTelemetry [] 76), .ioctl (plainRequest .getTelemetry [] 0)]

theorem ipc_accounted_served_and_rejected :
    ∃ p, (evtIoDeviceControl (plainRequest .getPerfStats [] 52)
        (driver.final (loaded (quietBoot none)) servedAndRejected)).1.output = some (.perfStats p) ∧
      p.ipcDispatchCount = 2 ∧ p.ipcRejectCount = 1 := by
  refine ⟨_, rfl, ?_⟩
  obtain ⟨hd, hr, -⟩ := (ipc_accounted (quietBoot none) servedAndRejected).2.2
    (plainRequest .getPerfStats [] 52) _ rfl
  exact ⟨hd, hr⟩

end Guardian
