import Guardian.Sync.Counters

/-!
# The maximum latencies while calls overlap

The two maxima of `telemetry.c` are read, compared and written in separate steps that nothing
protects.

* `MaxCell`, `MaxStage`, `MaxCell.stage` : the two maxima, and where a record is with one of them;
* `recordStep_max` : what a step of a record does to a maximum;
* `MaxBound`, `maxBound_run` : what holds of a maximum whatever overlaps;
* `Undisturbed`, `MaxExact` : no record compares while another is about to write;
* `maxLatency_runs` : then the maximum is exact, and otherwise it is still a latency that was recorded.
-/

namespace Guardian
open Interleave

inductive MaxCell where
  | classify
  | ipc

def MaxCell.read : MaxCell → TelemetryState → UInt64
  | .classify, t => t.maxLatency100ns
  | .ipc, t => t.maxIpcLatency100ns

/-- Where a record is with its latency: before the comparison, at it, about to write, or past it. -/
inductive MaxStage where
  | before
  | compare (latency100ns : UInt64)
  | write (latency100ns : UInt64)
  | past (latency100ns : UInt64)
  deriving DecidableEq

def MaxCell.stage : MaxCell → ∀ {call}, RecordPc call → MaxStage
  | .classify, .classify _ latency100ns, .compareMax => .compare latency100ns
  | .classify, .classify _ latency100ns, .writeMax => .write latency100ns
  | .classify, .classify _ latency100ns, .done => .past latency100ns
  | .ipc, .ipc _ latency100ns, .compareMaxIpc => .compare latency100ns
  | .ipc, .ipc _ latency100ns, .writeMaxIpc => .write latency100ns
  | .ipc, .ipc _ latency100ns, .done => .past latency100ns
  | _, _, _ => .before

/-- What a step does to a maximum `m`, which becomes `m'`, and to the stage of its record. -/
inductive MaxMove (m : UInt64) : MaxStage → UInt64 → MaxStage → Prop where
  | before : MaxMove m .before m .before
  | compare (latency100ns) : MaxMove m .before m (.compare latency100ns)
  | greater {latency100ns} (h : m < latency100ns) :
    MaxMove m (.compare latency100ns) m (.write latency100ns)
  | notGreater {latency100ns} (h : latency100ns ≤ m) :
    MaxMove m (.compare latency100ns) m (.past latency100ns)
  | write {latency100ns} : MaxMove m (.write latency100ns) latency100ns (.past latency100ns)
  | past {latency100ns} : MaxMove m (.past latency100ns) m (.past latency100ns)

theorem recordStep_max (x : MaxCell) (call : TelemetryCall) (t : TelemetryState)
    (pc : RecordPc call) : MaxMove (x.read t) (x.stage pc) (x.read (recordStep call (t, pc)).1)
      (x.stage (recordStep call (t, pc)).2) := by
  cases pc with
  | start => cases call <;> cases x <;> exact .before
  | @countAction action => cases action <;> cases x <;> exact .before
  | checkSample =>
    simp only [recordStep]
    split <;> cases x <;> exact .before
  | addLatency => cases x <;> exact .before
  | countSample =>
    cases x with
    | classify => exact .compare _
    | ipc => exact .before
  | @compareMax _ latency100ns =>
    simp only [recordStep]
    split
    · next h =>
      cases x with
      | classify => exact .greater h
      | ipc => exact .before
    · next h =>
      cases x with
      | classify => exact .notGreater (UInt64.not_lt.mp h)
      | ipc => exact .before
  | writeMax =>
    cases x with
    | classify => exact .write
    | ipc => exact .before
  | skipped => cases x <;> exact .before
  | @countReject rejected => cases rejected <;> cases x <;> exact .before
  | addIpcLatency => cases x <;> exact .before
  | countIpcSample =>
    cases x with
    | classify => exact .before
    | ipc => exact .compare _
  | @compareMaxIpc _ latency100ns =>
    simp only [recordStep]
    split
    · next h =>
      cases x with
      | classify => exact .before
      | ipc => exact .greater h
    · next h =>
      cases x with
      | classify => exact .before
      | ipc => exact .notGreater (UInt64.not_lt.mp h)
  | writeMaxIpc =>
    cases x with
    | classify => exact .before
    | ipc => exact .write
  | done =>
    cases call with
    | error | dnsObserve => cases x <;> exact .before
    | classify action latency100ns =>
      cases x with
      | classify => exact .past
      | ipc => exact .before
    | ipc rejected latency100ns =>
      cases x with
      | classify => exact .before
      | ipc => exact .past

/-! ## Whatever overlaps -/

variable {ι : Type} [DecidableEq ι]

/-- The maximum never falls below its first value, and is that value or a latency that was recorded. -/
structure MaxBound (m₀ m : UInt64) (stage : ι → MaxStage) : Prop where
  le : m₀ ≤ m
  recorded : m = m₀ ∨ ∃ i, stage i = .past m
  write : ∀ i latency100ns, stage i = .write latency100ns → m₀ ≤ latency100ns

theorem update_stage {stage : ι → MaxStage} {i j : ι} {s v : MaxStage}
    (h : Function.update stage i s j = v) : (j = i ∧ s = v) ∨ (j ≠ i ∧ stage j = v) := by
  by_cases hji : j = i
  · subst hji
    exact Or.inl ⟨rfl, by rwa [Function.update_self] at h⟩
  · exact Or.inr ⟨hji, by rwa [Function.update_of_ne hji] at h⟩

theorem MaxBound.move {m₀ m m' : UInt64} {stage : ι → MaxStage} {i : ι} {s : MaxStage}
    (h : MaxBound m₀ m stage) (hmove : MaxMove m (stage i) m' s) :
    MaxBound m₀ m' (Function.update stage i s) := by
  have hsame : (∀ l, stage i = .past l → s = .past l) → (∀ l, s = .write l → m₀ ≤ l) →
      MaxBound m₀ m (Function.update stage i s) := by
    intro hpast hwrite
    refine ⟨h.le, ?_, ?_⟩
    · rcases h.recorded with hm | ⟨j, hj⟩
      · exact Or.inl hm
      · refine Or.inr ⟨j, ?_⟩
        by_cases hji : j = i
        · subst hji
          rw [Function.update_self, hpast m hj]
        · rw [Function.update_of_ne hji, hj]
    · intro j l hj
      rcases update_stage hj with ⟨-, hs⟩ | ⟨-, hj⟩
      · exact hwrite l hs
      · exact h.write j l hj
  generalize hstage : stage i = s₀ at hmove hsame
  cases hmove with
  | before => exact hsame nofun nofun
  | compare latency100ns => exact hsame nofun nofun
  | greater hlt =>
    refine hsame nofun ?_
    rintro l ⟨⟩
    exact UInt64.le_of_lt (UInt64.lt_of_le_of_lt h.le hlt)
  | notGreater hle => exact hsame nofun nofun
  | past => exact hsame (fun _ hl => hl) nofun
  | write =>
    refine ⟨h.write i _ hstage, Or.inr ⟨i, Function.update_self ..⟩, ?_⟩
    intro j l hj
    rcases update_stage hj with ⟨-, hs⟩ | ⟨-, hj⟩
    · cases hs
    · exact h.write j l hj

/-! ## Where no write overlaps a comparison -/

/-- Every latency that has been compared is at most the maximum; whoever is about to write raises it,
and is the only one. -/
structure MaxExact (m : UInt64) (stage : ι → MaxStage) : Prop where
  past : ∀ i latency100ns, stage i = .past latency100ns → latency100ns ≤ m
  write : ∀ i latency100ns, stage i = .write latency100ns → m < latency100ns
  alone : ∀ i j l l', stage i = .write l → stage j = .write l' → i = j

theorem MaxExact.move {m m' : UInt64} {stage : ι → MaxStage} {i : ι} {s : MaxStage}
    (h : MaxExact m stage)
    (halone : ∀ latency100ns, stage i = .compare latency100ns → ∀ j l, stage j ≠ .write l)
    (hmove : MaxMove m (stage i) m' s) : MaxExact m' (Function.update stage i s) := by
  have hsame : (∀ l, s = .past l → l ≤ m) → (∀ l, s ≠ .write l) →
      MaxExact m (Function.update stage i s) := by
    intro hpast hwrite
    have hwriting : ∀ j l, Function.update stage i s j = .write l → stage j = .write l := by
      intro j l hj
      rcases update_stage hj with ⟨-, hs⟩ | ⟨-, hj⟩
      · exact absurd hs (hwrite l)
      · exact hj
    refine ⟨?_, ?_, ?_⟩
    · intro j l hj
      rcases update_stage hj with ⟨-, hs⟩ | ⟨-, hj⟩
      · exact hpast l hs
      · exact h.past j l hj
    · exact fun j l hj => h.write j l (hwriting j l hj)
    · exact fun j k l l' hj hk => h.alone j k l l' (hwriting j l hj) (hwriting k l' hk)
  generalize hstage : stage i = s₀ at hmove halone
  cases hmove with
  | before => exact hsame nofun nofun
  | compare latency100ns => exact hsame nofun nofun
  | notGreater hle =>
    refine hsame ?_ nofun
    rintro l ⟨⟩
    exact hle
  | past =>
    refine hsame ?_ nofun
    rintro l ⟨⟩
    exact h.past i _ hstage
  | greater hlt =>
    have hnobody := halone _ rfl
    refine ⟨?_, ?_, ?_⟩
    · intro j l hj
      rcases update_stage hj with ⟨-, hs⟩ | ⟨-, hj⟩
      · cases hs
      · exact h.past j l hj
    · intro j l hj
      rcases update_stage hj with ⟨-, hs⟩ | ⟨-, hj⟩
      · cases hs
        exact hlt
      · exact absurd hj (hnobody j l)
    · intro j k l l' hj hk
      rcases update_stage hj with ⟨rfl, -⟩ | ⟨-, hj⟩
      · rcases update_stage hk with ⟨rfl, -⟩ | ⟨-, hk⟩
        · rfl
        · exact absurd hk (hnobody k l')
      · exact absurd hj (hnobody j l)
  | write =>
    -- the written latency is above all that have been compared, and the writer was the only one
    have hlt := h.write i _ hstage
    have hnobody : ∀ j l, j ≠ i → stage j ≠ .write l :=
      fun j l hji hj => hji (h.alone j i l _ hj hstage)
    refine ⟨?_, ?_, ?_⟩
    · intro j l hj
      rcases update_stage hj with ⟨-, hs⟩ | ⟨-, hj⟩
      · cases hs
        exact UInt64.le_refl _
      · exact UInt64.le_trans (h.past j l hj) (UInt64.le_of_lt hlt)
    · intro j l hj
      rcases update_stage hj with ⟨-, hs⟩ | ⟨hji, hj⟩
      · cases hs
      · exact absurd hj (hnobody j l hji)
    · intro j k l l' hj hk
      rcases update_stage hj with ⟨-, hs⟩ | ⟨hji, hj⟩
      · cases hs
      · exact absurd hj (hnobody j l hji)

/-! ## All schedules -/

/-- The record does not compare its latency while another one is about to write. -/
def Undisturbed (x : MaxCell) (call : ι → TelemetryCall)
    (c : TelemetryState × (∀ i, RecordPc (call i))) (i : ι) : Prop :=
  ∀ latency100ns, x.stage (c.2 i) = .compare latency100ns → ∀ j l, x.stage (c.2 j) ≠ .write l

theorem MaxCell.stage_start (x : MaxCell) (call : TelemetryCall) :
    x.stage (.start : RecordPc call) = .before := by
  cases call <;> cases x <;> rfl

theorem exec_stage (x : MaxCell) {call : ι → TelemetryCall}
    (c : TelemetryState × (∀ i, RecordPc (call i))) (i : ι) :
    (fun j => x.stage ((exec (fun i => recordStep (call i)) c i).2 j)) =
      Function.update (fun j => x.stage (c.2 j)) i
        (x.stage (recordStep (call i) (c.1, c.2 i)).2) := by
  funext j
  by_cases hj : j = i
  · subst hj
    simp only [exec, Function.update_self]
  · simp only [exec, Function.update_of_ne hj]

/-- **What the maxima are worth**: whatever overlaps, a maximum never falls below its first value and is
that value or a recorded latency; and it is at least every latency that has been recorded if no record
compares while another one is about to write. A record ends after at most seven steps of its own. -/
theorem maxLatency_runs (call : ι → TelemetryCall) (t : TelemetryState) (x : MaxCell)
    (schedule : List ι) :
    let c := recordsRun call t schedule
    x.read t ≤ x.read c.1 ∧
      (x.read c.1 = x.read t ∨ ∃ i, x.stage (c.2 i) = .past (x.read c.1)) ∧
      (Along (fun i => recordStep (call i)) (Undisturbed x call) (recordsStart call t) schedule →
        ∀ i latency100ns, x.stage (c.2 i) = .past latency100ns → latency100ns ≤ x.read c.1) ∧
      ∀ i, 7 ≤ schedule.count i → (c.2 i).finished = true := by
  have hbefore : ∀ i, x.stage ((recordsStart call t).2 i) = .before :=
    fun i => x.stage_start (call i)
  have hbound : MaxBound (x.read t) (x.read (recordsRun call t schedule).1)
      (fun i => x.stage ((recordsRun call t schedule).2 i)) := by
    apply run_inv (fun i => recordStep (call i))
      (P := fun c => MaxBound (x.read t) (x.read c.1) (fun i => x.stage (c.2 i)))
    · intro c i h
      rw [exec_stage]
      exact h.move (recordStep_max x (call i) c.1 (c.2 i))
    · refine ⟨UInt64.le_refl _, Or.inl rfl, ?_⟩
      intro i l hi
      rw [hbefore i] at hi
      cases hi
  refine ⟨hbound.le, hbound.recorded, ?_, fun _ => recordsRun_finished call t⟩
  intro halong
  have hexact : MaxExact (x.read (recordsRun call t schedule).1)
      (fun i => x.stage ((recordsRun call t schedule).2 i)) := by
    apply run_inv_along (fun i => recordStep (call i))
      (P := fun c => MaxExact (x.read c.1) (fun i => x.stage (c.2 i))) _ _ halong
    · intro c i h hC
      rw [exec_stage]
      exact h.move hC (recordStep_max x (call i) c.1 (c.2 i))
    · refine ⟨?_, ?_, ?_⟩
      · intro i l hi
        rw [hbefore i] at hi
        cases hi
      · intro i l hi
        rw [hbefore i] at hi
        cases hi
      · intro i j l l' hi
        rw [hbefore i] at hi
        cases hi
  exact hexact.past

/-- Two requests that take 2 and 1 units of time. -/
def overlappingRecords : Fin 2 → TelemetryCall
  | 0 => .ipc false 2
  | 1 => .ipc false 1

/-- They overlap, but the second one compares after the first has written: both end, and the maximum is
at least both latencies. -/
theorem maxLatency_runs_apart :
    let c := recordsRun overlappingRecords telemetryInitialize [0, 0, 0, 0, 1, 1, 1, 1, 0, 0, 1, 0, 1, 1]
    (∀ i, (c.2 i).finished = true) ∧ 2 ≤ c.1.maxIpcLatency100ns ∧ 1 ≤ c.1.maxIpcLatency100ns := by
  obtain ⟨-, -, hexact, hends⟩ := maxLatency_runs overlappingRecords telemetryInitialize .ipc
    [0, 0, 0, 0, 1, 1, 1, 1, 0, 0, 1, 0, 1, 1]
  -- the records compare at the ninth and at the eleventh step, when nobody is about to write
  have hnobody := hexact ⟨nofun, nofun, nofun, nofun, nofun, nofun, nofun, nofun,
    fun _ _ => Fin.forall_fin_two.mpr ⟨nofun, nofun⟩, nofun,
    fun _ _ => Fin.forall_fin_two.mpr ⟨nofun, nofun⟩, nofun, nofun, nofun, trivial⟩
  exact ⟨fun i => hends i (by revert i; decide), hnobody 0 2 rfl, hnobody 1 1 rfl⟩

/-- Where both compare before either writes, the longer latency is lost. -/
example : (recordsRun overlappingRecords telemetryInitialize
    [0, 0, 0, 0, 0, 1, 1, 1, 1, 1, 0, 1]).1.maxIpcLatency100ns = 1 := by decide

end Guardian
