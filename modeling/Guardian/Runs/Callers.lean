import Guardian.Runs.Driver

/-!
# Processes and the pinned caller

The driver in a system of processes: a process starts with a free process id, exits and leaves its id
to a later start, and issues requests. The driver remembers the first caller by its id alone.

* `Process`, `World`, `ProcessEvent`, `worldStep` : the system; `World.pinned` is the process of the
  first accepted request, which the driver does not know;
* `World.Accepts` : the driver accepts a request of a process; `WorldInv.accepts_iff` says for whom;
* `Lawful`, `KeepsSession`, `lawful_throughout_iff` : the runs in which only the pinned process and its
  session are accepted; `lawfulRequest_along` says it of the requests of such a run;
* `accepts_sameSession_iff` : when the session of the pinned process is accepted.
-/

namespace Guardian

/-- A process; no two starts give the same `ident`. -/
structure Process where
  ident : Nat
  pid : UInt32
  session : UInt32
  deriving DecidableEq

structure World where
  live : List Process
  /-- The number of starts so far. -/
  started : Nat
  /-- The process of the first accepted request. -/
  pinned : Option Process
  driver : Globals

inductive ProcessEvent where
  | start (pid session : UInt32)
  | exit (ident : Nat)
  | request (ident : Nat) (rq : IoctlRequest)

namespace World

/-- `PsLookupProcessByProcessId` and `PsGetProcessSessionId` of what it finds. -/
def lookupProcess (w : World) (pid : UInt32) : Option UInt32 :=
  (w.live.find? fun p => p.pid = pid).map Process.session

/-- The process as the sender of a request. -/
def caller (w : World) (p : Process) : Caller := ⟨true, p.pid, w.lookupProcess⟩

/-- The verification lets a request of the process through. -/
def Accepts (w : World) (p : Process) : Prop :=
  ntSuccess (securityPolicyVerifyCaller (some (w.caller p)) w.driver.allowedServicePid).1 = true

instance (w : World) (p : Process) : Decidable (w.Accepts p) := inferInstanceAs (Decidable (_ = _))

/-- A loaded driver, before any process of interest has started. -/
def booted (boot : Boot) : World := ⟨[], 0, none, loaded boot⟩

end World

/-- A start with a used id, an exit or a request of a process that is not alive cannot happen and
changes nothing. -/
def worldStep (w : World) : ProcessEvent → Option Completion × World
  | .start pid session =>
    if pid = 0 ∨ pid ∈ w.live.map Process.pid then (none, w)
    else (none, { w with live := w.live ++ [⟨w.started, pid, session⟩], started := w.started + 1 })
  | .exit ident => (none, { w with live := w.live.filter fun p => p.ident ≠ ident })
  | .request ident rq =>
    match w.live.find? fun p => p.ident = ident with
    | none => (none, w)
    | some p =>
      let r := evtIoDeviceControl { rq with caller := w.caller p } w.driver
      (some r.1, { w with
        pinned := if w.Accepts p then w.pinned.or (some p) else w.pinned
        driver := r.2 })

def world : Machine World ProcessEvent (Option Completion) := ⟨worldStep⟩

/-! ## The pinned id -/

theorem evtIoDeviceControl_allowedServicePid (rq : IoctlRequest) (g : Globals) :
    (evtIoDeviceControl rq g).2.allowedServicePid =
      (securityPolicyVerifyCaller (some rq.caller) g.allowedServicePid).2 := by
  show (served rq g).globals.allowedServicePid = _
  obtain ⟨p, r, k, d, h, n, state, hf⟩ := served_frame rq g
  rw [hf]
  rfl

theorem loaded_allowedServicePid (boot : Boot) : (loaded boot).allowedServicePid = 0 := by
  obtain ⟨w, d, c, h, r, s, state, heq, -⟩ := driverEntry_frame boot imageGlobals
  rw [loaded, heq]
  rfl

/-! ## The invariant -/

/-- The id of a pinned process; `0` is `NULL`. -/
def pinnedPid : Option Process → UInt32
  | some p => p.pid
  | none => 0

structure WorldInv (w : World) : Prop where
  pids : (w.live.map Process.pid).Nodup
  nonzero : ∀ p ∈ w.live, p.pid ≠ 0
  pinned : w.driver.allowedServicePid = pinnedPid w.pinned
  pinned_ne : ∀ p, w.pinned = some p → p.pid ≠ 0

theorem worldInv_booted (boot : Boot) : WorldInv (World.booted boot) where
  pids := List.nodup_nil
  nonzero p hp := absurd hp List.not_mem_nil
  pinned := loaded_allowedServicePid boot
  pinned_ne p hp := by cases hp

theorem World.lookupProcess_eq {w : World} (h : (w.live.map Process.pid).Nodup)
    {pid session : UInt32} : w.lookupProcess pid = some session ↔
      ∃ p ∈ w.live, p.pid = pid ∧ p.session = session := by
  unfold World.lookupProcess
  simp only [Option.map_eq_some_iff, KeyedList.find?_key_eq_some Process.pid h, and_assoc]

theorem WorldInv.lookup_self {w : World} (h : WorldInv w) {p : Process} (hp : p ∈ w.live) :
    w.lookupProcess p.pid = some p.session :=
  (World.lookupProcess_eq h.pids).mpr ⟨p, hp, rfl, rfl⟩

/-- A live process is accepted iff nothing is pinned or some process of its session has the pinned
id. -/
theorem WorldInv.accepts_iff {w : World} (h : WorldInv w) {p : Process} (hp : p ∈ w.live) :
    w.Accepts p ↔
      ∀ q, w.pinned = some q → ∃ r ∈ w.live, r.pid = q.pid ∧ r.session = p.session := by
  rw [World.Accepts, ntSuccess_verifyCaller_iff, h.pinned]
  cases hpin : w.pinned with
  | none =>
    refine iff_of_true ⟨rfl, h.nonzero p hp, p.session, h.lookup_self hp, Or.inl rfl⟩ ?_
    intro q hq
    cases hq
  | some q =>
    have hq0 : q.pid ≠ 0 := h.pinned_ne q hpin
    constructor
    · rintro ⟨-, -, session, hs, hcase⟩ q' hq'
      obtain rfl : q = q' := Option.some.inj hq'
      obtain rfl : p.session = session := Option.some.inj ((h.lookup_self hp).symm.trans hs)
      rcases hcase with h0 | hown | hlookup
      · exact absurd h0 hq0
      · exact ⟨p, hp, hown, rfl⟩
      · exact (World.lookupProcess_eq h.pids).mp hlookup
    · intro hr
      have hlookup := (World.lookupProcess_eq h.pids).mpr (hr q rfl)
      exact ⟨rfl, h.nonzero p hp, p.session, h.lookup_self hp, Or.inr (Or.inr hlookup)⟩

theorem WorldInv.verify_pins {w : World} (h : WorldInv w) (p : Process) :
    (securityPolicyVerifyCaller (some (w.caller p)) w.driver.allowedServicePid).2 =
      pinnedPid (if w.Accepts p then w.pinned.or (some p) else w.pinned) := by
  by_cases ha : w.Accepts p
  · rw [if_pos ha, verifyCaller_admits ((ntSuccess_verifyCaller_iff _ _).mp ha), h.pinned]
    cases hpin : w.pinned with
    | none => rfl
    | some q => exact if_neg (h.pinned_ne q hpin)
  · rw [if_neg ha, verifyCaller_denies (fun hadm => ha ((ntSuccess_verifyCaller_iff _ _).mpr hadm)),
      h.pinned]

theorem World.pinned_after {w : World} {p q : Process}
    (h : (if w.Accepts p then w.pinned.or (some p) else w.pinned) = some q) :
    w.pinned = some q ∨ p = q := by
  split at h
  · rcases Option.or_eq_some_iff.mp h with h | ⟨-, h⟩
    · exact Or.inl h
    · exact Or.inr (Option.some.inj h)
  · exact Or.inl h

theorem worldStep_inv (w : World) (e : ProcessEvent) (h : WorldInv w) : WorldInv (worldStep w e).2 := by
  cases e with
  | start pid session =>
    unfold worldStep
    simp only
    split
    · exact h
    · next hfree =>
      rw [not_or] at hfree
      refine ⟨?_, ?_, h.pinned, h.pinned_ne⟩
      · rw [List.map_append]
        refine List.nodup_append.mpr ⟨h.pids, List.nodup_singleton _, ?_⟩
        rintro a ha b hb rfl
        have ha' : a = pid := List.mem_singleton.mp hb
        exact hfree.2 (ha' ▸ ha)
      · intro p hp
        rcases List.mem_append.mp hp with hp | hp
        · exact h.nonzero p hp
        · rw [List.mem_singleton.mp hp]
          exact hfree.1
  | exit ident =>
    refine ⟨?_, ?_, h.pinned, h.pinned_ne⟩
    · exact h.pids.sublist (List.filter_sublist.map Process.pid)
    · intro p hp
      exact h.nonzero p (List.mem_of_mem_filter hp)
  | request ident rq =>
    unfold worldStep
    simp only
    split
    · exact h
    · next p hp =>
      have hlive : p ∈ w.live := List.mem_of_find?_eq_some hp
      refine ⟨h.pids, h.nonzero, ?_, ?_⟩
      · exact (evtIoDeviceControl_allowedServicePid _ _).trans (h.verify_pins p)
      · intro q hq
        rcases World.pinned_after hq with hq | rfl
        · exact h.pinned_ne q hq
        · exact h.nonzero p hlive

/-! ## Lawful acceptance -/

/-- Once a process is pinned, the driver accepts requests of that process and of its session only. -/
def Lawful (w : World) : Prop :=
  ∀ p ∈ w.live, ∀ q, w.pinned = some q → w.Accepts p → p = q ∨ p.session = q.session

/-- The processes with the pinned id are of the pinned process's session. -/
def PinKept (w : World) : Prop :=
  ∀ q, w.pinned = some q → ∀ r ∈ w.live, r.pid = q.pid → r.session = q.session

theorem WorldInv.lawful_iff {w : World} (h : WorldInv w) : Lawful w ↔ PinKept w := by
  constructor
  · intro hl q hq r hr hpid
    have hacc : w.Accepts r := (h.accepts_iff hr).mpr (by
      intro q' hq'
      obtain rfl : q = q' := Option.some.inj (hq.symm.trans hq')
      exact ⟨r, hr, hpid, rfl⟩)
    rcases hl r hr q hq hacc with rfl | hs
    · rfl
    · exact hs
  · intro hk p hp q hq hacc
    obtain ⟨r, hr, hpid, hs⟩ := (h.accepts_iff hp).mp hacc q hq
    exact Or.inr (hs.symm.trans (hk q hq r hr hpid))

/-- The event does not start a process of another session under the pinned id. -/
def KeepsSession (w : World) : ProcessEvent → Prop
  | .start pid session =>
    pid ∉ w.live.map Process.pid → ∀ q, w.pinned = some q → pid = q.pid → session = q.session
  | .exit _ => True
  | .request _ _ => True

theorem worldStep_pinKept_iff (w : World) (e : ProcessEvent) (h : WorldInv w) (hk : PinKept w) :
    PinKept (worldStep w e).2 ↔ KeepsSession w e := by
  cases e with
  | start pid session =>
    unfold worldStep KeepsSession
    simp only
    split
    · next hused =>
      refine iff_of_true hk ?_
      rintro hnew q hq rfl
      exact absurd (hused.resolve_left (h.pinned_ne q hq)) hnew
    · next hfree =>
      rw [not_or] at hfree
      constructor
      · intro hk' _ q hq hpid
        exact hk' q hq ⟨w.started, pid, session⟩ (List.mem_append_right _ (List.mem_singleton_self _))
          hpid
      · intro hs q hq r hr hpid
        rcases List.mem_append.mp hr with hr | hr
        · exact hk q hq r hr hpid
        · rw [List.mem_singleton.mp hr] at hpid ⊢
          exact hs hfree.2 q hq hpid
  | exit ident =>
    refine iff_of_true ?_ trivial
    intro q hq r hr
    exact hk q hq r (List.mem_of_mem_filter hr)
  | request ident rq =>
    refine iff_of_true ?_ trivial
    unfold worldStep
    simp only
    split
    · exact hk
    · next p hp =>
      have hlive : p ∈ w.live := List.mem_of_find?_eq_some hp
      intro q hq r hr hpid
      rcases World.pinned_after hq with hq | rfl
      · exact hk q hq r hr hpid
      · rw [List.inj_on_of_nodup_map h.pids hr hlive hpid]

/-- **In which runs only the pinned process and its session are accepted**: exactly where no process
of another session is started under the pinned id, which the exit of the pinned process sets free. -/
theorem lawful_throughout_iff (boot : Boot) (es : List ProcessEvent) :
    (∀ n, Lawful (world.final (World.booted boot) (es.take n))) ↔
      world.Along KeepsSession (World.booted boot) es := by
  have hinv : ∀ es, WorldInv (world.final (World.booted boot) es) :=
    world.final_inv WorldInv worldStep_inv (worldInv_booted boot)
  have hstep : ∀ w e, WorldInv w ∧ PinKept w →
      (WorldInv (world.step w e).2 ∧ PinKept (world.step w e).2 ↔ KeepsSession w e) := by
    rintro w e ⟨hi, hk⟩
    rw [← worldStep_pinKept_iff w e hi hk]
    exact and_iff_right (worldStep_inv w e hi)
  have hstart : PinKept (World.booted boot) := fun q hq => by cases hq
  have hrun := world.forall_final_take_iff hstep (World.booted boot) es
  constructor
  · intro h
    exact (hrun.mp fun n => ⟨hinv _, (hinv _).lawful_iff.mp (h n)⟩).2
  · intro h n
    exact (hinv _).lawful_iff.mpr (hrun.mpr ⟨⟨worldInv_booted boot, hstart⟩, h⟩ n).2

/-- If the event is an accepted request after the first, it comes from the pinned process or its session. -/
def LawfulRequest (w : World) : ProcessEvent → Prop
  | .request ident _ => ∀ p, w.live.find? (fun p => p.ident = ident) = some p → w.Accepts p →
      ∀ q, w.pinned = some q → p = q ∨ p.session = q.session
  | .start _ _ | .exit _ => True

/-- In these runs every request that is accepted after the first comes from the pinned process or from its
session. -/
theorem lawfulRequest_along (boot : Boot) (es : List ProcessEvent)
    (h : world.Along KeepsSession (World.booted boot) es) :
    world.Along LawfulRequest (World.booted boot) es := by
  refine Machine.Along.of_inv world (P := fun w => WorldInv w ∧ PinKept w) ?_ ?_
    ⟨worldInv_booted boot, fun q hq => by cases hq⟩ h
  · rintro w e ⟨hi, hk⟩ he
    exact ⟨worldStep_inv w e hi, (worldStep_pinKept_iff w e hi hk).mpr he⟩
  · rintro w e ⟨hi, hk⟩
    cases e with
    | start pid session => trivial
    | exit ident => trivial
    | request ident rq =>
      intro p hp hacc q hq
      exact hi.lawful_iff.mpr hk p (List.mem_of_find?_eq_some hp) q hq hacc

/-- SET_KILL_SWITCH with Restore. -/
def liftRequest : IoctlRequest :=
  plainRequest .setKillSwitch [1, 0, 0, 0, 3, 0, 0, 0, 0, 0, 0, 0, 0, 0, 0, 0] 0

/-- The service of session `0` is pinned by its BlockAll and exits; a process of session `1` gets its id,
and its request to lift the kill switch is accepted. -/
def reusedPid : List ProcessEvent :=
  [.start 4 0, .request 0 blockAllRequest, .exit 0, .start 4 1, .request 1 liftRequest]

theorem not_forall_lawful :
    (¬ ∀ (boot : Boot) (es : List ProcessEvent) (n : Nat),
      Lawful (world.final (World.booted boot) (es.take n))) ∧
    (¬ ∀ (boot : Boot) (es : List ProcessEvent), world.Along LawfulRequest (World.booted boot) es) ∧
    (world.final (World.booted (quietBoot none)) reusedPid).driver.killSwitch.mode = .off := by
  refine ⟨?_, ?_, by decide⟩
  · intro h
    have hreuse := h (quietBoot none) reusedPid 4 ⟨1, 4, 1⟩ (by decide) ⟨0, 4, 0⟩ (by decide) (by decide)
    exact absurd hreuse (by decide)
  · intro h
    obtain ⟨-, -, -, -, hlift, -⟩ := h (quietBoot none) reusedPid
    have hreuse := hlift ⟨1, 4, 1⟩ (by decide) (by decide) ⟨0, 4, 0⟩ (by decide)
    exact absurd hreuse (by decide)

/-! ## A restarted service -/

/-- **A process of the pinned process's session is accepted exactly while a live process of that
session has the pinned id.** -/
theorem accepts_sameSession_iff (boot : Boot) (es : List ProcessEvent) (p q : Process)
    (hpinned : (world.final (World.booted boot) es).pinned = some p)
    (hlive : q ∈ (world.final (World.booted boot) es).live) (hsession : q.session = p.session) :
    (world.final (World.booted boot) es).Accepts q ↔
      ∃ r ∈ (world.final (World.booted boot) es).live, r.pid = p.pid ∧ r.session = p.session := by
  have hinv := world.final_inv WorldInv worldStep_inv (worldInv_booted boot) es
  rw [hinv.accepts_iff hlive, hpinned, hsession]
  constructor
  · intro h
    exact h p rfl
  · rintro h p' hp'
    obtain rfl : p = p' := Option.some.inj hp'
    exact h

/-- The service of session `0` under id `4`, its first request, and a second process of its session. -/
def serviceAndPeer : List ProcessEvent :=
  [.start 4 0, .request 0 blockAllRequest, .start 8 0]

theorem accepts_sameSession_iff_peer :
    (world.final (World.booted (quietBoot none)) serviceAndPeer).Accepts ⟨1, 8, 0⟩ :=
  (accepts_sameSession_iff (quietBoot none) serviceAndPeer ⟨0, 4, 0⟩ ⟨1, 8, 0⟩ (by decide) (by decide)
    rfl).mpr ⟨⟨0, 4, 0⟩, by decide, rfl, rfl⟩

/-- Once the service has exited, the peer is refused, and its request to lift the kill switch with it:
BlockAll stays in force. -/
theorem not_forall_accepts_sameSession :
    (¬ ∀ (boot : Boot) (es : List ProcessEvent) (p q : Process),
      (world.final (World.booted boot) es).pinned = some p →
      q ∈ (world.final (World.booted boot) es).live → q.session = p.session →
      (world.final (World.booted boot) es).Accepts q) ∧
    (world.final (World.booted (quietBoot none)) (serviceAndPeer ++
      [.exit 0, .request 1 liftRequest])).driver.killSwitch.mode = .blockAll := by
  constructor
  · intro h
    have hpeer := h (quietBoot none) (serviceAndPeer ++ [.exit 0]) ⟨0, 4, 0⟩ ⟨1, 8, 0⟩ (by decide)
      (by decide) rfl
    exact absurd hpeer (by decide)
  · decide

end Guardian
