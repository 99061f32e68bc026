import Guardian.Driver.Callouts
import Guardian.Runs.Driver

/-!
# Driver lifetimes

Loads, runs and unloads of the driver on one host. Each load starts from a fresh image; the driver
stores nothing in the registry, and what a load reads there is left to its `Boot`.

* `Host`, `HostEvent`, `host` : the loaded image, and the generations that earlier loads established;
* `Released`, `unload_released` : what an unload leaves of its image;
* `Increasing` : each established generation is greater than all before;
* `FirstLoad`, `increasing_throughout_iff` : the histories in which they are.
-/

namespace Guardian

structure Host where
  /-- The statics of the loaded driver. -/
  image : Option Globals
  /-- The generations reported after the successful loads so far, the newest first. -/
  established : List UInt32
  /-- What the last unload has left of its image. -/
  discarded : Option Globals
  deriving DecidableEq

inductive HostEvent where
  | load (boot : Boot)
  | event (e : Event)
  | unload

namespace Host

/-- Before the first load. -/
def unloaded : Host := ⟨none, [], none⟩

/-- A load that succeeds, and the generation in its driver state. -/
def loadedInto (w : Host) (g : Globals) : Host :=
  ⟨some g, g.driverState.recoveryGeneration :: w.established, w.discarded⟩

end Host

/-- A loaded driver is not loaded again; the image of a failed load, and that of an unloaded driver,
are discarded. -/
def hostStep (w : Host) : HostEvent → Option UInt32 × Host
  | .load boot =>
    match w.image with
    | some _ => (none, w)
    | none =>
      let (status, g) := driverEntry boot imageGlobals
      if !ntSuccess status then (none, w)
      else (some g.driverState.recoveryGeneration, w.loadedInto g)
  | .event e =>
    match w.image with
    | some g => (none, { w with image := some (driverStep g e).2 })
    | none => (none, w)
  | .unload =>
    match w.image with
    | some g => (none, { w with image := none, discarded := some (evtDriverUnload g) })
    | none => (none, w)

def host : Machine Host HostEvent (Option UInt32) := ⟨hostStep⟩

/-! ## Unloads -/

/-- No callout is registered, no pool entry is held, and the driver says that it has stopped. -/
structure Released (g : Globals) : Prop where
  callout : g.callout = ⟨false, 0, []⟩
  policy : g.policy = Table.fresh
  route : g.route = Table.fresh
  coordinator : g.hybrid.coordinatorActive = false
  stopped : g.driverState.lifecycleState = lifecycleStopped

theorem evtDriverUnload_released {g : Globals} (h : g.callout.registered = true) :
    Released (evtDriverUnload g) := by
  rw [evtDriverUnload, hybridCoordinatorShutdown_eq, calloutManagerUnregister_registered]
  · exact ⟨rfl, Table.shutdown_eq g.policy, Table.shutdown_eq g.route, rfl, rfl⟩
  · exact h

theorem driverStep_callout (g : Globals) (e : Event) : (driverStep g e).2.callout = g.callout := by
  cases e with
  | ioctl rq =>
    obtain ⟨t, ht⟩ := evtIoDeviceControl_frame rq g
    obtain ⟨p, r, k, d, h, n, state, hserved⟩ := served_frame rq g
    show (evtIoDeviceControl rq g).2.callout = _
    rw [ht, hserved]
    rfl
  | authConnectV4 values clock out | authConnectV6 values clock out =>
    exact driverStep_classify_keeps (P := fun g' => g'.callout = g.callout) (fun _ => rfl) (by nofun)

/-- The loaded image has its callouts registered, and what an unload has left is released. -/
structure HostInv (w : Host) : Prop where
  registered : ∀ g, w.image = some g → g.callout.registered = true
  released : ∀ g, w.discarded = some g → Released g

theorem hostInv_unloaded : HostInv Host.unloaded where
  registered g h := absurd h (Option.some_ne_none g).symm
  released g h := absurd h (Option.some_ne_none g).symm

theorem hostStep_inv (w : Host) (e : HostEvent) (h : HostInv w) : HostInv (hostStep w e).2 := by
  unfold hostStep
  cases e with
  | load boot =>
    simp only
    split
    · exact h
    · split
      · exact h
      · next hs =>
        refine ⟨?_, h.released⟩
        rintro g ⟨⟩
        exact driverEntry_registered (by simpa using hs)
  | event e =>
    simp only
    split
    · next g hg =>
      refine ⟨?_, h.released⟩
      rintro g' ⟨⟩
      rw [driverStep_callout]
      exact h.registered g hg
    · exact h
  | unload =>
    simp only
    split
    · next g hg =>
      refine ⟨fun g' h' => absurd h' (Option.some_ne_none g').symm, ?_⟩
      rintro g' ⟨⟩
      exact evtDriverUnload_released (h.registered g hg)
    · exact h

/-- **An unload releases what its lifetime holds**, in every history of loads, runs and unloads. -/
theorem unload_released (es : List HostEvent) {g : Globals}
    (h : (host.final Host.unloaded es).discarded = some g) : Released g :=
  (host.final_inv HostInv hostStep_inv hostInv_unloaded es).released g h

/-! ## Generations -/

/-- Each established generation is greater than all before it. -/
def Increasing (w : Host) : Prop := w.established.Pairwise (· > ·)

/-- A load establishes generation 1, whatever ran before. -/
def AllOne (w : Host) : Prop := ∀ generation ∈ w.established, generation = 1

/-- Every call that a load checks succeeds. -/
def Loads (boot : Boot) : Prop :=
  DeviceUp boot ∧ ∀ key, ntSuccess (boot.calloutRegister key) = true

/-- The event is no successful load after another. -/
def FirstLoad (w : Host) : HostEvent → Prop
  | .load boot => w.image = none → Loads boot → w.established = []
  | .event _ => True
  | .unload => True

theorem hostStep_load (w : Host) (boot : Boot) :
    (w.image = none ∧ Loads boot ∧ (hostStep w (.load boot)).2 = w.loadedInto (loaded boot)) ∨
    (¬ (w.image = none ∧ Loads boot) ∧ (hostStep w (.load boot)).2 = w) := by
  rw [Loads, ← driverEntry_success_iff]
  unfold hostStep
  by_cases hi : w.image = none
  · simp only [hi]
    by_cases hs : ntSuccess (driverEntry boot imageGlobals).1 = true
    · simp only [hs]
      exact Or.inl ⟨trivial, trivial, rfl⟩
    · rw [Bool.not_eq_true] at hs
      simp only [hs]
      exact Or.inr ⟨fun h => Bool.false_ne_true h.2, rfl⟩
  · obtain ⟨g, hg⟩ := Option.ne_none_iff_exists'.mp hi
    simp only [hg]
    exact Or.inr ⟨fun h => Option.some_ne_none g h.1, trivial⟩

theorem hostStep_established {w : Host} {e : HostEvent} (h : ∀ boot, e ≠ .load boot) :
    (hostStep w e).2.established = w.established := by
  unfold hostStep
  cases e with
  | load boot => exact absurd rfl (h boot)
  | event e | unload =>
    simp only
    split <;> rfl

theorem loadedInto_established (w : Host) {boot : Boot} (hs : Loads boot) :
    (w.loadedInto (loaded boot)).established = 1 :: w.established := by
  have hone : (loaded boot).driverState.recoveryGeneration = 1 :=
    (driverEntry_mirrored boot imageGlobals).trans
      (driverEntry_generation ((driverEntry_success_iff boot).mpr hs))
  rw [Host.loadedInto, hone]

theorem hostStep_allOne (w : Host) (e : HostEvent) (h : AllOne w) : AllOne (hostStep w e).2 := by
  unfold AllOne
  cases e with
  | load boot =>
    rcases hostStep_load w boot with ⟨-, hs, hw⟩ | ⟨-, hw⟩
    · rw [hw, loadedInto_established w hs]
      intro generation hg
      rcases List.mem_cons.mp hg with rfl | hg
      · rfl
      · exact h generation hg
    · rw [hw]
      exact h
  | event e | unload =>
    rw [hostStep_established fun boot he => HostEvent.noConfusion he]
    exact h

/-- A step keeps the generations increasing exactly where it is no second successful load. -/
theorem hostStep_increasing_iff (w : Host) (e : HostEvent) (h : AllOne w) (hw : Increasing w) :
    Increasing (hostStep w e).2 ↔ FirstLoad w e := by
  unfold Increasing
  cases e with
  | load boot =>
    rcases hostStep_load w boot with ⟨hi, hs, hnext⟩ | ⟨hno, hnext⟩
    · rw [hnext, loadedInto_established w hs, List.pairwise_cons]
      constructor
      · rintro ⟨hnew, -⟩ - -
        rw [List.eq_nil_iff_forall_not_mem]
        intro generation hg
        have hlt := hnew generation hg
        rw [h generation hg] at hlt
        exact absurd hlt (by decide)
      · intro hfirst
        rw [hfirst hi hs]
        exact ⟨nofun, List.Pairwise.nil⟩
    · rw [hnext]
      exact iff_of_true hw fun hi hs => absurd ⟨hi, hs⟩ hno
  | event e | unload =>
    rw [hostStep_established fun boot he => HostEvent.noConfusion he]
    exact iff_of_true hw trivial

/-- **In which histories the generation identifies a lifetime**: exactly where no load succeeds after
another one. Every successful load establishes generation 1, since nothing stores it. -/
theorem increasing_throughout_iff (es : List HostEvent) :
    (∀ n, Increasing (host.final Host.unloaded (es.take n))) ↔
      host.Along FirstLoad Host.unloaded es := by
  have hstart : AllOne Host.unloaded := fun generation hg => absurd hg List.not_mem_nil
  have hone : ∀ es, AllOne (host.final Host.unloaded es) :=
    host.final_inv AllOne hostStep_allOne hstart
  have hstep : ∀ w e, AllOne w ∧ Increasing w →
      (AllOne (host.step w e).2 ∧ Increasing (host.step w e).2 ↔ FirstLoad w e) := by
    rintro w e ⟨h, hw⟩
    rw [← hostStep_increasing_iff w e h hw]
    exact and_iff_right (hostStep_allOne w e h)
  have hrun := host.forall_final_take_iff hstep Host.unloaded es
  constructor
  · intro h
    exact (hrun.mp fun n => ⟨hone _, h n⟩).2
  · intro h n
    exact (hrun.mpr ⟨⟨hstart, List.Pairwise.nil⟩, h⟩ n).2

/-- Two lifetimes start with the same generation. -/
theorem not_forall_increasing :
    ¬ ∀ (es : List HostEvent) (n : Nat), Increasing (host.final Host.unloaded (es.take n)) := by
  intro h
  have htwice := h [.load (quietBoot none), .unload, .load (quietBoot none)] 3
  have hlt := List.rel_of_pairwise_cons htwice (List.mem_singleton_self _)
  exact absurd hlt (by decide)

end Guardian
