import Guardian.Driver.Entry
import Guardian.Lib.Runs
import Mathlib.Data.List.TakeWhile

/-!
# Callout registration over runs

* `calloutManager` : the machine of the Register and Unregister calls;
* `AllOrNothing` : no callout is registered, or all four are;
* `calloutRegisterAll_spec` : a registration leaves the callouts before the first refused one;
* `driverEntry_success_iff` : the loads that succeed;
* `Uniform`, `CleanCall` : the engine answers that leave no partial registration;
* `CalloutsClean`, `LoadClean`, `calloutsClean_iff` : the runs and the loads that leave none.
-/

namespace Guardian

/-- The callouts in the order of their registration. -/
def calloutKeys : List CalloutKey :=
  [.authConnectV4, .authConnectV6, .flowEstablishedV4, .flowEstablishedV6]

theorem mem_calloutKeys (key : CalloutKey) : key ∈ calloutKeys := by
  cases key <;> decide

/-- A call of the callout manager, with what the filter engine answers for each key. -/
inductive CalloutCall where
  | register (engineStatus : CalloutKey → NTSTATUS)
  | unregister

def calloutStep (g : Globals) : CalloutCall → NTSTATUS × Globals
  | .register engineStatus => calloutManagerRegister engineStatus g
  | .unregister => (statusSuccess, calloutManagerUnregister g)

def calloutManager : Machine Globals CalloutCall NTSTATUS := ⟨calloutStep⟩

/-- No callout is registered with the engine, or all four are, and the statics say so. -/
def AllOrNothing (c : CalloutState) : Prop :=
  (c.registered = false ∧ c.registeredCount = 0 ∧ c.engine = []) ∨
    (c.registered = true ∧ c.registeredCount = 4 ∧ ∀ key, key ∈ c.engine)

/-- The engine refuses the first callout or none. -/
def Uniform (engineStatus : CalloutKey → NTSTATUS) : Prop :=
  ntSuccess (engineStatus .authConnectV4) = false ∨ ∀ key, ntSuccess (engineStatus key) = true

/-! ## One registration -/

/-- The callouts that are registered before the first refused one. -/
def taken (engineStatus : CalloutKey → NTSTATUS) (keys : List CalloutKey) : List CalloutKey :=
  keys.takeWhile fun key => ntSuccess (engineStatus key)

/-- Registering keys that the engine does not hold yet leaves those before the first refused one,
and succeeds iff there is no refused one. -/
theorem calloutRegisterAll_spec (engineStatus : CalloutKey → NTSTATUS) {keys : List CalloutKey}
    (hkeys : keys.Nodup) {s : CalloutState} (hnew : ∀ key ∈ keys, key ∉ s.engine) :
    let r := calloutRegisterAll engineStatus keys s
    r.2 = ⟨if taken engineStatus keys = keys then true else s.registered,
        s.registeredCount + UInt32.ofNat (taken engineStatus keys).length,
        s.engine ++ taken engineStatus keys⟩ ∧
      (ntSuccess r.1 = true ↔ taken engineStatus keys = keys) := by
  induction keys generalizing s with
  | nil => simp [calloutRegisterAll, taken]
  | cons key keys ih =>
    rw [List.nodup_cons] at hkeys
    have hkey : key ∉ s.engine := hnew key List.mem_cons_self
    cases hs : ntSuccess (engineStatus key) with
    | false =>
      have htaken : taken engineStatus (key :: keys) = [] := by simp [taken, hs]
      simp [calloutRegisterAll, fwpsCalloutRegister, hkey, hs, htaken]
    | true =>
      have htaken : taken engineStatus (key :: keys) = key :: taken engineStatus keys := by
        simp [taken, hs]
      have hrest : ∀ k ∈ keys, k ∉ s.engine ++ [key] := by
        intro k hk hmem
        rcases List.mem_append.mp hmem with hmem | hmem
        · exact hnew k (List.mem_cons_of_mem _ hk) hmem
        · exact hkeys.1 (List.mem_singleton.mp hmem ▸ hk)
      obtain ⟨hstate, hstatus⟩ := ih hkeys.2
        (s := { s with engine := s.engine ++ [key], registeredCount := s.registeredCount + 1 }) hrest
      simp only [calloutRegisterAll, fwpsCalloutRegister, if_neg hkey, hs, if_true, Bool.not_true,
        Bool.false_eq_true, if_false, htaken, List.cons.injEq, true_and]
      refine ⟨?_, hstatus⟩
      rw [hstate]
      simp only [CalloutState.mk.injEq, List.append_assoc, List.singleton_append, List.length_cons,
        true_and, and_true]
      rw [UInt32.add_assoc, UInt32.ofNat_add, UInt32.add_comm 1]
      rfl

theorem taken_eq_keys_iff (engineStatus : CalloutKey → NTSTATUS) :
    taken engineStatus calloutKeys = calloutKeys ↔ ∀ key, ntSuccess (engineStatus key) = true := by
  rw [taken, List.takeWhile_eq_self_iff]
  constructor
  · intro h key
    exact h key (mem_calloutKeys key)
  · intro h key _
    exact h key

theorem taken_eq_nil_iff (engineStatus : CalloutKey → NTSTATUS) :
    taken engineStatus calloutKeys = [] ↔ ntSuccess (engineStatus .authConnectV4) = false := by
  rw [taken, calloutKeys, List.takeWhile_cons]
  cases ntSuccess (engineStatus .authConnectV4) <;> simp

theorem uniform_iff (engineStatus : CalloutKey → NTSTATUS) : Uniform engineStatus ↔
    taken engineStatus calloutKeys = [] ∨ taken engineStatus calloutKeys = calloutKeys := by
  rw [Uniform, taken_eq_nil_iff, taken_eq_keys_iff]

theorem calloutManagerRegister_fresh (engineStatus : CalloutKey → NTSTATUS) {g : Globals}
    (hc : g.callout = ⟨false, 0, []⟩) (hd : g.wdmDevice = true) :
    let r := calloutManagerRegister engineStatus g
    r.2.callout = ⟨if taken engineStatus calloutKeys = calloutKeys then true else false,
        0 + UInt32.ofNat (taken engineStatus calloutKeys).length, taken engineStatus calloutKeys⟩ ∧
      (ntSuccess r.1 = true ↔ taken engineStatus calloutKeys = calloutKeys) := by
  unfold calloutManagerRegister
  simp only [hc, hd, Bool.false_eq_true, if_false, Bool.not_true]
  exact calloutRegisterAll_spec engineStatus (s := ⟨false, 0, []⟩) (by decide) (fun _ _ => List.not_mem_nil)

theorem calloutRegisterAll_failed {engineStatus : CalloutKey → NTSTATUS} {keys : List CalloutKey}
    {s : CalloutState} (h : ntSuccess (calloutRegisterAll engineStatus keys s).1 = false) :
    (calloutRegisterAll engineStatus keys s).2.registered = s.registered := by
  induction keys generalizing s with
  | nil => cases h
  | cons key keys ih =>
    unfold calloutRegisterAll at h ⊢
    simp only at h ⊢
    split at h
    · next hf => rw [if_pos hf]
    · next hf =>
      rw [if_neg hf]
      exact ih h

theorem calloutManagerRegister_failed {engineStatus : CalloutKey → NTSTATUS} {g : Globals}
    (h : ntSuccess (calloutManagerRegister engineStatus g).1 = false) :
    (calloutManagerRegister engineStatus g).2.callout.registered = false := by
  unfold calloutManagerRegister at h ⊢
  cases hr : g.callout.registered with
  | true =>
    simp only [hr, if_true] at h
    cases h
  | false =>
    simp only [hr, Bool.false_eq_true, if_false] at h ⊢
    split at h
    · next hd => rwa [if_pos hd]
    · next hd =>
      rw [if_neg hd]
      exact (calloutRegisterAll_failed h).trans hr

/-! ## One call -/

/-- The call leaves all or nothing where it finds it. -/
def CleanCall (g : Globals) : CalloutCall → Prop
  | .register engineStatus =>
    g.callout.registered = true ∨ g.wdmDevice = false ∨ Uniform engineStatus
  | .unregister => True

theorem allOrNothing_taken_iff (engineStatus : CalloutKey → NTSTATUS) :
    AllOrNothing ⟨if taken engineStatus calloutKeys = calloutKeys then true else false,
        0 + UInt32.ofNat (taken engineStatus calloutKeys).length, taken engineStatus calloutKeys⟩ ↔
      Uniform engineStatus := by
  rw [uniform_iff, AllOrNothing]
  by_cases hall : taken engineStatus calloutKeys = calloutKeys
  · simp only [hall, if_true, or_true, iff_true]
    exact Or.inr ⟨trivial, rfl, mem_calloutKeys⟩
  · simp only [hall, if_false, or_false, Bool.false_eq_true, false_and]
    constructor
    · exact fun h => h.2.2
    · intro h
      rw [h]
      exact ⟨trivial, rfl, rfl⟩

theorem calloutManagerUnregister_registered {g : Globals} (h : g.callout.registered = true) :
    calloutManagerUnregister g = { g with callout := ⟨false, 0, []⟩ } := by
  have hnone : calloutKeys.foldl (fun engine key => engine.filter (· ≠ key)) g.callout.engine = [] := by
    rw [List.eq_nil_iff_forall_not_mem]
    intro key hkey
    cases key <;> simp [calloutKeys] at hkey
  rw [calloutManagerUnregister, h, ← calloutKeys, hnone]
  rfl

theorem unregister_allOrNothing {g : Globals} (h : AllOrNothing g.callout) :
    AllOrNothing (calloutManagerUnregister g).callout := by
  cases hr : g.callout.registered with
  | false =>
    unfold calloutManagerUnregister
    rw [hr]
    exact h
  | true =>
    rw [calloutManagerUnregister_registered hr]
    exact Or.inl ⟨rfl, rfl, rfl⟩

/-- **A call keeps all-or-nothing exactly where it is clean.** -/
theorem calloutStep_allOrNothing_iff (g : Globals) (call : CalloutCall)
    (h : AllOrNothing g.callout) :
    AllOrNothing (calloutStep g call).2.callout ↔ CleanCall g call := by
  cases call with
  | unregister => exact ⟨fun _ => trivial, fun _ => unregister_allOrNothing h⟩
  | register engineStatus =>
    show AllOrNothing (calloutManagerRegister engineStatus g).2.callout ↔
      g.callout.registered = true ∨ g.wdmDevice = false ∨ Uniform engineStatus
    rcases h with ⟨hr, hn, he⟩ | ⟨hr, hn, he⟩
    · have hc : g.callout = ⟨false, 0, []⟩ := by rw [← hr, ← hn, ← he]
      cases hd : g.wdmDevice with
      | false =>
        have hkept : (calloutManagerRegister engineStatus g).2.callout = g.callout := by
          simp [calloutManagerRegister, hr, hd]
        rw [hkept, hc]
        simp [AllOrNothing]
      | true =>
        rw [(calloutManagerRegister_fresh engineStatus hc hd).1, allOrNothing_taken_iff, hr]
        simp
    · have hkept : (calloutManagerRegister engineStatus g).2 = g := by
        simp [calloutManagerRegister, hr]
      rw [hkept]
      simp only [hr, true_or, iff_true]
      exact Or.inr ⟨hr, hn, he⟩

theorem register_succeeds {g : Globals} (h : AllOrNothing g.callout) (hd : g.wdmDevice = true) :
    ntSuccess (calloutManagerRegister (fun _ => statusSuccess) g).1 = true := by
  rcases h with ⟨hr, hn, he⟩ | ⟨hr, -, -⟩
  · have hc : g.callout = ⟨false, 0, []⟩ := by rw [← hr, ← hn, ← he]
    rw [(calloutManagerRegister_fresh _ hc hd).2, taken_eq_keys_iff]
    exact fun _ => rfl
  · simp [calloutManagerRegister, hr]

/-! ## Runs and loads -/

/-- The state with no callout registered. -/
def withoutCallouts (g : Globals) : Globals := { g with callout := ⟨false, 0, []⟩ }

/-- After every call the registered callouts are none or all four; a failed Register leaves none; and
while there is a device a later Register can succeed. -/
structure CalloutsClean (g : Globals) (calls : List CalloutCall) : Prop where
  allOrNothing : ∀ n, AllOrNothing (calloutManager.final g (calls.take n)).callout
  failed : ∀ n engineStatus, calls[n]? = some (.register engineStatus) →
    ntSuccess (calloutManagerRegister engineStatus (calloutManager.final g (calls.take n))).1 =
      false →
    (calloutManager.final g (calls.take (n + 1))).callout.engine = []
  retry : ∀ n, (calloutManager.final g (calls.take n)).wdmDevice = true →
    ∃ engineStatus, ntSuccess (calloutManagerRegister engineStatus
      (calloutManager.final g (calls.take n))).1 = true

theorem calloutsClean_run_iff (g : Globals) (calls : List CalloutCall) :
    CalloutsClean (withoutCallouts g) calls ↔
      calloutManager.Along CleanCall (withoutCallouts g) calls := by
  have hrun := Machine.forall_final_take_iff calloutManager
    (fun g call h => calloutStep_allOrNothing_iff g call h) (withoutCallouts g) calls
  have hstart : AllOrNothing (withoutCallouts g).callout := Or.inl ⟨rfl, rfl, rfl⟩
  constructor
  · intro h
    exact (hrun.mp h.allOrNothing).2
  · intro h
    have hall := hrun.mpr ⟨hstart, h⟩
    refine ⟨hall, ?_, ?_⟩
    · intro n engineStatus hcall hfail
      have hnext := hall (n + 1)
      rw [calloutManager.final_take_succ hcall] at hnext ⊢
      have hreg := calloutManagerRegister_failed hfail
      rcases hnext with hnext | hnext
      · exact hnext.2.2
      · exact absurd (hreg.symm.trans hnext.1) Bool.false_ne_true
    · intro n hd
      exact ⟨_, register_succeeds (hall n) hd⟩

/-- The framework lets the load get as far as the callouts. -/
structure DeviceUp (boot : Boot) : Prop where
  driverCreate : ntSuccess boot.driverCreate = true
  deviceInitAllocate : boot.device.deviceInitAllocate = true
  assignName : ntSuccess boot.device.assignName = true
  deviceCreate : ntSuccess boot.device.deviceCreate = true
  symbolicLink : ntSuccess boot.device.symbolicLink = true
  queueCreate : ntSuccess boot.device.queueCreate = true

/-- A load that fails leaves no callout with the engine. -/
def LoadClean (boot : Boot) : Prop :=
  ntSuccess (driverEntry boot imageGlobals).1 = false →
    (driverEntry boot imageGlobals).2.callout.engine = []

theorem createDevice_up {boot : Boot} (h : DeviceUp boot) (g : Globals) :
    createDevice boot.device g = (statusSuccess, { g with wdmDevice := true }) := by
  simp [createDevice, h.deviceInitAllocate, h.assignName, h.deviceCreate, h.symbolicLink,
    h.queueCreate]

theorem createDevice_down {boot : Boot} (hd : ntSuccess boot.driverCreate = true)
    (h : ¬ DeviceUp boot) (g : Globals) :
    ntSuccess (createDevice boot.device g).1 = false ∧ (createDevice boot.device g).2 = g := by
  unfold createDevice
  split_ifs with h1 h2 h3 h4 h5
  · exact ⟨rfl, rfl⟩
  · exact ⟨by simpa using h2, rfl⟩
  · exact ⟨by simpa using h3, rfl⟩
  · exact ⟨by simpa using h4, rfl⟩
  · exact ⟨by simpa using h5, rfl⟩
  · exact absurd ⟨hd, by simpa using h1, by simpa using h2, by simpa using h3, by simpa using h4,
      by simpa using h5⟩ h

theorem driverEntry_down {boot : Boot} (h : ¬ DeviceUp boot) :
    (driverEntry boot imageGlobals).2.callout.engine = [] ∧
      ntSuccess (driverEntry boot imageGlobals).1 = false := by
  unfold driverEntry
  simp only
  split
  · next hd => exact ⟨rfl, by simpa using hd⟩
  · next hd =>
    obtain ⟨hs, hg⟩ := createDevice_down (by simpa using hd) h (initializeModules boot imageGlobals)
    rw [hs, hg]
    exact ⟨rfl, hs⟩

theorem readRegistryGuardianMode_known (registryPath : Option RegistryKey) :
    ∃ mode, Mode.ofUInt32 (readRegistryGuardianMode registryPath) = some mode := by
  unfold readRegistryGuardianMode
  cases registryPath with
  | none => exact ⟨.wfp, rfl⟩
  | some key =>
    simp only
    split
    · exact ⟨.wfp, rfl⟩
    · split
      · exact ⟨.wfp, rfl⟩
      · next hle =>
        have hle2 : key.queryValue regGuardianMode Mode.wfp.toUInt32 ≤ 2 := UInt32.not_lt.mp hle
        rw [UInt32.le_iff_toNat_le] at hle2
        unfold Mode.ofUInt32
        split_ifs with h0 h1 h2
        · exact ⟨_, rfl⟩
        · exact ⟨_, rfl⟩
        · exact ⟨_, rfl⟩
        · simp only [← UInt32.toNat_inj, UInt32.reduceToNat] at h0 h1 h2 hle2
          omega

/-- `DriverEntry` after the registration of the callouts, which left `r`. -/
def finishLoad (boot : Boot) (r : NTSTATUS × Globals) : NTSTATUS × Globals :=
  if !ntSuccess r.1 then (r.1, loadFailed r.1 r.2)
  else
    let g := { r.2 with driverState := { r.2.driverState with
      calloutsRegistered := calloutManagerRegisteredCount r.2
      lifecycleState := lifecycleRecovering } }
    let (status, g) := hybridSetMode g.driverState.guardianMode boot.ndisPoll g
    if !ntSuccess status then (status, loadFailed status g)
    else
      let (status, g) := recoveryManagerBegin g
      if !ntSuccess status then (status, loadFailed status g)
      else
        (statusSuccess, { g with driverState := { g.driverState with
          lifecycleState := lifecycleRunning
          lastError := statusSuccess } })

theorem driverEntry_eq_finishLoad {boot : Boot} (h : DeviceUp boot) (g : Globals) :
    driverEntry boot g = finishLoad boot (calloutManagerRegister boot.calloutRegister
      { initializeModules boot g with wdmDevice := true }) := by
  unfold driverEntry
  simp only [h.driverCreate, createDevice_up h, ntSuccess_success, Bool.not_true,
    Bool.false_eq_true, if_false]
  rfl

theorem finishLoad_spec (boot : Boot) {r : NTSTATUS × Globals} {mode : Mode}
    (hmode : Mode.ofUInt32 r.2.driverState.guardianMode = some mode) :
    (finishLoad boot r).2.callout = r.2.callout ∧
      ntSuccess (finishLoad boot r).1 = ntSuccess r.1 := by
  unfold finishLoad
  cases hr : ntSuccess r.1 with
  | false =>
    simp only [Bool.not_false, if_true]
    exact ⟨rfl, hr⟩
  | true =>
    let g := { r.2 with driverState := { r.2.driverState with
      calloutsRegistered := calloutManagerRegisteredCount r.2
      lifecycleState := lifecycleRecovering } }
    have hs := hybridSetMode_succeeds hmode boot.ndisPoll g
    obtain ⟨h, m, n, hg⟩ := hybridSetMode_frame r.2.driverState.guardianMode boot.ndisPoll g
    simp only [g] at hs hg
    simp only [hs, hg, recoveryManagerBegin, ntSuccess_success, Bool.not_true, Bool.false_eq_true,
      if_false]
    exact ⟨rfl, trivial⟩

/-- A load that gets as far as the callouts leaves those before the first refused one, and succeeds
iff none is refused. -/
theorem driverEntry_up {boot : Boot} (h : DeviceUp boot) :
    (driverEntry boot imageGlobals).2.callout =
        ⟨if taken boot.calloutRegister calloutKeys = calloutKeys then true else false,
          0 + UInt32.ofNat (taken boot.calloutRegister calloutKeys).length,
          taken boot.calloutRegister calloutKeys⟩ ∧
      (ntSuccess (driverEntry boot imageGlobals).1 = true ↔
        taken boot.calloutRegister calloutKeys = calloutKeys) := by
  let g := { initializeModules boot imageGlobals with wdmDevice := true }
  obtain ⟨hc, hs⟩ := calloutManagerRegister_fresh boot.calloutRegister (g := g) rfl rfl
  obtain ⟨d, c, hframe⟩ := calloutManagerRegister_frame boot.calloutRegister g
  obtain ⟨mode, hmode⟩ := readRegistryGuardianMode_known boot.registryPath
  have hknown : Mode.ofUInt32 (calloutManagerRegister boot.calloutRegister g).2.driverState.guardianMode
      = some mode := by
    rw [hframe]
    exact hmode
  obtain ⟨hcallout, hstatus⟩ := finishLoad_spec boot hknown
  rw [driverEntry_eq_finishLoad h]
  constructor
  · rw [hcallout, hc]
  · rw [hstatus]
    exact hs

theorem driverEntry_success_iff (boot : Boot) :
    ntSuccess (driverEntry boot imageGlobals).1 = true ↔
      DeviceUp boot ∧ ∀ key, ntSuccess (boot.calloutRegister key) = true := by
  by_cases h : DeviceUp boot
  · rw [(driverEntry_up h).2, taken_eq_keys_iff, and_iff_right h]
  · rw [(driverEntry_down h).2]
    exact iff_of_false Bool.false_ne_true fun hs => h hs.1

theorem driverEntry_registered {boot : Boot} (h : ntSuccess (driverEntry boot imageGlobals).1 = true) :
    (driverEntry boot imageGlobals).2.callout.registered = true := by
  obtain ⟨hup, -⟩ := (driverEntry_success_iff boot).mp h
  obtain ⟨hcallout, hstatus⟩ := driverEntry_up hup
  rw [hcallout]
  exact if_pos (hstatus.mp h)

/-- A failing load leaves no callout exactly where it does not get as far as the callouts or the
engine refuses the first of them or none. -/
theorem loadClean_iff (boot : Boot) :
    LoadClean boot ↔ (DeviceUp boot → Uniform boot.calloutRegister) := by
  rw [LoadClean, uniform_iff]
  by_cases h : DeviceUp boot
  · obtain ⟨hcallout, hstatus⟩ := driverEntry_up h
    have hengine : (driverEntry boot imageGlobals).2.callout.engine =
        taken boot.calloutRegister calloutKeys := congrArg CalloutState.engine hcallout
    rw [hengine, ← hstatus]
    cases ntSuccess (driverEntry boot imageGlobals).1 <;> simp [h]
  · simp [h, (driverEntry_down h).1]

/-- **Registration is all-or-nothing exactly in the runs whose Registers all meet an engine that
refuses the first callout or none**, and a failing load leaves no callout exactly under the same
condition. -/
theorem calloutsClean_iff (g : Globals) (calls : List CalloutCall) (boot : Boot) :
    (CalloutsClean (withoutCallouts g) calls ↔
      calloutManager.Along CleanCall (withoutCallouts g) calls) ∧
    (LoadClean boot ↔ (DeviceUp boot → Uniform boot.calloutRegister)) :=
  ⟨calloutsClean_run_iff g calls, loadClean_iff boot⟩

/-- The engine registers the first callout and refuses the second. -/
def refusesV6 : CalloutKey → NTSTATUS
  | .authConnectV6 => statusInsufficientResources
  | _ => statusSuccess

/-- A device, and a Register that the engine refuses at the second callout; a load that fails so. -/
theorem not_calloutsClean :
    ¬ CalloutsClean (withoutCallouts { imageGlobals with wdmDevice := true })
        [.register refusesV6] ∧
      ¬ LoadClean ⟨none, statusSuccess, ⟨true, statusSuccess, statusSuccess, statusSuccess,
        statusSuccess⟩, refusesV6, ⟨statusNotFound, statusNotFound, 0⟩⟩ := by
  constructor
  · intro h
    rcases h.allOrNothing 1 with ⟨-, hcount, -⟩ | ⟨hregistered, -, -⟩
    · exact absurd hcount (by decide)
    · exact absurd hregistered (by decide)
  · intro h
    exact absurd (h (by decide)) (by decide)

end Guardian
