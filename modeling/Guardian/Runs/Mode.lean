import Guardian.Runs.KillSwitch

/-!
# The reported kill-switch mode

The mode is stored twice: in `killswitch.c`, where it is enforced and exported, and in the driver
state, where GET_DRIVER_STATE reads it.

* `ModesAgree` : the reported, the exported and the enforced mode are one, and it is not Restore;
* `KeepsModes` : an event that imports a state blob imports the enforced mode;
* `modesAgree_throughout_iff` : the modes agree in every state of a run iff the registry asks for Off
  and every import of the run carries the mode enforced at that moment.
-/

namespace Guardian
open Bytes

/-- The mode that GET_DRIVER_STATE reports is the stored one, which EXPORT_STATE reports and the
kill switch enforces, and it is Off, BlockAll or AllowVpnOnly. -/
structure ModesAgree (g : Globals) : Prop where
  reported : g.driverState.killSwitchMode = (killSwitchGetMode g.killSwitch).toUInt32
  exported : ∀ bytes header written,
    stateManagerExport true bytes g = (statusSuccess, some (header, written)) →
    header.killSwitchMode = g.driverState.killSwitchMode
  stored : g.killSwitch.mode = .off ∨ g.killSwitch.mode = .blockAll ∨
    g.killSwitch.mode = .allowVpnOnly

theorem modesAgree_iff (g : Globals) : ModesAgree g ↔
    g.driverState.killSwitchMode = g.killSwitch.mode.toUInt32 ∧ g.killSwitch.mode ≠ .restore := by
  constructor
  · intro h
    refine ⟨h.reported, ?_⟩
    intro hr
    rcases h.stored with hs | hs | hs <;> rw [hs] at hr <;> cases hr
  · rintro ⟨hm, hr⟩
    refine ⟨hm, ?_, ?_⟩
    · intro bytes header written he
      unfold stateManagerExport at he
      split at he
      · cases he
      · split at he
        · cases he
        · cases he
          exact hm.symm
    · cases hmode : g.killSwitch.mode with
      | off => exact Or.inl rfl
      | blockAll => exact Or.inr (Or.inl rfl)
      | allowVpnOnly => exact Or.inr (Or.inr rfl)
      | restore => exact absurd hmode hr

/-! ## One step -/

/-- The request is an IMPORT_STATE that reaches its handler with a blob of the supported version. -/
def ImportsState (rq : IoctlRequest) (g : Globals) : Prop :=
  IoctlCode.ofUInt32 rq.ioControlCode = some .importState ∧ Admitted rq g ∧
    (StateBlobHeaderV1.read rq.inputMemory 0).version = stateBlobVersion

/-- `KillSwitchMode` of the blob at the address of the input buffer. -/
def importedKillSwitchMode (rq : IoctlRequest) : UInt32 :=
  (StateBlobHeaderV1.read rq.inputMemory 0).killSwitchMode

theorem evtIoDeviceControl_import {rq : IoctlRequest} {g : Globals} (h : ImportsState rq g) :
    (evtIoDeviceControl rq g).2.driverState.killSwitchMode = importedKillSwitchMode rq := by
  obtain ⟨hcode, hadm, hversion⟩ := h
  obtain ⟨t, ht⟩ := evtIoDeviceControl_frame rq g
  rw [ht]
  rcases served_cases rq g with ⟨hno, -⟩ | ⟨-, code, hc, hs⟩
  · exact absurd hadm hno
  · obtain rfl := Option.some.inj (hc.symm.trans hcode)
    have hmode := importState_mode hadm hcode rq.outputBuffer
    rw [if_pos hversion] at hmode
    rw [hs]
    exact hmode

/-- Every request but an accepted SET_KILL_SWITCH and an import leaves the reported mode alone. -/
theorem evtIoDeviceControl_reported {rq : IoctlRequest} {g : Globals}
    (hset : ¬ AcceptedKillSwitch rq (evtIoDeviceControl rq g).1) (himport : ¬ ImportsState rq g) :
    (evtIoDeviceControl rq g).2.driverState.killSwitchMode = g.driverState.killSwitchMode := by
  obtain ⟨t, ht⟩ := evtIoDeviceControl_frame rq g
  rw [ht]
  rcases served_cases rq g with ⟨-, status, -, hs⟩ | ⟨hadm, code, hc, hs⟩
  · rw [hs]
    rfl
  · by_cases hks : code = .setKillSwitch
    · subst hks
      obtain ⟨h1, -, h3⟩ := setKillSwitch_handled rq rq.inputBuffer rq.outputBuffer
        (callerChecked rq g)
      have hfail : ntSuccess (evtIoDeviceControl rq g).1.status = false := by
        by_contra hok
        exact hset ⟨hc, by simpa using hok⟩
      rw [evtIoDeviceControl_status, hs, h1] at hfail
      rw [hs, h3, hfail]
      rfl
    · by_cases him : code = .importState
      · subst him
        have hmode := importState_mode hadm hc rq.outputBuffer
        rw [if_neg (fun hversion => himport ⟨hc, hadm, hversion⟩)] at hmode
        rw [hs]
        exact hmode
      · rw [hs]
        exact (ioctlHandler_modes hks him rq rq.inputBuffer rq.outputBuffer
          (callerChecked rq g)).2

/-- If the event is an import, its blob carries the mode enforced before it. -/
def KeepsModes (g : Globals) : Event → Prop
  | .ioctl rq => ImportsState rq g → importedKillSwitchMode rq = g.killSwitch.mode.toUInt32
  | _ => True

theorem modesAgree_step_iff (g : Globals) (e : Event) (h : ModesAgree g) :
    ModesAgree (driverStep g e).2 ↔ KeepsModes g e := by
  rw [modesAgree_iff] at h ⊢
  cases e with
  | ioctl rq =>
    change (evtIoDeviceControl rq g).2.driverState.killSwitchMode =
        (evtIoDeviceControl rq g).2.killSwitch.mode.toUInt32 ∧
      (evtIoDeviceControl rq g).2.killSwitch.mode ≠ .restore ↔ KeepsModes g (.ioctl rq)
    by_cases himport : ImportsState rq g
    · have hset : ¬ AcceptedKillSwitch rq (evtIoDeviceControl rq g).1 := by
        intro ha
        cases ha.1.symm.trans himport.1
      rw [evtIoDeviceControl_import himport, evtIoDeviceControl_not_accepted hset]
      constructor
      · intro hm _
        exact hm.1
      · intro hk
        exact ⟨hk himport, h.2⟩
    · refine ⟨fun _ hi => absurd hi himport, ?_⟩
      intro _
      by_cases hset : AcceptedKillSwitch rq (evtIoDeviceControl rq g).1
      · obtain ⟨-, hne, hmirror⟩ := evtIoDeviceControl_accepted hset
        exact ⟨hmirror, hne⟩
      · rw [evtIoDeviceControl_reported hset himport, evtIoDeviceControl_not_accepted hset]
        exact h
  | authConnectV4 values clock out | authConnectV6 values clock out =>
    refine iff_of_true ?_ trivial
    exact driverStep_classify_keeps (P := fun g =>
      g.driverState.killSwitchMode = g.killSwitch.mode.toUInt32 ∧ g.killSwitch.mode ≠ .restore)
      (fun _ => h) (by nofun)

/-! ## Runs -/

theorem modesAgree_loaded_iff (boot : Boot) :
    ModesAgree (loaded boot) ↔ registryKillSwitchMode boot.registryPath = .off := by
  obtain ⟨hks, hmode⟩ := driverEntry_modes boot imageGlobals
  rw [modesAgree_iff, loaded, hks, hmode]
  cases registryKillSwitchMode boot.registryPath <;> decide

/-- **The reported mode drifts through the registry and through imports, and through nothing
else**: after a successful load the modes agree in every state of the run iff the registry asks for
Off and every import carries the mode enforced when it arrives. -/
theorem modesAgree_throughout_iff (boot : Boot)
    (_hload : ntSuccess (driverEntry boot imageGlobals).1 = true) (es : List Event) :
    (∀ n, ModesAgree (driver.final (loaded boot) (es.take n))) ↔
      registryKillSwitchMode boot.registryPath = .off ∧
        driver.Along KeepsModes (loaded boot) es := by
  rw [driver.forall_final_take_iff modesAgree_step_iff, modesAgree_loaded_iff]

/-- IMPORT_STATE with a blob of version 1 and the given mode. -/
def importMode (mode : UInt8) : IoctlRequest :=
  plainRequest .importState
    [1, 0, 0, 0, 0, 0, 0, 0, 0, 0, 0, 0, mode, 0, 0, 0, 0, 0, 0, 0, 0, 0, 0, 0] 0

/-- SET_KILL_SWITCH with BlockAll, then the import of a blob with the mode in force: the modes agree after
each of the two, and the driver enforces BlockAll. -/
theorem modesAgree_throughout_import_blockAll :
    let es : List Event := [.ioctl blockAllRequest, .ioctl (importMode 1)]
    (∀ n, ModesAgree (driver.final (loaded (quietBoot none)) (es.take n))) ∧
      (driver.final (loaded (quietBoot none)) es).killSwitch.mode = .blockAll := by
  intro es
  refine ⟨(modesAgree_throughout_iff (quietBoot none) (by decide) es).mpr ⟨rfl, ?_⟩, by decide⟩
  refine ⟨fun himport => ?_, fun _ => by decide, trivial⟩
  cases himport.1

/-- After the import of a blob that says BlockAll the driver reports BlockAll and enforces Off. -/
theorem not_forall_modesAgree :
    ¬ ∀ (boot : Boot) (es : List Event), ntSuccess (driverEntry boot imageGlobals).1 = true →
      ModesAgree (driver.final (loaded boot) es) := by
  intro h
  have hagree := h (quietBoot none) [.ioctl (importMode 1)] (by decide)
  exact absurd hagree.reported (by decide)

end Guardian
