import Guardian.Enforce.KillSwitch

/-!
# The kill switch after a boot

`killswitch.c` names two registry values, the mode and the VPN interface. The initialiser reads the
first.

* `RegistryKey.Holds` : what a key with both values answers;
* `RestoreAgrees` : the boot treats an interface as an accepted request with the stored values would;
* `restoreAgrees_iff` : on every interface but the stored one under AllowVpnOnly.
-/

namespace Guardian
open KillSwitchMode

def regVpnLuid : String := "VpnInterfaceLuid"

/-- The key opens, holds the two values, and answers every query with the stored one; a 32-bit variable
takes the low half of the interface. -/
structure RegistryKey.Holds (key : RegistryKey) (mode : UInt32) (vpnInterfaceLuid : UInt64) :
    Prop where
  opens : ntSuccess key.openStatus = true
  mode : ∀ held, key.queryValue regKillSwitch held = mode
  vpnLuid : ∀ held, key.queryValue regVpnLuid held = vpnInterfaceLuid.toUInt32

/-- The verdict on the interface after a boot is the one after a Set with the given values, or that of
Off where the Set is refused. -/
def RestoreAgrees (key : RegistryKey) (mode : UInt32) (vpnInterfaceLuid : UInt64)
    (s : KillSwitchState) (luid : UInt64) : Prop :=
  let r := killSwitchSet (some ⟨killSwitchVersion, mode, vpnInterfaceLuid⟩) s
  killSwitchEvaluate luid (killSwitchInitialize (some key)).2 =
    if ntSuccess r.1 then killSwitchEvaluate luid r.2 else killSwitchEvaluate luid ⟨off, 0⟩

theorem registryKillSwitchMode_holds {key : RegistryKey} {mode : UInt32} {luid : UInt64}
    (h : key.Holds mode luid) : registryKillSwitchMode (some key) = (ofUInt32 mode).getD off := by
  rw [registryKillSwitchMode, if_pos h.opens, h.mode]

theorem killSwitchSet_supported (mode : UInt32) (luid : UInt64) (s : KillSwitchState) :
    killSwitchSet (some ⟨killSwitchVersion, mode, luid⟩) s =
      match ofUInt32 mode with
      | none => (statusInvalidParameter, s)
      | some .restore => (statusSuccess, ⟨off, 0⟩)
      | some mode => (statusSuccess, ⟨mode, luid⟩) := by
  cases hm : ofUInt32 mode with
  | none => simp [killSwitchSet, hm]
  | some m => cases m <;> simp [killSwitchSet, hm]

theorem ofUInt32_eq_allowVpnOnly_iff (mode : UInt32) :
    ofUInt32 mode = some allowVpnOnly ↔ mode = allowVpnOnly.toUInt32 := by
  constructor
  · intro h
    exact (toUInt32_of_ofUInt32 h).symm
  · rintro rfl
    exact ofUInt32_toUInt32 allowVpnOnly

theorem verdict_allowVpnOnly_iff (v luid : UInt64) :
    killSwitchEvaluate luid ⟨allowVpnOnly, 0⟩ = killSwitchEvaluate luid ⟨allowVpnOnly, v⟩ ↔
      ¬ (v ≠ 0 ∧ luid = v) := by
  have hzero : killSwitchEvaluate luid ⟨allowVpnOnly, 0⟩ = some .block := by
    show (if (0 : UInt64) ≠ 0 ∧ luid = 0 then some ClassifyAction.permit else some .block) = _
    rw [if_neg fun h => h.1 rfl]
  rw [hzero]
  show some ClassifyAction.block = (if v ≠ 0 ∧ luid = v then some .permit else some .block) ↔ _
  by_cases hv : v ≠ 0 ∧ luid = v
  · rw [if_pos hv]
    exact iff_of_false nofun (not_not.mpr hv)
  · rw [if_neg hv]
    exact iff_of_true rfl hv

/-- **Where a restored kill switch agrees with a requested one**: everywhere but on the stored VPN
interface under AllowVpnOnly. The interface is named and never read. -/
theorem restoreAgrees_iff {key : RegistryKey} {mode : UInt32} {v : UInt64} (h : key.Holds mode v)
    (s : KillSwitchState) (luid : UInt64) :
    RestoreAgrees key mode v s luid ↔
      ¬ (mode = allowVpnOnly.toUInt32 ∧ v ≠ 0 ∧ luid = v) := by
  unfold RestoreAgrees
  rw [killSwitchInitialize_eq, registryKillSwitchMode_holds h, killSwitchSet_supported,
    ← ofUInt32_eq_allowVpnOnly_iff]
  cases ofUInt32 mode with
  | none => exact iff_of_true rfl (by simp)
  | some m =>
    cases m with
    | off | blockAll | restore => exact iff_of_true rfl (by simp)
    | allowVpnOnly =>
      simp only [Option.getD_some, ntSuccess_success, if_true, true_and]
      exact verdict_allowVpnOnly_iff v luid

/-- A key with both values. -/
def storedKey (mode : UInt32) (vpnInterfaceLuid : UInt64) : RegistryKey where
  openStatus := statusSuccess
  queryValue name held :=
    if name = regKillSwitch then mode
    else if name = regVpnLuid then vpnInterfaceLuid.toUInt32 else held

theorem storedKey_holds (mode : UInt32) (v : UInt64) : (storedKey mode v).Holds mode v :=
  ⟨rfl, fun _ => rfl, fun _ => rfl⟩

/-- A stored BlockAll blocks, as a requested one. -/
theorem restoreAgrees_blockAll : RestoreAgrees (storedKey 1 7) 1 7 ⟨off, 0⟩ 7 :=
  (restoreAgrees_iff (storedKey_holds 1 7) ⟨off, 0⟩ 7).mpr (by decide)

/-- A stored AllowVpnOnly blocks its own interface. -/
theorem not_forall_restoreAgrees :
    ¬ ∀ (key : RegistryKey) (mode : UInt32) (v : UInt64) (s : KillSwitchState) (luid : UInt64),
      key.Holds mode v → RestoreAgrees key mode v s luid := by
  intro h
  have hvpn := h (storedKey 2 7) 2 7 ⟨off, 0⟩ 7 (storedKey_holds 2 7)
  exact absurd hvpn (by
    rw [RestoreAgrees]
    decide)

end Guardian
