import Guardian.Shared

/-!
# The kill switch (`killswitch.c`)

* `killSwitchInitialize` : the stored mode is read from the registry;
* `killSwitchSet` : a request sets the mode and the VPN interface;
* `killSwitchEvaluate` : the verdict on an interface, `none` where the kill switch does not decide;
* `KillSwitchRequest.verdict` : what a requested mode means; `killSwitchSet_accepted` says that an
  accepted request puts exactly that in force, `killSwitchInitialize_eq` what a boot puts in force.
-/

namespace Guardian
open KillSwitchMode

/-- `GUARDIAN_CLASSIFY_ACTION` -/
inductive ClassifyAction where
  | permit
  | block
  | route
  | observe
  deriving DecidableEq

/-- The statics of `killswitch.c`. -/
structure KillSwitchState where
  mode : KillSwitchMode
  vpnInterfaceLuid : UInt64
  deriving DecidableEq

def regKillSwitch : String := "KillSwitchMode"

/-- `mode` keeps its initial `0` where the key does not open. -/
def killSwitchInitialize (registryPath : Option RegistryKey) : NTSTATUS × KillSwitchState :=
  let s : KillSwitchState := ⟨off, 0⟩
  match registryPath with
  | none => (statusSuccess, s)
  | some key =>
    if !ntSuccess key.openStatus then (statusSuccess, s)
    else
      match ofUInt32 (key.queryValue regKillSwitch 0) with
      | some mode => (statusSuccess, { s with mode := mode })
      | none => (statusSuccess, s)

def killSwitchSet (config : Option KillSwitchV1) (s : KillSwitchState) :
    NTSTATUS × KillSwitchState :=
  match config with
  | none => (statusInvalidParameter, s)
  | some config =>
    if config.version ≠ killSwitchVersion then (statusInvalidParameter, s)
    else
      match ofUInt32 config.mode with
      | none => (statusInvalidParameter, s)
      | some .restore => (statusSuccess, ⟨off, 0⟩)
      | some mode => (statusSuccess, ⟨mode, config.vpnInterfaceLuid⟩)

def killSwitchGetMode (s : KillSwitchState) : KillSwitchMode := s.mode

/-- The action stored through the pointer argument; `none` is `handled = FALSE`. -/
def killSwitchEvaluate (interfaceLuid : UInt64) (s : KillSwitchState) : Option ClassifyAction :=
  match s.mode with
  | blockAll => some .block
  | allowVpnOnly =>
    if s.vpnInterfaceLuid ≠ 0 ∧ interfaceLuid = s.vpnInterfaceLuid then some .permit
    else some .block
  | off => none
  | restore => none

/-! ## What a request means -/

/-- A mode with its VPN interface, as asked for. -/
structure KillSwitchRequest where
  mode : KillSwitchMode
  vpnInterfaceLuid : UInt64
  deriving DecidableEq

/-- The verdict on an interface that a request stands for; Restore stands for no kill switch. -/
def KillSwitchRequest.verdict (r : KillSwitchRequest) (luid : UInt64) : Option ClassifyAction :=
  match r.mode with
  | off => none
  | restore => none
  | blockAll => some .block
  | allowVpnOnly =>
    if r.vpnInterfaceLuid ≠ 0 ∧ luid = r.vpnInterfaceLuid then some .permit else some .block

/-- The state puts the request in force. -/
def KillSwitchState.Enforces (s : KillSwitchState) (r : KillSwitchRequest) : Prop :=
  ∀ luid, killSwitchEvaluate luid s = r.verdict luid

/-- The mode a boot takes from the registry; a value beyond Restore, or none, is Off. -/
def registryKillSwitchMode (registryPath : Option RegistryKey) : KillSwitchMode :=
  match registryPath with
  | some key => if ntSuccess key.openStatus then (ofUInt32 (key.queryValue regKillSwitch 0)).getD off
      else off
  | none => off

theorem killSwitchInitialize_eq (registryPath : Option RegistryKey) :
    killSwitchInitialize registryPath =
      (statusSuccess, ⟨registryKillSwitchMode registryPath, 0⟩) := by
  unfold killSwitchInitialize registryKillSwitchMode
  cases registryPath with
  | none => rfl
  | some key =>
    simp only
    cases ntSuccess key.openStatus with
    | false => rfl
    | true => cases ofUInt32 (key.queryValue regKillSwitch 0) <;> rfl

theorem enforces_of_fields (mode : KillSwitchMode) (luid : UInt64) :
    (⟨mode, luid⟩ : KillSwitchState).Enforces ⟨mode, luid⟩ := by
  intro l
  cases mode <;> rfl

theorem killSwitchSet_failed {config : Option KillSwitchV1} {s : KillSwitchState}
    (h : ntSuccess (killSwitchSet config s).1 = false) : (killSwitchSet config s).2 = s := by
  unfold killSwitchSet at h ⊢
  cases config with
  | none => rfl
  | some config =>
    by_cases hv : config.version = killSwitchVersion
    · simp only [hv, ne_eq, not_true_eq_false, if_false] at h ⊢
      split at h
      · rfl
      · cases h
      · cases h
    · simp only [hv, ne_eq, not_false_eq_true, if_true]

/-- An accepted request is in force afterwards, and Restore is never the stored mode. -/
theorem killSwitchSet_accepted {config : Option KillSwitchV1} {s : KillSwitchState}
    (h : ntSuccess (killSwitchSet config s).1 = true) :
    ∃ c mode, config = some c ∧ ofUInt32 c.mode = some mode ∧
      (killSwitchSet config s).2.Enforces ⟨mode, c.vpnInterfaceLuid⟩ ∧
      (killSwitchSet config s).2.mode ≠ restore := by
  unfold killSwitchSet at h ⊢
  cases config with
  | none => cases h
  | some c =>
    by_cases hv : c.version = killSwitchVersion
    · simp only [hv, ne_eq, not_true_eq_false, if_false] at h ⊢
      cases hm : ofUInt32 c.mode with
      | none =>
        rw [hm] at h
        cases h
      | some mode =>
        refine ⟨c, mode, rfl, hm, ?_⟩
        cases mode with
        | restore => exact ⟨fun _ => rfl, nofun⟩
        | off => exact ⟨enforces_of_fields off _, nofun⟩
        | blockAll => exact ⟨enforces_of_fields blockAll _, nofun⟩
        | allowVpnOnly => exact ⟨enforces_of_fields allowVpnOnly _, nofun⟩
    · simp only [hv, ne_eq, not_false_eq_true, if_true] at h
      cases h

end Guardian
