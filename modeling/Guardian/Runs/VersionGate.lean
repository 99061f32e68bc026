import Guardian.Runs.Driver
import Guardian.Store.SyncFailure

/-!
# The version gate of the protocol

Eight input structures begin with a `Version`. An unsupported one is documented to be rejected with
`STATUS_INVALID_PARAMETER`.

* `IoctlCode.versionedInput`, `IoctlCode.supportedVersion` : the codes with such a structure;
* `VersionGated` : the request is rejected so, and changes nothing;
* `Delivered`, `RefusedByFramework` : the request gets as far as the case of its code, or the
  retrieval of a buffer fails with just this status;
* `Gate` : where the case of a code rejects an unsupported version; `gated_iff`;
* `versionGated_iff` : the requests that are rejected as documented.
-/

namespace Guardian
open Bytes

/-- The input length up to which a structure with a leading `Version` is read; `none` where the input
has no version. -/
def IoctlCode.versionedInput : IoctlCode → Option Nat
  | .setAppPolicy => some AppPolicyV1.size
  | .syncPolicies => some syncHeaderSize
  | .setRoute => some RouteAssignmentV1.size
  | .syncRoutes => some syncHeaderSize
  | .setKillSwitch => some KillSwitchV1.size
  | .importState => some StateBlobHeaderV1.size
  | .reconcile => some (4 * 2)
  | .dnsSetConfig => some DnsConfigV1.size
  | _ => none

/-- The version that the driver writes into, or asks for in, the structures of a code. -/
def IoctlCode.supportedVersion : IoctlCode → UInt32
  | .setAppPolicy | .syncPolicies => appPolicyVersion
  | .setRoute | .syncRoutes => routeAssignmentVersion
  | .setKillSwitch => killSwitchVersion
  | .importState => stateBlobVersion
  | .dnsSetConfig => dnsConfigVersion
  | _ => 1

/-- The state the gate protects is the same. -/
structure Untouched (g g' : Globals) : Prop where
  policy : g'.policy = g.policy
  route : g'.route = g.route
  killSwitch : g'.killSwitch = g.killSwitch
  dns : g'.dns = g.dns
  recoveryGeneration : g'.recoveryGeneration = g.recoveryGeneration
  driverState : g'.driverState = g.driverState

theorem untouched_callerChecked (rq : IoctlRequest) (g : Globals) :
    Untouched g (callerChecked rq g) := ⟨rfl, rfl, rfl, rfl, rfl, rfl⟩

/-- The request completes with an invalid parameter and changes nothing. -/
def VersionGated (rq : IoctlRequest) (g : Globals) : Prop :=
  (evtIoDeviceControl rq g).1.status = statusInvalidParameter ∧
    Untouched g (evtIoDeviceControl rq g).2

/-! ## How far a request gets -/

/-- A request with input gets as far as the case of its code. -/
structure Delivered (rq : IoctlRequest) (g : Globals) : Prop where
  caller : ntSuccess (securityPolicyVerifyCaller (some rq.caller) g.allowedServicePid).1 = true
  input : ntSuccess rq.retrieveInputBuffer = true
  output : ¬ (rq.outputBufferLength > 0 ∧ ntSuccess rq.retrieveOutputBuffer = false)
  lengths : ¬ (rq.inputBufferLength > maxIoctlBuffer ∨ rq.outputBufferLength > maxIoctlBuffer)

/-- The framework itself fails a retrieval with an invalid parameter. -/
def RefusedByFramework (rq : IoctlRequest) (g : Globals) : Prop :=
  ntSuccess (securityPolicyVerifyCaller (some rq.caller) g.allowedServicePid).1 = true ∧
    (rq.retrieveInputBuffer = statusInvalidParameter ∨
      (ntSuccess rq.retrieveInputBuffer = true ∧ rq.outputBufferLength > 0 ∧
        rq.retrieveOutputBuffer = statusInvalidParameter))

/-- Where the case of a code rejects an unsupported version: the single structures always; a Sync if
its array is too long, or if the version of an element stops it and the table is what the elements
before leave; RECONCILE never. -/
def Gate (code : IoctlCode) (rq : IoctlRequest) (g : Globals) : Prop :=
  match code with
  | .syncPolicies =>
    Table.RejectedUntouched appPolicyKind (syncPolicies rq.inputMemory (syncCount rq.inputMemory))
      rq.alloc g.policy
  | .syncRoutes =>
    Table.RejectedUntouched routeKind (syncRoutes rq.inputMemory (syncCount rq.inputMemory)) rq.alloc
      g.route
  | .reconcile => False
  | _ => True

/-- What a `Served` has to be for its request to be rejected as documented. -/
def Served.Gated (s : Served) (g : Globals) : Prop :=
  s.status = statusInvalidParameter ∧ Untouched g s.globals

theorem versionGated_served (rq : IoctlRequest) (g : Globals) :
    VersionGated rq g ↔ (served rq g).Gated g := by
  constructor
  · rintro ⟨hs, h⟩
    exact ⟨hs, h.policy, h.route, h.killSwitch, h.dns, h.recoveryGeneration, h.driverState⟩
  · rintro ⟨hs, h⟩
    exact ⟨hs, h.policy, h.route, h.killSwitch, h.dns, h.recoveryGeneration, h.driverState⟩

theorem gated_early (status : NTSTATUS) (rq : IoctlRequest) (g : Globals) :
    (Served.early status (callerChecked rq g)).Gated g ↔ status = statusInvalidParameter :=
  ⟨And.left, fun h => ⟨h, untouched_callerChecked rq g⟩⟩

/-- A request with input that does not get as far as the case of its code is rejected as documented
exactly where the framework does it. -/
theorem gated_of_not_delivered {rq : IoctlRequest} {g : Globals} (hpos : rq.inputBufferLength > 0)
    (h : ¬ Delivered rq g) : (served rq g).Gated g ↔ RefusedByFramework rq g := by
  unfold RefusedByFramework served
  simp only
  cases hcaller : ntSuccess (securityPolicyVerifyCaller (some rq.caller) g.allowedServicePid).1 with
  | false =>
    have hdenied : ¬ Admits rq.caller g.allowedServicePid := by
      rw [← ntSuccess_verifyCaller_iff, hcaller]
      exact Bool.false_ne_true
    simp only [Bool.not_false, if_true, Bool.false_eq_true, false_and, iff_false]
    intro hg
    have hstatus := (gated_early _ rq g).mp hg
    rw [verifyCaller_denies hdenied] at hstatus
    have hne : statusAccessDenied ≠ statusInvalidParameter := by decide
    exact hne hstatus
  | true =>
    simp only [Bool.not_true, Bool.false_eq_true, if_false, hpos, true_and]
    cases hin : ntSuccess rq.retrieveInputBuffer with
    | false =>
      simp only [if_true, Bool.false_eq_true, false_and, or_false]
      exact gated_early _ rq g
    | true =>
      have hinvalid : rq.retrieveInputBuffer ≠ statusInvalidParameter := by
        intro hs
        rw [hs] at hin
        cases hin
      simp only [Bool.true_eq_false, if_false, hinvalid, false_or, true_and]
      by_cases hout : rq.outputBufferLength > 0 ∧ ntSuccess rq.retrieveOutputBuffer = false
      · rw [if_pos hout]
        simp only [hout.1, true_and]
        exact gated_early _ rq g
      · have hlen : rq.inputBufferLength > maxIoctlBuffer ∨ rq.outputBufferLength > maxIoctlBuffer := by
          by_contra hlen
          exact h ⟨hcaller, hin, hout, hlen⟩
        have hright : ¬ (rq.outputBufferLength > 0 ∧
            rq.retrieveOutputBuffer = statusInvalidParameter) := by
          rintro ⟨hlt, hs⟩
          exact hout ⟨hlt, by rw [hs]; rfl⟩
        rw [if_neg hout, validateIoctlBuffer, if_pos hlen]
        simp only [ntSuccess_invalidBufferSize, Bool.not_false, if_true]
        refine iff_of_false ?_ hright
        intro hg
        exact absurd ((gated_early _ rq g).mp hg) (by decide)

theorem served_delivered {rq : IoctlRequest} {g : Globals} (h : Delivered rq g) {code : IoctlCode}
    (hc : IoctlCode.ofUInt32 rq.ioControlCode = some code) :
    served rq g =
      let v := validateIoctlCode code rq.inputBufferLength rq.outputBufferLength rq.inputBuffer
      if !ntSuccess v.1 then .early v.1 (callerChecked rq g)
      else if v.2 > rq.outputBufferLength then .early statusBufferTooSmall (callerChecked rq g)
      else ioctlHandler code rq rq.inputBuffer rq.outputBuffer (callerChecked rq g) := by
  have hin : ¬ (rq.inputBufferLength > 0 ∧ ntSuccess rq.retrieveInputBuffer = false) := by
    simp [h.input]
  unfold served
  simp only [h.caller, Bool.not_true, Bool.false_eq_true, if_false]
  rw [if_neg hin, if_neg h.output, validateIoctlBuffer, if_neg h.lengths, hc]
  rfl

/-! ## The case of a code -/

section

variable {rq : IoctlRequest} {g : Globals} {code : IoctlCode}

theorem inputBuffer_of_pos (h : rq.inputBufferLength > 0) : rq.inputBuffer = some rq.inputMemory :=
  if_pos h

theorem served_handler (h : Delivered rq g) (hc : IoctlCode.ofUInt32 rq.ioControlCode = some code)
    (hpos : rq.inputBufferLength > 0)
    (hv : validateIoctlCode code rq.inputBufferLength rq.outputBufferLength (some rq.inputMemory) =
      (statusSuccess, 0)) :
    served rq g = ioctlHandler code rq (some rq.inputMemory) rq.outputBuffer (callerChecked rq g) := by
  rw [served_delivered h hc, inputBuffer_of_pos hpos, hv]
  rfl

theorem requireInput_some {len size : Nat} (h : size ≤ len) (m : Memory) :
    requireInput len (some m) size = (statusSuccess, 0) := by
  simp [requireInput, h]

theorem gated_kept (rq : IoctlRequest) (g : Globals) :
    Served.Gated ⟨statusInvalidParameter, 0, none, callerChecked rq g⟩ g :=
  ⟨rfl, untouched_callerChecked rq g⟩

theorem gated_setter {size : Nat} (hd : Delivered rq g)
    (hc : IoctlCode.ofUInt32 rq.ioControlCode = some code) (hs : code.versionedInput = some size)
    (hlen : size ≤ rq.inputBufferLength) (hv : readU32 rq.inputMemory 0 ≠ code.supportedVersion)
    (hp : code ≠ .syncPolicies) (hr : code ≠ .syncRoutes) (hrec : code ≠ .reconcile) :
    (served rq g).Gated g := by
  have hreq := requireInput_some hlen rq.inputMemory
  cases code with
  | setAppPolicy =>
    obtain rfl : AppPolicyV1.size = size := Option.some.inj hs
    have hversion : appPolicyKind.version (AppPolicyV1.read rq.inputMemory 0) ≠
        appPolicyKind.supportedVersion := hv
    rw [served_handler hd hc (Nat.lt_of_lt_of_le (by decide) hlen) hreq]
    simp only [ioctlHandler, Option.map_some, appPolicySet,
      Table.set_unsupported appPolicyKind hversion]
    exact gated_kept rq g
  | setRoute =>
    obtain rfl : RouteAssignmentV1.size = size := Option.some.inj hs
    have hversion : routeKind.version (RouteAssignmentV1.read rq.inputMemory 0) ≠
        routeKind.supportedVersion := hv
    rw [served_handler hd hc (Nat.lt_of_lt_of_le (by decide) hlen) hreq]
    simp only [ioctlHandler, Option.map_some, routeSet, Table.set_unsupported routeKind hversion]
    exact gated_kept rq g
  | setKillSwitch =>
    obtain rfl : KillSwitchV1.size = size := Option.some.inj hs
    have hversion : (KillSwitchV1.read rq.inputMemory 0).version ≠ killSwitchVersion := hv
    rw [served_handler hd hc (Nat.lt_of_lt_of_le (by decide) hlen) hreq]
    simp only [ioctlHandler, Option.map_some, killSwitchSet, if_pos hversion,
      ntSuccess_invalidParameter, Bool.false_eq_true, if_false]
    exact gated_kept rq g
  | importState =>
    obtain rfl : StateBlobHeaderV1.size = size := Option.some.inj hs
    have hversion : (StateBlobHeaderV1.read rq.inputMemory 0).version ≠ stateBlobVersion := hv
    rw [served_handler hd hc (Nat.lt_of_lt_of_le (by decide) hlen) hreq]
    simp only [ioctlHandler, Option.map_some, stateManagerImport, if_pos hversion, ite_self]
    exact gated_kept rq g
  | dnsSetConfig =>
    obtain rfl : DnsConfigV1.size = size := Option.some.inj hs
    have hversion : (DnsConfigV1.read rq.inputMemory 0).version ≠ dnsConfigVersion := hv
    rw [served_handler hd hc (Nat.lt_of_lt_of_le (by decide) hlen) hreq]
    simp only [ioctlHandler, Option.map_some, dnsLayerSetConfig, if_pos hversion]
    exact gated_kept rq g
  | syncPolicies => exact absurd rfl hp
  | syncRoutes => exact absurd rfl hr
  | reconcile => exact absurd rfl hrec
  | _ => cases hs

theorem not_gated_reconcile (hd : Delivered rq g)
    (hc : IoctlCode.ofUInt32 rq.ioControlCode = some .reconcile) : ¬ (served rq g).Gated g := by
  rw [served_delivered hd hc, validateIoctlCode]
  intro hg
  by_cases hlen : rq.outputBufferLength < ReconcileResponseV1.size
  · rw [if_pos hlen] at hg
    have hs : statusBufferTooSmall = statusInvalidParameter := hg.1
    exact absurd hs (by decide)
  · have hout : rq.outputBuffer = true := decide_eq_true (by
      unfold ReconcileResponseV1.size at hlen
      omega)
    rw [if_neg hlen] at hg
    simp only [ntSuccess_success, Bool.not_true, Bool.false_eq_true, if_false, gt_iff_lt, hlen,
      hout] at hg
    have hs : statusSuccess = statusInvalidParameter := hg.1
    exact absurd hs (by decide)

theorem requireSync_some (maxCount : Nat) {len : Nat} (h : syncHeaderSize ≤ len) (m : Memory) :
    requireSync len (some m) maxCount =
      if (syncCount m).toNat > maxCount then (statusInvalidParameter, 0) else (statusSuccess, 0) := by
  have hlen : ¬ len < 4 * 2 := Nat.not_lt.mpr h
  unfold requireSync
  simp only [if_neg hlen]

theorem gated_policy (status : NTSTATUS) (t : PolicyTable) (rq : IoctlRequest) (g : Globals) :
    Served.Gated ⟨status, 0, none, { callerChecked rq g with policy := t }⟩ g ↔
      status = statusInvalidParameter ∧ t = g.policy :=
  ⟨fun h => ⟨h.1, h.2.policy⟩, fun h => ⟨h.1, h.2, rfl, rfl, rfl, rfl, rfl⟩⟩

theorem gated_route (status : NTSTATUS) (t : RouteTable) (rq : IoctlRequest) (g : Globals) :
    Served.Gated ⟨status, 0, none, { callerChecked rq g with route := t }⟩ g ↔
      status = statusInvalidParameter ∧ t = g.route :=
  ⟨fun h => ⟨h.1, h.2.route⟩, fun h => ⟨h.1, rfl, h.2, rfl, rfl, rfl, rfl⟩⟩

/-- A Sync rejects as documented exactly where it does so for its own array. -/
theorem gated_sync_iff {α : Type} {kind : RecordKind α}
    (hroom : kind.maxSync ≤ kind.maxEntries.toNat) {records : List α} {t : Table α}
    (hd : Delivered rq g) (hc : IoctlCode.ofUInt32 rq.ioControlCode = some code)
    (hlen : syncHeaderSize ≤ rq.inputBufferLength)
    (hcount : records.length = (syncCount rq.inputMemory).toNat)
    (hvalidate : validateIoctlCode code rq.inputBufferLength rq.outputBufferLength
      (some rq.inputMemory) = requireSync rq.inputBufferLength (some rq.inputMemory) kind.maxSync)
    (hhandler : (ioctlHandler code rq (some rq.inputMemory) rq.outputBuffer
        (callerChecked rq g)).Gated g ↔
      (Table.sync kind (some records) rq.alloc t).1 = statusInvalidParameter ∧
        (Table.sync kind (some records) rq.alloc t).2 = t) :
    (served rq g).Gated g ↔ Table.RejectedUntouched kind records rq.alloc t := by
  have hpos : rq.inputBufferLength > 0 := Nat.lt_of_lt_of_le (by decide) hlen
  rw [requireSync_some kind.maxSync hlen, ← hcount] at hvalidate
  by_cases hmax : records.length > kind.maxSync
  · -- the validation already refuses the count
    rw [if_pos hmax] at hvalidate
    rw [served_delivered hd hc, inputBuffer_of_pos hpos, hvalidate]
    exact iff_of_true (gated_kept rq g) (Or.inl hmax)
  · rw [if_neg hmax] at hvalidate
    rw [served_handler hd hc hpos hvalidate, hhandler]
    exact Table.sync_invalid_iff kind hroom records rq.alloc t

/-- **Where an unsupported version is rejected** in a request that gets as far as its case. -/
theorem gated_iff {size : Nat} (hd : Delivered rq g)
    (hc : IoctlCode.ofUInt32 rq.ioControlCode = some code) (hs : code.versionedInput = some size)
    (hlen : size ≤ rq.inputBufferLength) (hv : readU32 rq.inputMemory 0 ≠ code.supportedVersion) :
    (served rq g).Gated g ↔ Gate code rq g := by
  by_cases hp : code = .syncPolicies
  · subst hp
    obtain rfl : syncHeaderSize = size := Option.some.inj hs
    refine gated_sync_iff (by decide) hd hc hlen (by simp [syncPolicies]) rfl ?_
    simp only [ioctlHandler, Option.map_some, appPolicySync]
    exact gated_policy _ _ rq g
  · by_cases hr : code = .syncRoutes
    · subst hr
      obtain rfl : syncHeaderSize = size := Option.some.inj hs
      refine gated_sync_iff (by decide) hd hc hlen (by simp [syncRoutes]) rfl ?_
      simp only [ioctlHandler, Option.map_some, routeSync]
      exact gated_route _ _ rq g
    · by_cases hrec : code = .reconcile
      · subst hrec
        exact iff_of_false (not_gated_reconcile hd hc) id
      · refine iff_of_true (gated_setter hd hc hs hlen hv hp hr hrec) ?_
        cases code with
        | syncPolicies => exact absurd rfl hp
        | syncRoutes => exact absurd rfl hr
        | reconcile => exact absurd rfl hrec
        | _ => trivial

end

/-- **The requests whose unsupported version is rejected as documented**, over every state: those that
the framework rejects so, and of those that get as far as their case the single structures, the Syncs
that stop by themselves without effect, and no RECONCILE. -/
theorem versionGated_iff (rq : IoctlRequest) (g : Globals) (code : IoctlCode) (size : Nat)
    (hc : IoctlCode.ofUInt32 rq.ioControlCode = some code) (hs : code.versionedInput = some size)
    (hlen : size ≤ rq.inputBufferLength) (hv : readU32 rq.inputMemory 0 ≠ code.supportedVersion) :
    VersionGated rq g ↔ RefusedByFramework rq g ∨ (Delivered rq g ∧ Gate code rq g) := by
  have hpos : rq.inputBufferLength > 0 := by
    refine Nat.lt_of_lt_of_le ?_ hlen
    cases code <;> cases hs <;> decide
  rw [versionGated_served]
  by_cases hd : Delivered rq g
  · have hno : ¬ RefusedByFramework rq g := by
      rintro ⟨-, hin | ⟨-, hlt, hout⟩⟩
      · have hok := hd.input
        rw [hin] at hok
        cases hok
      · exact hd.output ⟨hlt, by rw [hout]; rfl⟩
    rw [gated_iff hd hc hs hlen hv]
    simp [hno, hd]
  · rw [gated_of_not_delivered hpos hd]
    simp [hd]

/-- SET_KILL_SWITCH with version 2 and BlockAll. -/
def killSwitchVersionTwo : IoctlRequest :=
  plainRequest .setKillSwitch [2, 0, 0, 0, 1, 0, 0, 0, 0, 0, 0, 0, 0, 0, 0, 0] 0

theorem versionGated_iff_killSwitch : VersionGated killSwitchVersionTwo (loaded (quietBoot none)) :=
  (versionGated_iff killSwitchVersionTwo (loaded (quietBoot none)) .setKillSwitch KillSwitchV1.size
    (by decide) (by decide) (by decide) (by decide)).mpr
      (Or.inr ⟨⟨by decide, by decide, by decide, by decide⟩, trivial⟩)

/-- After a load, a RECONCILE request of version 2 is answered. -/
theorem not_forall_versionGated :
    ¬ ∀ g, Reachable g → ∀ (rq : IoctlRequest) (code : IoctlCode) (size : Nat),
      IoctlCode.ofUInt32 rq.ioControlCode = some code → code.versionedInput = some size →
      size ≤ rq.inputBufferLength → readU32 rq.inputMemory 0 ≠ code.supportedVersion →
      VersionGated rq g := by
  intro h
  have hreconcile := h (loaded (quietBoot none)) ⟨quietBoot none, [], by decide, rfl⟩
    (plainRequest .reconcile [2, 0, 0, 0, 0, 0, 0, 0, 0, 0, 0, 0, 0, 0, 0, 0] 16) .reconcile (4 * 2)
    (by decide) (by decide) (by decide) (by decide)
  exact absurd hreconcile.1 (by decide)

end Guardian
