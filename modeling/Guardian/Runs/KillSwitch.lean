import Guardian.Runs.Driver

/-!
# The kill switch over whole runs

* `lastKillSwitch` : the request in force, computed from the events of a run and their answers
  alone: the last accepted SET_KILL_SWITCH, or the registry mode;
* `enforces_lastKillSwitch` : the kill switch always enforces it;
* `killSwitch_governed` : so its verdicts depend on nothing else, and BlockAll blocks every
  connection whatever the tables hold.
-/

namespace Guardian
open Bytes

/-- The mode and VPN interface at the address of the input buffer. -/
def requestedKillSwitch (rq : IoctlRequest) : KillSwitchRequest where
  mode := (KillSwitchMode.ofUInt32 (readU32 rq.inputMemory 4)).getD .off
  vpnInterfaceLuid := readU64 rq.inputMemory 8

/-- The request is a SET_KILL_SWITCH that was completed with success. -/
def AcceptedKillSwitch (rq : IoctlRequest) (c : Completion) : Prop :=
  IoctlCode.ofUInt32 rq.ioControlCode = some .setKillSwitch ∧ ntSuccess c.status = true

instance (rq : IoctlRequest) (c : Completion) : Decidable (AcceptedKillSwitch rq c) :=
  inferInstanceAs (Decidable (_ ∧ _))

def observeKillSwitch (last : KillSwitchRequest) : Event × Response → KillSwitchRequest
  | (.ioctl rq, .completed c) => if AcceptedKillSwitch rq c then requestedKillSwitch rq else last
  | _ => last

/-- The last accepted SET_KILL_SWITCH of a run; the registry mode without a VPN interface if there
is none. -/
def lastKillSwitch (boot : Boot) (es : List Event) : KillSwitchRequest :=
  (driver.trace (loaded boot) es).foldl observeKillSwitch
    ⟨registryKillSwitchMode boot.registryPath, 0⟩

/-! ## One step -/

/-- An accepted SET_KILL_SWITCH puts what it asks for in force; Restore is never stored. -/
theorem evtIoDeviceControl_accepted {rq : IoctlRequest} {g : Globals}
    (h : AcceptedKillSwitch rq (evtIoDeviceControl rq g).1) :
    (evtIoDeviceControl rq g).2.killSwitch.Enforces (requestedKillSwitch rq) ∧
      (evtIoDeviceControl rq g).2.killSwitch.mode ≠ .restore ∧
      (evtIoDeviceControl rq g).2.driverState.killSwitchMode =
        (evtIoDeviceControl rq g).2.killSwitch.mode.toUInt32 := by
  obtain ⟨hcode, hok⟩ := h
  obtain ⟨t, ht⟩ := evtIoDeviceControl_frame rq g
  rw [evtIoDeviceControl_status] at hok
  rw [ht]
  rcases served_cases rq g with ⟨-, status, hf, hs⟩ | ⟨-, code, hc, hs⟩
  · rw [hs] at hok
    exact absurd hok (by simp [Served.early, hf])
  · obtain rfl := Option.some.inj (hc.symm.trans hcode)
    obtain ⟨h1, h2, h3⟩ := setKillSwitch_handled rq rq.inputBuffer rq.outputBuffer
      (callerChecked rq g)
    rw [hs, h1] at hok
    obtain ⟨c, mode, hin, hm, henf, hne⟩ := killSwitchSet_accepted hok
    obtain ⟨m, hm', rfl⟩ := Option.map_eq_some_iff.mp hin
    rw [hok, if_pos rfl] at h3
    rw [hs, h2, h3]
    refine ⟨?_, hne, rfl⟩
    unfold IoctlRequest.inputBuffer at hm'
    split at hm'
    · cases hm'
      have hm4 : KillSwitchMode.ofUInt32 (readU32 rq.inputMemory 4) = some mode := hm
      simp only [requestedKillSwitch, hm4, Option.getD_some]
      exact henf
    · cases hm'

theorem evtIoDeviceControl_not_accepted {rq : IoctlRequest} {g : Globals}
    (h : ¬ AcceptedKillSwitch rq (evtIoDeviceControl rq g).1) :
    (evtIoDeviceControl rq g).2.killSwitch = g.killSwitch := by
  obtain ⟨t, ht⟩ := evtIoDeviceControl_frame rq g
  rw [ht]
  rcases served_cases rq g with ⟨-, status, -, hs⟩ | ⟨-, code, hc, hs⟩
  · rw [hs]
    rfl
  · by_cases hks : code = .setKillSwitch
    · subst hks
      obtain ⟨h1, h2, -⟩ := setKillSwitch_handled rq rq.inputBuffer rq.outputBuffer
        (callerChecked rq g)
      have hno : ntSuccess (evtIoDeviceControl rq g).1.status = false := by
        by_contra hok
        exact h ⟨hc, by simpa using hok⟩
      rw [evtIoDeviceControl_status, hs, h1] at hno
      rw [hs, h2]
      exact killSwitchSet_failed hno
    · rw [hs]
      by_cases him : code = .importState
      · subst him
        obtain ⟨r, state, hframe⟩ := stateManagerImport_frame
          (rq.inputBuffer.map (StateBlobHeaderV1.read · 0)) (UInt32.ofNat rq.inputBufferLength)
          (callerChecked rq g)
        simp only [ioctlHandler, hframe]
        rfl
      · exact (ioctlHandler_modes hks him rq rq.inputBuffer rq.outputBuffer
          (callerChecked rq g)).1

theorem driverStep_enforces (g : Globals) (last : KillSwitchRequest) (e : Event)
    (h : g.killSwitch.Enforces last) :
    (driverStep g e).2.killSwitch.Enforces (observeKillSwitch last (e, (driverStep g e).1)) := by
  cases e with
  | ioctl rq =>
    change (evtIoDeviceControl rq g).2.killSwitch.Enforces
      (if AcceptedKillSwitch rq (evtIoDeviceControl rq g).1 then requestedKillSwitch rq else last)
    split
    · next ha => exact (evtIoDeviceControl_accepted ha).1
    · next ha =>
      rw [evtIoDeviceControl_not_accepted ha]
      exact h
  | authConnectV4 values clock out | authConnectV6 values clock out =>
    exact driverStep_classify_keeps (P := fun g => g.killSwitch.Enforces last) (fun _ => h)
      (by nofun)

/-! ## Runs -/

theorem loaded_killSwitch (boot : Boot) :
    (loaded boot).killSwitch = ⟨registryKillSwitchMode boot.registryPath, 0⟩ :=
  (driverEntry_modes boot imageGlobals).1

/-- **The last accepted request is in force** after every run. -/
theorem enforces_lastKillSwitch (boot : Boot) (es : List Event) :
    (driver.final (loaded boot) es).killSwitch.Enforces (lastKillSwitch boot es) := by
  refine driver.final_observe observeKillSwitch (fun g last => g.killSwitch.Enforces last)
    driverStep_enforces ?_ es
  rw [loaded_killSwitch]
  exact enforces_of_fields _ 0

/-- A kill switch whose verdict on the asked interface is Block makes both auth-connect callouts
block, whatever the tables and the connection are. -/
theorem authConnect_block {g : Globals} (h : killSwitchEvaluate 0 g.killSwitch = some .block)
    (values : Option IncomingValues) (clock : Clock) (out : ClassifyOut) :
    (authConnectClassifyV4 values clock out g).1.actionType = .block ∧
      (authConnectClassifyV6 values clock out g).1.actionType = .block := by
  obtain ⟨hs, hr⟩ := classifyConnection_handled h values clock
  have hv4 : (authConnectClassifyV4 values clock out g).1.actionType = .block := by
    rw [authConnectClassifyV4_actionType, hs, hr]
    rfl
  exact ⟨hv4, hv4⟩

/-- **The kill switch is governed by accepted SET_KILL_SWITCH requests alone**, and from an accepted
BlockAll on both auth-connect callouts block every connection over every pair of tables. -/
theorem killSwitch_governed (boot : Boot) (es : List Event) :
    (∀ luid, killSwitchEvaluate luid (driver.final (loaded boot) es).killSwitch =
      (lastKillSwitch boot es).verdict luid) ∧
    ((lastKillSwitch boot es).mode = .blockAll →
      ∀ (policies : PolicyTable) (routes : RouteTable) (values : Option IncomingValues)
        (clock : Clock) (out : ClassifyOut),
        let g := { driver.final (loaded boot) es with policy := policies, route := routes }
        (authConnectClassifyV4 values clock out g).1.actionType = .block ∧
          (authConnectClassifyV6 values clock out g).1.actionType = .block) := by
  have henf := enforces_lastKillSwitch boot es
  refine ⟨henf, ?_⟩
  intro hb policies routes values clock out
  apply authConnect_block
  have h0 := henf 0
  rw [KillSwitchRequest.verdict, hb] at h0
  exact h0

/-- After one accepted BlockAll an unclassifiable connection is blocked, too. -/
theorem killSwitch_governed_blockAll :
    let es := [Event.ioctl blockAllRequest]
    let out := (authConnectClassifyV4 none ⟨⟨0, 1⟩, ⟨0, 1⟩⟩ ⟨.none, 1, 0⟩
      { driver.final (loaded (quietBoot none)) es with policy := Table.fresh, route := Table.fresh }).1
    out.actionType = .block :=
  ((killSwitch_governed (quietBoot none) _).2 (by decide) Table.fresh Table.fresh none
    ⟨⟨0, 1⟩, ⟨0, 1⟩⟩ ⟨.none, 1, 0⟩).1

/-! ## AllowVpnOnly -/

/-- What AllowVpnOnly with VPN interface `v` promises for a connection on interface `l`. -/
def vpnOnlyAction (v l : UInt64) : ClassifyAction := if v ≠ 0 ∧ l = v then .permit else .block

/-- The classification of a connection and both callouts keep the promise of AllowVpnOnly. -/
def KeepsVpnOnly (g : Globals) (v l : UInt64) (values : IncomingValues) (clock : Clock)
    (out : ClassifyOut) : Prop :=
  (classifyConnection (some values) clock g).1 = statusSuccess ∧
    (classifyConnection (some values) clock g).2.1.action = vpnOnlyAction v l ∧
    (authConnectClassifyV4 (some values) clock out g).1.actionType =
      (if v ≠ 0 ∧ l = v then .permit else .block) ∧
    (authConnectClassifyV6 (some values) clock out g).1.actionType =
      (if v ≠ 0 ∧ l = v then .permit else .block)

/-- **AllowVpnOnly blocks the VPN interface as well**: over every pair of tables, a connection on
interface `l` is treated as promised iff it is not on the configured VPN interface. -/
theorem keepsVpnOnly_iff (boot : Boot) (es : List Event) (v : UInt64)
    (hlast : lastKillSwitch boot es = ⟨.allowVpnOnly, v⟩) (policies : PolicyTable)
    (routes : RouteTable) (values : IncomingValues) (l : UInt64)
    (_hl : values.localInterface = some l) (clock : Clock) (out : ClassifyOut) :
    KeepsVpnOnly { driver.final (loaded boot) es with policy := policies, route := routes } v l
        values clock out ↔ v = 0 ∨ l ≠ v := by
  -- the classifier asks about interface `0`, which is never a configured VPN interface
  have h0 : killSwitchEvaluate 0 (driver.final (loaded boot) es).killSwitch = some .block := by
    rw [enforces_lastKillSwitch boot es 0, hlast]
    simp only [KillSwitchRequest.verdict]
    rw [if_neg (fun h => h.1 h.2.symm)]
  let g := { driver.final (loaded boot) es with policy := policies, route := routes }
  have hg : killSwitchEvaluate 0 g.killSwitch = some .block := h0
  obtain ⟨hs, hr⟩ := classifyConnection_handled hg (some values) clock
  obtain ⟨h4, h6⟩ := authConnect_block hg (some values) clock out
  show KeepsVpnOnly g v l values clock out ↔ _
  rw [KeepsVpnOnly, hs, hr, h4, h6, vpnOnlyAction]
  by_cases hv : v ≠ 0 ∧ l = v
  · simp only [if_pos hv, reduceCtorEq, and_false, false_iff, not_or, not_not]
    exact hv
  · simp only [if_neg hv, true_and, true_iff]
    rw [not_and_or, not_not] at hv
    exact hv

/-- A connection of an auth-connect layer on local interface `l`, without an application id. -/
def connectionOn (l : UInt64) : IncomingValues where
  layerId := .aleAuthConnectV4
  incomingValue
    | .aleAuthConnectV4IpLocalInterface => .uint64 (some l)
    | _ => .empty

/-- SET_KILL_SWITCH with AllowVpnOnly and VPN interface `7`. -/
def allowVpnOnlySeven : IoctlRequest :=
  plainRequest .setKillSwitch [1, 0, 0, 0, 2, 0, 0, 0, 7, 0, 0, 0, 0, 0, 0, 0] 0

theorem keepsVpnOnly_iff_other_interface :
    KeepsVpnOnly { driver.final (loaded (quietBoot none)) [.ioctl allowVpnOnlySeven] with
      policy := Table.fresh, route := Table.fresh } 7 8 (connectionOn 8) ⟨⟨0, 1⟩, ⟨0, 1⟩⟩
      ⟨.none, 1, 0⟩ :=
  (keepsVpnOnly_iff (quietBoot none) [.ioctl allowVpnOnlySeven] 7 (by decide) Table.fresh
    Table.fresh (connectionOn 8) 8 rfl ⟨⟨0, 1⟩, ⟨0, 1⟩⟩ ⟨.none, 1, 0⟩).mpr (Or.inr (by decide))

/-- The connection on the configured VPN interface `7` is blocked. -/
theorem not_forall_keepsVpnOnly :
    ¬ ∀ (boot : Boot) (es : List Event) (v l : UInt64) (values : IncomingValues) (clock : Clock)
        (out : ClassifyOut), lastKillSwitch boot es = ⟨.allowVpnOnly, v⟩ →
      values.localInterface = some l →
      KeepsVpnOnly (driver.final (loaded boot) es) v l values clock out := by
  intro h
  have h7 := h (quietBoot none) [.ioctl allowVpnOnlySeven] 7 7 (connectionOn 7) ⟨⟨0, 1⟩, ⟨0, 1⟩⟩
    ⟨.none, 1, 0⟩ (by decide) rfl
  exact absurd h7.2.1 (by decide)

end Guardian
