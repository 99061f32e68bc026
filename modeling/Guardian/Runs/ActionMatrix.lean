import Guardian.Runs.Driver

/-!
# The action matrix of the auth-connect callouts

A Block is documented as `FWP_ACTION_BLOCK` with the ABSORB flag, everything else as
`FWP_ACTION_PERMIT`.

* `FollowsMatrix` : the documented result of a classification;
* `Blocked` : the kill switch or the tables block a connection; `blocked_iff`;
* `authConnectClassifyV4_flags` : the callouts never set a flag;
* `authConnect_followsMatrix_iff` : where they follow the matrix;
* `FinalBlock`, `KeepsFinalBlock` : the block of another filter, which a callout without the WRITE
  right may not replace; `keepsFinalBlock_iff` says where it is kept.
-/

namespace Guardian

/-- The documented result of a callout whose classification has this status and action. -/
def FollowsMatrix (status : NTSTATUS) (action : ClassifyAction) (out : ClassifyOut) : Prop :=
  if ntSuccess status = true ∧ action = .block then
    out.actionType = .block ∧ out.flags &&& fwpsClassifyOutFlagAbsorb ≠ 0
  else out.actionType = .permit

instance (status : NTSTATUS) (action : ClassifyAction) (out : ClassifyOut) :
    Decidable (FollowsMatrix status action out) := inferInstanceAs (Decidable (ite _ _ _))

/-- The kill switch blocks the connection, or leaves it to the tables and they do. -/
def Blocked (values : Option IncomingValues) (g : Globals) : Prop :=
  killSwitchEvaluate 0 g.killSwitch = some .block ∨
    (killSwitchEvaluate 0 g.killSwitch = none ∧
      ∃ v, values = some v ∧ (decision g.route v g.policy).action = .block)

theorem blocked_iff (values : Option IncomingValues) (clock : Clock) (g : Globals) :
    (ntSuccess (classifyConnection values clock g).1 = true ∧
      (classifyConnection values clock g).2.1.action = .block) ↔ Blocked values g := by
  rw [classifyConnection_eq, Blocked]
  cases killSwitchEvaluate 0 g.killSwitch with
  | some action => simp
  | none => cases values <;> simp

/-! ## The flags -/

theorem classifyReset_rights (out : ClassifyOut) :
    (classifyReset out).rights &&& fwpsRightActionWrite = 0 := by
  have hclear : ~~~fwpsRightActionWrite &&& fwpsRightActionWrite = 0 := by decide
  show out.rights &&& ~~~fwpsRightActionWrite &&& fwpsRightActionWrite = 0
  rw [UInt32.and_assoc, hclear, UInt32.and_zero]

theorem classifyPermit_flags {out : ClassifyOut} (h : out.rights &&& fwpsRightActionWrite = 0) :
    (classifyPermit out).flags = out.flags := by
  unfold classifyPermit
  simp only
  rw [if_neg (not_not.mpr h)]

theorem classifyBlock_flags {out : ClassifyOut} (h : out.rights &&& fwpsRightActionWrite = 0) :
    (classifyBlock out).flags = out.flags := by
  unfold classifyBlock
  simp only
  rw [if_neg (not_not.mpr h)]

theorem authConnectClassifyV4_flags (values : Option IncomingValues) (clock : Clock)
    (out : ClassifyOut) (g : Globals) :
    (authConnectClassifyV4 values clock out g).1.flags = out.flags := by
  have hpermit := classifyPermit_flags (classifyReset_rights out)
  have hblock := classifyBlock_flags (classifyReset_rights out)
  unfold authConnectClassifyV4
  simp only
  split
  · exact hpermit
  · split
    · exact hblock
    · exact hpermit
    · exact hpermit
    · exact hpermit

/-! ## The matrix -/

theorem authConnectClassifyV4_followsMatrix_iff (values : Option IncomingValues) (clock : Clock)
    (out : ClassifyOut) (g : Globals) :
    FollowsMatrix (classifyConnection values clock g).1 (classifyConnection values clock g).2.1.action
        (authConnectClassifyV4 values clock out g).1 ↔
      ¬ Blocked values g ∨ out.flags &&& fwpsClassifyOutFlagAbsorb ≠ 0 := by
  rw [FollowsMatrix, authConnectClassifyV4_actionType, authConnectClassifyV4_flags,
    ← blocked_iff values clock g]
  by_cases hb : ntSuccess (classifyConnection values clock g).1 = true ∧
      (classifyConnection values clock g).2.1.action = .block
  · simp [hb]
  · simp [hb]

/-- **The callouts follow the action matrix exactly where nothing blocks the connection or the ABSORB
flag is set on entry**: Reset takes the right before Block tests for it. -/
theorem authConnect_followsMatrix_iff (values : Option IncomingValues) (clock : Clock)
    (out : ClassifyOut) (g : Globals) :
    let c := classifyConnection values clock g
    (FollowsMatrix c.1 c.2.1.action (authConnectClassifyV4 values clock out g).1 ∧
      FollowsMatrix c.1 c.2.1.action (authConnectClassifyV6 values clock out g).1) ↔
      ¬ Blocked values g ∨ out.flags &&& fwpsClassifyOutFlagAbsorb ≠ 0 := by
  intro c
  have h4 := authConnectClassifyV4_followsMatrix_iff values clock out g
  constructor
  · intro h
    exact h4.mp h.1
  · intro h
    exact ⟨h4.mpr h, h4.mpr h⟩

/-- Under BlockAll, a callout that is given the WRITE right and no flag blocks without ABSORB. -/
theorem not_forall_followsMatrix :
    ¬ ∀ g, Reachable g → ∀ (values : Option IncomingValues) (clock : Clock) (out : ClassifyOut),
      out.rights &&& fwpsRightActionWrite ≠ 0 →
      let c := classifyConnection values clock g
      FollowsMatrix c.1 c.2.1.action (authConnectClassifyV4 values clock out g).1 ∧
        FollowsMatrix c.1 c.2.1.action (authConnectClassifyV6 values clock out g).1 := by
  intro h
  have hblockAll := h _ ⟨quietBoot none, [.ioctl blockAllRequest], by decide, rfl⟩
    none ⟨⟨0, 1⟩, ⟨0, 1⟩⟩ ⟨.none, 1, 0⟩ (by decide)
  exact absurd hblockAll.1 (by decide)

/-! ## The block of another filter -/

/-- A filter before has blocked the connection, and the callout is not given the WRITE right. -/
def FinalBlock (out : ClassifyOut) : Prop :=
  out.rights &&& fwpsRightActionWrite = 0 ∧ out.actionType = .block

/-- A callout that is entered with `out` and leaves `out'` keeps the block it finds. -/
def KeepsFinalBlock (out out' : ClassifyOut) : Prop := FinalBlock out → out'.actionType = .block

theorem authConnectClassifyV4_block_iff (values : Option IncomingValues) (clock : Clock)
    (out : ClassifyOut) (g : Globals) :
    (authConnectClassifyV4 values clock out g).1.actionType = .block ↔ Blocked values g := by
  rw [authConnectClassifyV4_actionType, ← blocked_iff values clock g]
  split
  · next h => exact iff_of_true rfl h
  · next h => exact iff_of_false nofun h

/-- **Where the callouts keep the block of another filter**: the auth-connect ones only where they
block the connection themselves, the flow-established one nowhere. Reset discards the action and the
right before anything looks at them. -/
theorem keepsFinalBlock_iff (values : Option IncomingValues) (clock : Clock) (out : ClassifyOut)
    (g : Globals) :
    (KeepsFinalBlock out (authConnectClassifyV4 values clock out g).1 ↔
      ¬ FinalBlock out ∨ Blocked values g) ∧
    (KeepsFinalBlock out (authConnectClassifyV6 values clock out g).1 ↔
      ¬ FinalBlock out ∨ Blocked values g) ∧
    (KeepsFinalBlock out (flowEstablishedClassify out) ↔ ¬ FinalBlock out) := by
  have h4 : KeepsFinalBlock out (authConnectClassifyV4 values clock out g).1 ↔
      ¬ FinalBlock out ∨ Blocked values g := by
    unfold KeepsFinalBlock
    rw [authConnectClassifyV4_block_iff, imp_iff_not_or]
  refine ⟨h4, h4, ?_⟩
  unfold KeepsFinalBlock flowEstablishedClassify
  rw [classifyPermit_actionType]
  simp

/-- After a load the auth-connect callouts lift the block of another filter. -/
theorem not_forall_keepsFinalBlock :
    ¬ ∀ g, Reachable g → ∀ (values : Option IncomingValues) (clock : Clock) (out : ClassifyOut),
      KeepsFinalBlock out (authConnectClassifyV4 values clock out g).1 ∧
        KeepsFinalBlock out (authConnectClassifyV6 values clock out g).1 ∧
        KeepsFinalBlock out (flowEstablishedClassify out) := by
  intro h
  have hlifted := h (loaded (quietBoot none)) ⟨quietBoot none, [], by decide, rfl⟩ none
    ⟨⟨0, 1⟩, ⟨0, 1⟩⟩ ⟨.block, 0, 0⟩
  exact absurd (hlifted.1 ⟨by decide, rfl⟩) (by decide)

end Guardian
