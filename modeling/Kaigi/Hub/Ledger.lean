import Kaigi.Hub.EntriesOnly
import Kaigi.Hub.Trace
import Kaigi.Text.Fields

/-!
# The ledger of a room

What signed actions and connections leave behind in a room: the clocks of the
signers, the session policy, the key epochs and the device capabilities. Every
operation does one thing to it.
-/

set_option autoImplicit false

namespace Kaigi.Hub

open Collections Wire Interleaving

/-- The kinds of actions that carry a clock. -/
inductive ActionKind where
  | roleGrant
  | roleRevoke
  | sessionPolicy
  | moderation
  | e2eeKeyEpoch
  | keyRotationAck
deriving DecidableEq

def ActionKind.tag : ActionKind → String
  | .roleGrant => "role_grant"
  | .roleRevoke => "role_revoke"
  | .sessionPolicy => "session_policy"
  | .moderation => "moderation"
  | .e2eeKeyEpoch => "e2ee_key_epoch"
  | .keyRotationAck => "key_rotation_ack"

structure SignedAction where
  kind : ActionKind
  signer : String
  timestampMs : Nat
deriving DecidableEq

def SignedAction.key (action : SignedAction) : String :=
  signedActionClockKey action.kind.tag action.signer

/-- The tags have no colon, so the key gives kind and signer back. -/
theorem signedActionClockKey_inj {kind other : ActionKind} {signer otherSigner : String}
    (same : signedActionClockKey kind.tag signer = signedActionClockKey other.tag otherSigner) :
    kind = other ∧ signer = otherSigner := by
  have letters := congrArg String.toList same
  simp only [signedActionClockKey, String.toList_append, List.append_assoc] at letters
  obtain ⟨tags, signers⟩ := Text.append_first_inj (by cases kind <;> decide)
    (by cases other <;> decide) letters
  refine ⟨?_, String.toList_inj.mp signers⟩
  cases kind <;> cases other <;> first | rfl | exact absurd tags (by decide)

structure Ledger where
  clocks : HashMap String Nat
  policy : SessionPolicyFrame
  keyEpochs : HashMap ConnId Nat
  ackEpochs : HashMap ConnId Nat
  deviceCaps : HashMap ConnId DeviceCapabilityFrame

def ledgerOf (room : RoomState) : Ledger where
  clocks := room.signedActionClockBySigner
  policy := sessionPolicyFrame (some room)
  keyEpochs := room.e2eeEpochs
  ackEpochs := room.keyRotationAckEpochs
  deviceCaps := room.deviceCapsByConn

namespace Ledger

/-- The clock of the signer moves on to the action. -/
def stamp (ledger : Ledger) (action : SignedAction) : Ledger :=
  { ledger with clocks := ledger.clocks.put action.key action.timestampMs }

/-- The action is newer than all that its signer did. -/
def Fresh (ledger : Ledger) (action : SignedAction) : Prop :=
  1 ≤ action.timestampMs ∧
    ∀ last, ledger.clocks.get? action.key = some last → last < action.timestampMs

def join (ledger : Ledger) (connId : ConnId) : Ledger :=
  { ledger with keyEpochs := ledger.keyEpochs.orInsert connId 0 }

def drop (ledger : Ledger) (connId : ConnId) : Ledger :=
  { ledger with
    keyEpochs := ledger.keyEpochs.remove connId
    ackEpochs := ledger.ackEpochs.remove connId }

end Ledger

/-- The signed action that an operation of the task of `connId` gets accepted. -/
def Operation.accepted (hub : HubState) (connId : ConnId) (op : Operation) (room : RoomState) :
    Option SignedAction :=
  match op with
  | .roleGrant grant deltaAtMs =>
      if (roleGrantSection hub room connId grant deltaAtMs).2.isOk then
        some ⟨.roleGrant, grant.grantedBy, grant.issuedAtMs⟩
      else none
  | .roleRevoke revoke deltaAtMs =>
      if (roleRevokeSection hub room connId revoke deltaAtMs).2.isOk then
        some ⟨.roleRevoke, revoke.revokedBy, revoke.issuedAtMs⟩
      else none
  | .sessionPolicy update =>
      if (applySessionPolicyUpdate hub room connId update).2.isOk then
        some ⟨.sessionPolicy, update.updatedBy, update.updatedAtMs⟩
      else none
  | .moderation frame nowMs admitAtMs =>
      match (moderationSection room connId frame nowMs admitAtMs).2 with
      | some (.ok _) => (room.participants.get? connId).map fun sender =>
          ⟨.moderation, sender.participantId, frame.sentAtMs⟩
      | _ => none
  | .e2eeKeyEpoch keyEpoch =>
      match (e2eeKeyEpochSection hub room connId keyEpoch).2 with
      | .passed => some ⟨.e2eeKeyEpoch, keyEpoch.participantId, keyEpoch.sentAtMs⟩
      | _ => none
  | .keyRotationAck ack =>
      match (keyRotationAckSection room connId ack).2 with
      | .passed => some ⟨.keyRotationAck, ack.participantId, ack.receivedAtMs⟩
      | _ => none
  | _ => none

/-- What the sender of an accepted session policy has to show. -/
structure MayChangePolicy (hub : HubState) (room : RoomState) (connId : ConnId)
    (update : SessionPolicyFrame) : Prop where
  joined : room.helloSeen connId = true
  hosts : room.hostConnId = some connId
  signed : sessionPolicySignatureIsValid hub update = true
  later : room.policyEpoch < update.policyEpoch
  capacity : 1 ≤ update.maxParticipants

/-- `LedgerStep hub room connId op accepted after`: what an operation of the task of
`connId` does to the ledger of `room`. -/
inductive LedgerStep (hub : HubState) (room : RoomState) (connId : ConnId) :
    Operation → Option SignedAction → RoomState → Prop where
  | kept {op : Operation} {after : RoomState} : op.isDisconnect = false →
      ledgerOf after = ledgerOf room → LedgerStep hub room connId op none after
  | joined {hello : HelloFrame} {snapshotAtMs deltaAtMs : Nat} {after : RoomState} :
      ledgerOf after = (ledgerOf room).join connId → after.helloSeen connId = true →
      LedgerStep hub room connId (.hello hello snapshotAtMs deltaAtMs) none after
  | left {deltaAtMs leftAtMs : Nat} {after : RoomState} :
      ledgerOf after = { (ledgerOf room).drop connId with
        deviceCaps := room.deviceCapsByConn.remove connId } →
      after.participants.get? connId = none →
      LedgerStep hub room connId (.disconnect deltaAtMs leftAtMs) none after
  | capable {cap : DeviceCapabilityFrame} {after : RoomState} :
      ledgerOf after = { ledgerOf room with
        deviceCaps := room.deviceCapsByConn.put connId cap } →
      LedgerStep hub room connId (.deviceCapability cap) none after
  | roleGrant {grant : RoleGrantFrame} {deltaAtMs : Nat} {action : SignedAction}
      {after : RoomState} :
      action = ⟨.roleGrant, grant.grantedBy, grant.issuedAtMs⟩ → (ledgerOf room).Fresh action →
      ledgerOf after = (ledgerOf room).stamp action →
      LedgerStep hub room connId (.roleGrant grant deltaAtMs) (some action) after
  | roleRevoke {revoke : RoleRevokeFrame} {deltaAtMs : Nat} {action : SignedAction}
      {after : RoomState} :
      action = ⟨.roleRevoke, revoke.revokedBy, revoke.issuedAtMs⟩ →
      (ledgerOf room).Fresh action → ledgerOf after = (ledgerOf room).stamp action →
      LedgerStep hub room connId (.roleRevoke revoke deltaAtMs) (some action) after
  | policy {update : SessionPolicyFrame} {action : SignedAction} {after : RoomState} :
      action = ⟨.sessionPolicy, update.updatedBy, update.updatedAtMs⟩ →
      (ledgerOf room).Fresh action → MayChangePolicy hub room connId update →
      ledgerOf after = { (ledgerOf room).stamp action with policy := update } →
      LedgerStep hub room connId (.sessionPolicy update) (some action) after
  | keyEpoch {frame : E2EEKeyEpochFrame} {action : SignedAction} {after : RoomState} :
      action = ⟨.e2eeKeyEpoch, frame.participantId, frame.sentAtMs⟩ →
      (ledgerOf room).Fresh action → room.helloSeen connId = true →
      publishedEpoch room connId < frame.epoch →
      ledgerOf after = { (ledgerOf room).stamp action with
        keyEpochs := room.e2eeEpochs.put connId frame.epoch } →
      LedgerStep hub room connId (.e2eeKeyEpoch frame) (some action) after
  | ackEpoch {ack : KeyRotationAckFrame} {action : SignedAction} {after : RoomState} :
      action = ⟨.keyRotationAck, ack.participantId, ack.receivedAtMs⟩ →
      (ledgerOf room).Fresh action → room.helloSeen connId = true → 1 ≤ ack.ackEpoch →
      ack.ackEpoch ≤ publishedEpoch room connId →
      (room.keyRotationAckEpochs.get? connId).getD 0 < ack.ackEpoch →
      ledgerOf after = { (ledgerOf room).stamp action with
        ackEpochs := room.keyRotationAckEpochs.put connId ack.ackEpoch } →
      LedgerStep hub room connId (.keyRotationAck ack) (some action) after
  /-- The clock moves on even if the target is then refused. -/
  | moderated {frame : ModerationFrame} {nowMs admitAtMs : Nat} {sender : ParticipantState}
      {action : SignedAction} {accepted : Option SignedAction} {after : RoomState} :
      room.participants.get? connId = some sender →
      action = ⟨.moderation, sender.participantId, frame.sentAtMs⟩ →
      (ledgerOf room).Fresh action → accepted = none ∨ accepted = some action →
      ledgerOf after = (ledgerOf room).stamp action →
      LedgerStep hub room connId (.moderation frame nowMs admitAtMs) accepted after
  | admitted {frame : ModerationFrame} {nowMs admitAtMs : Nat} {sender : ParticipantState}
      {action : SignedAction} {target : ConnId} {after : RoomState} :
      room.participants.get? connId = some sender →
      action = ⟨.moderation, sender.participantId, frame.sentAtMs⟩ →
      (ledgerOf room).Fresh action →
      ledgerOf after = ((ledgerOf room).stamp action).join target →
      after.helloSeen target = true →
      LedgerStep hub room connId (.moderation frame nowMs admitAtMs) (some action) after
  | denied {frame : ModerationFrame} {nowMs admitAtMs : Nat} {sender : ParticipantState}
      {action : SignedAction} {target : ConnId} {waiting : ParticipantState}
      {after : RoomState} :
      room.participants.get? connId = some sender →
      action = ⟨.moderation, sender.participantId, frame.sentAtMs⟩ →
      (ledgerOf room).Fresh action → room.participants.get? target = some waiting →
      waiting.waitingRoomPending = true →
      ledgerOf after = ((ledgerOf room).stamp action).drop target →
      after.participants.get? target = none →
      LedgerStep hub room connId (.moderation frame nowMs admitAtMs) (some action) after

/-- The clock that an operation may move: that of one kind and one signer. -/
def Operation.clock (connId : ConnId) (op : Operation) (room : RoomState) :
    Option (ActionKind × String) :=
  match op with
  | .roleGrant grant _ => some (.roleGrant, grant.grantedBy)
  | .roleRevoke revoke _ => some (.roleRevoke, revoke.revokedBy)
  | .sessionPolicy update => some (.sessionPolicy, update.updatedBy)
  | .moderation _ _ _ =>
      (room.participants.get? connId).map fun sender => (.moderation, sender.participantId)
  | .e2eeKeyEpoch keyEpoch => some (.e2eeKeyEpoch, keyEpoch.participantId)
  | .keyRotationAck ack => some (.keyRotationAck, ack.participantId)
  | _ => none

/-- A step leaves the clocks alone, or moves its own one on. -/
theorem LedgerStep.clocks {hub : HubState} {room after : RoomState} {connId : ConnId}
    {op : Operation} {accepted : Option SignedAction}
    (step : LedgerStep hub room connId op accepted after) :
    (accepted = none ∧ after.signedActionClockBySigner = room.signedActionClockBySigner) ∨
    ∃ action : SignedAction, (accepted = none ∨ accepted = some action) ∧
      op.clock connId room = some (action.kind, action.signer) ∧ (ledgerOf room).Fresh action ∧
        after.signedActionClockBySigner =
          room.signedActionClockBySigner.put action.key action.timestampMs := by
  cases step with
  | kept _ same | joined same | left same | capable same =>
      exact .inl ⟨rfl, congrArg Ledger.clocks same⟩
  | roleGrant action fresh same | roleRevoke action fresh same | policy action fresh _ same
  | keyEpoch action fresh _ _ same | ackEpoch action fresh _ _ _ _ same =>
      subst action
      exact .inr ⟨_, .inr rfl, rfl, fresh, congrArg Ledger.clocks same⟩
  | moderated found action fresh accepts same =>
      subst action
      exact .inr ⟨_, accepts, by simp [Operation.clock, found], fresh,
        congrArg Ledger.clocks same⟩
  | admitted found action fresh same | denied found action fresh _ _ same =>
      subst action
      exact .inr ⟨_, .inr rfl, by simp [Operation.clock, found], fresh,
        congrArg Ledger.clocks same⟩

/-! ### The steps of the operations -/

section Steps

variable {hub : HubState} {room : RoomState} {connId : ConnId}

theorem enforceSignedActionClock_stamps (kind : ActionKind) {accepted : RoomState}
    {signerId timestampLabel : String} {timestampMs : Nat}
    (enforced : enforceSignedActionClock room kind.tag signerId timestampLabel timestampMs =
      .ok accepted) :
    (ledgerOf room).Fresh ⟨kind, signerId, timestampMs⟩ ∧
      ledgerOf accepted = (ledgerOf room).stamp ⟨kind, signerId, timestampMs⟩ := by
  obtain ⟨positive, later⟩ := enforceSignedActionClock_iff.mp ⟨accepted, enforced⟩
  refine ⟨⟨positive, later⟩, ?_⟩
  rw [enforceSignedActionClock_ok enforced]
  rfl

theorem ledgerOf_claimVacantHost (participantId : String) :
    ledgerOf (claimVacantHost room connId participantId) = ledgerOf room := by
  unfold claimVacantHost
  split <;> rfl

theorem ledgerOf_completeJoin (target : ConnId) (participantId : String) :
    ledgerOf (completeJoin room target participantId) = (ledgerOf room).join target := by
  unfold completeJoin restoreReservedRolesOnJoin
  dsimp only
  split <;> split <;> split <;> rfl

theorem helloSection_ledger (hello : HelloFrame) (snapshotAtMs deltaAtMs : Nat) :
    LedgerStep hub room connId (.hello hello snapshotAtMs deltaAtMs) none
      (helloSection room connId hello snapshotAtMs deltaAtMs).1 := by
  unfold helloSection
  split
  · exact .kept rfl rfl
  · split
    · exact .kept rfl rfl
    · dsimp only
      split
      · exact .kept rfl (ledgerOf_claimVacantHost _)
      · next participant found =>
          split
          · exact .kept rfl (ledgerOf_claimVacantHost hello.participantId)
          · next admitted =>
              refine .joined ((ledgerOf_completeJoin _ _).trans ?_) ?_
              · exact congrArg (Ledger.join · connId) (ledgerOf_claimVacantHost hello.participantId)
              · rw [RoomState.helloSeen, participants_completeJoin]
                simpa [RoomState.updateParticipant, found, helloParticipant] using admitted

/-- A role change is refused, or it only moves the clock of its signer. -/
def Stamps {Value : Type} (room : RoomState) (action : SignedAction)
    (result : RoomState × Except String Value) : Prop :=
  if result.2.isOk then
    (ledgerOf room).Fresh action ∧ ledgerOf result.1 = (ledgerOf room).stamp action
  else ledgerOf result.1 = ledgerOf room

theorem Stamps.roleChangeSection {action : SignedAction}
    {result : RoomState × Except String RoleMutationOutcome} (stamps : Stamps room action result)
    (deltaAtMs : Nat) : Stamps room action (roleChangeSection result deltaAtMs) := by
  obtain ⟨after, outcome⟩ := result
  cases outcome with
  | error => exact stamps
  | ok outcome =>
      unfold Hub.roleChangeSection
      dsimp only
      split <;> exact stamps

theorem applyRoleGrant_stamps (grant : RoleGrantFrame) :
    Stamps room ⟨.roleGrant, grant.grantedBy, grant.issuedAtMs⟩
      (applyRoleGrant hub room connId grant) := by
  unfold applyRoleGrant
  split
  · exact rfl
  · split
    · exact rfl
    · split
      · exact rfl
      · split
        · exact rfl
        · split
          · exact rfl
          · next enforced =>
              have stamped := enforceSignedActionClock_stamps .roleGrant enforced
              dsimp only
              unfold grantHost grantCoHost
              dsimp only
              split
              · split <;> exact stamped
              · split <;> split <;> exact stamped

theorem applyRoleRevoke_stamps (revoke : RoleRevokeFrame) :
    Stamps room ⟨.roleRevoke, revoke.revokedBy, revoke.issuedAtMs⟩
      (applyRoleRevoke hub room connId revoke) := by
  unfold applyRoleRevoke
  split
  · exact rfl
  · split
    · exact rfl
    · split
      · exact rfl
      · split
        · exact rfl
        · next enforced =>
            have stamped := enforceSignedActionClock_stamps .roleRevoke enforced
            dsimp only
            unfold revokeCoHost
            dsimp only
            split <;> exact stamped

theorem roleGrantSection_ledger (grant : RoleGrantFrame) (deltaAtMs : Nat) :
    LedgerStep hub room connId (.roleGrant grant deltaAtMs)
      ((Operation.roleGrant grant deltaAtMs).accepted hub connId room)
      (roleGrantSection hub room connId grant deltaAtMs).1 := by
  have stamps : Stamps room _ (roleGrantSection hub room connId grant deltaAtMs) :=
    (applyRoleGrant_stamps grant).roleChangeSection deltaAtMs
  unfold Stamps at stamps
  unfold Operation.accepted
  dsimp only
  split at stamps
  · next accepted =>
      rw [if_pos accepted]
      exact .roleGrant rfl stamps.1 stamps.2
  · next refused =>
      rw [if_neg refused]
      exact .kept rfl stamps

theorem roleRevokeSection_ledger (revoke : RoleRevokeFrame) (deltaAtMs : Nat) :
    LedgerStep hub room connId (.roleRevoke revoke deltaAtMs)
      ((Operation.roleRevoke revoke deltaAtMs).accepted hub connId room)
      (roleRevokeSection hub room connId revoke deltaAtMs).1 := by
  have stamps : Stamps room _ (roleRevokeSection hub room connId revoke deltaAtMs) :=
    (applyRoleRevoke_stamps revoke).roleChangeSection deltaAtMs
  unfold Stamps at stamps
  unfold Operation.accepted
  dsimp only
  split at stamps
  · next accepted =>
      rw [if_pos accepted]
      exact .roleRevoke rfl stamps.1 stamps.2
  · next refused =>
      rw [if_neg refused]
      exact .kept rfl stamps

theorem authorizeHostAction_signed {signerId claim signatureHex action : String}
    {signatureValid : Bool}
    (authorized : authorizeHostAction room connId signerId claim signatureHex action
      signatureValid = none) :
    room.helloSeen connId = true ∧ room.hostConnId = some connId ∧ signatureValid = true := by
  obtain ⟨joined, hosts⟩ := authorizeHostAction_eq_none authorized
  refine ⟨joined_groupOf.mp joined, hosts, ?_⟩
  unfold authorizeHostAction at authorized
  split at authorized
  · cases authorized
  · cases signatureValid with
    | true => rfl
    | false =>
        simp only [Bool.not_false, if_true] at authorized
        split at authorized
        · cases authorized
        · split at authorized
          · cases authorized
          · split at authorized
            · cases authorized
            · split at authorized <;> cases authorized

theorem applySessionPolicyUpdate_ledger (update : SessionPolicyFrame) :
    LedgerStep hub room connId (.sessionPolicy update)
      ((Operation.sessionPolicy update).accepted hub connId room)
      (applySessionPolicyUpdate hub room connId update).1 := by
  unfold Operation.accepted applySessionPolicyUpdate
  dsimp only
  split
  · exact .kept rfl rfl
  · next authorized =>
      obtain ⟨joined, hosts, signed⟩ := authorizeHostAction_signed authorized
      split
      · exact .kept rfl rfl
      · next later =>
          split
          · exact .kept rfl rfl
          · next capacity =>
              split
              · exact .kept rfl rfl
              · next accepted enforced =>
                  obtain ⟨fresh, stamped⟩ :=
                    enforceSignedActionClock_stamps .sessionPolicy enforced
                  refine .policy rfl fresh ⟨joined, hosts, signed, Nat.lt_of_not_le later,
                    Nat.pos_of_ne_zero capacity⟩ ?_
                  rw [← stamped]
                  rfl

theorem checkSender_passed {participantId : String} {further : Option String}
    (passed : checkSender room connId participantId further = .passed) :
    room.helloSeen connId = true ∧ further = none := by
  unfold checkSender at passed
  split at passed
  · cases passed
  · next sender found =>
      split at passed
      · cases passed
      · next joined =>
          split at passed
          · cases passed
          · split at passed
            · cases passed
            · refine ⟨?_, rfl⟩
              simpa [RoomState.helloSeen, found] using joined

theorem checkSenderAfter_passed {shapeError : Option String} {outcome : CheckOutcome}
    (passed : checkSenderAfter shapeError outcome = .passed) :
    shapeError = none ∧ outcome = .passed := by
  cases outcome <;> cases shapeError <;> first | exact ⟨rfl, rfl⟩ | cases passed

theorem e2eeKeyEpochSection_cases (keyEpoch : E2EEKeyEpochFrame) :
    ((e2eeKeyEpochSection hub room connId keyEpoch).2 ≠ .passed ∧
      (e2eeKeyEpochSection hub room connId keyEpoch).1 = room) ∨
    ((e2eeKeyEpochSection hub room connId keyEpoch).2 = .passed ∧
      LedgerStep hub room connId (.e2eeKeyEpoch keyEpoch)
        (some ⟨.e2eeKeyEpoch, keyEpoch.participantId, keyEpoch.sentAtMs⟩)
        (e2eeKeyEpochSection hub room connId keyEpoch).1) := by
  unfold e2eeKeyEpochSection
  dsimp only
  split
  · exact .inl ⟨nofun, rfl⟩
  · exact .inl ⟨nofun, rfl⟩
  · next passed =>
      obtain ⟨_, passed⟩ := checkSenderAfter_passed passed
      obtain ⟨joined, grows⟩ := checkSender_passed passed
      split
      · exact .inl ⟨nofun, rfl⟩
      · next accepted enforced =>
          refine .inr ⟨rfl, ?_⟩
          obtain ⟨fresh, stamped⟩ :=
            enforceSignedActionClock_stamps .e2eeKeyEpoch enforced
          have epochs : accepted.e2eeEpochs = room.e2eeEpochs := congrArg Ledger.keyEpochs stamped
          refine .keyEpoch rfl fresh joined (Nat.lt_of_not_le fun stale => ?_) ?_
          · rw [if_pos stale] at grows
            cases grows
          · rw [← stamped, ← epochs]
            rfl

theorem keyRotationAckSection_cases (ack : KeyRotationAckFrame) :
    ((keyRotationAckSection room connId ack).2 ≠ .passed ∧
      (keyRotationAckSection room connId ack).1 = room) ∨
    ((keyRotationAckSection room connId ack).2 = .passed ∧
      LedgerStep hub room connId (.keyRotationAck ack)
        (some ⟨.keyRotationAck, ack.participantId, ack.receivedAtMs⟩)
        (keyRotationAckSection room connId ack).1) := by
  unfold keyRotationAckSection
  dsimp only
  split
  · exact .inl ⟨nofun, rfl⟩
  · exact .inl ⟨nofun, rfl⟩
  · next passed =>
      obtain ⟨joined, checks⟩ := checkSender_passed passed
      split
      · exact .inl ⟨nofun, rfl⟩
      · next accepted enforced =>
          refine .inr ⟨rfl, ?_⟩
          obtain ⟨fresh, stamped⟩ :=
            enforceSignedActionClock_stamps .keyRotationAck enforced
          have acks : accepted.keyRotationAckEpochs = room.keyRotationAckEpochs :=
            congrArg Ledger.ackEpochs stamped
          have put : ledgerOf { accepted with
              keyRotationAckEpochs := accepted.keyRotationAckEpochs.put connId ack.ackEpoch } =
              { (ledgerOf room).stamp ⟨.keyRotationAck, ack.participantId, ack.receivedAtMs⟩ with
                ackEpochs := room.keyRotationAckEpochs.put connId ack.ackEpoch } := by
            rw [← stamped, ← acks]
            rfl
          split at checks
          · cases checks
          · next positive =>
              split at checks
              · cases checks
              · next within =>
                  split at checks
                  · cases checks
                  · next grows =>
                      obtain ⟨_, within⟩ := not_or.mp within
                      exact .ackEpoch rfl fresh joined (Nat.pos_of_ne_zero positive)
                        (Nat.le_of_not_lt within) (Nat.lt_of_not_le grows) put

/-- The section of a check either refuses and changes nothing, or passes. -/
theorem passed_ledger {op : Operation} {action : SignedAction}
    {result : RoomState × CheckOutcome} (stays : op.isDisconnect = false)
    (cases : (result.2 ≠ .passed ∧ result.1 = room) ∨
      (result.2 = .passed ∧ LedgerStep hub room connId op (some action) result.1)) :
    LedgerStep hub room connId op
      (match result.2 with
        | .passed => some action
        | _ => none) result.1 := by
  obtain ⟨refused, same⟩ | ⟨passed, step⟩ := cases
  · split
    · next passed => exact absurd passed refused
    · exact .kept stays (congrArg ledgerOf same)
  · rw [passed]
    exact step

/-- A loop that only switches media off leaves the ledger alone. -/
theorem ledgerOf_foldl_moderateTarget {action : ModerationAction} {nowMs admitAtMs : Nat}
    (stays : action ≠ .admitFromWaiting ∧ action ≠ .denyFromWaiting) (targets : List ConnId)
    (state : RoomState × ModerationOutcome) :
    ledgerOf (targets.foldl (moderateTarget action nowMs admitAtMs) state).1 =
      ledgerOf state.1 := by
  induction targets generalizing state with
  | nil => rfl
  | cons target targets ih =>
      rw [List.foldl_cons, ih]
      obtain ⟨current, outcome⟩ := state
      have medium : ∀ off : ParticipantState → ParticipantState,
          ledgerOf (disableMedium current target nowMs off outcome).1 = ledgerOf current := by
        intro off
        unfold disableMedium
        split <;> rfl
      unfold moderateTarget
      cases action with
      | kick => rfl
      | disableMic | disableVideo | disableScreenShare => exact medium _
      | admitFromWaiting => exact absurd rfl stays.1
      | denyFromWaiting => exact absurd rfl stays.2

theorem moderateTarget_admit {current : RoomState} {target : ConnId} {nowMs admitAtMs : Nat}
    (outcome : ModerationOutcome) :
    (moderateTarget .admitFromWaiting nowMs admitAtMs (current, outcome) target).1 =
      (admitWaitingParticipant current target admitAtMs).1 := by
  unfold moderateTarget
  dsimp only
  split <;> next same => rw [same]

theorem moderateTarget_deny {current : RoomState} {target : ConnId} {nowMs admitAtMs : Nat}
    (outcome : ModerationOutcome) :
    (moderateTarget .denyFromWaiting nowMs admitAtMs (current, outcome) target).1 =
      (denyWaitingParticipant current target).1 := by
  unfold moderateTarget
  dsimp only
  split <;> next same => rw [same]

theorem admitWaitingParticipant_ledger {current : RoomState} (target : ConnId) (atMs : Nat) :
    ledgerOf (admitWaitingParticipant current target atMs).1 = ledgerOf current ∨
      ledgerOf (admitWaitingParticipant current target atMs).1 = (ledgerOf current).join target ∧
      (admitWaitingParticipant current target atMs).1.helloSeen target = true := by
  unfold admitWaitingParticipant
  split
  · exact .inl rfl
  · next waiting found =>
      split
      · exact .inl rfl
      · refine .inr ⟨ledgerOf_completeJoin _ _, ?_⟩
        dsimp only
        rw [RoomState.helloSeen, participants_completeJoin]
        simp [RoomState.updateParticipant, found, admitParticipant]

theorem denyWaitingParticipant_ledger {current : RoomState} (target : ConnId) :
    ledgerOf (denyWaitingParticipant current target).1 = ledgerOf current ∨
      (∃ waiting, current.participants.get? target = some waiting ∧
        waiting.waitingRoomPending = true) ∧
      ledgerOf (denyWaitingParticipant current target).1 = (ledgerOf current).drop target ∧
      (denyWaitingParticipant current target).1.participants.get? target = none := by
  unfold denyWaitingParticipant
  split
  · exact .inl rfl
  · next waiting found =>
      split
      · exact .inl rfl
      · next pending =>
          have gone : (removeConnection current target).participants.get? target = none := by
            simp [removeConnection]
          refine .inr ⟨⟨waiting, found, by simpa using pending⟩, ?_⟩
          dsimp only
          split <;> exact ⟨rfl, gone⟩

theorem moderationSection_ledger (frame : ModerationFrame) (nowMs admitAtMs : Nat) :
    LedgerStep hub room connId (.moderation frame nowMs admitAtMs)
      ((Operation.moderation frame nowMs admitAtMs).accepted hub connId room)
      (moderationSection room connId frame nowMs admitAtMs).1 := by
  unfold Operation.accepted moderationSection
  dsimp only
  cases found : room.participants.get? connId with
  | none => exact .kept rfl rfl
  | some sender =>
      dsimp only
      by_cases joined : (!sender.helloSeen) = true
      · rw [if_pos joined]
        exact .kept rfl rfl
      by_cases moderates : (!canModerateConn room connId) = true
      · rw [if_neg joined, if_pos moderates]
        exact .kept rfl rfl
      rw [if_neg joined, if_neg moderates]
      cases clock : validateModerationSenderClock room connId frame with
      | error message => exact .kept rfl rfl
      | ok accepted =>
          have enforced := clock
          unfold validateModerationSenderClock at enforced
          rw [found] at enforced
          obtain ⟨fresh, stamped⟩ := enforceSignedActionClock_stamps .moderation enforced
          have participants : accepted.participants = room.participants := by
            rw [enforceSignedActionClock_ok enforced]
          dsimp only
          cases named : moderationTargets accepted connId frame with
          | error message => exact .moderated found rfl fresh (.inl rfl) stamped
          | ok targets =>
              dsimp only [Option.map_some]
              by_cases admits : frame.action = .admitFromWaiting
              · obtain ⟨target, _, rfl, _⟩ := moderationTargets_single (.inl admits) named
                rw [admits, List.foldl_cons, List.foldl_nil, moderateTarget_admit]
                obtain same | ⟨joins, joined⟩ := admitWaitingParticipant_ledger target admitAtMs
                · exact .moderated found rfl fresh (.inr rfl) (same.trans stamped)
                · exact .admitted found rfl fresh
                    (joins.trans (congrArg (Ledger.join · target) stamped)) joined
              by_cases denies : frame.action = .denyFromWaiting
              · obtain ⟨target, _, rfl, _⟩ := moderationTargets_single (.inr denies) named
                rw [denies, List.foldl_cons, List.foldl_nil, moderateTarget_deny]
                obtain same | ⟨⟨waiting, present, pending⟩, drops, gone⟩ :=
                  denyWaitingParticipant_ledger target
                · exact .moderated found rfl fresh (.inr rfl) (same.trans stamped)
                · exact .denied found rfl fresh (participants ▸ present) pending
                    (drops.trans (congrArg (Ledger.drop · target) stamped)) gone
              exact .moderated found rfl fresh (.inr rfl)
                ((ledgerOf_foldl_moderateTarget ⟨admits, denies⟩ _ _).trans stamped)

/-- The sections that sign nothing and concern nobody's membership. -/
theorem announceAnonHello_ledger (hello : AnonHelloFrame) (nowMs rosterAtMs : Nat)
    {enter : RoomState → RoomState}
    (enters : ∀ current, ledgerOf (enter current) = ledgerOf current) :
    ledgerOf (announceAnonHello hub room connId hello nowMs rosterAtMs enter).1 =
      ledgerOf room := by
  unfold announceAnonHello
  split
  · rfl
  · split
    · rfl
    · exact enters _

theorem anonHelloSection_ledger (hello : AnonHelloFrame) (nowMs rosterAtMs : Nat) :
    ledgerOf (anonHelloSection hub room connId hello nowMs rosterAtMs).1 = ledgerOf room := by
  unfold anonHelloSection
  split
  · rfl
  · split
    · rfl
    · split
      · split
        · rfl
        · split
          · rfl
          · exact announceAnonHello_ledger hello nowMs rosterAtMs fun _ => rfl
      · exact announceAnonHello_ledger hello nowMs rosterAtMs fun _ => rfl

theorem disconnectSection_ledger {deltaAtMs leftAtMs : Nat} {after : RoomState}
    (left : (disconnectSection room connId deltaAtMs leftAtMs).1 = some after) :
    LedgerStep hub room connId (.disconnect deltaAtMs leftAtMs) none after := by
  have absent : after.participants.get? connId = none := by
    rw [← members_groupOf_none]
    obtain ⟨_, view⟩ | ⟨_, _, _, _, _, view, _⟩ := groupOf_disconnectSection left <;>
      simp [view]
  refine .left ?_ absent
  unfold disconnectSection at left
  dsimp only at left
  split at left
  · cases left
  · have presence : ∀ (known : Bool) (current : RoomState),
        ledgerOf (if known then current.bumpPresenceSequence else current) = ledgerOf current := by
      intro known current
      split <;> rfl
    cases left
    refine (presence _ _).trans ?_
    split <;> rfl

theorem EntriesOnly.ledger {after : RoomState} (entries : EntriesOnly room after) :
    ledgerOf after = ledgerOf room := by
  cases entries
  rfl

theorem updateRoom_ledger {op : Operation} (stays : op.isDisconnect = false) :
    LedgerStep hub room connId op (op.accepted hub connId room)
      (op.updateRoom hub connId room) := by
  cases op with
  | connect | read | lookup | fanout | trySend | takeMessage | closeChannel | groupKeyRotate |
      reorder => exact .kept rfl rfl
  | disconnect => cases stays
  | billing | backpressure | groupKeyUpdate | escrowProof | participantState | mediaTrackState |
      roomConfigUpdate | payment =>
      exact .kept rfl (Operation.updateRoom_entries rfl hub connId room).ledger
  | anonHello hello nowMs rosterAtMs =>
      exact .kept rfl (anonHelloSection_ledger hello nowMs rosterAtMs)
  | hello frame snapshotAtMs deltaAtMs => exact helloSection_ledger frame snapshotAtMs deltaAtMs
  | roleGrant grant deltaAtMs => exact roleGrantSection_ledger grant deltaAtMs
  | roleRevoke revoke deltaAtMs => exact roleRevokeSection_ledger revoke deltaAtMs
  | sessionPolicy update => exact applySessionPolicyUpdate_ledger update
  | deviceCapability cap => exact .capable rfl
  | e2eeKeyEpoch keyEpoch => exact passed_ledger rfl (e2eeKeyEpochSection_cases keyEpoch)
  | keyRotationAck ack => exact passed_ledger rfl (keyRotationAckSection_cases ack)
  | moderation frame nowMs admitAtMs => exact moderationSection_ledger frame nowMs admitAtMs

end Steps

/-- The action that an event gets accepted. -/
def Event.accepted (hub : HubState) (event : Event) : Option SignedAction :=
  event.before.room.bind (event.op.accepted hub event.connId)

/-- An event that leaves a room behind takes one step in its ledger. -/
theorem Event.ledgerStep {hub : HubState} {event : Event} {after : RoomState}
    (left : (event.after hub).room = some after) :
    LedgerStep hub (event.before.opened hub) event.connId event.op (event.accepted hub)
      after := by
  obtain ⟨actor, task, op, state⟩ := event
  have updated : ∀ op : Operation, op.isDisconnect = false →
      state.room.map (op.updateRoom hub actor) = some after →
      LedgerStep hub (state.opened hub) actor op (Event.accepted hub ⟨actor, task, op, state⟩)
        after := by
    intro op stays same
    obtain ⟨room, found, rfl⟩ := Option.map_eq_some_iff.mp same
    rw [HubRoom.opened_of_some found, Event.accepted, found]
    exact updateRoom_ledger stays
  have untouched : ∀ op : Operation, op.isDisconnect = false →
      (∀ room, op.accepted hub actor room = none) → state.room = some after →
      LedgerStep hub (state.opened hub) actor op (Event.accepted hub ⟨actor, task, op, state⟩)
        after := by
    intro op stays silent found
    rw [HubRoom.opened_of_some found, Event.accepted, found, Option.bind_some, silent]
    exact .kept stays rfl
  cases op with
  | connect connectedAtMs =>
      cases left
      have silent : Event.accepted hub ⟨actor, task, .connect connectedAtMs, state⟩ = none := by
        unfold Event.accepted
        cases state.room <;> rfl
      rw [silent]
      exact .kept rfl rfl
  | disconnect deltaAtMs leftAtMs =>
      obtain ⟨room, found, remains⟩ := Option.bind_eq_some_iff.mp left
      rw [HubRoom.opened_of_some found, Event.accepted, found]
      exact disconnectSection_ledger remains
  | trySend | takeMessage | closeChannel => exact untouched _ rfl (fun _ => rfl) left
  | _ => exact updated _ rfl left

end Kaigi.Hub
