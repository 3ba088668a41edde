import Kaigi.Hub.GroupSteps
import Kaigi.Metering.Account

/-!
# Edits of a room

Most critical sections edit a room in few ways: they rewrite participants of the
room without charging them, drop connections, and note what a connection of the
room has published. An assertion that survives these edits survives the sections.
-/

set_option autoImplicit false

namespace Kaigi.Hub

open Collections Wire Metering

/-- The fields of a participant that charging writes. -/
structure Bill where
  billedNanoXor : Nat
  billingRemainderMod60k : Nat
  lastBilledAtMs : Nat

def billOf (participant : ParticipantState) : Bill :=
  ⟨participant.billedNanoXor, participant.billingRemainderMod60k, participant.lastBilledAtMs⟩

/-- What a participant was charged, in the unit of the carried remainder. -/
def billingAccount (participant : ParticipantState) : Account where
  charged := 60000 * participant.billedNanoXor + participant.billingRemainderMod60k
  cursor := participant.lastBilledAtMs

theorem billingAccount_congr {old new : ParticipantState} (same : billOf new = billOf old) :
    billingAccount new = billingAccount old := by
  unfold billOf at same
  injection same with billed remainder cursor
  unfold billingAccount
  rw [billed, remainder, cursor]

/-- What an operation of `actor` writes into a participant, apart from charging
it. `room` is the room that the operation found. -/
inductive Rewrites (room : RoomState) (actor : ConnId) :
    Operation → ConnId → ParticipantState → ParticipantState → Prop where
  | hello {frame : HelloFrame} {snapshotAtMs deltaAtMs : Nat} {participant : ParticipantState}
      (waiting : Bool) : room.anonymousMode = false →
      validateJoinAllowed room actor frame.participantId = none →
      Rewrites room actor (.hello frame snapshotAtMs deltaAtMs) actor participant
        (helloParticipant participant frame waiting)
  | rekeyed {update : GroupKeyUpdateFrame} {participant : ParticipantState} :
      Rewrites room actor (.groupKeyUpdate update) actor participant { participant with
        x25519PubkeyHex := some update.x25519PubkeyHex
        x25519Epoch := update.epoch }
  | escrowed {proof : EscrowProofFrame} {nowMs : Nat} {participant : ParticipantState} :
      Rewrites room actor (.escrowProof proof nowMs) actor participant { participant with
        lastEscrowProofAtMs := some nowMs
        escrowId := some (participant.escrowId.getD proof.escrowId) }
  | state {update : ParticipantStateFrame} {atMs : Nat} {participant : ParticipantState}
      {mic video share : Bool} : participant.helloSeen = true →
      (share = true → participant.screenShareEnabled = true ∨
        activeScreenShares room actor < max room.maxScreenShares 1) →
      Rewrites room actor (.participantState update atMs) actor participant { participant with
        micEnabled := mic, videoEnabled := video, screenShareEnabled := share }
  | track {track : MediaTrackStateFrame} {atMs : Nat} {participant : ParticipantState}
      {mic video share : Bool} : participant.helloSeen = true →
      participant.participantId = track.participantId →
      share = (track.activeVideoTrack == .screenShare && track.screenShareEnabled) →
      Rewrites room actor (.mediaTrackState track atMs) actor participant { participant with
        micEnabled := mic, videoEnabled := video, screenShareEnabled := share }
  | silenced {frame : ModerationFrame} {nowMs admitAtMs : Nat} {target : ConnId}
      {participant : ParticipantState} {mic video share : Bool} :
      (mic = true → participant.micEnabled = true) →
      (video = true → participant.videoEnabled = true) →
      (share = true → participant.screenShareEnabled = true) →
      Rewrites room actor (.moderation frame nowMs admitAtMs) target participant
        { participant with
          micEnabled := mic, videoEnabled := video, screenShareEnabled := share }
  | admitted {frame : ModerationFrame} {nowMs admitAtMs : Nat} {target : ConnId}
      {participant : ParticipantState} : participant.waitingRoomPending = true →
      Rewrites room actor (.moderation frame nowMs admitAtMs) target participant
        (admitParticipant participant)

theorem Rewrites.bill {room : RoomState} {actor connId : ConnId} {op : Operation}
    {old new : ParticipantState} (rewrites : Rewrites room actor op connId old new) :
    billOf new = billOf old := by
  cases rewrites <;> rfl

/-- The assertion survives the edits of an operation of `actor` that finds the
room `start`. -/
structure SurvivesEdits (start : RoomState) (actor : ConnId) (op : Operation)
    (inv : RoomState → Prop) : Prop where
  fields : ∀ {room after : RoomState}, inv room →
    (∀ connId, after.participants.get? connId = room.participants.get? connId) →
    after.e2eeEpochs = room.e2eeEpochs →
    after.keyRotationAckEpochs = room.keyRotationAckEpochs →
    after.deviceCapsByConn = room.deviceCapsByConn →
    after.ratePerMinuteNano = room.ratePerMinuteNano → inv after
  rewritten : ∀ {room : RoomState} {connId : ConnId} {update : ParticipantState → ParticipantState},
    inv room → (∀ participant, room.participants.get? connId = some participant →
      Rewrites start actor op connId participant (update participant)) →
    inv (room.updateParticipant connId update)
  removed : ∀ {room : RoomState} (connId : ConnId), inv room → inv (removeConnection room connId)
  keyed : ∀ {room : RoomState} {connId : ConnId} {epochs : HashMap ConnId Nat}, inv room →
    connId = actor ∨ room.participants.get? connId ≠ none →
    (∀ other, other ≠ connId → epochs.get? other = room.e2eeEpochs.get? other) →
    inv { room with e2eeEpochs := epochs }
  acknowledged : ∀ {room : RoomState} (epoch : Nat), inv room → inv { room with
    keyRotationAckEpochs := room.keyRotationAckEpochs.put actor epoch }
  capable : ∀ {room : RoomState} (cap : DeviceCapabilityFrame), inv room → inv { room with
    deviceCapsByConn := room.deviceCapsByConn.put actor cap }

/-- The operations that move billing cursors. -/
def Operation.movesCursors : Operation → Bool
  | .billing _ | .payment _ _ | .roomConfigUpdate _ _ | .anonHello _ _ _ => true
  | _ => false

namespace SurvivesEdits

variable {hub : HubState} {start room : RoomState} {actor : ConnId} {op : Operation}
  {inv : RoomState → Prop}

theorem enforceSignedActionClock (survives : SurvivesEdits start actor op inv) (holds : inv room)
    {accepted : RoomState} {actionTag signerId timestampLabel : String} {timestampMs : Nat}
    (enforced : enforceSignedActionClock room actionTag signerId timestampLabel timestampMs =
      .ok accepted) : inv accepted := by
  rw [enforceSignedActionClock_ok enforced]
  exact survives.fields holds (fun _ => rfl) rfl rfl rfl rfl

theorem backpressureSection (survives : SurvivesEdits start actor op inv) (holds : inv room)
    (dropped nowMs : Nat) : inv (backpressureSection room dropped nowMs).1 := by
  unfold Hub.backpressureSection
  dsimp only
  split <;> exact survives.fields holds (fun _ => rfl) rfl rfl rfl rfl

theorem groupKeyUpdateSection {update : GroupKeyUpdateFrame}
    (survives : SurvivesEdits room actor (.groupKeyUpdate update) inv) (holds : inv room) :
    inv (groupKeyUpdateSection room actor update).1 := by
  unfold Hub.groupKeyUpdateSection
  split
  · exact holds
  · split
    · exact holds
    · split
      · exact holds
      · split
        · exact holds
        · split
          · exact holds
          · exact holds
          · exact survives.rewritten holds fun _ _ => .rekeyed

theorem escrowProofSection {proof : EscrowProofFrame} {nowMs : Nat}
    (survives : SurvivesEdits room actor (.escrowProof proof nowMs) inv) (holds : inv room) :
    inv (escrowProofSection room actor proof nowMs).1 := by
  unfold Hub.escrowProofSection
  split
  · exact holds
  · dsimp only
    split
    · exact holds
    · exact survives.rewritten holds fun _ _ => .escrowed

theorem claimVacantHost (survives : SurvivesEdits start actor op inv) (holds : inv room)
    (participantId : String) : inv (claimVacantHost room actor participantId) := by
  unfold Hub.claimVacantHost
  split
  · exact survives.fields holds (fun _ => rfl) rfl rfl rfl rfl
  · exact holds

theorem completeJoin (survives : SurvivesEdits start actor op inv) (holds : inv room)
    {connId : ConnId} (present : connId = actor ∨ room.participants.get? connId ≠ none)
    (participantId : String) :
    inv (completeJoin room connId participantId) := by
  have keyed : inv { room with e2eeEpochs := room.e2eeEpochs.orInsert connId 0 } := by
    refine survives.keyed holds present fun other different => ?_
    simp [different]
  unfold Hub.completeJoin restoreReservedRolesOnJoin
  dsimp only
  split <;> split <;> split <;> exact survives.fields keyed (fun _ => rfl) rfl rfl rfl rfl

theorem helloSection {hello : HelloFrame} {snapshotAtMs deltaAtMs : Nat}
    (survives : SurvivesEdits room actor (.hello hello snapshotAtMs deltaAtMs) inv)
    (holds : inv room) : inv (helloSection room actor hello snapshotAtMs deltaAtMs).1 := by
  unfold Hub.helloSection
  split
  · exact holds
  · next mode =>
      split
      · exact holds
      · next allowed =>
          have claimed := survives.claimVacantHost holds hello.participantId
          dsimp only
          split
          · exact claimed
          · next participant found =>
              have rewritten : ∀ waiting, inv ((Hub.claimVacantHost room actor
                  hello.participantId).updateParticipant actor fun _ =>
                    helloParticipant participant hello waiting) := by
                intro waiting
                refine survives.rewritten claimed fun current same => ?_
                rw [found] at same
                cases same
                exact .hello waiting (by simpa using mode) allowed
              split
              · exact rewritten _
              · exact survives.completeJoin (rewritten _) (.inl rfl) _

theorem participantStateSection {update : ParticipantStateFrame} {atMs : Nat}
    (survives : SurvivesEdits room actor (.participantState update atMs) inv)
    (holds : inv room) : inv (participantStateSection room actor update atMs).1 := by
  unfold Hub.participantStateSection
  split
  · exact holds
  · next participant found =>
      split
      · exact holds
      · next joined =>
          split
          · exact holds
          · refine survives.rewritten holds fun current same => ?_
            rw [found] at same
            cases same
            refine .state (by simpa using joined) fun shares => ?_
            split at shares
            · exact .inl shares
            · next permitted =>
                cases requested : update.screenShareEnabled with
                | none =>
                    rw [requested] at shares
                    exact .inl shares
                | some share =>
                    rw [requested] at shares
                    cases shares
                    cases shared : participant.screenShareEnabled with
                    | true => exact .inl rfl
                    | false =>
                        exact .inr (Nat.lt_of_not_le fun full =>
                          permitted ⟨requested, shared, full⟩)

theorem mediaTrackStateSection {track : MediaTrackStateFrame} {atMs : Nat}
    (survives : SurvivesEdits room actor (.mediaTrackState track atMs) inv)
    (holds : inv room) : inv (mediaTrackStateSection room actor track atMs).1 := by
  unfold Hub.mediaTrackStateSection
  split
  · exact holds
  · next participant found =>
      split
      · exact holds
      · next joined =>
          split
          · exact holds
          · next own =>
              refine survives.rewritten holds fun current same => ?_
              rw [found] at same
              cases same
              have joined : participant.helloSeen = true := by simpa using joined
              have own : participant.participantId = track.participantId := by simpa using own
              split <;> next selected => exact .track joined own (by simp [selected])

theorem e2eeKeyEpochSection (survives : SurvivesEdits start actor op inv) (holds : inv room)
    (keyEpoch : E2EEKeyEpochFrame) : inv (e2eeKeyEpochSection hub room actor keyEpoch).1 := by
  unfold Hub.e2eeKeyEpochSection
  dsimp only
  split
  · exact holds
  · exact holds
  · split
    · exact holds
    · next accepted enforced =>
        refine survives.keyed (survives.enforceSignedActionClock holds enforced) (.inl rfl)
          fun other different => ?_
        simp [different]

theorem keyRotationAckSection (survives : SurvivesEdits start actor op inv) (holds : inv room)
    (ack : KeyRotationAckFrame) : inv (keyRotationAckSection room actor ack).1 := by
  unfold Hub.keyRotationAckSection
  dsimp only
  split
  · exact holds
  · exact holds
  · split
    · exact holds
    · next accepted enforced =>
        exact survives.acknowledged _ (survives.enforceSignedActionClock holds enforced)

theorem roleChangeSection (survives : SurvivesEdits start actor op inv)
    {result : RoomState × Except String RoleMutationOutcome} (holds : inv result.1)
    (deltaAtMs : Nat) : inv (roleChangeSection result deltaAtMs).1 := by
  unfold Hub.roleChangeSection
  split
  · exact holds
  · split
    · exact holds
    · exact survives.fields holds (fun _ => rfl) rfl rfl rfl rfl

theorem applyRoleGrant (survives : SurvivesEdits start actor op inv) (holds : inv room)
    (grant : RoleGrantFrame) : inv (applyRoleGrant hub room actor grant).1 := by
  unfold Hub.applyRoleGrant
  split
  · exact holds
  · split
    · exact holds
    · split
      · exact holds
      · split
        · exact holds
        · split
          · exact holds
          · next accepted enforced =>
              have clocked := survives.enforceSignedActionClock holds enforced
              dsimp only
              unfold grantHost grantCoHost
              dsimp only
              split
              · split <;> exact survives.fields clocked (fun _ => rfl) rfl rfl rfl rfl
              · split <;> split <;> exact survives.fields clocked (fun _ => rfl) rfl rfl rfl rfl

theorem applyRoleRevoke (survives : SurvivesEdits start actor op inv) (holds : inv room)
    (revoke : RoleRevokeFrame) : inv (applyRoleRevoke hub room actor revoke).1 := by
  unfold Hub.applyRoleRevoke
  split
  · exact holds
  · split
    · exact holds
    · split
      · exact holds
      · split
        · exact holds
        · next accepted enforced =>
            have clocked := survives.enforceSignedActionClock holds enforced
            dsimp only
            unfold revokeCoHost
            dsimp only
            split <;> exact survives.fields clocked (fun _ => rfl) rfl rfl rfl rfl

theorem applySessionPolicyUpdate (survives : SurvivesEdits start actor op inv) (holds : inv room)
    (update : SessionPolicyFrame) : inv (applySessionPolicyUpdate hub room actor update).1 := by
  unfold Hub.applySessionPolicyUpdate
  split
  · exact holds
  · split
    · exact holds
    · split
      · exact holds
      · split
        · exact holds
        · next accepted enforced =>
            have clocked := survives.enforceSignedActionClock holds enforced
            exact survives.fields clocked (fun _ => rfl) rfl rfl rfl rfl

theorem moderateTarget {frame : ModerationFrame} {nowMs admitAtMs : Nat}
    (survives : SurvivesEdits start actor (.moderation frame nowMs admitAtMs) inv)
    {state : RoomState × ModerationOutcome} (holds : inv state.1) (target : ConnId) :
    inv (moderateTarget frame.action nowMs admitAtMs state target).1 := by
  obtain ⟨room, outcome⟩ := state
  have medium : ∀ off : ParticipantState → ParticipantState,
      (∀ participant, Rewrites start actor (.moderation frame nowMs admitAtMs) target participant
        (off participant)) → inv (disableMedium room target nowMs off outcome).1 := by
    intro off silences
    unfold disableMedium
    split
    · exact holds
    · next participant found =>
        refine survives.rewritten holds fun current present => ?_
        rw [found] at present
        cases present
        exact silences _
  unfold Hub.moderateTarget
  cases frame.action with
  | kick => exact holds
  | disableMic => exact medium _ fun _ => .silenced nofun id id
  | disableVideo => exact medium _ fun _ => .silenced id nofun id
  | disableScreenShare => exact medium _ fun _ => .silenced id id nofun
  | admitFromWaiting =>
      dsimp only
      have admitted : inv (admitWaitingParticipant room target admitAtMs).1 := by
        unfold admitWaitingParticipant
        split
        · exact holds
        · next participant found =>
            split
            · exact holds
            · next waiting =>
              refine survives.completeJoin (survives.rewritten holds fun current same => ?_)
                (.inr ?_) _
              · rw [found] at same
                cases same
                exact .admitted (by simpa using waiting)
              · simp [RoomState.updateParticipant, found]
      split <;> next same => rw [same] at admitted; exact admitted
  | denyFromWaiting =>
      dsimp only
      have denied : inv (denyWaitingParticipant room target).1 := by
        unfold denyWaitingParticipant
        split
        · exact holds
        · split
          · exact holds
          · dsimp only
            split
            · exact survives.fields (survives.removed target holds) (fun _ => rfl) rfl rfl rfl rfl
            · exact survives.removed target holds
      split <;> next same => rw [same] at denied; exact denied

theorem moderationSection {frame : ModerationFrame} {nowMs admitAtMs : Nat}
    (survives : SurvivesEdits room actor (.moderation frame nowMs admitAtMs) inv)
    (holds : inv room) : inv (moderationSection room actor frame nowMs admitAtMs).1 := by
  unfold Hub.moderationSection
  split
  · exact holds
  · split
    · exact holds
    · split
      · exact holds
      · split
        · exact holds
        · next accepted enforced =>
            have clocked : inv accepted := by
              unfold validateModerationSenderClock at enforced
              split at enforced
              · cases enforced
              · exact survives.enforceSignedActionClock holds enforced
            split
            · exact clocked
            · next targets _ =>
                have loop : ∀ (targets : List ConnId) (state : RoomState × ModerationOutcome),
                    inv state.1 → inv
                      (targets.foldl (Hub.moderateTarget frame.action nowMs admitAtMs)
                        state).1 := by
                  intro targets
                  induction targets with
                  | nil => exact fun _ holds => holds
                  | cons target rest ih =>
                      exact fun state holds =>
                        ih _ (survives.moderateTarget holds target)
                exact loop targets (accepted, .empty) clocked

/-- What the operations do that move no cursor. -/
theorem updateRoom (survives : SurvivesEdits room actor op inv)
    (uncharged : op.movesCursors = false) (holds : inv room) :
    inv (op.updateRoom hub actor room) := by
  cases op with
  | billing | payment | roomConfigUpdate | anonHello => cases uncharged
  | connect | disconnect | read | lookup | fanout | trySend | takeMessage | closeChannel =>
      exact holds
  | backpressure dropped nowMs => exact survives.backpressureSection holds dropped nowMs
  | groupKeyUpdate update => exact survives.groupKeyUpdateSection holds
  | escrowProof proof nowMs => exact survives.escrowProofSection holds
  | groupKeyRotate => exact survives.fields holds (fun _ => rfl) rfl rfl rfl rfl
  | hello frame snapshotAtMs deltaAtMs => exact survives.helloSection holds
  | participantState update atMs => exact survives.participantStateSection holds
  | mediaTrackState track atMs => exact survives.mediaTrackStateSection holds
  | roleGrant grant deltaAtMs =>
      exact survives.roleChangeSection (survives.applyRoleGrant holds grant) deltaAtMs
  | roleRevoke revoke deltaAtMs =>
      exact survives.roleChangeSection (survives.applyRoleRevoke holds revoke) deltaAtMs
  | sessionPolicy update => exact survives.applySessionPolicyUpdate holds update
  | deviceCapability cap => exact survives.capable cap holds
  | e2eeKeyEpoch keyEpoch => exact survives.e2eeKeyEpochSection holds keyEpoch
  | keyRotationAck ack => exact survives.keyRotationAckSection holds ack
  | moderation frame nowMs admitAtMs => exact survives.moderationSection holds
  | reorder participants coHosts =>
      refine survives.fields holds (fun connId => ?_) rfl rfl rfl rfl
      simp [Operation.updateRoom]

/-- A disconnect that leaves a room behind, once the connection is taken out. -/
theorem disconnectSection (survives : SurvivesEdits start actor op inv) {connId : ConnId}
    {deltaAtMs leftAtMs : Nat} {after : RoomState}
    (holds : inv (removeConnection
      { room with deviceCapsByConn := room.deviceCapsByConn.remove connId } connId))
    (left : (disconnectSection room connId deltaAtMs leftAtMs).1 = some after) : inv after := by
  unfold Hub.disconnectSection at left
  dsimp only at left
  split at left
  · cases left
  · have presence : ∀ (known : Bool) (current : RoomState), inv current →
        inv (if known then current.bumpPresenceSequence else current) := by
      intro known current holds
      split
      · exact survives.fields holds (fun _ => rfl) rfl rfl rfl rfl
      · exact holds
    cases left
    refine presence _ _ ?_
    split
    · exact survives.fields holds (fun _ => rfl) rfl rfl rfl rfl
    · exact holds

end SurvivesEdits

end Kaigi.Hub
