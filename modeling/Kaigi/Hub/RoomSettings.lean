import Kaigi.Hub.Edits
import Kaigi.Hub.EntriesOnly
import Kaigi.Hub.Trace

/-!
# The settings of a room

What a room keeps about itself rather than about a connection: what a minute costs, how many
screens may be shared, whether it is anonymous, and what it has counted. Three operations write
these fields.
-/

set_option autoImplicit false

namespace Kaigi.Hub

open Collections Wire Interleaving

structure Settings where
  ratePerMinuteNano : Nat
  maxScreenShares : Nat
  backpressureDroppedMessages : Nat
  backpressureLastNoticeAtMs : Nat
  anonAdmissionRejections : Nat
  anonymousMode : Bool

def settingsOf (room : RoomState) : Settings where
  ratePerMinuteNano := room.ratePerMinuteNano
  maxScreenShares := room.maxScreenShares
  backpressureDroppedMessages := room.backpressureDroppedMessages
  backpressureLastNoticeAtMs := room.backpressureLastNoticeAtMs
  anonAdmissionRejections := room.anonAdmissionRejections
  anonymousMode := room.anonymousMode

def Operation.writesSettings : Operation → Bool
  | .backpressure _ _ | .roomConfigUpdate _ _ | .anonHello _ _ _ => true
  | _ => false

section Roles

variable {room : RoomState} {connId : ConnId}

theorem settingsOf_enforceSignedActionClock {accepted : RoomState}
    {actionTag signerId timestampLabel : String} {timestampMs : Nat}
    (enforced : enforceSignedActionClock room actionTag signerId timestampLabel timestampMs =
      .ok accepted) : settingsOf accepted = settingsOf room := by
  rw [enforceSignedActionClock_ok enforced]
  rfl

theorem settingsOf_claimVacantHost (participantId : String) :
    settingsOf (claimVacantHost room connId participantId) = settingsOf room := by
  unfold claimVacantHost
  split <;> rfl

theorem settingsOf_completeJoin (participantId : String) :
    settingsOf (completeJoin room connId participantId) = settingsOf room := by
  unfold completeJoin restoreReservedRolesOnJoin
  dsimp only
  split <;> split <;> split <;> rfl

theorem settingsOf_grantHost (participantId : String) :
    settingsOf (grantHost room connId participantId).1 = settingsOf room := by
  unfold grantHost
  dsimp only
  split <;> rfl

theorem settingsOf_grantCoHost (participantId : String) :
    settingsOf (grantCoHost room connId participantId).1 = settingsOf room := by
  unfold grantCoHost
  dsimp only
  split <;> split <;> rfl

theorem settingsOf_revokeCoHost (participantId : String) :
    settingsOf (revokeCoHost room connId participantId).1 = settingsOf room := by
  unfold revokeCoHost
  dsimp only
  split <;> rfl

theorem settingsOf_roleChangeSection
    (result : RoomState × Except String RoleMutationOutcome) (deltaAtMs : Nat) :
    settingsOf (roleChangeSection result deltaAtMs).1 = settingsOf result.1 := by
  obtain ⟨room, message | outcome⟩ := result
  · rfl
  · unfold roleChangeSection
    dsimp only
    split <;> rfl

theorem settingsOf_applyRoleGrant (hub : HubState) (grant : RoleGrantFrame) :
    settingsOf (applyRoleGrant hub room connId grant).1 = settingsOf room := by
  unfold applyRoleGrant
  split
  · rfl
  · split
    · rfl
    · split
      · rfl
      · split
        · rfl
        · split
          · rfl
          · next accepted enforced =>
              rw [← settingsOf_enforceSignedActionClock enforced]
              dsimp only
              split
              · exact settingsOf_grantHost _
              · exact settingsOf_grantCoHost _

theorem settingsOf_applyRoleRevoke (hub : HubState) (revoke : RoleRevokeFrame) :
    settingsOf (applyRoleRevoke hub room connId revoke).1 = settingsOf room := by
  unfold applyRoleRevoke
  split
  · rfl
  · split
    · rfl
    · split
      · rfl
      · split
        · rfl
        · next accepted enforced =>
            rw [← settingsOf_enforceSignedActionClock enforced]
            exact settingsOf_revokeCoHost _

end Roles

section Sections

variable {room : RoomState} {connId : ConnId}

theorem settingsOf_helloSection (hello : HelloFrame) (snapshotAtMs deltaAtMs : Nat) :
    settingsOf (helloSection room connId hello snapshotAtMs deltaAtMs).1 = settingsOf room := by
  unfold helloSection
  split
  · rfl
  · split
    · rfl
    · dsimp only
      split
      · exact settingsOf_claimVacantHost _
      · split
        · exact settingsOf_claimVacantHost _
        · exact (settingsOf_completeJoin _).trans (settingsOf_claimVacantHost _)

theorem settingsOf_applySessionPolicyUpdate (hub : HubState) (update : SessionPolicyFrame) :
    settingsOf (applySessionPolicyUpdate hub room connId update).1 = settingsOf room := by
  unfold applySessionPolicyUpdate
  split
  · rfl
  · split
    · rfl
    · split
      · rfl
      · split
        · rfl
        · next accepted enforced =>
            rw [← settingsOf_enforceSignedActionClock enforced]
            rfl

theorem settingsOf_e2eeKeyEpochSection (hub : HubState) (keyEpoch : E2EEKeyEpochFrame) :
    settingsOf (e2eeKeyEpochSection hub room connId keyEpoch).1 = settingsOf room := by
  unfold e2eeKeyEpochSection
  dsimp only
  split
  · rfl
  · rfl
  · split
    · rfl
    · next accepted enforced =>
        rw [← settingsOf_enforceSignedActionClock enforced]
        rfl

theorem settingsOf_keyRotationAckSection (ack : KeyRotationAckFrame) :
    settingsOf (keyRotationAckSection room connId ack).1 = settingsOf room := by
  unfold keyRotationAckSection
  dsimp only
  split
  · rfl
  · rfl
  · split
    · rfl
    · next accepted enforced =>
        rw [← settingsOf_enforceSignedActionClock enforced]
        rfl

theorem settingsOf_moderateTarget (action : ModerationAction) (nowMs admitAtMs : Nat)
    (state : RoomState × ModerationOutcome) (target : ConnId) :
    settingsOf (moderateTarget action nowMs admitAtMs state target).1 = settingsOf state.1 := by
  have disabled : ∀ off : ParticipantState → ParticipantState,
      settingsOf (disableMedium state.1 target nowMs off state.2).1 = settingsOf state.1 := by
    intro off
    unfold disableMedium
    split <;> rfl
  have admitted : settingsOf (admitWaitingParticipant state.1 target admitAtMs).1 =
      settingsOf state.1 := by
    unfold admitWaitingParticipant
    split
    · rfl
    · split
      · rfl
      · exact settingsOf_completeJoin _
  have denied : settingsOf (denyWaitingParticipant state.1 target).1 = settingsOf state.1 := by
    unfold denyWaitingParticipant
    split
    · rfl
    · split
      · rfl
      · dsimp only
        split <;> rfl
  unfold moderateTarget
  cases action with
  | kick => rfl
  | disableMic | disableVideo | disableScreenShare => exact disabled _
  | admitFromWaiting =>
      dsimp only
      split <;> next same => rw [same] at admitted; exact admitted
  | denyFromWaiting =>
      dsimp only
      split <;> next same => rw [same] at denied; exact denied

theorem settingsOf_moderationSection (moderation : ModerationFrame) (nowMs admitAtMs : Nat) :
    settingsOf (moderationSection room connId moderation nowMs admitAtMs).1 = settingsOf room := by
  have loop : ∀ (targets : List ConnId) (state : RoomState × ModerationOutcome),
      settingsOf (targets.foldl (moderateTarget moderation.action nowMs admitAtMs) state).1 =
        settingsOf state.1 := by
    intro targets
    induction targets with
    | nil => exact fun _ => rfl
    | cons target rest ih =>
        exact fun state => (ih _).trans (settingsOf_moderateTarget _ _ _ state target)
  unfold moderationSection
  split
  · rfl
  · split
    · rfl
    · split
      · rfl
      · split
        · rfl
        · next accepted enforced =>
            unfold validateModerationSenderClock at enforced
            split at enforced
            · cases enforced
            · rw [← settingsOf_enforceSignedActionClock enforced]
              split
              · rfl
              · exact loop _ _

theorem settingsOf_billingSection (hub : HubState) (nowMs : Nat) :
    settingsOf (billingSection hub room connId nowMs).1 = settingsOf room := by
  unfold billingSection
  split
  · rfl
  · next participant _ =>
      dsimp only
      by_cases skipped : ((room.anonymousMode || participant.anonymousMode) &&
          (if room.anonymousMode || participant.anonymousMode then
            escrowDisconnectMessage hub.billing participant nowMs else none).isNone) = true
      · rw [if_pos skipped]
      · rw [if_neg skipped]
        rfl

/-- Charging and what a connection says about itself leave the settings alone. -/
theorem settingsOf_entries (hub : HubState) {op : Operation} (writes : op.writesEntries = true)
    (keeps : op.writesSettings = false) :
    settingsOf (op.updateRoom hub connId room) = settingsOf room := by
  cases op with
  | billing nowMs => exact settingsOf_billingSection hub nowMs
  | groupKeyUpdate update =>
      simp only [Operation.updateRoom, groupKeyUpdateSection]
      repeat' split
      all_goals rfl
  | escrowProof proof nowMs =>
      simp only [Operation.updateRoom, escrowProofSection]
      repeat' split
      all_goals rfl
  | participantState update atMs =>
      simp only [Operation.updateRoom, participantStateSection]
      repeat' split
      all_goals rfl
  | mediaTrackState track atMs =>
      simp only [Operation.updateRoom, mediaTrackStateSection]
      repeat' split
      all_goals rfl
  | payment payment nowMs =>
      simp only [Operation.updateRoom, paymentSection]
      repeat' split
      all_goals rfl
  | backpressure | roomConfigUpdate => cases keeps
  | _ => cases writes

theorem settingsOf_updateRoom (hub : HubState) {op : Operation}
    (keeps : op.writesSettings = false) :
    settingsOf (op.updateRoom hub connId room) = settingsOf room := by
  cases op with
  | backpressure | roomConfigUpdate | anonHello => cases keeps
  | hello hello snapshotAtMs deltaAtMs => exact settingsOf_helloSection hello _ _
  | roleGrant grant deltaAtMs =>
      exact (settingsOf_roleChangeSection _ _).trans (settingsOf_applyRoleGrant hub grant)
  | roleRevoke revoke deltaAtMs =>
      exact (settingsOf_roleChangeSection _ _).trans (settingsOf_applyRoleRevoke hub revoke)
  | sessionPolicy update => exact settingsOf_applySessionPolicyUpdate hub update
  | e2eeKeyEpoch keyEpoch => exact settingsOf_e2eeKeyEpochSection hub keyEpoch
  | keyRotationAck ack => exact settingsOf_keyRotationAckSection ack
  | moderation moderation nowMs admitAtMs => exact settingsOf_moderationSection moderation _ _
  | billing | groupKeyUpdate | escrowProof | participantState | mediaTrackState | payment =>
      exact settingsOf_entries hub rfl keeps
  | _ => rfl

theorem settingsOf_disconnectSection {after : RoomState} {deltaAtMs leftAtMs : Nat}
    (left : (disconnectSection room connId deltaAtMs leftAtMs).1 = some after) :
    settingsOf after = settingsOf room := by
  unfold disconnectSection at left
  dsimp only at left
  split at left
  · cases left
  · have presence : ∀ (known : Bool) (current : RoomState),
        settingsOf (if known then current.bumpPresenceSequence else current) =
          settingsOf current := by
      intro known current
      cases known <;> rfl
    cases left
    refine (presence _ _).trans ?_
    split <;> rfl

end Sections

/-! ### What a step can do -/

/-- What an operation of `connId` makes of the settings of the room. -/
inductive SettingsStep (hub : HubState) (room : RoomState) (connId : ConnId) :
    Operation → Settings → Prop where
  | kept {op : Operation} : (∀ dropped nowMs, op ≠ .backpressure dropped nowMs) →
      (∀ update nowMs, op = .roomConfigUpdate update nowMs →
        ¬ (room.helloSeen connId = true ∧ room.hostConnId = some connId)) →
      SettingsStep hub room connId op (settingsOf room)
  | quiet {dropped nowMs : Nat} :
      nowMs - room.backpressureLastNoticeAtMs < backpressureNoticeMinIntervalMs →
      SettingsStep hub room connId (.backpressure dropped nowMs)
        { settingsOf room with
          backpressureDroppedMessages :=
            saturatingAdd room.backpressureDroppedMessages dropped }
  | noticed {dropped nowMs : Nat} :
      backpressureNoticeMinIntervalMs ≤ nowMs - room.backpressureLastNoticeAtMs →
      SettingsStep hub room connId (.backpressure dropped nowMs)
        { settingsOf room with
          backpressureDroppedMessages := saturatingAdd room.backpressureDroppedMessages dropped
          backpressureLastNoticeAtMs := nowMs }
  | configured {update : RoomConfigUpdateFrame} {nowMs : Nat} :
      room.helloSeen connId = true → room.hostConnId = some connId →
      SettingsStep hub room connId (.roomConfigUpdate update nowMs)
        { settingsOf room with
          ratePerMinuteNano := (update.ratePerMinuteNano.map fun rate =>
            normalizeRateForPolicy rate hub.allowFreeCalls).getD room.ratePerMinuteNano
          maxScreenShares :=
            (update.maxScreenShares.map fun limit => max limit 1).getD room.maxScreenShares }
  | turnedAway {hello : AnonHelloFrame} {nowMs rosterAtMs : Nat} :
      validateAnonymousRoomCapacity room connId hub.anonMaxParticipants ≠ none →
      SettingsStep hub room connId (.anonHello hello nowMs rosterAtMs)
        { settingsOf room with
          anonAdmissionRejections := saturatingAdd room.anonAdmissionRejections 1 }
  | surcharged {hello : AnonHelloFrame} {nowMs rosterAtMs rate : Nat} :
      room.anonymousMode = false →
      applyAnonymousZkSurcharge room.ratePerMinuteNano
        hub.billing.anonZkExtraFeePerMinuteNano = .ok rate →
      SettingsStep hub room connId (.anonHello hello nowMs rosterAtMs)
        { settingsOf room with ratePerMinuteNano := rate, anonymousMode := true }

section Steps

variable {hub : HubState} {room : RoomState} {connId : ConnId}

theorem roomConfigUpdateSection_settingsStep (update : RoomConfigUpdateFrame) (nowMs : Nat) :
    SettingsStep hub room connId (.roomConfigUpdate update nowMs)
      (settingsOf (roomConfigUpdateSection hub room connId update nowMs).1) := by
  have refused (unmet : ¬ (room.helloSeen connId = true ∧ room.hostConnId = some connId)) :
      SettingsStep hub room connId (.roomConfigUpdate update nowMs) (settingsOf room) :=
    .kept (fun _ _ same => by cases same) fun _ _ _ => unmet
  unfold roomConfigUpdateSection
  split
  · next missing => exact refused fun met => by simp [RoomState.helloSeen, missing] at met
  · next sender found =>
      by_cases joined : sender.helloSeen = true
      · rw [if_neg (by simp [joined])]
        by_cases hosts : room.hostConnId = some connId
        · rw [if_neg (not_not.mpr hosts)]
          exact .configured (by simp [RoomState.helloSeen, found, joined]) hosts
        · rw [if_pos hosts]
          exact refused fun met => hosts met.2
      · rw [if_pos (by simpa using joined)]
        exact refused fun met => by simp [RoomState.helloSeen, found, joined] at met

/-- An announcement keeps the settings that the room enters the anonymous mode with. -/
theorem settingsOf_announceAnonHello (hello : AnonHelloFrame) (nowMs rosterAtMs : Nat)
    (enter : RoomState → RoomState) (settings : Settings)
    (entered : ∀ update : ParticipantState → ParticipantState,
      settingsOf (enter (room.updateParticipant connId update)) = settings) :
    settingsOf (announceAnonHello hub room connId hello nowMs rosterAtMs enter).1 =
      settingsOf room ∨
      settingsOf (announceAnonHello hub room connId hello nowMs rosterAtMs enter).1 = settings := by
  unfold announceAnonHello
  split
  · exact .inl rfl
  · split
    · exact .inl rfl
    · exact .inr (entered _)

theorem anonHelloSection_settingsStep (hello : AnonHelloFrame) (nowMs rosterAtMs : Nat) :
    SettingsStep hub room connId (.anonHello hello nowMs rosterAtMs)
      (settingsOf (anonHelloSection hub room connId hello nowMs rosterAtMs).1) := by
  have kept : SettingsStep hub room connId (.anonHello hello nowMs rosterAtMs)
      (settingsOf room) :=
    .kept (fun _ _ same => by cases same) fun _ _ same => by cases same
  unfold anonHelloSection
  split
  · exact kept
  · split
    · next message full => exact .turnedAway (by rw [full]; exact Option.some_ne_none message)
    · by_cases anonymous : room.anonymousMode = true
      · rw [if_neg (by simp [anonymous])]
        rcases settingsOf_announceAnonHello hello nowMs rosterAtMs id (settingsOf room)
          fun _ => rfl with same | same <;> rw [same] <;> exact kept
      · rw [if_pos (by simpa using anonymous)]
        split
        · exact kept
        · split
          · exact kept
          · next rate surcharge =>
              rcases settingsOf_announceAnonHello hello nowMs rosterAtMs
                (fun room => { room with ratePerMinuteNano := rate, anonymousMode := true })
                { settingsOf room with ratePerMinuteNano := rate, anonymousMode := true }
                fun _ => rfl with same | same <;> rw [same]
              · exact kept
              · exact .surcharged (by simpa using anonymous) surcharge

theorem updateRoom_settingsStep (op : Operation) :
    SettingsStep hub room connId op (settingsOf (op.updateRoom hub connId room)) := by
  cases writes : op.writesSettings with
  | false =>
      rw [settingsOf_updateRoom hub writes]
      refine .kept ?_ ?_
      · rintro dropped nowMs rfl
        cases writes
      · rintro update nowMs rfl
        cases writes
  | true =>
      cases op with
      | backpressure dropped nowMs =>
          simp only [Operation.updateRoom, backpressureSection]
          split
          · next due => exact .noticed due
          · next early => exact .quiet (Nat.lt_of_not_le early)
      | roomConfigUpdate update nowMs => exact roomConfigUpdateSection_settingsStep update nowMs
      | anonHello hello nowMs rosterAtMs =>
          exact anonHelloSection_settingsStep hello nowMs rosterAtMs
      | _ => cases writes

end Steps

/-- What an event makes of the settings of a room that was there. -/
theorem Event.settingsStep {hub : HubState} {event : Event} {room after : RoomState}
    (found : event.before.room = some room) (left : (event.after hub).room = some after) :
    SettingsStep hub room event.connId event.op (settingsOf after) := by
  obtain ⟨actor, task, op, state⟩ := event
  dsimp only at found
  unfold Event.after at left
  cases op with
  | connect connectedAtMs =>
      simp only [Operation.apply, HubRoom.updateChannel, found, Option.getD_some,
        Option.some.injEq] at left
      rw [← left]
      exact .kept (fun _ _ same => by cases same) fun _ _ same => by cases same
  | disconnect deltaAtMs leftAtMs =>
      simp only [Operation.apply, found, Option.bind_some] at left
      rw [settingsOf_disconnectSection left]
      exact .kept (fun _ _ same => by cases same) fun _ _ same => by cases same
  | trySend | takeMessage | closeChannel =>
      simp only [Operation.apply, HubRoom.updateChannel, found, Option.some.injEq] at left
      rw [← left]
      exact .kept (fun _ _ same => by cases same) fun _ _ same => by cases same
  | _ =>
      simp only [Operation.apply, found, Option.map_some, Option.some.injEq] at left
      rw [← left]
      exact updateRoom_settingsStep _

/-- A room opens with the settings of the hub. -/
theorem Event.settings_opened {hub : HubState} {event : Event} {after : RoomState}
    (closed : event.before.room = none) (left : (event.after hub).room = some after) :
    settingsOf after = settingsOf (emptyRoom hub) := by
  obtain ⟨actor, task, op, state⟩ := event
  dsimp only at closed
  unfold Event.after at left
  cases op with
  | connect connectedAtMs =>
      simp only [Operation.apply, HubRoom.updateChannel, closed, Option.getD_none,
        Option.some.injEq] at left
      rw [← left]
      rfl
  | disconnect | trySend | takeMessage | closeChannel =>
      simp [Operation.apply, HubRoom.updateChannel, closed] at left
  | _ => simp [Operation.apply, closed] at left

end Kaigi.Hub
