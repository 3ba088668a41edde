import Kaigi.Hub.EntriesOnly
import Kaigi.Hub.Identities
import Kaigi.Replication.ChangeLog

/-!
# Presence log

The hub keeps who has joined in its map of connections and publishes every
change as a presence delta with the next sequence number. Replaying the deltas
of a room gives who has joined, unless a connection leaves under an id that it
has never joined with.
-/

set_option autoImplicit false

namespace Kaigi.Hub

open Collections Wire Interleaving Authority Replication

/-- The participant ids of the joined connections. -/
def joinedIds (room : RoomState) : Finset String :=
  ((room.participants.values.filter (·.helloSeen)).map (·.participantId)).toFinset

def keeperOf (room : RoomState) : Keeper String :=
  ⟨joinedIds room, room.presenceSequence⟩

def changeOf (delta : ParticipantPresenceDeltaFrame) : Change String where
  number := delta.sequence
  joined := delta.joined.map (·.participantId)
  left := delta.left.map (·.participantId)

def HelloOutcome.presenceDeltas : HelloOutcome → List ParticipantPresenceDeltaFrame
  | .joined _ presenceDelta => [presenceDelta]
  | _ => []

def ModerationOutcome.presenceDeltas (outcome : ModerationOutcome) :
    List ParticipantPresenceDeltaFrame :=
  outcome.admittedOutcomes.map (·.presenceDelta)

def moderationDeltas : Option (Except String ModerationOutcome) →
    List ParticipantPresenceDeltaFrame
  | some (.ok outcome) => outcome.presenceDeltas
  | _ => []

def roleChangeDeltas
    (result : Except String (RoleMutationOutcome × Option ParticipantPresenceDeltaFrame)) :
    List ParticipantPresenceDeltaFrame :=
  match result with
  | .ok (_, presenceDelta) => presenceDelta.toList
  | .error _ => []

/-- The presence deltas that the critical section of an operation numbers. -/
def Operation.presenceDeltas (hub : HubState) (connId : ConnId) (op : Operation)
    (room : RoomState) : List ParticipantPresenceDeltaFrame :=
  match op with
  | .hello frame snapshotAtMs deltaAtMs =>
      (helloSection room connId frame snapshotAtMs deltaAtMs).2.presenceDeltas
  | .roleGrant grant deltaAtMs =>
      roleChangeDeltas (roleGrantSection hub room connId grant deltaAtMs).2
  | .roleRevoke revoke deltaAtMs =>
      roleChangeDeltas (roleRevokeSection hub room connId revoke deltaAtMs).2
  | .moderation frame nowMs admitAtMs =>
      moderationDeltas (moderationSection room connId frame nowMs admitAtMs).2
  | .disconnect deltaAtMs leftAtMs =>
      (disconnectSection room connId deltaAtMs leftAtMs).2.presenceDelta.toList
  | _ => []

/-- The presence deltas of the room since it was opened, in the order in which they
were numbered. -/
def presenceLog (hub : HubState) : List Event → List ParticipantPresenceDeltaFrame
  | [] => []
  | event :: earlier =>
      if (event.after hub).room.isNone then []
      else presenceLog hub earlier ++
        event.before.room.elim [] (event.op.presenceDeltas hub event.connId)

/-! ### The joined ids -/

theorem mem_joinedIds {room : RoomState} {id : String} :
    id ∈ joinedIds room ↔ ∃ connId participant,
      room.participants.get? connId = some participant ∧ participant.helloSeen = true ∧
        participant.participantId = id := by
  simp only [joinedIds, List.mem_toFinset, List.mem_map, List.mem_filter, HashMap.mem_values]
  constructor
  · rintro ⟨participant, ⟨⟨connId, found⟩, joined⟩, same⟩
    exact ⟨connId, participant, found, joined, same⟩
  · rintro ⟨connId, participant, found, joined, same⟩
    exact ⟨participant, ⟨⟨connId, found⟩, joined⟩, same⟩

theorem mem_joinedIds_groupOf {room : RoomState} {id : String} :
    id ∈ joinedIds room ↔ ∃ connId member, (groupOf room).members connId = some member ∧
      member.joined = true ∧ member.id = id := by
  rw [mem_joinedIds]
  simp only [members_groupOf_eq_some]
  constructor
  · rintro ⟨connId, participant, found, joined, same⟩
    exact ⟨connId, _, ⟨participant, found, rfl⟩, joined, same⟩
  · rintro ⟨connId, _, ⟨participant, found, rfl⟩, joined, same⟩
    exact ⟨connId, participant, found, joined, same⟩

theorem joinedIds_of_members {room after : RoomState}
    (same : (groupOf after).members = (groupOf room).members) :
    joinedIds after = joinedIds room := by
  ext id
  rw [mem_joinedIds_groupOf, mem_joinedIds_groupOf, same]

/-- Somebody joins, or joins again under its own id. -/
theorem joinedIds_joins {room : RoomState} {connId : ConnId} {old new : ParticipantState}
    (found : room.participants.get? connId = some old) (joins : new.helloSeen = true)
    (same : old.helloSeen = true → old.participantId = new.participantId) :
    joinedIds (room.updateParticipant connId fun _ => new) =
      insert new.participantId (joinedIds room) := by
  ext id
  rw [Finset.mem_insert, mem_joinedIds, mem_joinedIds]
  simp only [RoomState.updateParticipant, HashMap.get?_modify]
  constructor
  · rintro ⟨other, participant, present, joined, named⟩
    split at present
    · next here =>
        subst here
        rw [found] at present
        cases present
        exact .inl named.symm
    · exact .inr ⟨other, participant, present, joined, named⟩
  · rintro (rfl | ⟨other, participant, present, joined, named⟩)
    · exact ⟨connId, new, by simp [found], joins, rfl⟩
    · by_cases here : other = connId
      · subst here
        rw [found] at present
        cases present
        exact ⟨other, new, by simp [found], joins, (same joined).symm.trans named⟩
      · exact ⟨other, participant, by simp [here, present], joined, named⟩

/-- Only a connection is touched that has joined neither before nor afterwards. -/
theorem joinedIds_elsewhere {room after : RoomState} (connId : ConnId)
    (notYet : room.helloSeen connId = false) (still : after.helloSeen connId = false)
    (others : ∀ other, other ≠ connId →
      after.participants.get? other = room.participants.get? other) :
    joinedIds after = joinedIds room := by
  have outsider : ∀ {current : RoomState} {other : ConnId} {participant : ParticipantState},
      current.helloSeen connId = false → current.participants.get? other = some participant →
      participant.helloSeen = true → other ≠ connId := by
    rintro current other participant apart present joined rfl
    simp [RoomState.helloSeen, present, joined] at apart
  ext id
  rw [mem_joinedIds, mem_joinedIds]
  constructor
  · rintro ⟨other, participant, present, joined, named⟩
    rw [others other (outsider still present joined)] at present
    exact ⟨other, participant, present, joined, named⟩
  · rintro ⟨other, participant, present, joined, named⟩
    rw [← others other (outsider notYet present joined)] at present
    exact ⟨other, participant, present, joined, named⟩

/-- A connection goes whose id nobody else has joined with. -/
theorem joinedIds_leaves {room : RoomState} {connId : ConnId} {participant : ParticipantState}
    (found : room.participants.get? connId = some participant)
    (own : ∀ other current, other ≠ connId → room.participants.get? other = some current →
      current.helloSeen = true → current.participantId ≠ participant.participantId) :
    joinedIds (removeConnection room connId) = joinedIds room \ {participant.participantId} := by
  ext id
  rw [Finset.mem_sdiff, Finset.mem_singleton, mem_joinedIds, mem_joinedIds]
  simp only [removeConnection, HashMap.get?_remove]
  constructor
  · rintro ⟨other, current, present, joined, rfl⟩
    split at present
    · cases present
    · next different =>
        exact ⟨⟨other, current, present, joined, rfl⟩, own other current different present joined⟩
  · rintro ⟨⟨other, current, present, joined, rfl⟩, distinct⟩
    refine ⟨other, current, ?_, joined, rfl⟩
    rw [if_neg]
    · exact present
    · rintro rfl
      rw [found] at present
      cases present
      exact distinct rfl

/-- Somebody who has not joined is taken out. -/
theorem joinedIds_stray {room : RoomState} {connId : ConnId}
    (notYet : room.helloSeen connId = false) :
    joinedIds (removeConnection room connId) = joinedIds room := by
  refine joinedIds_elsewhere connId notYet ?_ fun other different => ?_
  · simp [RoomState.helloSeen, removeConnection]
  · simp [removeConnection, different]

/-! ### Joining -/

theorem keeperOf_claimVacantHost (room : RoomState) (connId : ConnId) (participantId : String) :
    keeperOf (claimVacantHost room connId participantId) = keeperOf room := by
  unfold claimVacantHost
  split <;> rfl

theorem keeperOf_completeJoin (room : RoomState) (connId : ConnId) (participantId : String) :
    keeperOf (completeJoin room connId participantId) =
      ⟨joinedIds room, saturatingAdd room.presenceSequence 1⟩ := by
  unfold completeJoin restoreReservedRolesOnJoin
  dsimp only
  split <;> split <;> split <;> rfl

theorem publishes_join {room : RoomState} {connId : ConnId} {old : ParticipantState}
    (new : ParticipantState) (found : room.participants.get? connId = some old)
    (joins : new.helloSeen = true)
    (same : old.helloSeen = true → old.participantId = new.participantId)
    (participantId : String) (snapshotAtMs deltaAtMs : Nat) :
    let joined := completeJoin (room.updateParticipant connId fun _ => new) connId participantId
    Publishes u64Max (keeperOf room)
      [changeOf (joinedDelta joined (participantSnapshotFromState new snapshotAtMs) deltaAtMs)]
      (keeperOf joined) := by
  intro joined
  have kept : keeperOf joined = ⟨insert new.participantId (joinedIds room),
      saturatingAdd room.presenceSequence 1⟩ := by
    rw [keeperOf_completeJoin, joinedIds_joins found joins same]
    rfl
  refine .one ?_ ?_ rfl
  · exact congrArg Keeper.last kept
  · rw [kept]
    exact (Change.apply_joins _ _ _).symm

theorem helloSection_publishes (room : RoomState) (connId : ConnId) (hello : HelloFrame)
    (snapshotAtMs deltaAtMs : Nat) :
    Publishes u64Max (keeperOf room)
      ((helloSection room connId hello snapshotAtMs deltaAtMs).2.presenceDeltas.map changeOf)
      (keeperOf (helloSection room connId hello snapshotAtMs deltaAtMs).1) := by
  unfold helloSection
  split
  · exact .nothing
  · split
    · exact .nothing
    · next allowed =>
        have claimed := keeperOf_claimVacantHost room connId hello.participantId
        have participants := participants_claimVacantHost room connId hello.participantId
        dsimp only
        split
        · exact .unchanged claimed
        · next participant found =>
            split
            · next waits =>
                have notYet :
                    (claimVacantHost room connId hello.participantId).helloSeen connId = false := by
                  simp only [routeToWaitingRoom, Bool.and_eq_true, Bool.not_eq_true'] at waits
                  exact waits.1.1.1
                refine .unchanged ?_
                rw [← claimed]
                unfold keeperOf
                rw [joinedIds_elsewhere connId notYet ?_ fun other different => ?_]
                · rfl
                · simp [RoomState.helloSeen, RoomState.updateParticipant, found, helloParticipant,
                    waits]
                · simp [RoomState.updateParticipant, different]
            · next joins =>
                rw [← claimed]
                refine publishes_join _ found (by simp [helloParticipant, joins]) ?_ _ _ _
                rw [participants] at found
                exact validateJoinAllowed_same allowed found

/-! ### Waiting -/

/-- Whoever waits has not joined. -/
def Exclusive (room : RoomState) : Prop :=
  ∀ connId participant, room.participants.get? connId = some participant →
    participant.waitingRoomPending = true → participant.helloSeen = false

theorem exclusive_of_orderly {room : RoomState} (orderly : Orderly (groupOf room)) :
    Exclusive room := by
  intro connId participant found waiting
  by_contra joined
  have exclusive :=
    orderly.exclusive connId _ (members_groupOf found) (by simpa [memberOf] using joined)
  cases waiting.symm.trans exclusive

theorem Rewrites.exclusive {room : RoomState} {actor connId : ConnId} {op : Operation}
    {old new : ParticipantState} (rewrites : Rewrites room actor op connId old new)
    (exclusive : old.waitingRoomPending = true → old.helloSeen = false)
    (waiting : new.waitingRoomPending = true) : new.helloSeen = false := by
  cases rewrites with
  | hello => simpa [helloParticipant] using waiting
  | rekeyed | escrowed | state | track | silenced => exact exclusive waiting
  | admitted => cases waiting

theorem exclusive_survives (start : RoomState) (actor : ConnId) (op : Operation) :
    SurvivesEdits start actor op Exclusive where
  fields exclusive participants _ _ _ _ := by
    intro connId participant found
    rw [participants] at found
    exact exclusive connId participant found
  rewritten exclusive rewrites := by
    intro connId participant found waiting
    simp only [RoomState.updateParticipant, HashMap.get?_modify] at found
    split at found
    · next rewritten =>
        subst rewritten
        obtain ⟨old, present, rfl⟩ := Option.map_eq_some_iff.mp found
        exact (rewrites old present).exclusive (exclusive connId old present) waiting
    · exact exclusive connId participant found waiting
  removed target exclusive := by
    intro connId participant found
    simp only [removeConnection, HashMap.get?_remove] at found
    split at found
    · cases found
    · exact exclusive connId participant found
  keyed exclusive _ _ := exclusive
  acknowledged _ exclusive := exclusive
  capable _ exclusive := exclusive

theorem admitWaitingParticipant_publishes (room : RoomState) (target : ConnId) (atMs : Nat) :
    (∀ admitted, (admitWaitingParticipant room target atMs).2 = .ok admitted →
      Publishes u64Max (keeperOf room) [changeOf admitted.presenceDelta]
        (keeperOf (admitWaitingParticipant room target atMs).1)) ∧
    (∀ message, (admitWaitingParticipant room target atMs).2 = .error message →
      keeperOf (admitWaitingParticipant room target atMs).1 = keeperOf room) := by
  unfold admitWaitingParticipant
  split
  · exact ⟨nofun, fun _ _ => rfl⟩
  · next participant found =>
      split
      · exact ⟨nofun, fun _ _ => rfl⟩
      · refine ⟨?_, nofun⟩
        rintro _ ⟨⟩
        exact publishes_join (admitParticipant participant) found rfl (fun _ => rfl) _ _ _

theorem keeperOf_denyWaitingParticipant {room : RoomState} (exclusive : Exclusive room)
    (target : ConnId) : keeperOf (denyWaitingParticipant room target).1 = keeperOf room := by
  unfold denyWaitingParticipant
  split
  · rfl
  · next participant found =>
      split
      · rfl
      · next waiting =>
          have notYet : room.helloSeen target = false := by
            simpa [RoomState.helloSeen, found] using
              exclusive target participant found (by simpa using waiting)
          have removed : keeperOf (removeConnection room target) = keeperOf room :=
            congrArg (Keeper.mk · _) (joinedIds_stray notYet)
          dsimp only
          split
          · exact removed
          · exact removed

theorem keeperOf_disableMedium {room : RoomState} {target : ConnId} {nowMs : Nat}
    {off : ParticipantState → ParticipantState} {outcome : ModerationOutcome}
    (same : ∀ participant, memberOf (off participant) = memberOf participant) :
    keeperOf (disableMedium room target nowMs off outcome).1 = keeperOf room := by
  refine Keeper.ext (joinedIds_of_members ?_) ?_
  · rw [groupOf_disableMedium same]
  · unfold disableMedium
    split <;> rfl

/-! ### Moderation -/

theorem moderateTarget_publishes {action : ModerationAction} {nowMs admitAtMs : Nat}
    {state : RoomState × ModerationOutcome} {before : Keeper String}
    (exclusive : Exclusive state.1)
    (published : Publishes u64Max before (state.2.presenceDeltas.map changeOf)
      (keeperOf state.1)) (target : ConnId) :
    Publishes u64Max before
      ((moderateTarget action nowMs admitAtMs state target).2.presenceDeltas.map changeOf)
      (keeperOf (moderateTarget action nowMs admitAtMs state target).1) := by
  obtain ⟨room, outcome⟩ := state
  have medium : ∀ off : ParticipantState → ParticipantState,
      (∀ participant, memberOf (off participant) = memberOf participant) →
      Publishes u64Max before
        ((disableMedium room target nowMs off outcome).2.presenceDeltas.map changeOf)
        (keeperOf (disableMedium room target nowMs off outcome).1) := by
    intro off same
    rw [keeperOf_disableMedium same]
    unfold disableMedium
    split <;> exact published
  unfold moderateTarget
  cases action with
  | kick => exact published
  | disableMic | disableVideo | disableScreenShare => exact medium _ fun _ => rfl
  | admitFromWaiting =>
      obtain ⟨admits, refuses⟩ := admitWaitingParticipant_publishes room target admitAtMs
      dsimp only
      split
      · next same =>
          rw [same] at admits
          have further := admits _ rfl
          simp only [ModerationOutcome.presenceDeltas, List.map_append, List.map_cons,
            List.map_nil] at published ⊢
          exact published.trans further
      · next same =>
          rw [same] at refuses
          rw [← refuses _ rfl] at published
          exact published
  | denyFromWaiting =>
      have denied := keeperOf_denyWaitingParticipant exclusive target
      dsimp only
      split <;> next same => rw [same] at denied; rw [← denied] at published; exact published

theorem keeperOf_clocked {room accepted : RoomState} {connId : ConnId}
    {moderation : ModerationFrame}
    (enforced : validateModerationSenderClock room connId moderation = .ok accepted) :
    keeperOf accepted = keeperOf room := by
  unfold validateModerationSenderClock at enforced
  split at enforced
  · cases enforced
  · rw [enforceSignedActionClock_ok enforced]
    rfl

theorem moderationSection_publishes {room : RoomState} (exclusive : Exclusive room)
    (connId : ConnId) (frame : ModerationFrame) (nowMs admitAtMs : Nat) :
    Publishes u64Max (keeperOf room)
      ((moderationDeltas (moderationSection room connId frame nowMs admitAtMs).2).map changeOf)
      (keeperOf (moderationSection room connId frame nowMs admitAtMs).1) := by
  unfold moderationSection
  split
  · exact .nothing
  · split
    · exact .nothing
    · split
      · exact .nothing
      · split
        · exact .nothing
        · next accepted enforced =>
            have clocked := keeperOf_clocked enforced
            have exclusive : Exclusive accepted := by
              unfold Exclusive
              rw [(validateModerationSenderClock_ok enforced).2]
              exact exclusive
            rw [← clocked]
            split
            · exact .nothing
            · next targets _ =>
                have survives := exclusive_survives room connId (.moderation frame nowMs admitAtMs)
                have loop : ∀ (targets : List ConnId) (state : RoomState × ModerationOutcome),
                    Exclusive state.1 →
                    Publishes u64Max (keeperOf accepted)
                      (state.2.presenceDeltas.map changeOf) (keeperOf state.1) →
                    Publishes u64Max (keeperOf accepted)
                      ((targets.foldl (moderateTarget frame.action nowMs admitAtMs)
                        state).2.presenceDeltas.map changeOf)
                      (keeperOf (targets.foldl (moderateTarget frame.action nowMs admitAtMs)
                        state).1) := by
                  intro targets
                  induction targets with
                  | nil => exact fun _ _ published => published
                  | cons target rest ih =>
                      exact fun state exclusive published =>
                        ih _ (survives.moderateTarget exclusive target)
                          (moderateTarget_publishes exclusive published target)
                exact loop targets (accepted, .empty) exclusive .nothing

/-! ### Role changes -/

theorem roleChangeSection_publishes {room : RoomState}
    {result : RoomState × Except String RoleMutationOutcome}
    (same : keeperOf result.1 = keeperOf room) (deltaAtMs : Nat) :
    Publishes u64Max (keeperOf room)
      ((roleChangeDeltas (roleChangeSection result deltaAtMs).2).map changeOf)
      (keeperOf (roleChangeSection result deltaAtMs).1) := by
  rw [← same]
  unfold roleChangeSection
  split
  · exact .nothing
  · split
    · exact .nothing
    · refine .one rfl ?_ rfl
      exact (Change.apply_nothing _ _).symm

theorem keeperOf_applyRoleGrant (hub : HubState) (room : RoomState) (connId : ConnId)
    (grant : RoleGrantFrame) :
    keeperOf (applyRoleGrant hub room connId grant).1 = keeperOf room := by
  unfold applyRoleGrant
  split
  · rfl
  · split
    · rfl
    · split
      · rfl
      · split
        · rfl
        · split
          · rfl
          · next enforced =>
              rw [enforceSignedActionClock_ok enforced]
              dsimp only
              unfold grantHost grantCoHost
              dsimp only
              split
              · split <;> rfl
              · split <;> split <;> rfl

theorem keeperOf_applyRoleRevoke (hub : HubState) (room : RoomState) (connId : ConnId)
    (revoke : RoleRevokeFrame) :
    keeperOf (applyRoleRevoke hub room connId revoke).1 = keeperOf room := by
  unfold applyRoleRevoke
  split
  · rfl
  · split
    · rfl
    · split
      · rfl
      · split
        · rfl
        · next enforced =>
            rw [enforceSignedActionClock_ok enforced]
            dsimp only
            unfold revokeCoHost
            dsimp only
            split <;> rfl

/-! ### Leaving -/

/-- The room that a disconnect leaves behind, and the delta that goes with it. -/
theorem disconnectSection_delta {room after : RoomState} {connId : ConnId}
    {deltaAtMs leftAtMs : Nat} (transparent : room.anonymousMode = false)
    (left : (disconnectSection room connId deltaAtMs leftAtMs).1 = some after) :
    ∃ current, keeperOf current = ⟨joinedIds (removeConnection room connId),
        room.presenceSequence⟩ ∧ current.anonymousMode = false ∧
      after = (if (room.participants.get? connId).isSome then current.bumpPresenceSequence
        else current) ∧
      (disconnectSection room connId deltaAtMs leftAtMs).2.presenceDelta =
        (room.participants.get? connId).map fun participant => {
          atMs := deltaAtMs
          sequence := after.presenceSequence
          joined := []
          left := [{ atMs := leftAtMs, participantId := participant.participantId }]
          roleChanges := [] } := by
  have succeeds : ∀ (changed : Bool) (current : RoomState),
      keeperOf (if changed then (succeedHost current).bumpPermissionsEpoch else current) =
          keeperOf current ∧
        (if changed then (succeedHost current).bumpPermissionsEpoch else current).anonymousMode =
          current.anonymousMode := by
    intro changed current
    split <;> exact ⟨rfl, rfl⟩
  unfold disconnectSection at left ⊢
  dsimp only at left ⊢
  split at left
  · cases left
  · next remains =>
      rw [if_neg remains]
      cases left
      let bare := removeConnection
        { room with deviceCapsByConn := room.deviceCapsByConn.remove connId } connId
      have mode : bare.anonymousMode = false := transparent
      refine ⟨if !bare.anonymousMode && bare.hostConnId == some connId then
        (succeedHost bare).bumpPermissionsEpoch else bare, (succeeds _ bare).1,
          (succeeds _ bare).2.trans mode, ?_, ?_⟩
      · rw [(succeeds _ bare).2, mode]
        simp only [Bool.false_eq_true, if_false, Option.isSome_map, Bool.not_false, Bool.true_and]
        rfl
      · dsimp only
        rw [(succeeds _ bare).2, mode]
        simp only [Bool.false_eq_true, if_false, Option.map_map, Bool.not_false, Bool.true_and]
        rfl

/-- A leaving connection takes exactly its own id with it if nobody else has joined
with that id. -/
theorem disconnectSection_publishes {room after : RoomState} {connId : ConnId}
    {deltaAtMs leftAtMs : Nat} (transparent : room.anonymousMode = false)
    (own : ∀ participant other current, room.participants.get? connId = some participant →
      other ≠ connId → room.participants.get? other = some current →
        current.helloSeen = true → current.participantId ≠ participant.participantId)
    (left : (disconnectSection room connId deltaAtMs leftAtMs).1 = some after) :
    Publishes u64Max (keeperOf room)
      ((disconnectSection room connId deltaAtMs leftAtMs).2.presenceDelta.toList.map changeOf)
      (keeperOf after) := by
  obtain ⟨current, kept, _, rfl, delta⟩ := disconnectSection_delta transparent left
  rw [delta]
  have sequence : current.presenceSequence = room.presenceSequence := congrArg Keeper.last kept
  have members : joinedIds current = joinedIds (removeConnection room connId) :=
    congrArg Keeper.members kept
  cases found : room.participants.get? connId with
  | none =>
      refine .unchanged ?_
      rw [if_neg (by simp), kept, joinedIds_stray (by simp [RoomState.helloSeen, found])]
      rfl
  | some participant =>
      refine .one ?_ ?_ rfl
      · change saturatingAdd current.presenceSequence 1 = _
        rw [sequence]
        rfl
      · change joinedIds current = _
        rw [members, joinedIds_leaves found fun other current =>
          own participant other current found]
        exact (Change.apply_leaves _ _ _).symm

/-! ### Every operation -/

/-- The operations that may number a presence delta. -/
def Operation.numbersPresence : Operation → Bool
  | .hello _ _ _ | .roleGrant _ _ | .roleRevoke _ _ | .moderation _ _ _ | .disconnect _ _ => true
  | _ => false

theorem presenceSequence_announceAnonHello {hub : HubState} {room : RoomState} {connId : ConnId}
    {hello : AnonHelloFrame} {nowMs rosterAtMs : Nat} {enter : RoomState → RoomState}
    (enters : ∀ room', (enter room').presenceSequence = room'.presenceSequence) :
    (announceAnonHello hub room connId hello nowMs rosterAtMs enter).1.presenceSequence =
      room.presenceSequence := by
  unfold announceAnonHello
  split
  · rfl
  · split
    · rfl
    · exact enters _

theorem presenceSequence_anonHelloSection (hub : HubState) (room : RoomState) (connId : ConnId)
    (hello : AnonHelloFrame) (nowMs rosterAtMs : Nat) :
    (anonHelloSection hub room connId hello nowMs rosterAtMs).1.presenceSequence =
      room.presenceSequence := by
  unfold anonHelloSection
  split
  · rfl
  · split
    · rfl
    · split
      · split
        · rfl
        · split
          · rfl
          · exact presenceSequence_announceAnonHello fun _ => rfl
      · exact presenceSequence_announceAnonHello fun _ => rfl

theorem EntriesOnly.presenceSequence {room after : RoomState} (entries : EntriesOnly room after) :
    after.presenceSequence = room.presenceSequence := by
  cases entries
  rfl

theorem presenceSequence_quiet (hub : HubState) (connId : ConnId) {op : Operation}
    (room : RoomState) (quiet : op.numbersPresence = false) :
    (op.updateRoom hub connId room).presenceSequence = room.presenceSequence := by
  cases op with
  | hello | roleGrant | roleRevoke | moderation | disconnect => cases quiet
  | connect | read | lookup | fanout | trySend | takeMessage | closeChannel | groupKeyRotate
  | deviceCapability | reorder => rfl
  | billing | backpressure | groupKeyUpdate | escrowProof | participantState | mediaTrackState
  | roomConfigUpdate | payment =>
      exact (Operation.updateRoom_entries rfl hub connId room).presenceSequence
  | anonHello frame nowMs rosterAtMs =>
      exact presenceSequence_anonHelloSection hub room connId frame nowMs rosterAtMs
  | sessionPolicy update =>
      dsimp only [Operation.updateRoom]
      unfold applySessionPolicyUpdate
      split
      · rfl
      · split
        · rfl
        · split
          · rfl
          · split
            · rfl
            · next enforced =>
                rw [enforceSignedActionClock_ok enforced]
                rfl
  | e2eeKeyEpoch keyEpoch =>
      dsimp only [Operation.updateRoom]
      unfold e2eeKeyEpochSection
      dsimp only
      split
      · rfl
      · rfl
      · split
        · rfl
        · next enforced =>
            rw [enforceSignedActionClock_ok enforced]
  | keyRotationAck ack =>
      dsimp only [Operation.updateRoom]
      unfold keyRotationAckSection
      dsimp only
      split
      · rfl
      · rfl
      · split
        · rfl
        · next enforced =>
            rw [enforceSignedActionClock_ok enforced]

theorem keeperOf_quiet {hub : HubState} {connId : ConnId} {op : Operation} {room : RoomState}
    (quiet : op.numbersPresence = false)
    (transparent : (op.updateRoom hub connId room).anonymousMode = false) :
    keeperOf (op.updateRoom hub connId room) = keeperOf room := by
  have step := updateRoom_step hub connId op room
  refine Keeper.ext (joinedIds_of_members ?_) (presenceSequence_quiet hub connId room quiet)
  cases op with
  | connect => rfl
  | hello | roleGrant | roleRevoke | moderation | disconnect => cases quiet
  | _ => exact step.members_still transparent rfl

theorem updateRoom_publishes {hub : HubState} {connId : ConnId} {op : Operation} {room : RoomState}
    (exclusive : Exclusive room) (stays : op.isDisconnect = false)
    (transparent : (op.updateRoom hub connId room).anonymousMode = false) :
    Publishes u64Max (keeperOf room) ((op.presenceDeltas hub connId room).map changeOf)
      (keeperOf (op.updateRoom hub connId room)) := by
  cases op with
  | hello frame snapshotAtMs deltaAtMs =>
      exact helloSection_publishes room connId frame snapshotAtMs deltaAtMs
  | roleGrant grant deltaAtMs =>
      exact roleChangeSection_publishes (keeperOf_applyRoleGrant hub room connId grant) deltaAtMs
  | roleRevoke revoke deltaAtMs =>
      exact roleChangeSection_publishes (keeperOf_applyRoleRevoke hub room connId revoke) deltaAtMs
  | moderation frame nowMs admitAtMs =>
      exact moderationSection_publishes exclusive connId frame nowMs admitAtMs
  | disconnect => cases stays
  | _ => exact .unchanged (keeperOf_quiet rfl transparent)

/-! ### Every run -/

/-- A connection leaves that has not joined, and somebody else has joined under its
participant id. -/
def Operation.misreportsLeave (op : Operation) (connId : ConnId) (room : RoomState) : Bool :=
  match op with
  | .disconnect _ _ => (room.participants.get? connId).any fun participant =>
      !participant.helloSeen && decide (participant.participantId ∈ joinedIds room)
  | _ => false

/-- Nobody else has joined under the id of a connection that leaves. -/
theorem leaves_own {room : RoomState} {connId : ConnId} {deltaAtMs leftAtMs : Nat}
    (orderly : Orderly (groupOf room))
    (reports : (Operation.disconnect deltaAtMs leftAtMs).misreportsLeave connId room = false)
    {participant current : ParticipantState} {other : ConnId}
    (found : room.participants.get? connId = some participant) (different : other ≠ connId)
    (present : room.participants.get? other = some current) (joined : current.helloSeen = true) :
    current.participantId ≠ participant.participantId := by
  intro same
  cases hello : participant.helloSeen with
  | true =>
      exact different (orderly.unique other connId participant.participantId
        ⟨_, members_groupOf present, .inl joined, same⟩
        ⟨_, members_groupOf found, .inl hello, rfl⟩)
  | false =>
      have taken : participant.participantId ∈ joinedIds room :=
        mem_joinedIds.mpr ⟨other, current, present, joined, same⟩
      simp [Operation.misreportsLeave, found, hello, taken] at reports

/-- The deltas of an event are what turns the joined ids before it into those after it. -/
theorem Lawful.publishes {hub : HubState} {earlier : List Event} {event : Event}
    {after : RoomState} (lawful : Lawful hub earlier event)
    (orderly : Orderly (groupOf (event.before.opened hub)))
    (left : (event.after hub).room = some after) (transparent : after.anonymousMode = false)
    (reports : ∀ room, event.before.room = some room →
      event.op.misreportsLeave event.connId room = false) :
    Publishes u64Max (keeperOf (event.before.opened hub))
      ((event.before.room.elim [] (event.op.presenceDeltas hub event.connId)).map changeOf)
      (keeperOf after) := by
  have before := (lawful.step left).transparent transparent
  have fresh := lawful.fresh
  obtain ⟨actor, task, op, state⟩ := event
  dsimp only at *
  have updated : op.isDisconnect = false → state.room.map (op.updateRoom hub actor) = some after →
      Publishes u64Max (keeperOf (state.opened hub))
        ((state.room.elim [] (op.presenceDeltas hub actor)).map changeOf) (keeperOf after) := by
    intro stays same
    obtain ⟨room, present, rfl⟩ := Option.map_eq_some_iff.mp same
    rw [HubRoom.opened_of_some present] at orderly ⊢
    rw [present]
    exact updateRoom_publishes (exclusive_of_orderly orderly) stays transparent
  have unchanged : (∀ room, op.presenceDeltas hub actor room = []) → state.room = some after →
      Publishes u64Max (keeperOf (state.opened hub))
        ((state.room.elim [] (op.presenceDeltas hub actor)).map changeOf) (keeperOf after) := by
    intro silent same
    rw [HubRoom.opened_of_some same, same, Option.elim_some, silent]
    exact .nothing
  cases op with
  | connect connectedAtMs =>
      cases left
      have silent : state.room.elim []
          (Operation.presenceDeltas hub actor (.connect connectedAtMs)) = [] := by
        cases state.room <;> rfl
      rw [silent]
      refine .unchanged (Keeper.ext (joinedIds_elsewhere actor ?_ ?_ fun other different => ?_) rfl)
      · have absent := fresh connectedAtMs rfl
        simp [RoomState.helloSeen, absent]
      · simp [RoomState.helloSeen, freshParticipant]
      · simp [HubRoom.opened, different]
  | disconnect deltaAtMs leftAtMs =>
      obtain ⟨room, present, remains⟩ := Option.bind_eq_some_iff.mp left
      rw [HubRoom.opened_of_some present] at orderly before ⊢
      rw [present]
      exact disconnectSection_publishes before (fun participant other current found different
        present joined => leaves_own orderly (reports room ‹_›) found different present joined)
        remains
  | trySend | takeMessage | closeChannel => exact unchanged (fun _ => rfl) left
  | _ => exact updated rfl left

theorem presenceLog_closed {hub : HubState} {history : List Event}
    (closed : (sharedAfter hub history).room = none) : presenceLog hub history = [] := by
  cases history with
  | nil => rfl
  | cons event earlier =>
      unfold presenceLog
      rw [if_pos]
      exact Option.isNone_iff_eq_none.mpr closed

theorem presenceLog_cons {hub : HubState} {event : Event} {earlier : List Event}
    {after : RoomState} (left : (event.after hub).room = some after) :
    presenceLog hub (event :: earlier) = presenceLog hub earlier ++
      event.before.room.elim [] (event.op.presenceDeltas hub event.connId) := by
  conv_lhs => unfold presenceLog
  rw [left]
  rfl

/-- The log of a transparent trace that misreports nobody is what turned the empty
room into the room it left. -/
theorem Trace.publishes {hub : HubState} {history : List Event} (trace : Trace hub history)
    (transparent : (roomAfter hub history).anonymousMode = false)
    (reports : ∀ event ∈ history, ∀ room, event.before.room = some room →
      room.anonymousMode = false → event.op.misreportsLeave event.connId room = false) :
    Publishes u64Max ⟨∅, 0⟩ ((presenceLog hub history).map changeOf)
      (keeperOf (roomAfter hub history)) := by
  induction trace with
  | start => exact .nothing
  | @step earlier event past before lawful ih =>
      cases left : (event.after hub).room with
      | none =>
          have closed : (sharedAfter hub (event :: earlier)).room = none := left
          rw [presenceLog_closed closed]
          unfold roomAfter HubRoom.opened
          rw [closed]
          exact .nothing
      | some after =>
          have found : (sharedAfter hub (event :: earlier)).room = some after := left
          rw [roomAfter_of_some found] at transparent ⊢
          have opened : event.before.opened hub = roomAfter hub earlier := by rw [before]; rfl
          have wasTransparent : (roomAfter hub earlier).anonymousMode = false := by
            rw [← opened]
            exact (lawful.step left).transparent transparent
          have orderly : Orderly (groupOf (event.before.opened hub)) := by
            rw [opened]
            exact past.orderly_roomAfter wasTransparent
          have further := lawful.publishes orderly left transparent fun room present =>
            reports event List.mem_cons_self room present (by
              rw [← opened, HubRoom.opened_of_some present] at wasTransparent
              exact wasTransparent)
          have sofar := ih wasTransparent fun other member =>
            reports other (List.mem_cons_of_mem _ member)
          rw [← opened] at sofar
          rw [presenceLog_cons left, List.map_append]
          exact sofar.trans further

/-- The log gives who has joined, and its numbers count its deltas. -/
structure PresenceFaithful (log : List ParticipantPresenceDeltaFrame) (room : RoomState) :
    Prop where
  members : ∀ id, id ∈ replay (log.map changeOf) ↔ ∃ connId participant,
    room.participants.get? connId = some participant ∧ participant.helloSeen = true ∧
      participant.participantId = id
  consecutive : ∀ index delta, log[index]? = some delta →
    delta.sequence = min (index + 1) u64Max

theorem presenceFaithful_of_publishes {log : List ParticipantPresenceDeltaFrame} {room : RoomState}
    (published : Publishes u64Max ⟨∅, 0⟩ (log.map changeOf) (keeperOf room)) :
    PresenceFaithful log room where
  members id := by
    rw [published.replayed]
    exact mem_joinedIds
  consecutive index delta found := by
    have number : (changeOf delta).number = min (index + 1) u64Max :=
      published.numbered (by simp [found])
    exact number

/-- A delta that takes out an id of somebody who stays is not faithful. -/
theorem misreportsLeave_unfaithful {room after : RoomState} {connId : ConnId}
    {deltaAtMs leftAtMs : Nat} {log : List ParticipantPresenceDeltaFrame}
    (transparent : room.anonymousMode = false)
    (misreports : (Operation.disconnect deltaAtMs leftAtMs).misreportsLeave connId room = true)
    (left : (disconnectSection room connId deltaAtMs leftAtMs).1 = some after) :
    ¬ PresenceFaithful
      (log ++ (disconnectSection room connId deltaAtMs leftAtMs).2.presenceDelta.toList) after := by
  intro faithful
  obtain ⟨current, kept, _, rfl, delta⟩ := disconnectSection_delta transparent left
  simp only [Operation.misreportsLeave, Option.any_eq_true, Bool.and_eq_true, Bool.not_eq_true',
    decide_eq_true_eq] at misreports
  obtain ⟨participant, found, notYet, taken⟩ := misreports
  rw [delta, found, Option.map_some, Option.toList_some] at faithful
  have stays : participant.participantId ∈ joinedIds current := by
    have members : joinedIds current = joinedIds (removeConnection room connId) :=
      congrArg Keeper.members kept
    rw [members, joinedIds_stray (by simp [RoomState.helloSeen, found, notYet])]
    exact taken
  have replayed := (faithful.members participant.participantId).mpr (mem_joinedIds.mp stays)
  rw [List.map_append, List.map_cons, List.map_nil, replay_append] at replayed
  simp [changeOf, Change.apply] at replayed

theorem misreportsLeave_remains {room : RoomState} {connId : ConnId} {deltaAtMs leftAtMs : Nat}
    (misreports : (Operation.disconnect deltaAtMs leftAtMs).misreportsLeave connId room = true) :
    ∃ after, (disconnectSection room connId deltaAtMs leftAtMs).1 = some after := by
  simp only [Operation.misreportsLeave, Option.any_eq_true, Bool.and_eq_true, Bool.not_eq_true',
    decide_eq_true_eq] at misreports
  obtain ⟨participant, found, notYet, taken⟩ := misreports
  obtain ⟨other, current, present, joined, _⟩ := mem_joinedIds.mp taken
  have different : other ≠ connId := by
    rintro rfl
    rw [found] at present
    cases present
    rw [notYet] at joined
    cases joined
  have remains : (room.participants.remove connId).isEmpty = false := by
    by_contra empty
    have gone := HashMap.isEmpty_iff.mp (Bool.eq_true_of_not_eq_false empty) other
    simp [different, present] at gone
  unfold disconnectSection
  dsimp only
  rw [if_neg]
  · exact ⟨_, rfl⟩
  · simp [removeConnection, remains]

/-- In a run the presence log is faithful to every transparent room if and only if no
connection leaves such a room under an id that somebody else has joined with. -/
theorem presence_faithful_iff {hub : HubState} {history : List Event} {system : System}
    (run : Run hub history system) :
    (∀ later earlier room, history = later ++ earlier →
      (sharedAfter hub earlier).room = some room → room.anonymousMode = false →
        PresenceFaithful (presenceLog hub earlier) room) ↔
    ∀ event ∈ history, ∀ room, event.before.room = some room → room.anonymousMode = false →
      event.op.misreportsLeave event.connId room = false := by
  constructor
  · intro faithful event happened room found transparent
    by_contra misreports
    have misreports := Bool.eq_true_of_not_eq_false misreports
    obtain ⟨later, earlier, rfl⟩ := List.append_of_mem happened
    obtain ⟨actor, task, op, state⟩ := event
    cases op with
    | disconnect deltaAtMs leftAtMs =>
        obtain ⟨after, remains⟩ := misreportsLeave_remains misreports
        have left : (sharedAfter hub (⟨actor, task, .disconnect deltaAtMs leftAtMs, state⟩ ::
            earlier)).room = some after := Option.bind_eq_some_iff.mpr ⟨room, found, remains⟩
        have stays : after.anonymousMode = false := by
          obtain ⟨current, _, mode, rfl, _⟩ := disconnectSection_delta transparent remains
          split <;> exact mode
        have kept := faithful later _ after rfl left stays
        rw [presenceLog_cons left] at kept
        dsimp only at kept
        rw [found] at kept
        exact misreportsLeave_unfaithful transparent misreports remains kept
    | _ => cases misreports
  · rintro reports later earlier room rfl found transparent
    have trace := run.trace.1.suffix later
    have published := trace.publishes
    rw [roomAfter_of_some found] at published
    exact presenceFaithful_of_publishes (published transparent fun event member =>
      reports event (List.mem_append_right _ member))

def presenceHub : HubState :=
  scriptedHub [helloAs "alice@sora", helloAs "bob@sora", helloAs "conn-2"]

/-- Alice and somebody else join, the connection 2 leaves without having said hello. -/
def presenceScript (hello : UInt8) : List Move :=
  [.connect 1 0, .connect 2 0, .connect 3 0] ++ sendsFrame 1 0 1 31 ++ sendsFrame 3 hello 2 5 ++
    closes 2 3 3

/-- Two join and two leave, one of them as `conn-2`, which nobody is called. -/
theorem presence_faithful_script :
    ∃ history system room, Run presenceHub history system ∧ system.shared.room = some room ∧
      (presenceLog presenceHub history).length = 4 ∧
        PresenceFaithful (presenceLog presenceHub history) room := by
  obtain ⟨history, system, room, run, found, checks⟩ := Run.of_played_room presenceHub
    (presenceScript 1 ++ closes 1 4 3)
    (fun history room => (presenceLog presenceHub history).length == 4 && !room.anonymousMode &&
      history.all fun event => event.before.room.all fun room =>
        !event.op.misreportsLeave event.connId room) (by decide +kernel)
  simp only [Bool.and_eq_true, beq_iff_eq, List.all_eq_true, Option.all_eq_true,
    Bool.not_eq_true'] at checks
  obtain ⟨⟨drawn, transparent⟩, clear⟩ := checks
  refine ⟨history, system, room, run, found, drawn, ?_⟩
  rw [run.trace.2] at found
  exact (presence_faithful_iff run).mpr (fun event member before same _ =>
    clear event member before same) [] history room rfl found transparent

/-- Somebody has joined as `conn-2` when the connection 2 leaves. -/
theorem presence_unfaithful :
    ¬ ∀ (hub : HubState) (history : List Event) (system : System) (room : RoomState),
      Run hub history system → system.shared.room = some room → room.anonymousMode = false →
        PresenceFaithful (presenceLog hub history) room := by
  intro claimed
  obtain ⟨history, system, room, run, found, checks⟩ := Run.of_played_room presenceHub
    (presenceScript 2)
    (fun history room => !room.anonymousMode && decide ("conn-2" ∈ joinedIds room) &&
      decide ("conn-2" ∉ replay ((presenceLog presenceHub history).map changeOf)))
    (by decide +kernel)
  simp only [Bool.and_eq_true, Bool.not_eq_true', decide_eq_true_eq] at checks
  obtain ⟨⟨transparent, joined⟩, missing⟩ := checks
  have faithful := claimed presenceHub history system room run found transparent
  exact missing ((faithful.members "conn-2").mpr (mem_joinedIds.mp joined))

end Kaigi.Hub
