import Kaigi.Hub.GroupView

/-!
# Critical sections as steps of the group

Every operation on a room takes its group one step further, or leaves it alone.
-/

set_option autoImplicit false

namespace Kaigi.Hub

open Collections Wire Authority

theorem advances_saturatingAdd (epoch : Nat) :
    Advances u64Max epoch (saturatingAdd epoch 1) ∧
      (epoch < u64Max → epoch < saturatingAdd epoch 1) := by
  unfold Advances saturatingAdd
  omega

/-- Bumping the epoch announces any change made with it. -/
theorem announced_bump {before after : Group ConnId String} {epoch : Nat}
    (same : before.epoch = epoch) :
    Announced u64Max before (after.atEpoch (saturatingAdd epoch 1)) := by
  subst same
  obtain ⟨advances, grows⟩ := advances_saturatingAdd before.epoch
  exact ⟨advances, fun below => .inl (grows below)⟩

theorem announced_unchanged {before after : Group ConnId String} {epoch : Nat}
    (same : before.epoch = epoch) (host : after.host = before.host)
    (coHosts : after.coHosts = before.coHosts) (recording : after.recording = before.recording) :
    Announced u64Max before (after.atEpoch epoch) := by
  subst same
  exact ⟨.refl, fun _ => .inr ⟨host, coHosts, recording⟩⟩

/-- A room whose epoch is bumped when `changed` says so, which must cover every
change of the roles. -/
theorem announced_ite (room : RoomState) (before : Group ConnId String) (changed : Bool)
    (same : before.epoch = room.permissionsEpoch)
    (covered : changed = false → (groupOf room).host = before.host ∧
      (groupOf room).coHosts = before.coHosts ∧ (groupOf room).recording = before.recording) :
    ∃ epoch, groupOf (if changed then room.bumpPermissionsEpoch else room) =
        (groupOf room).atEpoch epoch ∧
      Announced u64Max before ((groupOf room).atEpoch epoch) := by
  cases changed with
  | true => exact ⟨_, rfl, announced_bump same⟩
  | false =>
      obtain ⟨host, coHosts, recording⟩ := covered rfl
      exact ⟨room.permissionsEpoch, rfl, announced_unchanged same host coHosts recording⟩

/-- The clock of a signer admits the times from 1 on that are beyond the last one. -/
theorem enforceSignedActionClock_iff {room : RoomState}
    {actionTag signerId timestampLabel : String} {timestampMs : Nat} :
    (∃ accepted, enforceSignedActionClock room actionTag signerId timestampLabel timestampMs =
        .ok accepted) ↔
      1 ≤ timestampMs ∧
        ∀ last ∈ room.signedActionClockBySigner.get? (signedActionClockKey actionTag signerId),
          last < timestampMs := by
  unfold enforceSignedActionClock
  by_cases zero : timestampMs = 0
  · simp [zero]
  · have positive : 1 ≤ timestampMs := Nat.one_le_iff_ne_zero.mpr zero
    cases seen : room.signedActionClockBySigner.get? (signedActionClockKey actionTag signerId) with
    | none => simp [zero, positive, seen]
    | some last =>
        by_cases stale : timestampMs ≤ last
        · simp [zero, seen, stale]
        · simp [zero, positive, seen, stale, Nat.not_le.mp stale]

theorem enforceSignedActionClock_ok {room accepted : RoomState}
    {actionTag signerId timestampLabel : String} {timestampMs : Nat}
    (enforced : enforceSignedActionClock room actionTag signerId timestampLabel timestampMs =
      .ok accepted) :
    accepted = { room with
      signedActionClockBySigner :=
        room.signedActionClockBySigner.put (signedActionClockKey actionTag signerId)
          timestampMs } := by
  unfold enforceSignedActionClock at enforced
  split at enforced
  · cases enforced
  · dsimp only at enforced
    split at enforced
    · split at enforced
      · cases enforced
      · cases enforced
        rfl
    · cases enforced
      rfl

theorem groupOf_enforceSignedActionClock {room accepted : RoomState}
    {actionTag signerId timestampLabel : String} {timestampMs : Nat}
    (enforced : enforceSignedActionClock room actionTag signerId timestampLabel timestampMs =
      .ok accepted) : groupOf accepted = groupOf room := by
  rw [enforceSignedActionClock_ok enforced]
  rfl

/-! ### Joining -/

theorem participantIdInUse_eq_false {room : RoomState} {connId : ConnId} {participantId : String}
    (free : participantIdInUse room connId participantId = false) :
    (groupOf room).IdFree connId participantId := by
  rintro other different ⟨member, found, active, sameId⟩
  obtain ⟨participant, present, rfl⟩ := members_groupOf_eq_some.mp found
  have unused := List.any_eq_false.mp free (other, participant) (HashMap.mem_iter.mpr present)
  apply unused
  simp only [bne_iff_ne, Bool.and_eq_true, Bool.or_eq_true, beq_iff_eq]
  exact ⟨⟨different, active⟩, sameId⟩

theorem validateJoinAllowed_eq_none {room : RoomState} {connId : ConnId} {participantId : String}
    (allowed : validateJoinAllowed room connId participantId = none) :
    (∀ participant, room.participants.get? connId = some participant →
      participant.helloSeen = true → participant.participantId = participantId) ∧
    (groupOf room).IdFree connId participantId := by
  unfold validateJoinAllowed at allowed
  split at allowed
  · cases allowed
  · next sameId =>
      split at allowed
      · cases allowed
      · next free =>
          refine ⟨fun participant found joined => ?_,
            participantIdInUse_eq_false (by simpa using free)⟩
          simp only [found, Option.any_some, joined, Bool.true_and, bne_iff_ne, ne_eq,
            Decidable.not_not] at sameId
          exact sameId

theorem participantIdHasReservedModerationRole_iff {room : RoomState} {participantId : String} :
    participantIdHasReservedModerationRole room participantId = true ↔
      (groupOf room).Reserved participantId := by
  unfold participantIdHasReservedModerationRole Group.Reserved
  simp only [Bool.or_eq_true, beq_iff_eq]
  rfl

theorem connOrParticipantCanModerate_iff {room : RoomState} {connId : ConnId}
    {participantId : String} :
    connOrParticipantCanModerate room connId participantId = true ↔
      (groupOf room).Moderates connId ∨ (groupOf room).Reserved participantId := by
  unfold connOrParticipantCanModerate Group.Moderates
  rw [Bool.or_eq_true, participantIdHasReservedModerationRole_iff, Bool.or_eq_true, beq_iff_eq]
  rfl

theorem claimVacantHost_of_isSome {room : RoomState} (connId : ConnId) (participantId : String)
    (hosted : room.hostConnId.isSome = true) :
    claimVacantHost room connId participantId = room := by
  unfold claimVacantHost
  rw [if_neg]
  simpa using Option.isSome_iff_ne_none.mp hosted

theorem groupOf_claimVacantHost {room : RoomState} (connId : ConnId) (participantId : String)
    (vacant : room.hostConnId = none) :
    groupOf (claimVacantHost room connId participantId) =
      ((groupOf room).reserveHost connId participantId).rebind.atEpoch
        (saturatingAdd room.permissionsEpoch 1) := by
  unfold claimVacantHost
  rw [if_pos (by simp [vacant]), groupOf_bumpPermissionsEpoch, groupOf_syncActiveCoHostBindings]
  rfl

theorem participants_claimVacantHost (room : RoomState) (connId : ConnId)
    (participantId : String) :
    (claimVacantHost room connId participantId).participants = room.participants := by
  unfold claimVacantHost
  split <;> rfl

/-- A sync does not depend on the bindings it finds. -/
theorem rebind_bindings (room : RoomState) (bound : Prop) [Decidable bound]
    (bindings : HashSet ConnId) :
    (groupOf (if bound then { room with coHostConnIds := bindings } else room)).rebind =
      (groupOf room).rebind := by
  split <;> rfl

theorem groupOf_restoreReservedRolesOnJoin (room : RoomState) (connId : ConnId)
    (participantId : String) :
    groupOf (restoreReservedRolesOnJoin room connId participantId).1 =
      (groupOf room).restore connId participantId := by
  unfold restoreReservedRolesOnJoin
  dsimp only
  rw [groupOf_syncActiveCoHostBindings, rebind_bindings]
  unfold Group.restore
  split
  · next restored =>
      rw [if_pos (show (groupOf room).hostOwner = some participantId from restored.1)]
      rfl
  · next kept =>
      split
      · next owner =>
          have hosts : room.hostConnId = some connId :=
            Decidable.not_not.mp fun other => kept ⟨owner, other⟩
          rw [← hosts]
          rfl
      · rfl

/-- The flag of a restoration misses no change of the roles. -/
theorem restoreReservedRolesOnJoin_unchanged {room : RoomState} {connId : ConnId}
    {participantId : String}
    (unchanged : (restoreReservedRolesOnJoin room connId participantId).2 = false) :
    ((groupOf room).restore connId participantId).host = (groupOf room).host ∧
      ((groupOf room).restore connId participantId).coHosts = (groupOf room).coHosts := by
  unfold restoreReservedRolesOnJoin at unchanged
  dsimp only at unchanged
  rw [Bool.or_eq_false_iff, Bool.or_eq_false_iff, decide_eq_false_iff_not,
    decide_eq_false_iff_not] at unchanged
  obtain ⟨⟨hostKept, coHostKept⟩, synced⟩ := unchanged
  rw [if_neg coHostKept, if_neg hostKept] at synced
  have host : ((groupOf room).restore connId participantId).host = (groupOf room).host := by
    rw [Group.restore_host]
    split
    · next owner => exact (Decidable.not_not.mp fun other => hostKept ⟨owner, other⟩).symm
    · rfl
  refine ⟨host, Eq.trans ?_ (syncActiveCoHostBindings_unchanged synced)⟩
  ext other
  rw [Group.restore_coHosts, Group.mem_activeCoHosts, host]
  rfl

theorem groupOf_completeJoin (room : RoomState) (connId : ConnId) (participantId : String) :
    ∃ epoch, groupOf (completeJoin room connId participantId) =
        ((groupOf room).restore connId participantId).atEpoch epoch ∧
      Announced u64Max (groupOf room)
        (((groupOf room).restore connId participantId).atEpoch epoch) := by
  let keyed := { room with e2eeEpochs := room.e2eeEpochs.orInsert connId 0 }
  have view := groupOf_restoreReservedRolesOnJoin keyed connId participantId
  obtain ⟨epoch, same, announced⟩ := announced_ite
    (restoreReservedRolesOnJoin keyed connId participantId).1 (groupOf room)
    (restoreReservedRolesOnJoin keyed connId participantId).2
    (congrArg Group.epoch view).symm fun unchanged => by
      obtain ⟨host, coHosts⟩ := restoreReservedRolesOnJoin_unchanged unchanged
      rw [view]
      exact ⟨host, coHosts, rfl⟩
  rw [view] at same announced
  exact ⟨epoch, same, announced⟩

theorem participants_completeJoin (room : RoomState) (connId : ConnId) (participantId : String) :
    (completeJoin room connId participantId).participants = room.participants := by
  unfold completeJoin restoreReservedRolesOnJoin
  dsimp only
  split <;> split <;> split <;> rfl

theorem announced_after_bump {first second third : Group ConnId String}
    (bumped : second.epoch = saturatingAdd first.epoch 1)
    (announced : Announced u64Max second third) : Announced u64Max first third := by
  obtain ⟨advances, grows⟩ := advances_saturatingAdd first.epoch
  rw [← bumped] at advances grows
  refine ⟨advances.trans announced.1, fun below => .inl ?_⟩
  obtain ⟨_, bounded⟩ := advances below.le
  exact (grows below).trans_le (announced.1 bounded).1

theorem routeToWaitingRoom_iff {room : RoomState} {connId : ConnId} {participantId : String} :
    routeToWaitingRoom room connId participantId = true ↔
      ¬ (groupOf room).Joined connId ∧ (groupOf room).waitingRoom = true ∧
        (groupOf room).host ≠ none ∧ ¬ (groupOf room).Moderates connId ∧
          ¬ (groupOf room).Reserved participantId := by
  unfold routeToWaitingRoom
  rw [Bool.and_eq_true, Bool.and_eq_true, Bool.and_eq_true, Bool.not_eq_true', Bool.not_eq_true',
    ← Bool.not_eq_true, ← Bool.not_eq_true, connOrParticipantCanModerate_iff, joined_groupOf,
    Option.isSome_iff_ne_none, not_or]
  tauto

/-- A vacant host role goes to whoever says hello, so only a room with a host
lets somebody wait. -/
theorem routeToWaitingRoom_claimVacantHost {room : RoomState} {connId : ConnId}
    {participantId : String}
    (waits : routeToWaitingRoom (claimVacantHost room connId participantId) connId participantId =
      true) : room.hostConnId.isSome = true := by
  by_contra vacant
  have none : room.hostConnId = none := by simpa using vacant
  have view := groupOf_claimVacantHost connId participantId none
  have moderates := (routeToWaitingRoom_iff.mp waits).2.2.2.1
  rw [view] at moderates
  exact moderates (.inl rfl)

theorem groupOf_helloJoin {room : RoomState} {connId : ConnId} {participant : ParticipantState}
    (hello : HelloFrame) (found : room.participants.get? connId = some participant) :
    ∃ epoch, groupOf (completeJoin ((claimVacantHost room connId hello.participantId
        |>.updateParticipant connId fun _ => helloParticipant participant hello false))
          connId hello.participantId) =
        ((((groupOf room).claim connId hello.participantId).put connId
          ⟨hello.participantId, true, false, false, false⟩).restore connId
            hello.participantId).atEpoch epoch ∧
      Announced u64Max (groupOf room)
        (((((groupOf room).claim connId hello.participantId).put connId
          ⟨hello.participantId, true, false, false, false⟩).restore connId
            hello.participantId).atEpoch epoch) := by
  obtain ⟨epoch, view, announced⟩ := groupOf_completeJoin
    ((claimVacantHost room connId hello.participantId).updateParticipant connId
      fun _ => helloParticipant participant hello false) connId hello.participantId
  have present : (claimVacantHost room connId hello.participantId).participants.get? connId =
      some participant := by
    rw [participants_claimVacantHost, found]
  rw [groupOf_updateParticipant present] at view announced
  by_cases vacant : room.hostConnId = none
  · rw [groupOf_claimVacantHost connId hello.participantId vacant] at view announced
    rw [Group.claim_of_vacant _ _ vacant]
    exact ⟨epoch, view, announced_after_bump rfl announced⟩
  · rw [claimVacantHost_of_isSome _ _ (Option.isSome_iff_ne_none.mpr vacant)] at view announced
    rw [Group.claim_of_host _ _ vacant]
    rw [claimVacantHost_of_isSome _ _ (Option.isSome_iff_ne_none.mpr vacant)]
    exact ⟨epoch, view, announced⟩

theorem helloSection_step (room : RoomState) (connId : ConnId) (hello : HelloFrame)
    (snapshotAtMs deltaAtMs : Nat) :
    Step u64Max (.hello connId hello.participantId) (groupOf room)
      (groupOf (helloSection room connId hello snapshotAtMs deltaAtMs).1) := by
  unfold helloSection
  split
  · exact .refused
  · next mode =>
      have transparent : (groupOf room).anonymous = false :=
        Bool.eq_false_of_not_eq_true mode
      split
      · exact .refused
      · next allowed =>
          obtain ⟨sameId, free⟩ := validateJoinAllowed_eq_none allowed
          dsimp only
          rw [participants_claimVacantHost]
          split
          · next absent =>
              by_cases vacant : room.hostConnId = none
              · rw [groupOf_claimVacantHost connId hello.participantId vacant]
                exact .orphanClaim transparent (members_groupOf_none.mpr absent) vacant free
                  (announced_bump rfl)
              · rw [claimVacantHost_of_isSome _ _ (Option.isSome_iff_ne_none.mpr vacant)]
                exact .refused
          · next participant found =>
              split
              · next waits =>
                  have hosts := routeToWaitingRoom_claimVacantHost waits
                  rw [claimVacantHost_of_isSome _ _ hosts] at waits ⊢
                  obtain ⟨notJoined, waitingOn, hosted, notModerator, notReserved⟩ :=
                    routeToWaitingRoom_iff.mp waits
                  rw [groupOf_updateParticipant found, waits]
                  refine .wait transparent (members_groupOf found) ?_ waitingOn hosted
                    notModerator notReserved free
                  by_contra joined
                  exact notJoined ⟨_, members_groupOf found, by simpa using joined⟩
              · next joins =>
                  obtain ⟨epoch, view, announced⟩ := groupOf_helloJoin hello found
                  rw [Bool.not_eq_true] at joins
                  rw [joins, view]
                  refine .join transparent (members_groupOf found)
                    (fun joined => sameId participant found joined) free ?_ announced
                  by_contra refused
                  simp only [not_or] at refused
                  obtain ⟨notJoined, waitingOn, hosted, notModerator, notReserved⟩ := refused
                  rw [claimVacantHost_of_isSome _ _ (Option.isSome_iff_ne_none.mpr hosted),
                    ← Bool.not_eq_true, routeToWaitingRoom_iff] at joins
                  refine joins ⟨?_, by simpa using waitingOn, hosted, notModerator, notReserved⟩
                  rintro ⟨member, same, joined⟩
                  rw [members_groupOf found] at same
                  cases same
                  exact notJoined joined

/-! ### The waiting room -/

/-- The checks that a `Hello` passes which joins its connection at once. -/
def helloAdmits (room : RoomState) (connId : ConnId) (participantId : String) : Bool :=
  !room.anonymousMode && (validateJoinAllowed room connId participantId).isNone &&
    room.participants.containsKey connId && !routeToWaitingRoom room connId participantId

theorem routeToWaitingRoom_afterClaim (room : RoomState) (connId : ConnId)
    (participantId : String) :
    routeToWaitingRoom (claimVacantHost room connId participantId) connId participantId =
      routeToWaitingRoom room connId participantId := by
  cases hosted : room.hostConnId.isSome with
  | true => rw [claimVacantHost_of_isSome connId participantId hosted]
  | false =>
      have stays : routeToWaitingRoom room connId participantId = false := by
        simp [routeToWaitingRoom, hosted]
      rw [stays, Bool.eq_false_iff]
      intro waits
      rw [routeToWaitingRoom_claimVacantHost waits] at hosted
      cases hosted

/-- A hello that leaves its connection joined passed all the checks, unless the
connection had joined before. -/
theorem helloSection_joined {room : RoomState} {connId : ConnId} {hello : HelloFrame}
    {snapshotAtMs deltaAtMs : Nat} (notYet : ¬ (groupOf room).Joined connId)
    (joined : (groupOf (helloSection room connId hello snapshotAtMs deltaAtMs).1).Joined connId) :
    helloAdmits room connId hello.participantId = true := by
  have unchanged : ∀ {after : RoomState}, after.participants = room.participants →
      ¬ (groupOf after).Joined connId := by
    intro after same isJoined
    rw [joined_groupOf, RoomState.helloSeen, same] at isJoined
    exact notYet (joined_groupOf.mpr isJoined)
  revert joined
  unfold helloSection
  split
  · exact fun joined => absurd joined notYet
  · next mode =>
      split
      · exact fun joined => absurd joined notYet
      · next allowed =>
          dsimp only
          rw [participants_claimVacantHost]
          split
          · exact fun joined =>
              absurd joined (unchanged (participants_claimVacantHost _ _ _))
          · next participant found =>
              split
              · next waits =>
                  intro joined
                  rw [joined_groupOf, RoomState.helloSeen] at joined
                  simp [RoomState.updateParticipant, participants_claimVacantHost, found,
                    helloParticipant, waits] at joined
              · next joins =>
                  rw [routeToWaitingRoom_afterClaim, Bool.not_eq_true] at joins
                  intro _
                  unfold helloAdmits
                  simp [mode, allowed, joins, HashMap.containsKey, found]

theorem waiting_groupOf {room : RoomState} {connId : ConnId} {participant : ParticipantState}
    (found : room.participants.get? connId = some participant)
    (waits : participant.waitingRoomPending = true) : (groupOf room).Waiting connId :=
  ⟨_, members_groupOf found, waits⟩

theorem admitWaitingParticipant_step {room : RoomState} {sender : ConnId} (target : ConnId)
    (atMs : Nat)
    (joined : (groupOf room).Joined sender) (moderates : (groupOf room).Moderates sender) :
    Step u64Max (.letIn sender target) (groupOf room)
      (groupOf (admitWaitingParticipant room target atMs).1) := by
  unfold admitWaitingParticipant
  split
  · exact .refused
  · next participant found =>
      split
      · exact .refused
      · next waits =>
          dsimp only
          obtain ⟨epoch, view, announced⟩ := groupOf_completeJoin
            (room.updateParticipant target fun _ => admitParticipant participant) target
              (admitParticipant participant).participantId
          rw [groupOf_updateParticipant found] at view announced
          rw [view]
          exact .letIn joined moderates (members_groupOf found)
            (by simpa [memberOf] using waits) announced

theorem denyWaitingParticipant_step {room : RoomState} {sender : ConnId} (target : ConnId)
    (joined : (groupOf room).Joined sender) (moderates : (groupOf room).Moderates sender) :
    Step u64Max (.deny sender target) (groupOf room)
      (groupOf (denyWaitingParticipant room target).1) := by
  unfold denyWaitingParticipant
  split
  · exact .refused
  · next participant found =>
      split
      · exact .refused
      · next waits =>
          have waiting := waiting_groupOf found (by simpa using waits)
          dsimp only
          split
          · next hosts =>
              have succession := succession_minConnId (removeConnection room target)
              rw [groupOf_removeConnection] at succession
              rw [groupOf_succeedHost, groupOf_removeConnection]
              exact .denyHost joined moderates waiting hosts succession
          · next other =>
              rw [groupOf_removeConnection]
              exact .deny joined moderates waiting other

theorem canModerateConn_iff {room : RoomState} {connId : ConnId} :
    canModerateConn room connId = true ↔ (groupOf room).Moderates connId := by
  unfold canModerateConn roleKindForConn Group.Moderates
  split
  · next hosts => exact ⟨fun _ => .inl hosts, fun _ => rfl⟩
  · next other =>
      split
      · next coHost => exact ⟨fun _ => .inr coHost, fun _ => rfl⟩
      · next neither =>
          constructor
          · intro impossible
            cases impossible
          · rintro (hosts | coHost)
            · exact absurd hosts other
            · exact absurd coHost neither

theorem groupOf_disableMedium {room : RoomState} {targetConnId : ConnId} {nowMs : Nat}
    {off : ParticipantState → ParticipantState} {outcome : ModerationOutcome}
    (same : ∀ participant, memberOf (off participant) = memberOf participant) :
    groupOf (disableMedium room targetConnId nowMs off outcome).1 = groupOf room := by
  unfold disableMedium
  split
  · rfl
  · next target found =>
      refine groupOf_updateParticipant_same fun participant present => ?_
      rw [found] at present
      cases present
      exact same _

/-- The target loop of a moderation that touches nobody's membership. -/
theorem groupOf_moderateTargets {action : ModerationAction} {nowMs admitAtMs : Nat}
    (notAdmit : action ≠ .admitFromWaiting) (notDeny : action ≠ .denyFromWaiting)
    (targets : List ConnId) (state : RoomState × ModerationOutcome) :
    groupOf (targets.foldl (moderateTarget action nowMs admitAtMs) state).1 = groupOf state.1 := by
  induction targets generalizing state with
  | nil => rfl
  | cons target rest ih =>
      rw [List.foldl_cons, ih]
      unfold moderateTarget
      cases action with
      | kick => rfl
      | disableMic | disableVideo | disableScreenShare =>
          exact groupOf_disableMedium fun _ => rfl
      | admitFromWaiting => exact absurd rfl notAdmit
      | denyFromWaiting => exact absurd rfl notDeny

/-- Admissions and denials name a single participant. -/
theorem moderationTargets_single {room : RoomState} {connId : ConnId}
    {moderation : ModerationFrame} {targets : List ConnId}
    (admission : moderation.action = .admitFromWaiting ∨ moderation.action = .denyFromWaiting)
    (found : moderationTargets room connId moderation = .ok targets) :
    ∃ target participant, targets = [target] ∧
      room.participants.get? target = some participant ∧
        moderation.target = .participant participant.participantId := by
  unfold moderationTargets at found
  split at found
  · rw [if_pos admission] at found
    cases found
  · next targetId named =>
      split at found
      · next id participant chosen =>
          cases found
          have member := List.mem_of_find?_eq_some chosen
          have sameId := List.find?_some chosen
          refine ⟨id, participant, rfl, HashMap.mem_iter.mp member, ?_⟩
          rw [named, beq_iff_eq.mp sameId]
      · cases found

/-- The request a moderation makes of the group. -/
def moderationAction (room : RoomState) (connId : ConnId) (moderation : ModerationFrame) :
    Action ConnId String :=
  match moderation.action, moderationTargets room connId moderation with
  | .admitFromWaiting, .ok [target] => .letIn connId target
  | .denyFromWaiting, .ok [target] => .deny connId target
  | _, _ => .other

theorem validateModerationSenderClock_ok {room accepted : RoomState} {connId : ConnId}
    {moderation : ModerationFrame}
    (enforced : validateModerationSenderClock room connId moderation = .ok accepted) :
    groupOf accepted = groupOf room ∧ accepted.participants = room.participants := by
  unfold validateModerationSenderClock at enforced
  split at enforced
  · cases enforced
  · refine ⟨groupOf_enforceSignedActionClock enforced, ?_⟩
    rw [enforceSignedActionClock_ok enforced]

theorem moderationSection_refused {room : RoomState} {connId : ConnId} {frame : ModerationFrame}
    {message : String}
    (refused : validateModerationSenderClock room connId frame = .error message)
    (nowMs admitAtMs : Nat) :
    (moderationSection room connId frame nowMs admitAtMs).1 = room := by
  unfold moderationSection
  split
  · rfl
  · split
    · rfl
    · split
      · rfl
      · rw [refused]

theorem moderationSection_step (room : RoomState) (connId : ConnId)
    (moderation : ModerationFrame) (nowMs admitAtMs : Nat) :
    Step u64Max (moderationAction room connId moderation) (groupOf room)
      (groupOf (moderationSection room connId moderation nowMs admitAtMs).1) := by
  unfold moderationSection
  split
  · exact .refused
  · next sender found =>
      split
      · exact .refused
      · next hello =>
          have joined : (groupOf room).Joined connId :=
            ⟨_, members_groupOf found, by simpa [memberOf] using hello⟩
          split
          · exact .refused
          · next moderator =>
              have moderates : (groupOf room).Moderates connId :=
                canModerateConn_iff.mp (by simpa using moderator)
              split
              · exact .refused
              · next accepted enforced =>
                  obtain ⟨sameGroup, sameParticipants⟩ := validateModerationSenderClock_ok enforced
                  have sameTargets : moderationTargets accepted connId moderation =
                      moderationTargets room connId moderation := by
                    unfold moderationTargets
                    rw [sameParticipants]
                  rw [← sameGroup] at joined moderates ⊢
                  split
                  · exact .refused
                  · next targets chosen =>
                      rw [sameTargets] at chosen
                      dsimp only
                      by_cases admits : moderation.action = .admitFromWaiting
                      · obtain ⟨target, _, rfl, _⟩ := moderationTargets_single (.inl admits) chosen
                        have step := admitWaitingParticipant_step target admitAtMs joined moderates
                        simp only [moderationAction, admits, chosen, List.foldl_cons,
                          List.foldl_nil, moderateTarget]
                        split
                        · next admitted => rw [admitted] at step; exact step
                        · next admitted => rw [admitted] at step; exact step
                      · by_cases denies : moderation.action = .denyFromWaiting
                        · obtain ⟨target, _, rfl, _⟩ :=
                            moderationTargets_single (.inr denies) chosen
                          have step := denyWaitingParticipant_step target joined moderates
                          simp only [moderationAction, denies, chosen, List.foldl_cons,
                            List.foldl_nil, moderateTarget]
                          split
                          · next denied => rw [denied] at step; exact step
                          · next denied => rw [denied] at step; exact step
                        · rw [groupOf_moderateTargets admits denies]
                          exact .refused

/-! ### Roles and policy -/

theorem authorizeHostAction_eq_none {room : RoomState} {senderConnId : ConnId}
    {signerId claim signatureHex action : String} {signatureValid : Bool}
    (authorized : authorizeHostAction room senderConnId signerId claim signatureHex action
      signatureValid = none) :
    (groupOf room).Joined senderConnId ∧ (groupOf room).host = some senderConnId := by
  unfold authorizeHostAction at authorized
  split at authorized
  · cases authorized
  · next sender found =>
      split at authorized
      · cases authorized
      · next hello =>
          split at authorized
          · cases authorized
          · next hosts =>
              have host : room.hostConnId = some senderConnId := by
                simpa [canManageRolesAndPolicy] using hosts
              exact ⟨⟨_, members_groupOf found, by simpa [memberOf] using hello⟩, host⟩

theorem findJoinedParticipant_eq_some {room : RoomState} {participantId : String}
    {connId : ConnId} (found : findJoinedParticipant room participantId = some connId) :
    ∃ member, (groupOf room).members connId = some member ∧ member.joined = true ∧
      member.id = participantId := by
  unfold findJoinedParticipant at found
  obtain ⟨⟨id, participant⟩, chosen, rfl⟩ := Option.map_eq_some_iff.mp found
  have satisfies := List.find?_some chosen
  rw [Bool.and_eq_true, beq_iff_eq] at satisfies
  exact ⟨_, members_groupOf (HashMap.mem_iter.mp (List.mem_of_find?_eq_some chosen)),
    satisfies.1, satisfies.2⟩

theorem groupOf_grantHost (room : RoomState) (targetConnId : ConnId)
    (targetParticipantId : String) :
    ∃ epoch, groupOf (grantHost room targetConnId targetParticipantId).1 =
        ((groupOf room).reserveHost targetConnId targetParticipantId).rebind.atEpoch epoch ∧
      Announced u64Max (groupOf room)
        (((groupOf room).reserveHost targetConnId targetParticipantId).rebind.atEpoch epoch) := by
  let granted := { room with
    hostRoleOwner := some targetParticipantId
    hostConnId := some targetConnId }
  obtain ⟨epoch, view, announced⟩ := announced_ite
    (syncActiveCoHostBindings granted).1 (groupOf room)
    (decide (room.hostRoleOwner ≠ some targetParticipantId) ||
      decide (room.hostConnId ≠ some targetConnId) || (syncActiveCoHostBindings granted).2)
    rfl fun unchanged => by
      rw [Bool.or_eq_false_iff, Bool.or_eq_false_iff, decide_eq_false_iff_not,
        decide_eq_false_iff_not, Decidable.not_not, Decidable.not_not] at unchanged
      obtain ⟨⟨_, hosts⟩, synced⟩ := unchanged
      rw [groupOf_syncActiveCoHostBindings]
      exact ⟨hosts.symm, syncActiveCoHostBindings_unchanged synced, rfl⟩
  rw [groupOf_syncActiveCoHostBindings] at view announced
  exact ⟨epoch, view, announced⟩

theorem groupOf_coHostRoleOwners_add (room : RoomState) (participantId : String) :
    groupOf { room with coHostRoleOwners := room.coHostRoleOwners.add participantId } =
      { groupOf room with coHostOwners := insert participantId (groupOf room).coHostOwners } := by
  ext1
  case coHostOwners =>
    ext id
    simp [groupOf]
  all_goals rfl

theorem groupOf_coHostRoleOwners_discard (room : RoomState) (participantId : String) :
    groupOf { room with coHostRoleOwners := room.coHostRoleOwners.discard participantId } =
      { groupOf room with coHostOwners := (groupOf room).coHostOwners \ {participantId} } := by
  ext1
  case coHostOwners =>
    ext id
    simp [groupOf, and_comm]
  all_goals rfl

theorem groupOf_grantCoHost (room : RoomState) (targetConnId : ConnId)
    (targetParticipantId : String) :
    ∃ epoch, groupOf (grantCoHost room targetConnId targetParticipantId).1 =
        { groupOf room with
          coHostOwners := insert targetParticipantId (groupOf room).coHostOwners }.rebind.atEpoch
            epoch ∧
      Announced u64Max (groupOf room)
        ({ groupOf room with
          coHostOwners := insert targetParticipantId (groupOf room).coHostOwners }.rebind.atEpoch
            epoch) := by
  let reserved := { room with
    coHostRoleOwners := room.coHostRoleOwners.add targetParticipantId }
  let bound := room.hostConnId != some targetConnId && !room.coHostConnIds.contains targetConnId
  let binding := if bound then
    { reserved with coHostConnIds := room.coHostConnIds.add targetConnId } else reserved
  have view : groupOf (syncActiveCoHostBindings binding).1 = { groupOf room with
      coHostOwners := insert targetParticipantId (groupOf room).coHostOwners }.rebind := by
    rw [groupOf_syncActiveCoHostBindings, rebind_bindings, groupOf_coHostRoleOwners_add]
  obtain ⟨epoch, same, announced⟩ := announced_ite
    (syncActiveCoHostBindings binding).1 (groupOf room)
    (!room.coHostRoleOwners.contains targetParticipantId || bound ||
      (syncActiveCoHostBindings binding).2)
    (congrArg Group.epoch view).symm fun unchanged => by
      rw [Bool.or_eq_false_iff, Bool.or_eq_false_iff] at unchanged
      obtain ⟨⟨_, notBound⟩, synced⟩ := unchanged
      have kept : binding = reserved := if_neg (by simp [notBound])
      rw [kept] at synced ⊢
      rw [groupOf_syncActiveCoHostBindings]
      exact ⟨rfl, syncActiveCoHostBindings_unchanged synced, rfl⟩
  rw [view] at same announced
  exact ⟨epoch, same, announced⟩

theorem groupOf_revokeCoHost (room : RoomState) (targetConnId : ConnId)
    (targetParticipantId : String) :
    ∃ epoch, groupOf (revokeCoHost room targetConnId targetParticipantId).1 =
        { groupOf room with
          coHostOwners := (groupOf room).coHostOwners \ {targetParticipantId} }.rebind.atEpoch
            epoch ∧
      Announced u64Max (groupOf room)
        ({ groupOf room with
          coHostOwners := (groupOf room).coHostOwners \ {targetParticipantId} }.rebind.atEpoch
            epoch) := by
  let released := { room with
    coHostRoleOwners := room.coHostRoleOwners.discard targetParticipantId }
  let unbound := { released with coHostConnIds := room.coHostConnIds.discard targetConnId }
  have view : groupOf (syncActiveCoHostBindings unbound).1 = { groupOf room with
      coHostOwners := (groupOf room).coHostOwners \ {targetParticipantId} }.rebind := by
    rw [groupOf_syncActiveCoHostBindings, ← groupOf_coHostRoleOwners_discard]
    rfl
  obtain ⟨epoch, same, announced⟩ := announced_ite
    (syncActiveCoHostBindings unbound).1 (groupOf room)
    (room.coHostRoleOwners.contains targetParticipantId ||
      room.coHostConnIds.contains targetConnId || (syncActiveCoHostBindings unbound).2)
    (congrArg Group.epoch view).symm fun unchanged => by
      rw [Bool.or_eq_false_iff, Bool.or_eq_false_iff] at unchanged
      obtain ⟨⟨_, notBound⟩, synced⟩ := unchanged
      rw [groupOf_syncActiveCoHostBindings]
      refine ⟨rfl, (syncActiveCoHostBindings_unchanged synced).trans ?_, rfl⟩
      -- Nothing was discarded, for the target was not bound.
      ext connId
      change (room.coHostConnIds.discard targetConnId).contains connId = true ↔
        room.coHostConnIds.contains connId = true
      by_cases target : connId = targetConnId
      · simp [target, notBound]
      · simp [target]
  rw [view] at same announced
  exact ⟨epoch, same, announced⟩

theorem groupOf_roleChangeSection (result : RoomState × Except String RoleMutationOutcome)
    (deltaAtMs : Nat) : groupOf (roleChangeSection result deltaAtMs).1 = groupOf result.1 := by
  unfold roleChangeSection
  split
  · rfl
  · split <;> rfl

theorem applyRoleGrant_step (hub : HubState) (room : RoomState) (senderConnId : ConnId)
    (grant : RoleGrantFrame) :
    Step u64Max (.grant senderConnId) (groupOf room)
      (groupOf (applyRoleGrant hub room senderConnId grant).1) := by
  unfold applyRoleGrant
  split
  · exact .refused
  · next authorized =>
      obtain ⟨joined, hosts⟩ := authorizeHostAction_eq_none authorized
      split
      · exact .refused
      · next target found =>
          obtain ⟨member, present, memberJoined, sameId⟩ := findJoinedParticipant_eq_some found
          split
          · exact .refused
          · next notParticipant =>
            split
            · exact .refused
            · next notHost =>
              split
              · exact .refused
              · next accepted enforced =>
                have other : grant.role ≠ .host → (groupOf room).host ≠ some target := by
                  intro notHostRole hostsTarget
                  refine notHost ⟨?_, hostsTarget⟩
                  cases role : grant.role with
                  | participant => exact absurd role notParticipant
                  | coHost => rfl
                  | host => exact absurd role notHostRole
                rw [← groupOf_enforceSignedActionClock enforced] at joined hosts present other ⊢
                rw [← sameId]
                dsimp only
                split
                · obtain ⟨epoch, view, announced⟩ := groupOf_grantHost accepted target member.id
                  rw [view]
                  exact .grantHost joined hosts present memberJoined announced
                · next notHostRole =>
                  obtain ⟨epoch, view, announced⟩ :=
                    groupOf_grantCoHost accepted target member.id
                  rw [view]
                  exact .grantCoHost joined hosts present memberJoined (other notHostRole)
                    announced

theorem applyRoleRevoke_step (hub : HubState) (room : RoomState) (senderConnId : ConnId)
    (revoke : RoleRevokeFrame) :
    Step u64Max (.revoke senderConnId) (groupOf room)
      (groupOf (applyRoleRevoke hub room senderConnId revoke).1) := by
  unfold applyRoleRevoke
  split
  · exact .refused
  · next authorized =>
      obtain ⟨joined, hosts⟩ := authorizeHostAction_eq_none authorized
      split
      · exact .refused
      · next target found =>
          obtain ⟨member, present, memberJoined, sameId⟩ := findJoinedParticipant_eq_some found
          split
          · exact .refused
          · split
            · exact .refused
            · next accepted enforced =>
                rw [← groupOf_enforceSignedActionClock enforced] at joined hosts present ⊢
                rw [← sameId]
                obtain ⟨epoch, view, announced⟩ := groupOf_revokeCoHost accepted target member.id
                dsimp only
                rw [view]
                exact .revokeCoHost joined hosts present memberJoined announced

theorem applySessionPolicyUpdate_step (hub : HubState) (room : RoomState)
    (senderConnId : ConnId) (update : SessionPolicyFrame) :
    Step u64Max (.policy senderConnId) (groupOf room)
      (groupOf (applySessionPolicyUpdate hub room senderConnId update).1) := by
  unfold applySessionPolicyUpdate
  split
  · exact .refused
  · next authorized =>
      obtain ⟨joined, hosts⟩ := authorizeHostAction_eq_none authorized
      split
      · exact .refused
      · split
        · exact .refused
        · split
          · exact .refused
          · next accepted enforced =>
              rw [← groupOf_enforceSignedActionClock enforced] at joined hosts ⊢
              obtain ⟨advances, grows⟩ := advances_saturatingAdd accepted.permissionsEpoch
              exact .policy joined hosts advances grows

/-! ### Anonymous mode -/

theorem applyAnonHelloState_ok {participant joined : ParticipantState} {hello : AnonHelloFrame}
    {nowMs : Nat} (accepted : applyAnonHelloState participant hello nowMs = .ok joined) :
    memberOf joined = ⟨participant.participantId, true, false, true, true⟩ := by
  unfold applyAnonHelloState at accepted
  dsimp only at accepted
  split at accepted
  · cases accepted
  · cases accepted
    rfl

theorem announceAnonHello_step {hub : HubState} {room : RoomState} {connId : ConnId}
    {hello : AnonHelloFrame} {nowMs rosterAtMs : Nat} {enter : RoomState → RoomState}
    (enters : ∀ room', room'.anonymousMode = room.anonymousMode →
      groupOf (enter room') = (groupOf room').turnAnonymous)
    (nobody : room.anonymousMode = false → ∀ other participant,
      room.participants.get? other = some participant → participant.helloSeen = true →
        participant.anonymousMode = true) :
    Step u64Max (.anonHello connId) (groupOf room)
      (groupOf (announceAnonHello hub room connId hello nowMs rosterAtMs enter).1) := by
  unfold announceAnonHello
  split
  · exact .refused
  · next participant found =>
      split
      · exact .refused
      · next joined accepted =>
          have view : groupOf (enter (room.updateParticipant connId fun _ => joined)) =
              ((groupOf room).put connId
                ⟨participant.participantId, true, false, true, true⟩).turnAnonymous := by
            rw [enters (room.updateParticipant connId fun _ => joined) rfl,
              groupOf_updateParticipant found, applyAnonHelloState_ok accepted]
          unfold buildAnonGroupKeyRotateFrame
          dsimp only
          rw [groupOf_bumpPermissionsEpoch, view]
          refine .anonJoin (members_groupOf found) ?_ ?_
          · intro transparent other current present joined
            obtain ⟨state, stored, rfl⟩ := members_groupOf_eq_some.mp present
            exact nobody transparent other state stored joined
          · have epoch : (enter (room.updateParticipant connId fun _ => joined)).permissionsEpoch =
                room.permissionsEpoch := congrArg Group.epoch view
            rw [epoch]
            exact (advances_saturatingAdd _).1

theorem anonHelloSection_step (hub : HubState) (room : RoomState) (connId : ConnId)
    (hello : AnonHelloFrame) (nowMs rosterAtMs : Nat) :
    Step u64Max (.anonHello connId) (groupOf room)
      (groupOf (anonHelloSection hub room connId hello nowMs rosterAtMs).1) := by
  unfold anonHelloSection
  split
  · exact .refused
  · split
    · exact .refused
    · split
      · split
        · exact .refused
        · next nobody =>
            split
            · exact .refused
            · refine announceAnonHello_step (fun _ _ => rfl) ?_
              intro _ other participant found joined
              by_contra transparent
              refine nobody (List.any_eq_true.mpr ⟨participant,
                HashMap.mem_values.mpr ⟨other, found⟩, ?_⟩)
              rw [joined, Bool.eq_false_of_not_eq_true transparent]
              rfl
      · next mode =>
          have anonymous : room.anonymousMode = true := by simpa using mode
          refine announceAnonHello_step (fun room' same => ?_) fun transparent => ?_
          · rw [anonymous] at same
            ext1
            case anonymous => exact same
            all_goals rfl
          · rw [anonymous] at transparent
            cases transparent

/-- The checks that an `AnonHello` passes which joins its connection. -/
def anonHelloAdmits (hub : HubState) (room : RoomState) (connId : ConnId)
    (hello : AnonHelloFrame) : Bool :=
  (validateAnonParticipantHandle room connId hello.participantHandle).isNone &&
    (validateAnonymousRoomCapacity room connId hub.anonMaxParticipants).isNone &&
      (room.anonymousMode ||
        (room.participants.values.all fun participant =>
          !(participant.helloSeen && !participant.anonymousMode)) &&
            (applyAnonymousZkSurcharge room.ratePerMinuteNano
              hub.billing.anonZkExtraFeePerMinuteNano).isOk)

theorem anonHelloSection_joined {hub : HubState} {room : RoomState} {connId : ConnId}
    {hello : AnonHelloFrame} {nowMs rosterAtMs : Nat} (notYet : ¬ (groupOf room).Joined connId)
    (joined : (groupOf (anonHelloSection hub room connId hello nowMs rosterAtMs).1).Joined
      connId) : anonHelloAdmits hub room connId hello = true := by
  revert joined
  unfold anonHelloSection
  split
  · exact fun joined => absurd joined notYet
  · next handle =>
      split
      · exact fun joined => absurd joined notYet
      · next capacity =>
          unfold anonHelloAdmits
          rw [handle, capacity]
          split
          · next mode =>
              split
              · exact fun joined => absurd joined notYet
              · next nobody =>
                  have transparent : (room.participants.values.all fun participant =>
                      !(participant.helloSeen && !participant.anonymousMode)) = true := by
                    rw [List.all_eq_not_any_not]
                    simpa using nobody
                  split
                  · exact fun joined => absurd joined notYet
                  · next effectiveRate surcharge =>
                      intro _
                      rw [transparent, surcharge]
                      simp [Except.isOk, Except.toBool]
          · next mode =>
              intro _
              simp only [Bool.not_eq_true', Bool.not_eq_false] at mode
              simp [mode]

/-! ### Operations that leave the group alone -/

theorem memberOf_advanceBilling (state : ParticipantState) (ratePerMinuteNano nowMs : Nat) :
    memberOf (advanceBilling state ratePerMinuteNano nowMs) = memberOf state := by
  unfold advanceBilling
  dsimp only
  split <;> rfl

/-- A section that ends in an update of one participant, which it read before. -/
theorem groupOf_updated {room : RoomState} {connId : ConnId}
    {participant updated : ParticipantState}
    (found : room.participants.get? connId = some participant)
    (same : memberOf updated = memberOf participant) :
    groupOf (room.updateParticipant connId fun _ => updated) = groupOf room := by
  refine groupOf_updateParticipant_same fun current present => ?_
  rw [found] at present
  cases present
  exact same

theorem groupOf_billingSection (hub : HubState) (room : RoomState) (connId : ConnId)
    (nowMs : Nat) : groupOf (billingSection hub room connId nowMs).1 = groupOf room := by
  unfold billingSection
  split
  · rfl
  · next participant found =>
      dsimp only
      by_cases skipped : ((room.anonymousMode || participant.anonymousMode) &&
          (if room.anonymousMode || participant.anonymousMode then
            escrowDisconnectMessage hub.billing participant nowMs else none).isNone) = true
      · rw [if_pos skipped]
      · rw [if_neg skipped]
        refine groupOf_updated found ?_
        split
        · exact memberOf_advanceBilling _ _ _
        · rfl

theorem groupOf_paymentSection (hub : HubState) (room : RoomState) (connId : ConnId)
    (payment : PaymentFrame) (nowMs : Nat) :
    groupOf (paymentSection hub room connId payment nowMs).1 = groupOf room := by
  unfold paymentSection
  split
  · rfl
  · next participant found =>
      split
      · exact groupOf_updateParticipant_same fun _ _ => rfl
      · dsimp only
        split
        · exact groupOf_updated found (memberOf_advanceBilling _ _ _)
        · exact groupOf_updated found (memberOf_advanceBilling participant _ _)

theorem groupOf_roomConfigUpdateSection (hub : HubState) (room : RoomState) (connId : ConnId)
    (update : RoomConfigUpdateFrame) (nowMs : Nat) :
    groupOf (roomConfigUpdateSection hub room connId update nowMs).1 = groupOf room := by
  unfold roomConfigUpdateSection
  split
  · rfl
  · split
    · rfl
    · split
      · rfl
      · ext1
        case members =>
          funext other
          simp only [groupOf, HashMap.get?_mapValues, Option.map_map]
          congr 1
          funext participant
          exact memberOf_advanceBilling _ _ _
        all_goals rfl

theorem groupOf_groupKeyUpdateSection (room : RoomState) (connId : ConnId)
    (update : GroupKeyUpdateFrame) :
    groupOf (groupKeyUpdateSection room connId update).1 = groupOf room := by
  unfold groupKeyUpdateSection
  split
  · rfl
  · split
    · rfl
    · split
      · rfl
      · split
        · rfl
        · split
          · rfl
          · rfl
          · exact groupOf_updateParticipant_same fun _ _ => rfl

theorem groupOf_escrowProofSection (room : RoomState) (connId : ConnId)
    (proof : EscrowProofFrame) (nowMs : Nat) :
    groupOf (escrowProofSection room connId proof nowMs).1 = groupOf room := by
  unfold escrowProofSection
  split
  · rfl
  · dsimp only
    split
    · rfl
    · exact groupOf_updateParticipant_same fun _ _ => rfl

theorem groupOf_participantStateSection (room : RoomState) (connId : ConnId)
    (update : ParticipantStateFrame) (atMs : Nat) :
    groupOf (participantStateSection room connId update atMs).1 = groupOf room := by
  unfold participantStateSection
  split
  · rfl
  · next participant found =>
      split
      · rfl
      · split
        · rfl
        · exact groupOf_updated found rfl

theorem groupOf_mediaTrackStateSection (room : RoomState) (connId : ConnId)
    (track : MediaTrackStateFrame) (atMs : Nat) :
    groupOf (mediaTrackStateSection room connId track atMs).1 = groupOf room := by
  unfold mediaTrackStateSection
  split
  · rfl
  · next participant found =>
      split
      · rfl
      · split
        · rfl
        · refine groupOf_updated found ?_
          split <;> rfl

theorem groupOf_e2eeKeyEpochSection (hub : HubState) (room : RoomState) (connId : ConnId)
    (keyEpoch : E2EEKeyEpochFrame) :
    groupOf (e2eeKeyEpochSection hub room connId keyEpoch).1 = groupOf room := by
  unfold e2eeKeyEpochSection
  dsimp only
  split
  · rfl
  · rfl
  · split
    · rfl
    · next accepted enforced =>
        have same := groupOf_enforceSignedActionClock enforced
        exact same

theorem groupOf_keyRotationAckSection (room : RoomState) (connId : ConnId)
    (ack : KeyRotationAckFrame) :
    groupOf (keyRotationAckSection room connId ack).1 = groupOf room := by
  unfold keyRotationAckSection
  dsimp only
  split
  · rfl
  · rfl
  · split
    · rfl
    · next accepted enforced =>
        have same := groupOf_enforceSignedActionClock enforced
        exact same

theorem groupOf_backpressureSection (room : RoomState) (dropped nowMs : Nat) :
    groupOf (backpressureSection room dropped nowMs).1 = groupOf room := by
  unfold backpressureSection
  dsimp only
  split <;> rfl

theorem groupOf_reorder (room : RoomState) (participants coHosts : List ConnId) :
    groupOf { room with
      participants := room.participants.reorder participants
      coHostConnIds := HashMap.reorder room.coHostConnIds coHosts } = groupOf room := by
  ext1
  case members =>
    funext other
    simp [groupOf]
  case coHosts =>
    ext other
    simp [groupOf]
  all_goals rfl

/-! ### Every operation -/

/-- The request that an operation makes of the group. -/
def Operation.action (room : RoomState) (connId : ConnId) : Operation → Action ConnId String
  | .connect _ => .enter connId
  | .disconnect _ _ => .leave connId
  | .anonHello _ _ _ => .anonHello connId
  | .groupKeyRotate _ => .rekey
  | .hello frame _ _ => .hello connId frame.participantId
  | .roleGrant _ _ => .grant connId
  | .roleRevoke _ _ => .revoke connId
  | .sessionPolicy _ => .policy connId
  | .moderation frame _ _ => moderationAction room connId frame
  | _ => .other

/-- Which operations make which requests. -/
inductive Requests (room : RoomState) (connId : ConnId) :
    Operation → Action ConnId String → Prop where
  | enter {connectedAtMs : Nat} : Requests room connId (.connect connectedAtMs) (.enter connId)
  | leave {deltaAtMs leftAtMs : Nat} :
      Requests room connId (.disconnect deltaAtMs leftAtMs) (.leave connId)
  | anonHello {frame : AnonHelloFrame} {nowMs rosterAtMs : Nat} :
      Requests room connId (.anonHello frame nowMs rosterAtMs) (.anonHello connId)
  | rekey {nowMs : Nat} : Requests room connId (.groupKeyRotate nowMs) .rekey
  | hello {frame : HelloFrame} {snapshotAtMs deltaAtMs : Nat} :
      Requests room connId (.hello frame snapshotAtMs deltaAtMs)
        (.hello connId frame.participantId)
  | grant {frame : RoleGrantFrame} {deltaAtMs : Nat} :
      Requests room connId (.roleGrant frame deltaAtMs) (.grant connId)
  | revoke {frame : RoleRevokeFrame} {deltaAtMs : Nat} :
      Requests room connId (.roleRevoke frame deltaAtMs) (.revoke connId)
  | policy {frame : SessionPolicyFrame} :
      Requests room connId (.sessionPolicy frame) (.policy connId)
  | letIn {frame : ModerationFrame} {nowMs admitAtMs : Nat} {target : ConnId}
      {participant : ParticipantState} :
      frame.action = .admitFromWaiting → room.participants.get? target = some participant →
      frame.target = .participant participant.participantId →
      moderationTargets room connId frame = .ok [target] →
      Requests room connId (.moderation frame nowMs admitAtMs) (.letIn connId target)
  | deny {frame : ModerationFrame} {nowMs admitAtMs : Nat} {target : ConnId}
      {participant : ParticipantState} :
      frame.action = .denyFromWaiting → room.participants.get? target = some participant →
      frame.target = .participant participant.participantId →
      moderationTargets room connId frame = .ok [target] →
      Requests room connId (.moderation frame nowMs admitAtMs) (.deny connId target)
  | other {op : Operation} : Requests room connId op .other

theorem Operation.requests (op : Operation) (room : RoomState) (connId : ConnId) :
    Requests room connId op (op.action room connId) := by
  cases op with
  | moderation frame nowMs admitAtMs =>
      simp only [Operation.action]
      unfold moderationAction
      split
      · next admission targets =>
          obtain ⟨_, participant, same, found, named⟩ :=
            moderationTargets_single (.inl admission) targets
          cases same
          exact .letIn admission found named targets
      · next denial targets =>
          obtain ⟨_, participant, same, found, named⟩ :=
            moderationTargets_single (.inr denial) targets
          cases same
          exact .deny denial found named targets
      · exact .other
  | _ => constructor

theorem updateRoom_step (hub : HubState) (connId : ConnId) (op : Operation) (room : RoomState) :
    Step u64Max (op.action room connId) (groupOf room)
      (groupOf (op.updateRoom hub connId room)) := by
  have quiet : ∀ {action : Action ConnId String} {after : RoomState},
      groupOf after = groupOf room → Step u64Max action (groupOf room) (groupOf after) := by
    intro action after same
    rw [same]
    exact .refused
  cases op with
  | connect | disconnect | read | lookup | fanout | trySend | takeMessage | closeChannel =>
      exact .refused
  | billing nowMs => exact quiet (groupOf_billingSection hub room connId nowMs)
  | backpressure dropped nowMs => exact quiet (groupOf_backpressureSection room dropped nowMs)
  | anonHello frame nowMs rosterAtMs =>
      exact anonHelloSection_step hub room connId frame nowMs rosterAtMs
  | groupKeyUpdate update => exact quiet (groupOf_groupKeyUpdateSection room connId update)
  | escrowProof proof nowMs => exact quiet (groupOf_escrowProofSection room connId proof nowMs)
  | groupKeyRotate => exact .rekey (advances_saturatingAdd room.permissionsEpoch).1
  | hello frame snapshotAtMs deltaAtMs =>
      exact helloSection_step room connId frame snapshotAtMs deltaAtMs
  | participantState update atMs =>
      exact quiet (groupOf_participantStateSection room connId update atMs)
  | mediaTrackState track atMs =>
      exact quiet (groupOf_mediaTrackStateSection room connId track atMs)
  | roomConfigUpdate update nowMs =>
      exact quiet (groupOf_roomConfigUpdateSection hub room connId update nowMs)
  | roleGrant grant deltaAtMs =>
      simp only [Operation.updateRoom, roleGrantSection, groupOf_roleChangeSection]
      exact applyRoleGrant_step hub room connId grant
  | roleRevoke revoke deltaAtMs =>
      simp only [Operation.updateRoom, roleRevokeSection, groupOf_roleChangeSection]
      exact applyRoleRevoke_step hub room connId revoke
  | sessionPolicy update => exact applySessionPolicyUpdate_step hub room connId update
  | deviceCapability => exact quiet rfl
  | e2eeKeyEpoch keyEpoch => exact quiet (groupOf_e2eeKeyEpochSection hub room connId keyEpoch)
  | keyRotationAck ack => exact quiet (groupOf_keyRotationAckSection room connId ack)
  | moderation frame nowMs admitAtMs =>
      exact moderationSection_step room connId frame nowMs admitAtMs
  | payment frame nowMs => exact quiet (groupOf_paymentSection hub room connId frame nowMs)
  | reorder participants coHosts => exact quiet (groupOf_reorder room participants coHosts)

/-! ### Coming and going -/

theorem connect_step {room : RoomState} {connId : ConnId} (connectedAtMs : Nat)
    (fresh : room.participants.get? connId = none) :
    Step u64Max (.enter connId) (groupOf room) (groupOf { room with
      participants := room.participants.put connId (freshParticipant connId connectedAtMs) }) := by
  have view : groupOf { room with
      participants := room.participants.put connId (freshParticipant connId connectedAtMs) } =
      (groupOf room).put connId (memberOf (freshParticipant connId connectedAtMs)) := by
    ext1
    case members =>
      funext other
      simp only [groupOf, HashMap.get?_put, Group.put_members]
      split <;> rfl
    all_goals rfl
  rw [view]
  exact .enter (members_groupOf_none.mpr fresh) rfl rfl rfl

/-- A disconnect takes the connection out; the host of a transparent room is
succeeded by the smallest connection that is left. -/
theorem groupOf_disconnectSection {room after : RoomState} {connId : ConnId}
    {deltaAtMs leftAtMs : Nat}
    (left : (disconnectSection room connId deltaAtMs leftAtMs).1 = some after) :
    (¬ (room.anonymousMode = false ∧ room.hostConnId = some connId) ∧
      groupOf after = (groupOf room).drop connId) ∨
    (room.anonymousMode = false ∧ room.hostConnId = some connId ∧
      ∃ successor epoch, ((groupOf room).drop connId).Succession successor ∧
        groupOf after = (((groupOf room).drop connId).lead successor).rebind.atEpoch epoch ∧
          epoch = saturatingAdd room.permissionsEpoch 1) := by
  unfold disconnectSection at left
  dsimp only at left
  split at left
  · cases left
  · have same : groupOf (removeConnection
        { room with deviceCapsByConn := room.deviceCapsByConn.remove connId } connId) =
        (groupOf room).drop connId := groupOf_removeConnection _ _
    have presence : ∀ (known : Bool) (current : RoomState),
        groupOf (if known then current.bumpPresenceSequence else current) = groupOf current := by
      intro known current
      split <;> rfl
    cases left
    rw [presence]
    split
    · next changed =>
        rw [Bool.and_eq_true, Bool.not_eq_true', beq_iff_eq] at changed
        have succession := succession_minConnId (removeConnection
          { room with deviceCapsByConn := room.deviceCapsByConn.remove connId } connId)
        rw [groupOf_bumpPermissionsEpoch, groupOf_succeedHost]
        rw [same] at succession ⊢
        exact .inr ⟨changed.1, changed.2, _, _, succession, rfl, rfl⟩
    · next unchanged =>
        rw [same]
        refine .inl ⟨fun both => unchanged ?_, rfl⟩
        rw [Bool.and_eq_true, Bool.not_eq_true', beq_iff_eq]
        exact both

theorem disconnectSection_step {room after : RoomState} {connId : ConnId}
    {deltaAtMs leftAtMs : Nat}
    (left : (disconnectSection room connId deltaAtMs leftAtMs).1 = some after) :
    Step u64Max (.leave connId) (groupOf room) (groupOf after) := by
  rcases groupOf_disconnectSection left with
    ⟨stays, view⟩ | ⟨transparent, hosts, successor, epoch, succession, view, rfl⟩
  · rw [view]
    refine .leave ?_
    by_contra both
    rw [not_or, not_not] at both
    exact stays ⟨Bool.eq_false_of_not_eq_true both.1, both.2⟩
  · rw [view]
    exact .succeed transparent hosts succession (announced_bump rfl)

/-- The room that an operation finds: connecting opens a room that is not there. -/
def HubRoom.opened (hub : HubState) (state : HubRoom) : RoomState :=
  state.room.getD (emptyRoom hub)

theorem HubRoom.opened_of_some {hub : HubState} {state : HubRoom} {room : RoomState}
    (found : state.room = some room) : state.opened hub = room := by
  simp [HubRoom.opened, found]

theorem HubRoom.eq_of_map {state : HubRoom} {room after : RoomState}
    {update : RoomState → RoomState} (found : state.room = some room)
    (left : state.room.map update = some after) : after = update room := by
  rw [found] at left
  exact (Option.some.inj left).symm

/-- Every operation that leaves a room behind is a step of its group. -/
theorem apply_step {hub : HubState} {connId : ConnId} {op : Operation} {state : HubRoom}
    {after : RoomState}
    (fresh : ∀ connectedAtMs, op = .connect connectedAtMs →
      (state.opened hub).participants.get? connId = none)
    (left : (op.apply hub connId state).room = some after) :
    Step u64Max (op.action (state.opened hub) connId) (groupOf (state.opened hub))
      (groupOf after) := by
  have updated : ∀ {op : Operation},
      state.room.map (op.updateRoom hub connId) = some after →
      Step u64Max (op.action (state.opened hub) connId) (groupOf (state.opened hub))
        (groupOf after) := by
    intro op same
    obtain ⟨room, found, rfl⟩ := Option.map_eq_some_iff.mp same
    rw [HubRoom.opened_of_some found]
    exact updateRoom_step hub connId op room
  have untouched : state.room = some after → ∀ action,
      Step u64Max action (groupOf (state.opened hub)) (groupOf after) := by
    intro same action
    rw [HubRoom.opened_of_some same]
    exact .refused
  cases op with
  | connect connectedAtMs =>
      cases left
      exact connect_step connectedAtMs (fresh connectedAtMs rfl)
  | disconnect deltaAtMs leftAtMs =>
      obtain ⟨room, found, remains⟩ := Option.bind_eq_some_iff.mp left
      rw [HubRoom.opened_of_some found]
      exact disconnectSection_step remains
  | trySend | takeMessage | closeChannel => exact untouched left _
  | _ => exact updated left

end Kaigi.Hub
