import Kaigi.Authority.Step
import Kaigi.Hub.Operation

/-!
# A room as a group

The part of a room that decides about membership and authority, and what the
building blocks of the critical sections do to it.
-/

set_option autoImplicit false

namespace Kaigi.Hub

open Collections Wire Authority

def memberOf (participant : ParticipantState) : Member String where
  id := participant.participantId
  joined := participant.helloSeen
  waiting := participant.waitingRoomPending
  anonymous := participant.anonymousMode
  named := participant.participantHandle.isSome

def groupOf (room : RoomState) : Group ConnId String where
  members := fun connId => (room.participants.get? connId).map memberOf
  host := room.hostConnId
  hostOwner := room.hostRoleOwner
  coHosts := {connId | room.coHostConnIds.contains connId = true}
  coHostOwners := {id | room.coHostRoleOwners.contains id = true}
  epoch := room.permissionsEpoch
  waitingRoom := room.waitingRoomEnabled
  recording := room.localRecordingAllowed
  anonymous := room.anonymousMode

theorem members_groupOf {room : RoomState} {connId : ConnId} {participant : ParticipantState}
    (found : room.participants.get? connId = some participant) :
    (groupOf room).members connId = some (memberOf participant) := by
  simp [groupOf, found]

theorem members_groupOf_none {room : RoomState} {connId : ConnId} :
    (groupOf room).members connId = none ↔ room.participants.get? connId = none := by
  simp [groupOf]

theorem members_groupOf_eq_some {room : RoomState} {connId : ConnId} {member : Member String} :
    (groupOf room).members connId = some member ↔
      ∃ participant, room.participants.get? connId = some participant ∧
        memberOf participant = member := by
  simp [groupOf]

theorem joined_groupOf {room : RoomState} {connId : ConnId} :
    (groupOf room).Joined connId ↔ room.helloSeen connId = true := by
  unfold Group.Joined RoomState.helloSeen
  simp only [members_groupOf_eq_some, Option.any_eq_true]
  constructor
  · rintro ⟨_, ⟨participant, found, rfl⟩, joined⟩
    exact ⟨participant, found, joined⟩
  · rintro ⟨participant, found, joined⟩
    exact ⟨_, ⟨participant, found, rfl⟩, joined⟩

theorem present_groupOf {room : RoomState} {connId : ConnId} :
    connId ∈ (groupOf room).present ↔ connId ∈ room.participants.keys := by
  rw [HashMap.mem_keys, Option.isSome_iff_exists]
  constructor
  · rintro ⟨_, found⟩
    obtain ⟨participant, present, _⟩ := members_groupOf_eq_some.mp found
    exact ⟨participant, present⟩
  · rintro ⟨participant, found⟩
    exact ⟨_, members_groupOf found⟩

theorem joined_mem_keys {room : RoomState} {connId : ConnId}
    (joined : room.helloSeen connId = true) : connId ∈ room.participants.keys := by
  obtain ⟨member, found, _⟩ := joined_groupOf.mpr joined
  exact present_groupOf.mp ⟨member, found⟩

theorem groupOf_updateParticipant {room : RoomState} {connId : ConnId}
    {participant : ParticipantState} (found : room.participants.get? connId = some participant)
    (updated : ParticipantState) :
    groupOf (room.updateParticipant connId fun _ => updated) =
      (groupOf room).put connId (memberOf updated) := by
  ext1
  case members =>
    funext other
    simp only [groupOf, RoomState.updateParticipant, HashMap.get?_modify, Group.put_members]
    split
    · next same => simp [same, found]
    · rfl
  all_goals rfl

/-- An update that keeps what the group sees of the participant. -/
theorem groupOf_updateParticipant_same {room : RoomState} {connId : ConnId}
    {update : ParticipantState → ParticipantState}
    (same : ∀ participant, room.participants.get? connId = some participant →
      memberOf (update participant) = memberOf participant) :
    groupOf (room.updateParticipant connId update) = groupOf room := by
  ext1
  case members =>
    funext other
    simp only [groupOf, RoomState.updateParticipant, HashMap.get?_modify]
    split
    · next here =>
        subst here
        cases found : room.participants.get? other with
        | none => rfl
        | some participant => simp [same participant found]
    · rfl
  all_goals rfl

theorem groupOf_bumpPermissionsEpoch (room : RoomState) :
    groupOf room.bumpPermissionsEpoch =
      (groupOf room).atEpoch (saturatingAdd room.permissionsEpoch 1) := rfl

theorem groupOf_removeConnection (room : RoomState) (connId : ConnId) :
    groupOf (removeConnection room connId) = (groupOf room).drop connId := by
  ext1
  case members =>
    funext other
    simp only [groupOf, removeConnection, HashMap.get?_remove, Group.drop_members]
    split <;> rfl
  case coHosts =>
    ext other
    simp only [groupOf, removeConnection, HashSet.contains_discard, Group.drop_coHosts,
      Set.mem_ofPred_eq, Set.mem_sdiff, Set.mem_singleton_iff, Bool.and_eq_true,
      Bool.not_eq_true', decide_eq_false_iff_not]
    exact and_comm
  all_goals rfl

theorem isLeast_removed {room : RoomState} {connId next : ConnId}
    (least : IsLeast ((groupOf room).drop connId).present next) :
    (room.participants.remove connId).keys.min? = some next := by
  have removed : (groupOf room).drop connId = groupOf (removeConnection room connId) :=
    (groupOf_removeConnection room connId).symm
  rw [removed] at least
  exact List.min?_eq_some_iff.mpr ⟨present_groupOf.mp least.1, fun other member =>
    least.2 (present_groupOf.mpr member)⟩

theorem isActiveCoHost_iff {room : RoomState} {connId : ConnId} :
    isActiveCoHost room connId = true ↔ connId ∈ (groupOf room).activeCoHosts := by
  unfold isActiveCoHost
  simp only [Bool.and_eq_true, bne_iff_ne, Option.any_eq_true, Group.mem_activeCoHosts,
    members_groupOf_eq_some]
  constructor
  · rintro ⟨notHost, participant, found, joined, reserved⟩
    exact ⟨notHost, _, ⟨participant, found, rfl⟩, joined, reserved⟩
  · rintro ⟨notHost, _, ⟨participant, found, rfl⟩, joined, reserved⟩
    exact ⟨notHost, participant, found, joined, reserved⟩

/-- The bindings after a sync are exactly the active co-hosts. -/
theorem contains_syncActiveCoHostBindings (room : RoomState) (connId : ConnId) :
    (syncActiveCoHostBindings room).1.coHostConnIds.contains connId = true ↔
      isActiveCoHost room connId = true := by
  let select (entry : ConnId × ParticipantState) : Option ConnId :=
    if !entry.2.helloSeen || room.hostConnId == some entry.1 then none
    else if room.coHostRoleOwners.contains entry.2.participantId then some entry.1 else none
  have loop : ∀ (bindings : HashSet ConnId) (entry : ConnId × ParticipantState),
      (if !entry.2.helloSeen || room.hostConnId == some entry.1 then bindings
        else if room.coHostRoleOwners.contains entry.2.participantId then bindings.add entry.1
        else bindings) = (select entry).elim bindings bindings.add := by
    intro bindings entry
    simp only [select]
    split
    · rfl
    · split <;> rfl
  have selects : ∀ entry ∈ room.participants.iter,
      select entry = some connId ↔ entry.1 = connId ∧ isActiveCoHost room connId = true := by
    rintro ⟨id, participant⟩ member
    have found := HashMap.mem_iter.mp member
    simp only [select, isActiveCoHost]
    by_cases same : id = connId
    · subst same
      cases joined : participant.helloSeen <;> simp [found, joined]
    · split
      · simp [same]
      · split <;> simp [same]
  simp only [syncActiveCoHostBindings, loop]
  rw [HashSet.contains_foldl_add]
  simp only [HashSet.contains_retain, Bool.and_eq_true]
  constructor
  · rintro (⟨_, active⟩ | ⟨entry, member, chosen⟩)
    · exact active
    · exact ((selects entry member).mp chosen).2
  · intro active
    obtain ⟨_, participant, present, _⟩ := isActiveCoHost_iff.mp active
    obtain ⟨state, found, _⟩ := members_groupOf_eq_some.mp present
    have member := HashMap.mem_iter.mpr found
    exact .inr ⟨(connId, state), member, (selects _ member).mpr ⟨rfl, active⟩⟩

theorem groupOf_syncActiveCoHostBindings (room : RoomState) :
    groupOf (syncActiveCoHostBindings room).1 = (groupOf room).rebind := by
  ext1
  case coHosts =>
    ext connId
    exact (contains_syncActiveCoHostBindings room connId).trans isActiveCoHost_iff
  all_goals rfl

/-- The flag of a sync misses no change of the bindings. -/
theorem syncActiveCoHostBindings_unchanged {room : RoomState}
    (unchanged : (syncActiveCoHostBindings room).2 = false) :
    (groupOf room).activeCoHosts = (groupOf room).coHosts := by
  have same : HashSet.sameMembers (syncActiveCoHostBindings room).1.coHostConnIds
      room.coHostConnIds = true := by
    simpa [syncActiveCoHostBindings] using unchanged
  ext connId
  rw [← isActiveCoHost_iff, ← contains_syncActiveCoHostBindings,
    HashSet.sameMembers_iff.mp same connId]
  rfl

theorem succession_minConnId (room : RoomState) : (groupOf room).Succession room.minConnId := by
  unfold RoomState.minConnId
  cases least : room.participants.keys.min? with
  | none =>
      have empty : room.participants.keys = [] := by simpa using least
      change (groupOf room).present = ∅
      ext connId
      rw [present_groupOf, empty]
      simp
  | some host =>
      obtain ⟨member, lower⟩ := List.min?_eq_some_iff.mp least
      exact ⟨present_groupOf.mpr member, fun other present =>
        lower other (present_groupOf.mp present)⟩

theorem groupOf_succeedHost (room : RoomState) :
    groupOf (succeedHost room) = ((groupOf room).lead room.minConnId).rebind := by
  unfold succeedHost
  rw [groupOf_syncActiveCoHostBindings]
  rfl

end Kaigi.Hub
