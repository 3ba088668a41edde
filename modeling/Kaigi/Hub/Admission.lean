import Kaigi.Hub.Roles

/-!
# Admission

How a connection becomes a joined participant of a transparent room, waits for
admission, is refused, or leaves.
-/

set_option autoImplicit false

namespace Kaigi.Hub

open Collections Wire

/-- Account-like ids are `name@domain`; ids without `@` are guests. -/
def participantIdIsGuest (participantId : String) : Bool :=
  !participantId.toList.contains '@'

def participantSnapshotFromState (state : ParticipantState) (atMs : Nat) : ParticipantSnapshot where
  atMs := atMs
  participantId := state.participantId
  displayName := state.displayName
  micEnabled := state.micEnabled
  videoEnabled := state.videoEnabled
  screenShareEnabled := state.screenShareEnabled

/-- Some other joined or waiting connection uses this participant id. -/
def participantIdInUse (room : RoomState) (connId : ConnId) (participantId : String) : Bool :=
  room.participants.iter.any fun (id, participant) =>
    id != connId && (participant.helloSeen || participant.waitingRoomPending) &&
      participant.participantId == participantId

def activeJoined (room : RoomState) : Nat :=
  (room.participants.values.filter (·.helloSeen)).length

def validateJoinAllowed (room : RoomState) (connId : ConnId) (participantId : String) :
    Option String :=
  if (room.participants.get? connId).any fun participant =>
      participant.helloSeen && participant.participantId != participantId then
    some "participant_id cannot change after Hello"
  else if participantIdInUse room connId participantId then
    some s!"participant_id already in use: {participantId}"
  else
    let canModerate := connOrParticipantCanModerate room connId participantId
    let alreadyJoined := room.helloSeen connId
    if room.roomLock && room.hostConnId.isSome && !canModerate then some "room is locked"
    else if !alreadyJoined && !room.guestJoinAllowed && participantIdIsGuest participantId &&
        room.hostConnId.isSome && !canModerate then
      some "guest participants are not allowed by room policy"
    else if !alreadyJoined && activeJoined room ≥ room.maxParticipants then
      some s!"room is full: max_participants={room.maxParticipants}"
    else none

/-- Enforce "mic/cam/share off on join". The flag says whether anything was on. -/
def enforceJoinMediaDefaults (hello : HelloFrame) : HelloFrame × Bool :=
  ({ hello with micEnabled := false, videoEnabled := false, screenShareEnabled := false },
    hello.micEnabled || hello.videoEnabled || hello.screenShareEnabled)

/-- The first accepted `Hello` of a room without a host claims the host role. -/
def claimVacantHost (room : RoomState) (connId : ConnId) (participantId : String) : RoomState :=
  if room.hostConnId.isNone then
    (syncActiveCoHostBindings
      { room with hostConnId := some connId, hostRoleOwner := some participantId }).1
      |>.bumpPermissionsEpoch
  else room

/-- What `Hello` writes into the participant of its connection. -/
def helloParticipant (participant : ParticipantState) (hello : HelloFrame)
    (routeToWaitingRoom : Bool) : ParticipantState :=
  { participant with
    participantId := hello.participantId
    displayName := hello.displayName
    participantHandle := none
    x25519PubkeyHex := none
    x25519Epoch := 0
    anonymousMode := false
    micEnabled := hello.micEnabled
    videoEnabled := hello.videoEnabled
    screenShareEnabled := hello.screenShareEnabled
    waitingRoomPending := routeToWaitingRoom
    helloSeen := !routeToWaitingRoom
    lastEscrowProofAtMs := none
    escrowId := none }

/-- The common end of a direct join and of an admission: a key epoch entry, the
reserved roles, the next presence sequence number. -/
def completeJoin (room : RoomState) (connId : ConnId) (participantId : String) : RoomState :=
  let room := { room with e2eeEpochs := room.e2eeEpochs.orInsert connId 0 }
  let (room, restored) := restoreReservedRolesOnJoin room connId participantId
  let room := if restored then room.bumpPermissionsEpoch else room
  room.bumpPresenceSequence

def joinedDelta (room : RoomState) (snapshot : ParticipantSnapshot) (atMs : Nat) :
    ParticipantPresenceDeltaFrame where
  atMs := atMs
  sequence := room.presenceSequence
  joined := [snapshot]
  left := []
  roleChanges := []

inductive HelloOutcome where
  | modeConflict
  | denied (reason : String)
  | waiting (notice : String)
  | joined (snapshot : ParticipantSnapshot) (presenceDelta : ParticipantPresenceDeltaFrame)
  | participantMissing

/-- Not joined yet, the waiting room is on, somebody hosts, and neither the
connection nor its participant id has a moderation role. -/
def routeToWaitingRoom (room : RoomState) (connId : ConnId) (participantId : String) : Bool :=
  !room.helloSeen connId && room.waitingRoomEnabled && room.hostConnId.isSome &&
    !connOrParticipantCanModerate room connId participantId

/-- The critical section of `Hello`. -/
def helloSection (room : RoomState) (connId : ConnId) (hello : HelloFrame)
    (snapshotAtMs deltaAtMs : Nat) : RoomState × HelloOutcome :=
  if room.anonymousMode then (room, .modeConflict)
  else
    match validateJoinAllowed room connId hello.participantId with
    | some reason => (room, .denied reason)
    | none =>
      let room := claimVacantHost room connId hello.participantId
      let waiting := routeToWaitingRoom room connId hello.participantId
      match room.participants.get? connId with
      -- The claim above is kept although the handler fails here.
      | none => (room, .participantMissing)
      | some participant =>
        let joinedState := helloParticipant participant hello waiting
        let room := room.updateParticipant connId fun _ => joinedState
        if waiting then
          (room, .waiting
            s!"waiting room: pending admission for participant_id={hello.participantId}")
        else
          let room := completeJoin room connId hello.participantId
          let snapshot := participantSnapshotFromState joinedState snapshotAtMs
          (room, .joined snapshot (joinedDelta room snapshot deltaAtMs))

structure WaitingRoomAdmitOutcome where
  connId : ConnId
  snapshot : ParticipantSnapshot
  presenceDelta : ParticipantPresenceDeltaFrame

def admitParticipant (participant : ParticipantState) : ParticipantState :=
  { participant with
    waitingRoomPending := false
    helloSeen := true
    micEnabled := false
    videoEnabled := false
    screenShareEnabled := false }

def admitWaitingParticipant (room : RoomState) (targetConnId : ConnId) (atMs : Nat) :
    RoomState × Except String WaitingRoomAdmitOutcome :=
  match room.participants.get? targetConnId with
  | none => (room, .error "participant missing")
  | some target =>
    if !target.waitingRoomPending then
      (room, .error s!"participant_id is not waiting: {target.participantId}")
    else
      let joinedState := admitParticipant target
      let room := room.updateParticipant targetConnId fun _ => joinedState
      let room := completeJoin room targetConnId joinedState.participantId
      let snapshot := participantSnapshotFromState joinedState atMs
      (room, .ok {
        connId := targetConnId
        snapshot := snapshot
        presenceDelta := joinedDelta room snapshot atMs })

/-- Take a connection out of every map that `deny_waiting_participant` and
`handle_disconnect` both clear. -/
def removeConnection (room : RoomState) (connId : ConnId) : RoomState :=
  { room with
    participants := room.participants.remove connId
    coHostConnIds := room.coHostConnIds.discard connId
    e2eeEpochs := room.e2eeEpochs.remove connId
    keyRotationAckEpochs := room.keyRotationAckEpochs.remove connId }

/-- Host succession: the smallest connection id left in the room becomes host. -/
def succeedHost (room : RoomState) : RoomState :=
  (syncActiveCoHostBindings { room with hostConnId := room.minConnId }).1

def denyWaitingParticipant (room : RoomState) (targetConnId : ConnId) :
    RoomState × Except String String :=
  match room.participants.get? targetConnId with
  | none => (room, .error "participant missing")
  | some target =>
    if !target.waitingRoomPending then
      (room, .error s!"participant_id is not waiting: {target.participantId}")
    else
      let room := removeConnection room targetConnId
      let room := if room.hostConnId = some targetConnId then succeedHost room else room
      (room, .ok target.participantId)

structure DisconnectOutcome where
  leftParticipantId : Option String
  leftParticipantHandle : Option String
  removeRoom : Bool
  hostChanged : Bool
  anonymousMode : Bool
  presenceDelta : Option ParticipantPresenceDeltaFrame

/-- The first critical section of `handle_disconnect`: the room after it, or
`none` when it was removed because nobody is left. -/
def disconnectSection (room : RoomState) (connId : ConnId) (deltaAtMs leftAtMs : Nat) :
    Option RoomState × DisconnectOutcome :=
  let left := room.participants.get? connId
  let leftId := left.map (·.participantId)
  let leftHandle := left.bind (·.participantHandle)
  let room := removeConnection
    { room with deviceCapsByConn := room.deviceCapsByConn.remove connId } connId
  if room.participants.isEmpty then
    (none, {
      leftParticipantId := leftId
      leftParticipantHandle := leftHandle
      removeRoom := true
      hostChanged := false
      anonymousMode := room.anonymousMode
      presenceDelta := none })
  else
    let hostChanged := !room.anonymousMode && room.hostConnId == some connId
    let room := if hostChanged then (succeedHost room).bumpPermissionsEpoch else room
    let presenceId := if room.anonymousMode then none else leftId
    let room := if presenceId.isSome then room.bumpPresenceSequence else room
    (some room, {
      leftParticipantId := leftId
      leftParticipantHandle := leftHandle
      removeRoom := false
      hostChanged := hostChanged
      anonymousMode := room.anonymousMode
      presenceDelta := presenceId.map fun participantId => {
        atMs := deltaAtMs
        sequence := room.presenceSequence
        joined := []
        left := [{ atMs := leftAtMs, participantId := participantId }]
        roleChanges := [] } })

end Kaigi.Hub
