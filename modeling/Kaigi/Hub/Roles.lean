import Kaigi.Hub.Validation

/-!
# Roles and policy

Host and co-host authority is stored twice: by name (`host_role_owner`,
`co_host_role_owners`), which survives a disconnect, and by connection
(`host_conn_id`, `co_host_conn_ids`), which is what the handlers check.
-/

set_option autoImplicit false

namespace Kaigi.Hub

open Collections Wire

def roleKindForConn (room : RoomState) (connId : ConnId) : RoleKind :=
  if room.hostConnId = some connId then .host
  else if room.coHostConnIds.contains connId then .coHost
  else .participant

def canModerateConn (room : RoomState) (connId : ConnId) : Bool :=
  roleKindForConn room connId == .host || roleKindForConn room connId == .coHost

def canManageRolesAndPolicy (room : RoomState) (connId : ConnId) : Bool :=
  room.hostConnId == some connId

/-- The connection is a joined one other than the host, and its participant id
is reserved for a co-host. -/
def isActiveCoHost (room : RoomState) (connId : ConnId) : Bool :=
  room.hostConnId != some connId &&
    (room.participants.get? connId).any fun participant =>
      participant.helloSeen && room.coHostRoleOwners.contains participant.participantId

/-- Drop the bindings that are no longer active, then add the missing ones. The
flag says whether the set of bindings changed. -/
def syncActiveCoHostBindings (room : RoomState) : RoomState × Bool :=
  let before := room.coHostConnIds
  let retained := room.coHostConnIds.retain (isActiveCoHost room)
  let bindings := room.participants.iter.foldl
    (fun bindings (connId, participant) =>
      if !participant.helloSeen || room.hostConnId == some connId then bindings
      else if room.coHostRoleOwners.contains participant.participantId then bindings.add connId
      else bindings)
    retained
  ({ room with coHostConnIds := bindings }, !HashSet.sameMembers bindings before)

def restoreReservedRolesOnJoin (room : RoomState) (connId : ConnId) (participantId : String) :
    RoomState × Bool :=
  let hostRestored := room.hostRoleOwner = some participantId ∧ room.hostConnId ≠ some connId
  let room := if hostRestored then { room with hostConnId := some connId } else room
  let coHostRestored := room.hostConnId ≠ some connId ∧
    room.coHostRoleOwners.contains participantId = true ∧
      room.coHostConnIds.contains connId = false
  let room := if coHostRestored then
    { room with coHostConnIds := room.coHostConnIds.add connId } else room
  let (room, synced) := syncActiveCoHostBindings room
  (room, decide hostRestored || decide coHostRestored || synced)

def participantIdHasReservedModerationRole (room : RoomState) (participantId : String) : Bool :=
  room.hostRoleOwner == some participantId || room.coHostRoleOwners.contains participantId

def connOrParticipantCanModerate (room : RoomState) (connId : ConnId) (participantId : String) :
    Bool :=
  room.hostConnId == some connId || room.coHostConnIds.contains connId ||
    participantIdHasReservedModerationRole room participantId

def signedActionClockKey (actionTag signerId : String) : String :=
  actionTag ++ ":" ++ signerId

def enforceSignedActionClock (room : RoomState) (actionTag signerId timestampLabel : String)
    (timestampMs : Nat) : Except String RoomState :=
  if timestampMs = 0 then .error s!"{timestampLabel} must be >= 1"
  else
    let key := signedActionClockKey actionTag signerId
    let accepted : RoomState :=
      { room with
        signedActionClockBySigner := room.signedActionClockBySigner.put key timestampMs }
    match room.signedActionClockBySigner.get? key with
    | some lastSeen =>
        if timestampMs ≤ lastSeen then
          .error (s!"{actionTag} {timestampLabel} must increase for signer {signerId}: " ++
            s!"last={lastSeen} got={timestampMs} (replay/stale rejected)")
        else .ok accepted
    | none => .ok accepted

/-- The checks a host-only signed action passes before it looks at its target:
`claim` names the field that must equal the sender's participant id, `action`
the signature that was tried. -/
def authorizeHostAction (room : RoomState) (senderConnId : ConnId)
    (signerId claim signatureHex action : String) (signatureValid : Bool) : Option String :=
  match room.participants.get? senderConnId with
  | none => some "participant missing"
  | some sender =>
      if !sender.helloSeen then some "send Hello first"
      else if !canManageRolesAndPolicy room senderConnId then some "host only"
      else if sender.participantId ≠ signerId then
        some s!"{claim} must match sender participant_id"
      else if !isValidHexLen signatureHex 32 then some "signature_hex must be 32-byte hex"
      else if !signatureValid then some s!"signature_hex failed {action} verification"
      else none

/-- The first joined participant with this id, in iteration order. -/
def findJoinedParticipant (room : RoomState) (participantId : String) : Option ConnId :=
  (room.participants.iter.find? fun (_, participant) =>
    participant.helloSeen && participant.participantId == participantId).map Prod.fst

structure RoleMutationOutcome where
  hostChanged : Bool
  permissionsChanged : Bool
  roleChange : Option RoleChangeEntry

/-- The host branch of `apply_role_grant`. -/
def grantHost (room : RoomState) (targetConnId : ConnId) (targetParticipantId : String) :
    RoomState × RoleMutationOutcome :=
  let ownerChanged := room.hostRoleOwner ≠ some targetParticipantId
  let hostChanged := room.hostConnId ≠ some targetConnId
  let room := { room with
    hostRoleOwner := some targetParticipantId
    hostConnId := some targetConnId }
  let (room, synced) := syncActiveCoHostBindings room
  let permissionsChanged := decide ownerChanged || decide hostChanged || synced
  (if permissionsChanged then room.bumpPermissionsEpoch else room,
    { hostChanged := decide hostChanged
      permissionsChanged := permissionsChanged
      roleChange := if hostChanged then
        some { participantId := targetParticipantId, role := .host, granted := true } else none })

/-- The co-host branch of `apply_role_grant`. -/
def grantCoHost (room : RoomState) (targetConnId : ConnId) (targetParticipantId : String) :
    RoomState × RoleMutationOutcome :=
  let reserved := !room.coHostRoleOwners.contains targetParticipantId
  let room := { room with coHostRoleOwners := room.coHostRoleOwners.add targetParticipantId }
  let bound := room.hostConnId != some targetConnId && !room.coHostConnIds.contains targetConnId
  let room := if bound then
    { room with coHostConnIds := room.coHostConnIds.add targetConnId } else room
  let (room, synced) := syncActiveCoHostBindings room
  let permissionsChanged := reserved || bound || synced
  (if permissionsChanged then room.bumpPermissionsEpoch else room,
    { hostChanged := false
      permissionsChanged := permissionsChanged
      roleChange := if permissionsChanged then
        some { participantId := targetParticipantId, role := .coHost, granted := true }
      else none })

/-- The co-host branch of `apply_role_revoke`. -/
def revokeCoHost (room : RoomState) (targetConnId : ConnId) (targetParticipantId : String) :
    RoomState × RoleMutationOutcome :=
  let released := room.coHostRoleOwners.contains targetParticipantId
  let room := { room with coHostRoleOwners := room.coHostRoleOwners.discard targetParticipantId }
  let unbound := room.coHostConnIds.contains targetConnId
  let room := { room with coHostConnIds := room.coHostConnIds.discard targetConnId }
  let (room, synced) := syncActiveCoHostBindings room
  let permissionsChanged := released || unbound || synced
  (if permissionsChanged then room.bumpPermissionsEpoch else room,
    { hostChanged := false
      permissionsChanged := permissionsChanged
      roleChange := if permissionsChanged then
        some { participantId := targetParticipantId, role := .coHost, granted := false }
      else none })

def applyRoleGrant (hub : HubState) (room : RoomState) (senderConnId : ConnId)
    (grant : RoleGrantFrame) : RoomState × Except String RoleMutationOutcome :=
  match authorizeHostAction room senderConnId grant.grantedBy "granted_by" grant.signatureHex
      "role_grant" (roleGrantSignatureIsValid hub grant) with
  | some message => (room, .error message)
  | none =>
    match findJoinedParticipant room grant.targetParticipantId with
    | none => (room, .error s!"unknown participant_id: {grant.targetParticipantId}")
    | some targetConnId =>
      if grant.role = .participant then
        (room, .error "role grant supports Host or CoHost only")
      else if grant.role = .coHost ∧ room.hostConnId = some targetConnId then
        (room, .error "host already has full permissions")
      else
        match enforceSignedActionClock room "role_grant" grant.grantedBy "issued_at_ms"
            grant.issuedAtMs with
        | .error message => (room, .error message)
        | .ok room =>
          let (room, outcome) :=
            if grant.role = .host then grantHost room targetConnId grant.targetParticipantId
            else grantCoHost room targetConnId grant.targetParticipantId
          (room, .ok outcome)

def applyRoleRevoke (hub : HubState) (room : RoomState) (senderConnId : ConnId)
    (revoke : RoleRevokeFrame) : RoomState × Except String RoleMutationOutcome :=
  match authorizeHostAction room senderConnId revoke.revokedBy "revoked_by" revoke.signatureHex
      "role_revoke" (roleRevokeSignatureIsValid hub revoke) with
  | some message => (room, .error message)
  | none =>
    match findJoinedParticipant room revoke.targetParticipantId with
    | none => (room, .error s!"unknown participant_id: {revoke.targetParticipantId}")
    | some targetConnId =>
      if revoke.role ≠ .coHost then (room, .error "role revoke supports CoHost only")
      else
        match enforceSignedActionClock room "role_revoke" revoke.revokedBy "issued_at_ms"
            revoke.issuedAtMs with
        | .error message => (room, .error message)
        | .ok room =>
          let (room, outcome) := revokeCoHost room targetConnId revoke.targetParticipantId
          (room, .ok outcome)

/-- The fields an accepted `SessionPolicy` frame sets. -/
def installSessionPolicy (room : RoomState) (update : SessionPolicyFrame) : RoomState :=
  RoomState.bumpPermissionsEpoch
    { room with
      roomLock := update.roomLock
      waitingRoomEnabled := update.waitingRoomEnabled
      guestJoinAllowed := update.guestJoinAllowed
      localRecordingAllowed := update.localRecordingAllowed
      e2eeRequired := update.e2eeRequired
      maxParticipants := update.maxParticipants
      policyEpoch := update.policyEpoch
      policyUpdatedAtMs := update.updatedAtMs
      policyUpdatedBy := update.updatedBy
      policySignatureHex := update.signatureHex }

def applySessionPolicyUpdate (hub : HubState) (room : RoomState) (senderConnId : ConnId)
    (update : SessionPolicyFrame) : RoomState × Except String Unit :=
  match authorizeHostAction room senderConnId update.updatedBy "updated_by" update.signatureHex
      "session_policy" (sessionPolicySignatureIsValid hub update) with
  | some message => (room, .error message)
  | none =>
    if update.policyEpoch ≤ room.policyEpoch then
      (room, .error
        s!"policy_epoch must increase: current={room.policyEpoch} got={update.policyEpoch}")
    else if update.maxParticipants = 0 then (room, .error "max_participants must be >= 1")
    else
      match enforceSignedActionClock room "session_policy" update.updatedBy "updated_at_ms"
          update.updatedAtMs with
      | .error message => (room, .error message)
      | .ok room => (installSessionPolicy room update, .ok ())

def validateModerationSenderClock (room : RoomState) (senderConnId : ConnId)
    (moderation : ModerationFrame) : Except String RoomState :=
  match room.participants.get? senderConnId with
  | none => .error "participant missing"
  | some sender =>
      enforceSignedActionClock room "moderation" sender.participantId "sent_at_ms"
        moderation.sentAtMs

def permissionsSnapshotForConn (room : RoomState) (connId : ConnId) (atMs : Nat) :
    Option PermissionsSnapshotFrame :=
  match room.participants.get? connId with
  | none => none
  | some participant =>
      if !participant.helloSeen then none
      else some {
        atMs := atMs
        participantId := participant.participantId
        host := roleKindForConn room connId == .host
        coHost := roleKindForConn room connId == .coHost
        canModerate := canModerateConn room connId
        canRecordLocal := room.localRecordingAllowed
        epoch := room.permissionsEpoch }

end Kaigi.Hub
