import Kaigi.Hub.Billing
import Mathlib.Data.List.Sort

/-!
# Anonymous mode

The first accepted `AnonHello` turns a room without joined transparent
participants into an anonymous one, for good.
-/

set_option autoImplicit false

namespace Kaigi.Hub

open Collections Wire

def validateAnonymousRoomCapacity (room : RoomState) (connId : ConnId)
    (maxAnonParticipants : Nat) : Option String :=
  if (room.participants.get? connId).any fun participant =>
      participant.anonymousMode && participant.helloSeen then none
  else
    let activeAnon := (room.participants.values.filter fun participant =>
      participant.anonymousMode && participant.helloSeen).length
    if activeAnon ≥ maxAnonParticipants then
      some s!"anonymous room participant cap reached: max {maxAnonParticipants}"
    else none

def validateAnonParticipantHandle (room : RoomState) (connId : ConnId)
    (requestedHandle : String) : Option String :=
  (validateOpaqueName requestedHandle "participant_handle" maxAnonParticipantHandleLen).or <|
  if room.participants.iter.any fun (id, participant) =>
      id != connId && participant.anonymousMode &&
        participant.participantHandle == some requestedHandle then
    some "participant_handle already in use"
  else if ((room.participants.get? connId).bind (·.participantHandle)).any
      (· != requestedHandle) then
    some "participant_handle cannot change after AnonHello"
  else none

def recordAnonAdmissionRejection (room : RoomState) : RoomState :=
  { room with anonAdmissionRejections := saturatingAdd room.anonAdmissionRejections 1 }

def applyAnonHelloState (participant : ParticipantState) (hello : AnonHelloFrame) (nowMs : Nat) :
    Except String ParticipantState :=
  let firstAnonymousHello := !participant.helloSeen || !participant.anonymousMode
  if participant.helloSeen && participant.anonymousMode &&
      participant.x25519PubkeyHex.any (· != hello.x25519PubkeyHex) then
    .error "x25519 key changes require GroupKeyUpdate"
  else
    .ok { participant with
      anonymousMode := true
      waitingRoomPending := false
      helloSeen := true
      participantHandle := some hello.participantHandle
      x25519PubkeyHex := some hello.x25519PubkeyHex
      x25519Epoch := if participant.x25519Epoch = 0 then 1 else participant.x25519Epoch
      lastBilledAtMs := if firstAnonymousHello then nowMs else participant.lastBilledAtMs }

def anonRosterFrameLocked (room : RoomState) (atMs : Nat) : AnonRosterFrame where
  atMs := atMs
  participants :=
    (room.participants.values.filterMap fun participant =>
      match participant.participantHandle, participant.x25519PubkeyHex with
      | some handle, some pubkey => some {
          participantHandle := handle
          x25519PubkeyHex := pubkey
          joinedAtMs := participant.lastBilledAtMs }
      | _, _ => none).insertionSort
    fun left right => left.participantHandle ≤ right.participantHandle

/-- Rotating the group key draws the next permissions epoch. -/
def buildAnonGroupKeyRotateFrame (hub : HubState) (room : RoomState) (atMs : Nat) :
    RoomState × AnonGroupKeyRotateFrame :=
  let room := room.bumpPermissionsEpoch
  let epoch := max room.permissionsEpoch 1
  let memberHandles := ((room.participants.values.filter fun participant =>
    participant.helloSeen && participant.anonymousMode).filterMap
      (·.participantHandle)).insertionSort (· ≤ ·)
  let entropy := "|".intercalate memberHandles
  (room, {
    sentAtMs := atMs
    epoch := epoch
    keyWrapHex := deterministicSignatureHex hub "anon_group_key_rotate"
      (toString atMs ++ "|" ++ toString epoch ++ "|" ++ entropy)
    memberHandles := memberHandles })

inductive AnonHelloOutcome where
  | ignored
  | rejected (message : String)
  | accepted (roster : AnonRosterFrame) (update : GroupKeyUpdateFrame)
      (rotate : AnonGroupKeyRotateFrame)

/-- Write the hello into the participant, then build the three frames that
announce it. `enter` is what happens to the room in between. -/
def announceAnonHello (hub : HubState) (room : RoomState) (connId : ConnId)
    (hello : AnonHelloFrame) (nowMs rosterAtMs : Nat) (enter : RoomState → RoomState) :
    RoomState × AnonHelloOutcome :=
  match room.participants.get? connId with
  | none => (room, .ignored)
  | some participant =>
    match applyAnonHelloState participant hello nowMs with
    | .error message => (room, .rejected message)
    | .ok joined =>
      let room := enter (room.updateParticipant connId fun _ => joined)
      let roster := anonRosterFrameLocked room rosterAtMs
      let update : GroupKeyUpdateFrame := {
        sentAtMs := nowMs
        participantHandle := hello.participantHandle
        x25519PubkeyHex := hello.x25519PubkeyHex
        epoch := joined.x25519Epoch }
      let (room, rotate) := buildAnonGroupKeyRotateFrame hub room nowMs
      (room, .accepted roster update rotate)

/-- The critical section of `AnonHello`. -/
def anonHelloSection (hub : HubState) (room : RoomState) (connId : ConnId)
    (hello : AnonHelloFrame) (nowMs rosterAtMs : Nat) : RoomState × AnonHelloOutcome :=
  match validateAnonParticipantHandle room connId hello.participantHandle with
  | some message => (room, .rejected message)
  | none =>
    match validateAnonymousRoomCapacity room connId hub.anonMaxParticipants with
    | some message => (recordAnonAdmissionRejection room, .rejected message)
    | none =>
      if !room.anonymousMode then
        if room.participants.values.any fun participant =>
            participant.helloSeen && !participant.anonymousMode then
          (room, .rejected "room is already in transparent mode")
        else
          match applyAnonymousZkSurcharge room.ratePerMinuteNano
              hub.billing.anonZkExtraFeePerMinuteNano with
          | .error message => (room, .rejected message)
          | .ok effectiveRate =>
            announceAnonHello hub room connId hello nowMs rosterAtMs fun room =>
              { room with ratePerMinuteNano := effectiveRate, anonymousMode := true }
      else announceAnonHello hub room connId hello nowMs rosterAtMs id

def shouldApplyGroupKeyUpdate (currentEpoch : Nat) (currentPubkeyHex : Option String)
    (updateEpoch : Nat) (updatePubkeyHex : String) : Except String Bool :=
  if updateEpoch = 0 then .error "group key epoch must be >= 1"
  else if updateEpoch < currentEpoch then
    .error (s!"group key epoch is stale: current_epoch={currentEpoch} " ++
      s!"update_epoch={updateEpoch}")
  else if updateEpoch = currentEpoch then
    if currentPubkeyHex = some updatePubkeyHex then .ok false
    else .error "group key rotation requires strictly increasing epoch for this sender"
  else .ok true

/-- What a relayed anonymous frame does next: report, relay, or nothing. -/
inductive RelayOutcome where
  | nothing
  | refused (message : String)
  | relay

/-- The checks every anonymous relay makes on its sender. -/
def validateAnonSender (participant : ParticipantState) (handle mismatch : String) :
    Option String :=
  if !participant.helloSeen || !participant.anonymousMode then some "send AnonHello first"
  else if participant.participantHandle ≠ some handle then some mismatch
  else none

/-- The critical section of `GroupKeyUpdate`. -/
def groupKeyUpdateSection (room : RoomState) (connId : ConnId) (update : GroupKeyUpdateFrame) :
    RoomState × RelayOutcome :=
  if !room.anonymousMode then
    (room, .refused "group key updates require anonymous room mode")
  else
    match validateGroupKeyUpdateFrame update with
    | some message => (room, .refused message)
    | none =>
      match room.participants.get? connId with
      | none => (room, .nothing)
      | some participant =>
        match validateAnonSender participant update.participantHandle
            "group key sender handle does not match connection" with
        | some message => (room, .refused message)
        | none =>
          match shouldApplyGroupKeyUpdate participant.x25519Epoch participant.x25519PubkeyHex
              update.epoch update.x25519PubkeyHex with
          | .error message => (room, .refused message)
          | .ok false => (room, .nothing)
          | .ok true =>
            (room.updateParticipant connId fun participant =>
              { participant with
                x25519PubkeyHex := some update.x25519PubkeyHex
                x25519Epoch := update.epoch }, .relay)

/-- The critical section of `EncryptedControl`, which changes nothing. -/
def encryptedControlOutcome (room : RoomState) (connId : ConnId) (enc : EncryptedControlFrame) :
    RelayOutcome :=
  if !room.anonymousMode then
    .refused "encrypted control frames require anonymous room mode"
  else
    match validateEncryptedControlFrame enc with
    | some message => .refused message
    | none =>
      match room.participants.get? connId with
      | none => .nothing
      | some participant =>
        match (validateAnonSender participant enc.senderHandle
            "encrypted sender handle does not match connection").or <|
          (validateEncryptedControlEpoch enc.epoch participant.x25519Epoch).or <|
            validateEncryptedControlRoomRecipients enc room with
        | some message => .refused message
        | none => .relay

/-- The critical section of `AnonEncryptedPayload`, which changes nothing. -/
def anonEncryptedPayloadOutcome (room : RoomState) (connId : ConnId)
    (enc : AnonEncryptedPayloadFrame) : RelayOutcome :=
  if !room.anonymousMode then
    .refused "anonymous encrypted payloads require anonymous room mode"
  else if !isValidHexLen enc.nonceHex 24 then .refused "nonce_hex must be 24-byte hex"
  else if !isValidHex enc.ciphertextHex then .refused "ciphertext_hex must be valid hex"
  else
    match room.participants.get? connId with
    | none => .nothing
    | some participant =>
      match validateAnonSender participant enc.senderHandle
          "anonymous encrypted sender_handle does not match connection" with
      | some message => .refused message
      | none => if enc.epoch = 0 then .refused "epoch must be >= 1" else .relay

/-- The critical section of `EscrowProof`: the room, and the reason of a refusal
when a participant is there to be answered. -/
def escrowProofSection (room : RoomState) (connId : ConnId) (proof : EscrowProofFrame)
    (nowMs : Nat) : RoomState × Option (Option String) :=
  match room.participants.get? connId with
  | none => (room, none)
  | some participant =>
    let refusal :=
      if !room.anonymousMode || !participant.anonymousMode then
        some "escrow proofs require anonymous room mode"
      else if !participant.helloSeen then some "send AnonHello first"
      else if participant.participantHandle ≠ some proof.payerHandle then
        some "escrow proof payer handle does not match connection"
      else (validateEscrowProofFrame proof).or
        (validateEscrowIdConsistency participant.escrowId proof.escrowId)
    match refusal with
    | some reason => (room, some (some reason))
    | none =>
      (room.updateParticipant connId fun participant =>
        { participant with
          lastEscrowProofAtMs := some nowMs
          escrowId := some (participant.escrowId.getD proof.escrowId) }, some none)

end Kaigi.Hub
