import Kaigi.Hub.Sections
import Kaigi.Interleaving.Process
import Mathlib.Logic.Function.Basic

/-!
# Atomic operations

Everything the tasks of one room share is the entry of the rooms map and the
outgoing channels. An operation is one acquisition of the rooms lock or one
access to a channel; between two operations of a task any other task may run.
Rooms never look at each other, so the model follows a single `room_id`.
-/

set_option autoImplicit false

namespace Kaigi.Hub

open Collections Wire Interleaving

inductive Message where
  | binary (frame : KaigiFrame)
  | pong (payload : List UInt8)
  | close

/-- A bounded outgoing channel; it is closed when its writer task is gone. -/
structure Channel where
  queue : List Message
  closed : Bool

def channelCapacity : Nat := 256

def Channel.accepts (channel : Channel) : Bool :=
  !channel.closed && channel.queue.length < channelCapacity

/-- `mpsc::Sender::try_send`. -/
def Channel.trySend (channel : Channel) (message : Message) : Channel :=
  if channel.accepts then { channel with queue := channel.queue ++ [message] } else channel

structure HubRoom where
  room : Option RoomState
  channels : ConnId → Channel

def HubRoom.updateChannel (state : HubRoom) (connId : ConnId) (update : Channel → Channel) :
    HubRoom :=
  { state with
    channels := fun id => if id = connId then update (state.channels id) else state.channels id }

inductive Operation where
  | connect (connectedAtMs : Nat)
  | disconnect (deltaAtMs leftAtMs : Nat)
  | billing (nowMs : Nat)
  | read
  | lookup (target : ConnId)
  | fanout (frame : KaigiFrame)
  | backpressure (dropped nowMs : Nat)
  | trySend (target : ConnId) (message : Message)
  | anonHello (hello : AnonHelloFrame) (nowMs rosterAtMs : Nat)
  | groupKeyUpdate (update : GroupKeyUpdateFrame)
  | escrowProof (proof : EscrowProofFrame) (nowMs : Nat)
  | groupKeyRotate (nowMs : Nat)
  | hello (hello : HelloFrame) (snapshotAtMs deltaAtMs : Nat)
  | participantState (update : ParticipantStateFrame) (atMs : Nat)
  | mediaTrackState (track : MediaTrackStateFrame) (atMs : Nat)
  | roomConfigUpdate (update : RoomConfigUpdateFrame) (nowMs : Nat)
  | roleGrant (grant : RoleGrantFrame) (deltaAtMs : Nat)
  | roleRevoke (revoke : RoleRevokeFrame) (deltaAtMs : Nat)
  | sessionPolicy (update : SessionPolicyFrame)
  | deviceCapability (cap : DeviceCapabilityFrame)
  | e2eeKeyEpoch (keyEpoch : E2EEKeyEpochFrame)
  | keyRotationAck (ack : KeyRotationAckFrame)
  | moderation (moderation : ModerationFrame) (nowMs admitAtMs : Nat)
  | payment (payment : PaymentFrame) (nowMs : Nat)
  -- The iteration order of a hash map may be any one at any time.
  | reorder (participants coHosts : List ConnId)
  | takeMessage
  | closeChannel

/-- `RoleGrant` and `RoleRevoke` draw a presence sequence number for the role
change they report. -/
def roleChangeSection (result : RoomState × Except String RoleMutationOutcome) (deltaAtMs : Nat) :
    RoomState ×
      Except String (RoleMutationOutcome × Option ParticipantPresenceDeltaFrame) :=
  match result with
  | (room, .error message) => (room, .error message)
  | (room, .ok outcome) =>
    match outcome.roleChange with
    | none => (room, .ok (outcome, none))
    | some roleChangeEntry =>
      let room := room.bumpPresenceSequence
      (room, .ok (outcome, some {
        atMs := deltaAtMs
        sequence := room.presenceSequence
        joined := []
        left := []
        roleChanges := [roleChangeEntry] }))

def roleGrantSection (hub : HubState) (room : RoomState) (connId : ConnId)
    (grant : RoleGrantFrame) (deltaAtMs : Nat) :=
  roleChangeSection (applyRoleGrant hub room connId grant) deltaAtMs

def roleRevokeSection (hub : HubState) (room : RoomState) (connId : ConnId)
    (revoke : RoleRevokeFrame) (deltaAtMs : Nat) :=
  roleChangeSection (applyRoleRevoke hub room connId revoke) deltaAtMs

namespace Operation

/-- What an operation of the task of `connId` does to a room that is there. -/
def updateRoom (hub : HubState) (connId : ConnId) (op : Operation) (room : RoomState) :
    RoomState :=
  match op with
  | .billing nowMs => (billingSection hub room connId nowMs).1
  | .backpressure dropped nowMs => (backpressureSection room dropped nowMs).1
  | .anonHello frame nowMs rosterAtMs =>
      (anonHelloSection hub room connId frame nowMs rosterAtMs).1
  | .groupKeyUpdate update => (groupKeyUpdateSection room connId update).1
  | .escrowProof proof nowMs => (escrowProofSection room connId proof nowMs).1
  | .groupKeyRotate nowMs => (buildAnonGroupKeyRotateFrame hub room nowMs).1
  | .hello frame snapshotAtMs deltaAtMs =>
      (helloSection room connId frame snapshotAtMs deltaAtMs).1
  | .participantState update atMs => (participantStateSection room connId update atMs).1
  | .mediaTrackState track atMs => (mediaTrackStateSection room connId track atMs).1
  | .roomConfigUpdate update nowMs => (roomConfigUpdateSection hub room connId update nowMs).1
  | .roleGrant grant deltaAtMs => (roleGrantSection hub room connId grant deltaAtMs).1
  | .roleRevoke revoke deltaAtMs => (roleRevokeSection hub room connId revoke deltaAtMs).1
  | .sessionPolicy update => (applySessionPolicyUpdate hub room connId update).1
  | .deviceCapability cap =>
      { room with deviceCapsByConn := room.deviceCapsByConn.put connId cap }
  | .e2eeKeyEpoch keyEpoch => (e2eeKeyEpochSection hub room connId keyEpoch).1
  | .keyRotationAck ack => (keyRotationAckSection room connId ack).1
  | .moderation frame nowMs admitAtMs =>
      (moderationSection room connId frame nowMs admitAtMs).1
  | .payment frame nowMs => (paymentSection hub room connId frame nowMs).1
  | .reorder participants coHosts =>
      { room with
        participants := room.participants.reorder participants
        coHostConnIds := HashMap.reorder room.coHostConnIds coHosts }
  | .connect _ | .disconnect _ _ | .read | .lookup _ | .fanout _ | .trySend _ _ | .takeMessage
  | .closeChannel => room

/-- The effect of an operation of the task of `connId` on the shared state. -/
def apply (hub : HubState) (connId : ConnId) (op : Operation) (state : HubRoom) : HubRoom :=
  match op with
  | .connect connectedAtMs =>
      let room := state.room.getD (emptyRoom hub)
      let joined := { state with
        room := some { room with
          participants :=
            room.participants.put connId (freshParticipant connId connectedAtMs) } }
      joined.updateChannel connId fun _ => ⟨[], false⟩
  | .disconnect deltaAtMs leftAtMs =>
      { state with
        room := state.room.bind fun room =>
          (disconnectSection room connId deltaAtMs leftAtMs).1 }
  | .trySend target message => state.updateChannel target (·.trySend message)
  | .takeMessage =>
      state.updateChannel connId fun channel => { channel with queue := channel.queue.tail }
  | .closeChannel =>
      state.updateChannel connId fun channel => { channel with closed := true }
  | op => { state with room := state.room.map (op.updateRoom hub connId) }

end Operation

end Kaigi.Hub
