import Kaigi.Collections.HashMap
import Kaigi.Wire.FrameDecoder

/-!
# The state of a room

What the hub keeps about one `room_id` between two acquisitions of the rooms
lock. A participant is stored under its connection id, which also names the
sending half of its outgoing channel.
-/

set_option autoImplicit false

namespace Kaigi.Hub

open Collections Wire

abbrev ConnId := Nat

def u64Max : Nat := 2 ^ 64 - 1

/-- `u64::saturating_add`. -/
def saturatingAdd (left right : Nat) : Nat :=
  min (left + right) u64Max

def saturatingMul (left right : Nat) : Nat :=
  min (left * right) u64Max

structure BillingConfig where
  defaultRatePerMinuteNano : Nat
  anonZkExtraFeePerMinuteNano : Nat
  graceSecs : Nat
  checkIntervalSecs : Nat
  anonEscrowProofMaxStaleSecs : Nat

def BillingConfig.graceNano (billing : BillingConfig) (ratePerMinuteNano : Nat) : Nat :=
  min (ratePerMinuteNano * billing.graceSecs / 60) u64Max

/-- The part of the hub state that never changes, with the third-party codec
and digest the handlers call. -/
structure HubState where
  billing : BillingConfig
  anonMaxParticipants : Nat
  allowFreeCalls : Bool
  requirePaymentTxHash : Bool
  norito : Norito
  blake3 : String → Vector UInt8 32

structure ParticipantState where
  participantId : String
  displayName : Option String
  participantHandle : Option String
  x25519PubkeyHex : Option String
  x25519Epoch : Nat
  micEnabled : Bool
  videoEnabled : Bool
  screenShareEnabled : Bool
  anonymousMode : Bool
  waitingRoomPending : Bool
  helloSeen : Bool
  lastBilledAtMs : Nat
  billedNanoXor : Nat
  billingRemainderMod60k : Nat
  paidNanoXor : Nat
  lastPaymentAtMs : Option Nat
  lastEscrowProofAtMs : Option Nat
  escrowId : Option String

structure RoomState where
  participants : HashMap ConnId ParticipantState
  deviceCapsByConn : HashMap ConnId DeviceCapabilityFrame
  hostConnId : Option ConnId
  hostRoleOwner : Option String
  coHostConnIds : HashSet ConnId
  coHostRoleOwners : HashSet String
  e2eeEpochs : HashMap ConnId Nat
  keyRotationAckEpochs : HashMap ConnId Nat
  signedActionClockBySigner : HashMap String Nat
  presenceSequence : Nat
  ratePerMinuteNano : Nat
  maxScreenShares : Nat
  roomLock : Bool
  waitingRoomEnabled : Bool
  guestJoinAllowed : Bool
  localRecordingAllowed : Bool
  e2eeRequired : Bool
  maxParticipants : Nat
  policyEpoch : Nat
  policyUpdatedAtMs : Nat
  policyUpdatedBy : String
  policySignatureHex : String
  permissionsEpoch : Nat
  anonymousMode : Bool
  anonAdmissionRejections : Nat
  backpressureDroppedMessages : Nat
  backpressureLastNoticeAtMs : Nat

def defaultMaxParticipants : Nat := 500
def systemPolicyUpdatedBy : String := "system"

/-- The participant `handle_conn` inserts for a new connection. -/
def freshParticipant (connId : ConnId) (connectedAtMs : Nat) : ParticipantState where
  participantId := s!"conn-{connId}"
  displayName := none
  participantHandle := none
  x25519PubkeyHex := none
  x25519Epoch := 0
  micEnabled := false
  videoEnabled := false
  screenShareEnabled := false
  anonymousMode := false
  waitingRoomPending := false
  helloSeen := false
  lastBilledAtMs := connectedAtMs
  billedNanoXor := 0
  billingRemainderMod60k := 0
  paidNanoXor := 0
  lastPaymentAtMs := none
  lastEscrowProofAtMs := none
  escrowId := none

/-- The room `handle_conn` creates when the first connection names its id. -/
def emptyRoom (hub : HubState) : RoomState where
  participants := ∅
  deviceCapsByConn := ∅
  hostConnId := none
  hostRoleOwner := none
  coHostConnIds := ∅
  coHostRoleOwners := ∅
  e2eeEpochs := ∅
  keyRotationAckEpochs := ∅
  signedActionClockBySigner := ∅
  presenceSequence := 0
  ratePerMinuteNano := hub.billing.defaultRatePerMinuteNano
  maxScreenShares := 1
  roomLock := false
  waitingRoomEnabled := false
  guestJoinAllowed := true
  localRecordingAllowed := true
  e2eeRequired := true
  maxParticipants := defaultMaxParticipants
  policyEpoch := 0
  policyUpdatedAtMs := 0
  policyUpdatedBy := systemPolicyUpdatedBy
  policySignatureHex := ""
  permissionsEpoch := 0
  anonymousMode := false
  anonAdmissionRejections := 0
  backpressureDroppedMessages := 0
  backpressureLastNoticeAtMs := 0

namespace RoomState

/-- `keys().min()`: the smallest connection id of the room. -/
def minConnId (room : RoomState) : Option ConnId :=
  room.participants.keys.min?

def helloSeen (room : RoomState) (connId : ConnId) : Bool :=
  (room.participants.get? connId).any (·.helloSeen)

def updateParticipant (room : RoomState) (connId : ConnId)
    (update : ParticipantState → ParticipantState) : RoomState :=
  { room with participants := room.participants.modify connId update }

def bumpPermissionsEpoch (room : RoomState) : RoomState :=
  { room with permissionsEpoch := saturatingAdd room.permissionsEpoch 1 }

def bumpPresenceSequence (room : RoomState) : RoomState :=
  { room with presenceSequence := saturatingAdd room.presenceSequence 1 }

end RoomState

end Kaigi.Hub
