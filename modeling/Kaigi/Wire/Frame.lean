/-!
# Wire frames

The messages of the Kaigi protocol. Unsigned integers of the wire are natural
numbers, byte vectors are lists of bytes.
-/

set_option autoImplicit false

namespace Kaigi.Wire

structure AnonHelloFrame where
  protocolVersion : Nat
  participantHandle : String
  x25519PubkeyHex : String

structure AnonRosterEntry where
  participantHandle : String
  x25519PubkeyHex : String
  joinedAtMs : Nat

structure AnonRosterFrame where
  atMs : Nat
  participants : List AnonRosterEntry

structure GroupKeyUpdateFrame where
  sentAtMs : Nat
  participantHandle : String
  x25519PubkeyHex : String
  epoch : Nat

inductive EncryptedControlKind where
  | chat
  | participantState
  | moderation
  | command
  | escrowHeartbeat
deriving DecidableEq

structure EncryptedRecipientPayload where
  recipientHandle : String
  nonceHex : String
  ciphertextHex : String

structure EncryptedControlFrame where
  sentAtMs : Nat
  senderHandle : String
  epoch : Nat
  kind : EncryptedControlKind
  payloads : List EncryptedRecipientPayload

structure EscrowProofFrame where
  sentAtMs : Nat
  payerHandle : String
  escrowId : String
  proofHex : String

structure EscrowAckFrame where
  receivedAtMs : Nat
  escrowId : String
  accepted : Bool
  reason : Option String

structure HelloFrame where
  protocolVersion : Nat
  participantId : String
  displayName : Option String
  micEnabled : Bool
  videoEnabled : Bool
  screenShareEnabled : Bool
  hdrDisplay : Bool
  hdrCapture : Bool

structure ChatFrame where
  sentAtMs : Nat
  fromParticipantId : String
  fromDisplayName : Option String
  text : String

structure RosterEntry where
  participantId : String
  displayName : Option String
  micEnabled : Bool
  videoEnabled : Bool
  screenShareEnabled : Bool

structure RosterFrame where
  atMs : Nat
  participants : List RosterEntry

structure ParticipantSnapshot where
  atMs : Nat
  participantId : String
  displayName : Option String
  micEnabled : Bool
  videoEnabled : Bool
  screenShareEnabled : Bool

structure ParticipantLeftFrame where
  atMs : Nat
  participantId : String

inductive RoomEventFrame where
  | joined (snapshot : ParticipantSnapshot)
  | left (frame : ParticipantLeftFrame)
  | stateUpdated (snapshot : ParticipantSnapshot)

structure ParticipantStateFrame where
  updatedAtMs : Nat
  micEnabled : Option Bool
  videoEnabled : Option Bool
  screenShareEnabled : Option Bool

inductive MediaTrackKind where
  | camera
  | screenShare
deriving DecidableEq

inductive VideoCodecKind where
  | noritoBaseline
deriving DecidableEq

inductive AudioCodecKind where
  | noritoNative
deriving DecidableEq

structure MediaCapabilityFrame where
  reportedAtMs : Nat
  participantId : String
  maxVideoWidth : Nat
  maxVideoHeight : Nat
  maxVideoFps : Nat
  videoCodecs : List VideoCodecKind
  audioCodecs : List AudioCodecKind
  audioSampleRate : Nat
  audioChannels : Nat

structure MediaTrackStateFrame where
  updatedAtMs : Nat
  participantId : String
  micEnabled : Bool
  cameraEnabled : Bool
  screenShareEnabled : Bool
  activeVideoTrack : MediaTrackKind

structure VideoSegmentFrame where
  sentAtMs : Nat
  participantId : String
  segmentNumber : Nat
  frameWidth : Nat
  frameHeight : Nat
  frameDurationNs : Nat
  payload : List UInt8

structure AudioPacketFrame where
  sentAtMs : Nat
  participantId : String
  sequence : Nat
  sampleRate : Nat
  channels : Nat
  frameSamples : Nat
  payload : List UInt8

inductive AnonymousPayloadKind where
  | control
  | videoSegment
  | audioPacket
deriving DecidableEq

structure AnonGroupKeyRotateFrame where
  sentAtMs : Nat
  epoch : Nat
  keyWrapHex : String
  memberHandles : List String

structure AnonEncryptedPayloadFrame where
  sentAtMs : Nat
  senderHandle : String
  epoch : Nat
  kind : AnonymousPayloadKind
  nonceHex : String
  ciphertextHex : String

structure RoomConfigFrame where
  updatedAtMs : Nat
  hostParticipantId : Option String
  ratePerMinuteNano : Nat
  billingGraceSecs : Nat
  maxScreenShares : Nat

structure RoomConfigUpdateFrame where
  updatedAtMs : Nat
  ratePerMinuteNano : Option Nat
  maxScreenShares : Option Nat

inductive ModerationTarget where
  | all
  | participant (participantId : String)
deriving DecidableEq

inductive ModerationAction where
  | kick
  | disableMic
  | disableVideo
  | disableScreenShare
  | admitFromWaiting
  | denyFromWaiting
deriving DecidableEq

structure ModerationFrame where
  sentAtMs : Nat
  target : ModerationTarget
  action : ModerationAction

structure ModerationSignedFrame where
  sentAtMs : Nat
  target : ModerationTarget
  action : ModerationAction
  issuedBy : String
  signatureHex : String

inductive RoleKind where
  | host
  | coHost
  | participant
deriving DecidableEq

structure RoleGrantFrame where
  issuedAtMs : Nat
  targetParticipantId : String
  role : RoleKind
  grantedBy : String
  signatureHex : String

structure RoleRevokeFrame where
  issuedAtMs : Nat
  targetParticipantId : String
  role : RoleKind
  revokedBy : String
  signatureHex : String

structure PermissionsSnapshotFrame where
  atMs : Nat
  participantId : String
  host : Bool
  coHost : Bool
  canModerate : Bool
  canRecordLocal : Bool
  epoch : Nat

structure SessionPolicyFrame where
  updatedAtMs : Nat
  roomLock : Bool
  waitingRoomEnabled : Bool
  guestJoinAllowed : Bool
  localRecordingAllowed : Bool
  e2eeRequired : Bool
  maxParticipants : Nat
  policyEpoch : Nat
  updatedBy : String
  signatureHex : String

structure DeviceCapabilityFrame where
  reportedAtMs : Nat
  participantId : String
  codecs : List String
  hdrCapture : Bool
  hdrRender : Bool
  maxVideoStreams : Nat

inductive MediaProfileKind where
  | sdr
  | hdr
deriving DecidableEq

structure MediaProfileNegotiationFrame where
  atMs : Nat
  participantId : String
  requestedProfile : MediaProfileKind
  negotiatedProfile : MediaProfileKind
  codec : String
  epoch : Nat

inductive RecordingState where
  | started
  | stopped
deriving DecidableEq

structure RecordingNoticeFrame where
  atMs : Nat
  participantId : String
  state : RecordingState
  localRecording : Bool
  policyBasis : Option String
  issuedBy : String

structure E2EEKeyEpochFrame where
  sentAtMs : Nat
  participantId : String
  epoch : Nat
  publicKeyHex : String
  signatureHex : String

structure KeyRotationAckFrame where
  receivedAtMs : Nat
  participantId : String
  ackEpoch : Nat

structure RoleChangeEntry where
  participantId : String
  role : RoleKind
  granted : Bool

structure ParticipantPresenceDeltaFrame where
  atMs : Nat
  sequence : Nat
  joined : List ParticipantSnapshot
  left : List ParticipantLeftFrame
  roleChanges : List RoleChangeEntry

structure PaymentFrame where
  sentAtMs : Nat
  amountNanoXor : Nat
  txHashHex : Option String

structure PaymentAckFrame where
  receivedAtMs : Nat
  amountNanoXor : Nat
  totalPaidNanoXor : Nat
  totalBilledNanoXor : Nat

structure PingFrame where
  nonce : Nat

structure PongFrame where
  nonce : Nat

structure ErrorFrame where
  message : String

inductive KaigiFrame where
  | anonHello (frame : AnonHelloFrame)
  | anonRoster (frame : AnonRosterFrame)
  | groupKeyUpdate (frame : GroupKeyUpdateFrame)
  | encryptedControl (frame : EncryptedControlFrame)
  | escrowProof (frame : EscrowProofFrame)
  | escrowAck (frame : EscrowAckFrame)
  | hello (frame : HelloFrame)
  | roster (frame : RosterFrame)
  | event (frame : RoomEventFrame)
  | roomConfig (frame : RoomConfigFrame)
  | roomConfigUpdate (frame : RoomConfigUpdateFrame)
  | moderation (frame : ModerationFrame)
  | moderationSigned (frame : ModerationSignedFrame)
  | roleGrant (frame : RoleGrantFrame)
  | roleRevoke (frame : RoleRevokeFrame)
  | permissionsSnapshot (frame : PermissionsSnapshotFrame)
  | sessionPolicy (frame : SessionPolicyFrame)
  | deviceCapability (frame : DeviceCapabilityFrame)
  | mediaProfileNegotiation (frame : MediaProfileNegotiationFrame)
  | recordingNotice (frame : RecordingNoticeFrame)
  | e2eeKeyEpoch (frame : E2EEKeyEpochFrame)
  | keyRotationAck (frame : KeyRotationAckFrame)
  | participantPresenceDelta (frame : ParticipantPresenceDeltaFrame)
  | chat (frame : ChatFrame)
  | participantState (frame : ParticipantStateFrame)
  | mediaCapability (frame : MediaCapabilityFrame)
  | mediaTrackState (frame : MediaTrackStateFrame)
  | videoSegment (frame : VideoSegmentFrame)
  | audioPacket (frame : AudioPacketFrame)
  | anonGroupKeyRotate (frame : AnonGroupKeyRotateFrame)
  | anonEncryptedPayload (frame : AnonEncryptedPayloadFrame)
  | payment (frame : PaymentFrame)
  | paymentAck (frame : PaymentAckFrame)
  | ping (frame : PingFrame)
  | pong (frame : PongFrame)
  | error (frame : ErrorFrame)

def protocolVersion : Nat := 6
def maxFrameLen : Nat := 2 * 1024 * 1024
def maxAnonParticipantHandleLen : Nat := 128
def maxEscrowIdLen : Nat := 128
def maxEscrowProofHexLen : Nat := 64 * 1024

end Kaigi.Wire
