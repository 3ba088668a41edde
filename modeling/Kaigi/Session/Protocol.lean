import Kaigi.Collections.HashMap
import Kaigi.Hub.Validation
import Mathlib.Tactic.Simps.Basic

/-!
# The session protocol of the meeting clients

The Linux, Windows, Web and Android clients declare these types each in its own
language, with the same cases and fields. A field that only some of them have, and that
no reducer reads, is left out; `Option` stands for a value that may be null or undefined.
The reducers compare integers and subtract two readings of the clock; they compute with
them in no other way, and their widths do not matter here.
-/

set_option autoImplicit false

namespace Kaigi.Session

open Collections

inductive ConnectionPhase where
  | disconnected
  | connecting
  | connected
  | degraded
  | fallbackActive
  | error
  deriving DecidableEq

inductive SessionErrorCategory where
  | protocolFailure
  | policyFailure
  | transportFailure
  deriving DecidableEq

structure SessionError where
  category : SessionErrorCategory
  code : String
  message : String
  atMs : Int
  deriving DecidableEq

inductive ParticipantRole where
  | host
  | coHost
  | participant
  | guest
  deriving DecidableEq

structure Participant where
  id : String
  displayName : String
  role : ParticipantRole
  muted : Bool
  videoEnabled : Bool
  shareEnabled : Bool
  waitingRoom : Bool
  deriving DecidableEq

structure RoleChange where
  participantId : String
  role : ParticipantRole
  deriving DecidableEq

inductive ModerationAction where
  | mute
  | videoOff
  | stopShare
  | kick
  | admitFromWaiting
  | denyFromWaiting
  deriving DecidableEq

inductive MediaProfile where
  | sdr
  | hdr
  deriving DecidableEq

structure MediaProfileState where
  preferredProfile : MediaProfile := .sdr
  negotiatedProfile : MediaProfile := .sdr
  colorPrimaries : String := "bt709"
  transferFunction : String := "gamma"
  codec : String := "h264"
  deriving DecidableEq

inductive RecordingState where
  | stopped
  | started
  deriving DecidableEq

inductive GuestPolicy where
  | open
  | inviteOnly
  | blocked
  deriving DecidableEq

structure PermissionSnapshot where
  effectivePermissions : List String
  epoch : Int
  deriving DecidableEq

inductive PaymentSettlementStatus where
  | notRequired
  | pending
  | settled
  | blocked
  deriving DecidableEq

structure PaymentState where
  required : Bool := false
  destination : Option String := none
  settlementStatus : PaymentSettlementStatus := .notRequired
  deriving DecidableEq

structure E2eeState where
  currentEpoch : Int := 0
  lastAckEpoch : Int := 0
  deriving DecidableEq

structure FallbackState where
  active : Bool := false
  reason : Option String := none
  activatedAtMs : Option Int := none
  recoveredAtMs : Option Int := none
  lastRtoMs : Option Int := none
  deriving DecidableEq

structure MeetingConfig where
  signalingUrl : String
  fallbackUrl : String
  roomId : String
  participantId : String
  participantName : String
  walletIdentity : Option String
  requireSignedModeration : Bool
  requirePaymentSettlement : Bool
  preferWebFallbackOnPolicyFailure : Bool
  supportsHdrCapture : Bool
  supportsHdrRender : Bool
  deriving DecidableEq

/-- The state of a session, over the maps that hold what is known of each participant. -/
structure ProtocolSessionState (Map : Type → Type) where
  config : MeetingConfig
  connectionPhase : ConnectionPhase := .disconnected
  handshakeComplete : Bool := false
  resumeToken : Option String := none
  participants : Map Participant
  permissionSnapshots : Map PermissionSnapshot
  presenceSequence : Int := 0
  roomLocked : Bool := false
  waitingRoomEnabled : Bool := false
  guestPolicy : GuestPolicy := .open
  e2eeRequired : Bool := true
  maxParticipants : Int := 300
  policyEpoch : Int := 0
  mediaProfile : MediaProfileState := {}
  recordingNotice : RecordingState := .stopped
  e2eeState : E2eeState := {}
  paymentState : PaymentState := {}
  fallback : FallbackState := {}
  lastError : Option SessionError := none

structure HandshakeFrame where
  roomId : String
  participantId : String
  participantName : String
  walletIdentity : Option String
  resumeToken : Option String
  preferredProfile : MediaProfile
  hdrCapture : Bool
  hdrRender : Bool
  sentAtMs : Int
  deriving DecidableEq

structure PresenceDeltaFrame where
  joined : List Participant
  left : List String
  roleChanges : List RoleChange
  sequence : Int
  deriving DecidableEq

structure RoleGrantFrame where
  targetParticipantId : String
  role : ParticipantRole
  grantedBy : String
  signature : Option String
  issuedAtMs : Int
  deriving DecidableEq

structure RoleRevokeFrame where
  targetParticipantId : String
  role : ParticipantRole
  revokedBy : String
  signature : Option String
  issuedAtMs : Int
  deriving DecidableEq

structure ModerationSignedFrame where
  targetParticipantId : String
  action : ModerationAction
  issuedBy : String
  signature : Option String
  sentAtMs : Int
  deriving DecidableEq

structure SessionPolicyFrame where
  roomLock : Bool
  waitingRoomEnabled : Bool
  recordingPolicy : RecordingState
  guestPolicy : GuestPolicy
  e2eeRequired : Bool
  maxParticipants : Int
  policyEpoch : Int
  updatedBy : String
  signature : Option String
  updatedAtMs : Int
  deriving DecidableEq

structure DeviceCapabilityFrame where
  participantId : String
  codecs : List String
  hdrCapture : Bool
  hdrRender : Bool
  maxStreams : Int
  updatedAtMs : Int
  deriving DecidableEq

structure E2eeKeyEpochFrame where
  epoch : Int
  issuedBy : String
  signature : Option String
  sentAtMs : Int
  deriving DecidableEq

/-- The Android frames hold the empty text where there is no signature. -/
inductive ProtocolFrame where
  | handshake (frame : HandshakeFrame)
  | handshakeAck (sessionId resumeToken : String) (acceptedAtMs : Int)
  | participantPresenceDelta (frame : PresenceDeltaFrame)
  | roleGrant (frame : RoleGrantFrame)
  | roleRevoke (frame : RoleRevokeFrame)
  | permissionsSnapshot (participantId : String) (effectivePermissions : List String)
      (epoch : Int)
  | moderationSigned (frame : ModerationSignedFrame)
  | sessionPolicy (frame : SessionPolicyFrame)
  | deviceCapability (frame : DeviceCapabilityFrame)
  | mediaProfileNegotiation (profile : MediaProfileState)
  | recordingNotice (state : RecordingState) (issuedAtMs : Int)
  | e2eeKeyEpoch (frame : E2eeKeyEpochFrame)
  | keyRotationAck (ackEpoch : Int) (participantId : String) (sentAtMs : Int)
  | paymentPolicy (required : Bool) (destinationAccount : Option String)
  | paymentSettlement (status : PaymentSettlementStatus)
  | error (category : SessionErrorCategory) (code message : String)
  | ping (sentAtMs : Int)
  | pong (sentAtMs : Int)
  deriving DecidableEq

inductive ProtocolEvent where
  | connectRequested
  | transportConnected
  | transportDisconnected (reason : String)
  | transportFailure (message : String)
  | frameReceived (frame : ProtocolFrame)
  | frameSendFailed (message : String)
  | manualDisconnected
  | fallbackActivated (reason : String)
  | fallbackRecovered
  | configUpdated (config : MeetingConfig)
  deriving DecidableEq

/-- An event with the reading of the clock that goes with it. -/
structure Call where
  event : ProtocolEvent
  nowMs : Int
  deriving DecidableEq

/-! ## The integers of the fields -/

def IsI32 (value : Int) : Prop :=
  -0x80000000 ≤ value ∧ value < 0x80000000

def IsI64 (value : Int) : Prop :=
  -0x8000000000000000 ≤ value ∧ value < 0x8000000000000000

theorem IsI32.isI64 {value : Int} (range : IsI32 value) : IsI64 value := by
  obtain ⟨low, high⟩ := range
  constructor <;> omega

instance (value : Int) : Decidable (IsI64 value) :=
  inferInstanceAs (Decidable (_ ∧ _))

/-! ## The tables of a client -/

/-- The map of a client: a `BTreeMap`, a dictionary or a record. No reducer goes through
its entries. -/
abbrev Table (Value : Type) : Type := HashMap String Value

/-- A table as its lookups show it. -/
abbrev Directory (Value : Type) : Type := String → Option Value

abbrev ClientState : Type := ProtocolSessionState Table

/-- The four clients start alike. -/
def ProtocolSessionState.initial (config : MeetingConfig) : ClientState where
  config := config
  participants := ∅
  permissionSnapshots := ∅

/-- The value of a state, whatever the order of the entries in its tables is. -/
@[simps -fullyApplied] def ProtocolSessionState.view (state : ClientState) :
    ProtocolSessionState Directory :=
  { state with
    participants := state.participants.get?
    permissionSnapshots := state.permissionSnapshots.get? }

/-- `code.starts_with(head)`. -/
def startsWith (code head : String) : Bool :=
  head.toList.isPrefixOf code.toList

/-! ## A meeting of the examples -/

def exampleConfig : MeetingConfig where
  signalingUrl := "ws://127.0.0.1:9000"
  fallbackUrl := "https://example.com/fallback"
  roomId := "ga-room"
  participantId := "alice"
  participantName := "Alice"
  walletIdentity := none
  requireSignedModeration := true
  requirePaymentSettlement := false
  preferWebFallbackOnPolicyFailure := true
  supportsHdrCapture := true
  supportsHdrRender := true

def exampleParticipant (id : String) (role : ParticipantRole) : Participant where
  id := id
  displayName := id
  role := role
  muted := false
  videoEnabled := true
  shareEnabled := true
  waitingRoom := false

end Kaigi.Session
