import Kaigi.Client.JoinLink
import Kaigi.Session.Protocol
import Kaigi.Text.Json

/-!
# The codec of the Linux client

A frame is written with the derived names of its kind, its fields and its tokens. It is
read by hand, from the root or from a nested object, under any of several spellings of
each name, and with a default for most fields. The text of the JSON values is left to
`serde_json`.
-/

set_option autoImplicit false

namespace Kaigi.Session.Linux

open Text

/-! ## What is written -/

def categoryToken : SessionErrorCategory → String
  | .protocolFailure => "protocol_failure"
  | .policyFailure => "policy_failure"
  | .transportFailure => "transport_failure"

def roleToken : ParticipantRole → String
  | .host => "host"
  | .coHost => "co_host"
  | .participant => "participant"
  | .guest => "guest"

def actionToken : ModerationAction → String
  | .mute => "mute"
  | .videoOff => "video_off"
  | .stopShare => "stop_share"
  | .kick => "kick"
  | .admitFromWaiting => "admit_from_waiting"
  | .denyFromWaiting => "deny_from_waiting"

def profileToken : MediaProfile → String
  | .sdr => "sdr"
  | .hdr => "hdr"

def recordingToken : RecordingState → String
  | .stopped => "stopped"
  | .started => "started"

def guestPolicyToken : GuestPolicy → String
  | .open => "open"
  | .inviteOnly => "invite_only"
  | .blocked => "blocked"

def settlementToken : PaymentSettlementStatus → String
  | .notRequired => "not_required"
  | .pending => "pending"
  | .settled => "settled"
  | .blocked => "blocked"

def optional : Option String → Json
  | some value => .string value
  | none => .null

def strings (values : List String) : Json :=
  .array (values.map .string)

def participantValue (participant : Participant) : Json :=
  .object
    [("id", .string participant.id), ("display_name", .string participant.displayName),
      ("role", .string (roleToken participant.role)), ("muted", .bool participant.muted),
      ("video_enabled", .bool participant.videoEnabled),
      ("share_enabled", .bool participant.shareEnabled),
      ("waiting_room", .bool participant.waitingRoom)]

def roleChangeValue (change : RoleChange) : Json :=
  .object
    [("participant_id", .string change.participantId), ("role", .string (roleToken change.role))]

/-- A variant under the tag `kind`. -/
def tagged (kind : String) (fields : List (String × Json)) : Json :=
  .object (("kind", .string kind) :: fields)

/-- The derived `Serialize` of a frame. -/
def frameValue : ProtocolFrame → Json
  | .handshake frame =>
      tagged "handshake"
        [("room_id", .string frame.roomId), ("participant_id", .string frame.participantId),
          ("participant_name", .string frame.participantName),
          ("wallet_identity", optional frame.walletIdentity),
          ("resume_token", optional frame.resumeToken),
          ("preferred_profile", .string (profileToken frame.preferredProfile)),
          ("hdr_capture", .bool frame.hdrCapture), ("hdr_render", .bool frame.hdrRender),
          ("sent_at_ms", .integer frame.sentAtMs)]
  | .handshakeAck sessionId resumeToken acceptedAtMs =>
      tagged "handshakeAck"
        [("session_id", .string sessionId), ("resume_token", .string resumeToken),
          ("accepted_at_ms", .integer acceptedAtMs)]
  | .participantPresenceDelta frame =>
      tagged "participantPresenceDelta"
        [("joined", .array (frame.joined.map participantValue)), ("left", strings frame.left),
          ("role_changes", .array (frame.roleChanges.map roleChangeValue)),
          ("sequence", .integer frame.sequence)]
  | .roleGrant frame =>
      tagged "roleGrant"
        [("target_participant_id", .string frame.targetParticipantId),
          ("role", .string (roleToken frame.role)), ("granted_by", .string frame.grantedBy),
          ("signature", optional frame.signature), ("issued_at_ms", .integer frame.issuedAtMs)]
  | .roleRevoke frame =>
      tagged "roleRevoke"
        [("target_participant_id", .string frame.targetParticipantId),
          ("role", .string (roleToken frame.role)), ("revoked_by", .string frame.revokedBy),
          ("signature", optional frame.signature), ("issued_at_ms", .integer frame.issuedAtMs)]
  | .permissionsSnapshot participantId effectivePermissions epoch =>
      tagged "permissionsSnapshot"
        [("participant_id", .string participantId),
          ("effective_permissions", strings effectivePermissions), ("epoch", .integer epoch)]
  | .moderationSigned frame =>
      tagged "moderationSigned"
        [("target_participant_id", .string frame.targetParticipantId),
          ("action", .string (actionToken frame.action)), ("issued_by", .string frame.issuedBy),
          ("signature", optional frame.signature), ("sent_at_ms", .integer frame.sentAtMs)]
  | .sessionPolicy frame =>
      tagged "sessionPolicy"
        [("room_lock", .bool frame.roomLock),
          ("waiting_room_enabled", .bool frame.waitingRoomEnabled),
          ("recording_policy", .string (recordingToken frame.recordingPolicy)),
          ("guest_policy", .string (guestPolicyToken frame.guestPolicy)),
          ("e2ee_required", .bool frame.e2eeRequired),
          ("max_participants", .integer frame.maxParticipants),
          ("policy_epoch", .integer frame.policyEpoch), ("updated_by", .string frame.updatedBy),
          ("signature", optional frame.signature), ("updated_at_ms", .integer frame.updatedAtMs)]
  | .deviceCapability frame =>
      tagged "deviceCapability"
        [("participant_id", .string frame.participantId), ("codecs", strings frame.codecs),
          ("hdr_capture", .bool frame.hdrCapture), ("hdr_render", .bool frame.hdrRender),
          ("max_streams", .integer frame.maxStreams),
          ("updated_at_ms", .integer frame.updatedAtMs)]
  | .mediaProfileNegotiation profile =>
      tagged "mediaProfileNegotiation"
        [("preferred_profile", .string (profileToken profile.preferredProfile)),
          ("negotiated_profile", .string (profileToken profile.negotiatedProfile)),
          ("color_primaries", .string profile.colorPrimaries),
          ("transfer_function", .string profile.transferFunction),
          ("codec", .string profile.codec)]
  | .recordingNotice state issuedAtMs =>
      tagged "recordingNotice"
        [("state", .string (recordingToken state)), ("issued_at_ms", .integer issuedAtMs)]
  | .e2eeKeyEpoch frame =>
      tagged "e2eeKeyEpoch"
        [("epoch", .integer frame.epoch), ("issued_by", .string frame.issuedBy),
          ("signature", optional frame.signature), ("sent_at_ms", .integer frame.sentAtMs)]
  | .keyRotationAck ackEpoch participantId sentAtMs =>
      tagged "keyRotationAck"
        [("ack_epoch", .integer ackEpoch), ("participant_id", .string participantId),
          ("sent_at_ms", .integer sentAtMs)]
  | .paymentPolicy required destinationAccount =>
      tagged "paymentPolicy"
        [("required", .bool required), ("destination_account", optional destinationAccount)]
  | .paymentSettlement status =>
      tagged "paymentSettlement" [("status", .string (settlementToken status))]
  | .error category code message =>
      tagged "error"
        [("category", .string (categoryToken category)), ("code", .string code),
          ("message", .string message)]
  | .ping sentAtMs => tagged "ping" [("sent_at_ms", .integer sentAtMs)]
  | .pong sentAtMs => tagged "pong" [("sent_at_ms", .integer sentAtMs)]

inductive CodecError where
  | invalidJson (message : String)
  | invalidShape (message : String)
  deriving DecidableEq

/-- `serde_json::to_string` and `serde_json::from_str`. -/
structure SerdeJson where
  toString : Json → Except String String
  fromStr : String → Except String Json

/-- The text of the value is read back as the value. -/
def SerdeJson.RoundTrips (serde : SerdeJson) (value : Json) : Prop :=
  ∃ text, serde.toString value = .ok text ∧ serde.fromStr text = .ok value

def encodeFrame (serde : SerdeJson) (frame : ProtocolFrame) : Except CodecError String :=
  (serde.toString (frameValue frame)).mapError .invalidJson

/-! ## What is read -/

abbrev Object : Type := List (String × Json)

def payloadOrRoot (root : Object) (keys : List String) : Object :=
  (keys.findSome? fun key => (Json.get? root key).bind Json.asObject).getD root

@[simp] def getValue (object : Object) (keys : List String) : Option Json :=
  keys.findSome? (Json.get? object)

@[simp] def getString (object : Object) (keys : List String) : Option String :=
  (getValue object keys).bind Json.asString

@[simp] def requireString (object : Object) (keys : List String) (field : String) :
    Except CodecError String :=
  match getString object keys with
  | some value => .ok value
  | none => .error (.invalidShape ("missing required field: " ++ field))

def readBool (value : Json) : Option Bool :=
  (value.asBool.or (value.asI64.map fun number => number ≠ 0)).or
    (match value.asString with
    | some "true" => some true
    | some "false" => some false
    | _ => none)

@[simp] def getBool (object : Object) (keys : List String) : Option Bool :=
  (getValue object keys).bind readBool

/-- `str::parse` at the type `i64`. -/
def parseI64 (text : String) : Option Int :=
  match text.toList with
  | '-' :: digits =>
      if digits ≠ [] ∧ digits.all Char.isDigit ∧
          Nat.ofDigitChars 10 digits 0 ≤ 0x8000000000000000 then
        some (-(Nat.ofDigitChars 10 digits 0 : Int))
      else none
  | _ => (Client.parseUnsigned 0x8000000000000000 text).map Int.ofNat

def readI64 (value : Json) : Option Int :=
  (value.asI64.or (value.asU64.filter fun number => number < 0x8000000000000000)).or
    (value.asString.bind parseI64)

@[simp] def getI64 (object : Object) (keys : List String) : Option Int :=
  (getValue object keys).bind readI64

/-- `i32::try_from`. -/
def narrow (number : Int) : Option Int :=
  if -0x80000000 ≤ number ∧ number < 0x80000000 then some number else none

@[simp] def getI32 (object : Object) (keys : List String) : Option Int :=
  (getI64 object keys).bind narrow

@[simp] def getArray (object : Object) (keys : List String) : List Json :=
  ((getValue object keys).bind Json.asArray).getD []

def parseSessionErrorCategory (raw : Option String) : SessionErrorCategory :=
  match raw.getD "protocol_failure" with
  | "policyFailure" | "policy_failure" => .policyFailure
  | "transportFailure" | "transport_failure" => .transportFailure
  | _ => .protocolFailure

def parseParticipantRole (raw : Option String) : ParticipantRole :=
  match raw.getD "participant" with
  | "host" => .host
  | "coHost" | "co_host" => .coHost
  | "guest" => .guest
  | _ => .participant

def parseModerationAction (raw : Option String) : ModerationAction :=
  match raw.getD "mute" with
  | "videoOff" | "video_off" => .videoOff
  | "stopShare" | "stop_share" => .stopShare
  | "kick" => .kick
  | "admitFromWaiting" | "admit_from_waiting" => .admitFromWaiting
  | "denyFromWaiting" | "deny_from_waiting" => .denyFromWaiting
  | _ => .mute

def parseMediaProfile (raw : Option String) : MediaProfile :=
  match raw.getD "sdr" with
  | "hdr" => .hdr
  | _ => .sdr

def parseRecordingState (raw : Option String) : RecordingState :=
  match raw.getD "stopped" with
  | "started" => .started
  | _ => .stopped

def parseGuestPolicy (raw : Option String) : GuestPolicy :=
  match raw.getD "open" with
  | "inviteOnly" | "invite_only" => .inviteOnly
  | "blocked" => .blocked
  | _ => .open

def parsePaymentSettlementStatus (raw : Option String) : PaymentSettlementStatus :=
  match raw.getD "not_required" with
  | "pending" => .pending
  | "settled" => .settled
  | "blocked" => .blocked
  | _ => .notRequired

def parseParticipant (value : Json) : Option Participant := do
  let object ← value.asObject
  let id ← getString object ["id"]
  return {
    id
    displayName := (getString object ["display_name", "displayName"]).getD id
    role := parseParticipantRole (getString object ["role"])
    muted := (getBool object ["muted"]).getD false
    videoEnabled := (getBool object ["video_enabled", "videoEnabled"]).getD true
    shareEnabled := (getBool object ["share_enabled", "shareEnabled"]).getD true
    waitingRoom := (getBool object ["waiting_room", "waitingRoom"]).getD false }

def parseRoleChange (value : Json) : Option RoleChange := do
  let object ← value.asObject
  let participantId ← getString object ["participant_id", "participantId", "participantID"]
  return { participantId, role := parseParticipantRole (getString object ["role"]) }

def canonicalKind : String → String
  | "handshake_ack" => "handshakeAck"
  | "participant_presence_delta" => "participantPresenceDelta"
  | "role_grant" => "roleGrant"
  | "role_revoke" => "roleRevoke"
  | "permissions_snapshot" => "permissionsSnapshot"
  | "moderation_signed" => "moderationSigned"
  | "session_policy" => "sessionPolicy"
  | "device_capability" => "deviceCapability"
  | "media_profile_negotiation" => "mediaProfileNegotiation"
  | "recording_notice" => "recordingNotice"
  | "e2ee_key_epoch" => "e2eeKeyEpoch"
  | "key_rotation_ack" => "keyRotationAck"
  | "payment_policy" => "paymentPolicy"
  | "payment_settlement" => "paymentSettlement"
  | other => other

def targetKeys : List String :=
  ["target_participant_id", "targetParticipantId", "targetParticipantID"]

def participantKeys : List String :=
  ["participant_id", "participantId", "participantID"]

def decodeHandshake (object : Object) : Except CodecError ProtocolFrame := do
  let roomId ← requireString object ["room_id", "roomId", "roomID"] "handshake.room_id"
  let participantId ← requireString object participantKeys "handshake.participant_id"
  let participantName ←
    requireString object ["participant_name", "participantName"] "handshake.participant_name"
  return .handshake {
    roomId
    participantId
    participantName
    walletIdentity := getString object ["wallet_identity", "walletIdentity"]
    resumeToken := getString object ["resume_token", "resumeToken"]
    preferredProfile :=
      parseMediaProfile (getString object ["preferred_profile", "preferredProfile"])
    hdrCapture := (getBool object ["hdr_capture", "hdrCapture"]).getD false
    hdrRender := (getBool object ["hdr_render", "hdrRender"]).getD false
    sentAtMs := (getI64 object ["sent_at_ms", "sentAtMs"]).getD 0 }

def decodeHandshakeAck (object : Object) : Except CodecError ProtocolFrame := do
  let sessionId ←
    requireString object ["session_id", "sessionId", "sessionID"] "handshakeAck.session_id"
  let resumeToken ←
    requireString object ["resume_token", "resumeToken"] "handshakeAck.resume_token"
  return .handshakeAck sessionId resumeToken
    ((getI64 object ["accepted_at_ms", "acceptedAtMs"]).getD 0)

def decodePresenceDelta (object : Object) : ProtocolFrame :=
  .participantPresenceDelta {
    joined := (getArray object ["joined"]).filterMap parseParticipant
    left := (getArray object ["left"]).filterMap Json.asString
    roleChanges := (getArray object ["role_changes", "roleChanges"]).filterMap parseRoleChange
    sequence := (getI64 object ["sequence"]).getD 0 }

def decodeRoleGrant (object : Object) : Except CodecError ProtocolFrame := do
  let targetParticipantId ←
    requireString object targetKeys "roleGrant.target_participant_id"
  return .roleGrant {
    targetParticipantId
    role := parseParticipantRole (getString object ["role"])
    grantedBy := (getString object ["granted_by", "grantedBy"]).getD "unknown"
    signature := getString object ["signature"]
    issuedAtMs := (getI64 object ["issued_at_ms", "issuedAtMs"]).getD 0 }

def decodeRoleRevoke (object : Object) : Except CodecError ProtocolFrame := do
  let targetParticipantId ←
    requireString object targetKeys "roleRevoke.target_participant_id"
  return .roleRevoke {
    targetParticipantId
    role := parseParticipantRole (getString object ["role"])
    revokedBy := (getString object ["revoked_by", "revokedBy"]).getD "unknown"
    signature := getString object ["signature"]
    issuedAtMs := (getI64 object ["issued_at_ms", "issuedAtMs"]).getD 0 }

def decodePermissionsSnapshot (object : Object) : Except CodecError ProtocolFrame := do
  let participantId ←
    requireString object participantKeys "permissionsSnapshot.participant_id"
  return .permissionsSnapshot participantId
    ((getArray object ["effective_permissions", "effectivePermissions"]).filterMap Json.asString)
    ((getI32 object ["epoch"]).getD 0)

def decodeModerationSigned (object : Object) : Except CodecError ProtocolFrame := do
  let targetParticipantId ←
    requireString object targetKeys "moderationSigned.target_participant_id"
  return .moderationSigned {
    targetParticipantId
    action := parseModerationAction (getString object ["action"])
    issuedBy := (getString object ["issued_by", "issuedBy"]).getD "unknown"
    signature := getString object ["signature"]
    sentAtMs := (getI64 object ["sent_at_ms", "sentAtMs"]).getD 0 }

def decodeSessionPolicy (object : Object) : ProtocolFrame :=
  .sessionPolicy {
    roomLock := (getBool object ["room_lock", "roomLock"]).getD false
    waitingRoomEnabled :=
      (getBool object ["waiting_room_enabled", "waitingRoomEnabled"]).getD false
    recordingPolicy :=
      parseRecordingState (getString object ["recording_policy", "recordingPolicy"])
    guestPolicy := parseGuestPolicy (getString object ["guest_policy", "guestPolicy"])
    e2eeRequired := (getBool object ["e2ee_required", "e2eeRequired"]).getD true
    maxParticipants := (getI32 object ["max_participants", "maxParticipants"]).getD 300
    policyEpoch := (getI32 object ["policy_epoch", "policyEpoch"]).getD 0
    updatedBy := (getString object ["updated_by", "updatedBy"]).getD "system"
    signature := getString object ["signature"]
    updatedAtMs := (getI64 object ["updated_at_ms", "updatedAtMs"]).getD 0 }

def decodeDeviceCapability (object : Object) : Except CodecError ProtocolFrame := do
  let participantId ← requireString object participantKeys "deviceCapability.participant_id"
  return .deviceCapability {
    participantId
    codecs := (getArray object ["codecs"]).filterMap Json.asString
    hdrCapture := (getBool object ["hdr_capture", "hdrCapture"]).getD false
    hdrRender := (getBool object ["hdr_render", "hdrRender"]).getD false
    maxStreams := (getI32 object ["max_streams", "maxStreams"]).getD 1
    updatedAtMs := (getI64 object ["updated_at_ms", "updatedAtMs"]).getD 0 }

def decodeMediaProfileNegotiation (object : Object) : ProtocolFrame :=
  .mediaProfileNegotiation {
    preferredProfile :=
      parseMediaProfile (getString object ["preferred_profile", "preferredProfile"])
    negotiatedProfile :=
      parseMediaProfile (getString object ["negotiated_profile", "negotiatedProfile"])
    colorPrimaries := (getString object ["color_primaries", "colorPrimaries"]).getD "bt709"
    transferFunction := (getString object ["transfer_function", "transferFunction"]).getD "gamma"
    codec := (getString object ["codec"]).getD "h264" }

def decodeE2eeKeyEpoch (object : Object) : ProtocolFrame :=
  .e2eeKeyEpoch {
    epoch := (getI32 object ["epoch"]).getD 0
    issuedBy := (getString object ["issued_by", "issuedBy"]).getD "unknown"
    signature := getString object ["signature"]
    sentAtMs := (getI64 object ["sent_at_ms", "sentAtMs"]).getD 0 }

def decodeKeyRotationAck (object : Object) : Except CodecError ProtocolFrame := do
  let participantId ← requireString object participantKeys "keyRotationAck.participant_id"
  return .keyRotationAck ((getI32 object ["ack_epoch", "ackEpoch"]).getD 0) participantId
    ((getI64 object ["sent_at_ms", "sentAtMs", "received_at_ms", "receivedAtMs"]).getD 0)

def decodeRecordingNotice (object : Object) : ProtocolFrame :=
  .recordingNotice (parseRecordingState (getString object ["state"]))
    ((getI64 object ["issued_at_ms", "issuedAtMs"]).getD 0)

def decodePaymentPolicy (object : Object) : ProtocolFrame :=
  .paymentPolicy ((getBool object ["required"]).getD false)
    (getString object ["destination_account", "destinationAccount"])

def decodePaymentSettlement (object : Object) : ProtocolFrame :=
  .paymentSettlement (parsePaymentSettlementStatus (getString object ["status"]))

def decodeSentAtMs (object : Object) : Int :=
  (getI64 object ["sent_at_ms", "sentAtMs"]).getD 0

def decodeError (object : Object) : ProtocolFrame :=
  .error (parseSessionErrorCategory (getString object ["category"]))
    ((getString object ["code"]).getD "error") ((getString object ["message"]).getD "unknown")

/-- The frame of a kind, from the object that holds its fields. -/
def decodeKind (root : Object) (kind : String) : Except CodecError ProtocolFrame :=
  match kind with
  | "handshake" => decodeHandshake (payloadOrRoot root ["handshake"])
  | "handshakeAck" => decodeHandshakeAck (payloadOrRoot root ["handshakeAck", "handshake_ack"])
  | "participantPresenceDelta" =>
      .ok (decodePresenceDelta (payloadOrRoot root
        ["presenceDelta", "participantPresenceDelta", "participant_presence_delta"]))
  | "roleGrant" => decodeRoleGrant (payloadOrRoot root ["roleGrant", "role_grant"])
  | "roleRevoke" => decodeRoleRevoke (payloadOrRoot root ["roleRevoke", "role_revoke"])
  | "permissionsSnapshot" =>
      decodePermissionsSnapshot (payloadOrRoot root ["permissionsSnapshot", "permissions_snapshot"])
  | "moderationSigned" =>
      decodeModerationSigned (payloadOrRoot root ["moderationSigned", "moderation_signed"])
  | "sessionPolicy" =>
      .ok (decodeSessionPolicy (payloadOrRoot root ["sessionPolicy", "session_policy"]))
  | "deviceCapability" =>
      decodeDeviceCapability (payloadOrRoot root ["deviceCapability", "device_capability"])
  | "mediaProfileNegotiation" =>
      .ok (decodeMediaProfileNegotiation (payloadOrRoot root
        ["mediaProfileNegotiation", "media_profile_negotiation"]))
  | "recordingNotice" =>
      .ok (decodeRecordingNotice (payloadOrRoot root ["recordingNotice", "recording_notice"]))
  | "e2eeKeyEpoch" =>
      .ok (decodeE2eeKeyEpoch (payloadOrRoot root ["e2eeKeyEpoch", "e2ee_key_epoch"]))
  | "keyRotationAck" =>
      decodeKeyRotationAck (payloadOrRoot root ["keyRotationAck", "key_rotation_ack"])
  | "paymentPolicy" =>
      .ok (decodePaymentPolicy (payloadOrRoot root ["paymentPolicy", "payment_policy"]))
  | "paymentSettlement" =>
      .ok (decodePaymentSettlement (payloadOrRoot root
        ["paymentSettlement", "payment_settlement"]))
  | "ping" => .ok (.ping (decodeSentAtMs (payloadOrRoot root ["ping"])))
  | "pong" => .ok (.pong (decodeSentAtMs (payloadOrRoot root ["pong"])))
  | "error" => .ok (decodeError (payloadOrRoot root ["error"]))
  | other => .error (.invalidShape ("unsupported frame kind: " ++ other))

def decodeValue (value : Json) : Except CodecError ProtocolFrame :=
  match value.asObject with
  | none => .error (.invalidShape "frame must be an object")
  | some root =>
      match (Json.get? root "kind").bind Json.asString with
      | none => .error (.invalidShape "frame.kind missing")
      | some rawKind => decodeKind root (canonicalKind rawKind)

def decodeFrame (serde : SerdeJson) (payload : String) : Except CodecError ProtocolFrame :=
  match serde.fromStr payload with
  | .error message => .error (.invalidJson message)
  | .ok value => decodeValue value

end Kaigi.Session.Linux
