import Kaigi.Session.LinuxCodec
import Kaigi.Text.JsonText

/-!
# The codec of the Web client

A frame is written as the object that it is, without the properties that are undefined.
It is read by hand, from the root or from a nested object, under the names of the client
and mostly under those of the Linux client as well. What is not the type of a field is
converted to it. A number that is not a safe integer is outside of the model.
-/

set_option autoImplicit false

namespace Kaigi.Session.Web

open Text
open Linux (Object categoryToken roleToken actionToken profileToken recordingToken
  guestPolicyToken settlementToken strings tagged)

/-! ## What is written -/

/-- A property that `JSON.stringify` leaves out when it is undefined. -/
def optional (key : String) : Option String → Object
  | some value => [(key, .string value)]
  | none => []

def participantValue (participant : Participant) : Json :=
  .object
    [("id", .string participant.id), ("displayName", .string participant.displayName),
      ("role", .string (roleToken participant.role)), ("muted", .bool participant.muted),
      ("videoEnabled", .bool participant.videoEnabled),
      ("shareEnabled", .bool participant.shareEnabled),
      ("waitingRoom", .bool participant.waitingRoom)]

def roleChangeValue (change : RoleChange) : Json :=
  .object
    [("participantId", .string change.participantId), ("role", .string (roleToken change.role))]

/-- The properties of a frame. The values of the enumerations are the Linux tokens. -/
def frameValue : ProtocolFrame → Json
  | .handshake frame =>
      tagged "handshake"
        ([("roomId", .string frame.roomId), ("participantId", .string frame.participantId),
            ("participantName", .string frame.participantName)] ++
          optional "walletIdentity" frame.walletIdentity ++
          optional "resumeToken" frame.resumeToken ++
          [("preferredProfile", .string (profileToken frame.preferredProfile)),
            ("hdrCapture", .bool frame.hdrCapture), ("hdrRender", .bool frame.hdrRender),
            ("sentAtMs", .integer frame.sentAtMs)])
  | .handshakeAck sessionId resumeToken acceptedAtMs =>
      tagged "handshakeAck"
        [("sessionId", .string sessionId), ("resumeToken", .string resumeToken),
          ("acceptedAtMs", .integer acceptedAtMs)]
  | .participantPresenceDelta frame =>
      tagged "participantPresenceDelta"
        [("joined", .array (frame.joined.map participantValue)), ("left", strings frame.left),
          ("roleChanges", .array (frame.roleChanges.map roleChangeValue)),
          ("sequence", .integer frame.sequence)]
  | .roleGrant frame =>
      tagged "roleGrant"
        ([("targetParticipantId", .string frame.targetParticipantId),
            ("role", .string (roleToken frame.role)), ("grantedBy", .string frame.grantedBy)] ++
          optional "signature" frame.signature ++ [("issuedAtMs", .integer frame.issuedAtMs)])
  | .roleRevoke frame =>
      tagged "roleRevoke"
        ([("targetParticipantId", .string frame.targetParticipantId),
            ("role", .string (roleToken frame.role)), ("revokedBy", .string frame.revokedBy)] ++
          optional "signature" frame.signature ++ [("issuedAtMs", .integer frame.issuedAtMs)])
  | .permissionsSnapshot participantId effectivePermissions epoch =>
      tagged "permissionsSnapshot"
        [("participantId", .string participantId),
          ("effectivePermissions", strings effectivePermissions), ("epoch", .integer epoch)]
  | .moderationSigned frame =>
      tagged "moderationSigned"
        ([("targetParticipantId", .string frame.targetParticipantId),
            ("action", .string (actionToken frame.action)), ("issuedBy", .string frame.issuedBy)] ++
          optional "signature" frame.signature ++ [("sentAtMs", .integer frame.sentAtMs)])
  | .sessionPolicy frame =>
      tagged "sessionPolicy"
        ([("roomLock", .bool frame.roomLock),
            ("waitingRoomEnabled", .bool frame.waitingRoomEnabled),
            ("recordingPolicy", .string (recordingToken frame.recordingPolicy)),
            ("guestPolicy", .string (guestPolicyToken frame.guestPolicy)),
            ("e2eeRequired", .bool frame.e2eeRequired),
            ("maxParticipants", .integer frame.maxParticipants),
            ("policyEpoch", .integer frame.policyEpoch), ("updatedBy", .string frame.updatedBy)] ++
          optional "signature" frame.signature ++ [("updatedAtMs", .integer frame.updatedAtMs)])
  | .deviceCapability frame =>
      tagged "deviceCapability"
        [("participantId", .string frame.participantId), ("codecs", strings frame.codecs),
          ("hdrCapture", .bool frame.hdrCapture), ("hdrRender", .bool frame.hdrRender),
          ("maxStreams", .integer frame.maxStreams), ("updatedAtMs", .integer frame.updatedAtMs)]
  | .mediaProfileNegotiation profile =>
      tagged "mediaProfileNegotiation"
        [("preferredProfile", .string (profileToken profile.preferredProfile)),
          ("negotiatedProfile", .string (profileToken profile.negotiatedProfile)),
          ("colorPrimaries", .string profile.colorPrimaries),
          ("transferFunction", .string profile.transferFunction),
          ("codec", .string profile.codec)]
  | .recordingNotice state issuedAtMs =>
      tagged "recordingNotice"
        [("state", .string (recordingToken state)), ("issuedAtMs", .integer issuedAtMs)]
  | .e2eeKeyEpoch frame =>
      tagged "e2eeKeyEpoch"
        ([("epoch", .integer frame.epoch), ("issuedBy", .string frame.issuedBy)] ++
          optional "signature" frame.signature ++ [("sentAtMs", .integer frame.sentAtMs)])
  | .keyRotationAck ackEpoch participantId sentAtMs =>
      tagged "keyRotationAck"
        [("ackEpoch", .integer ackEpoch), ("participantId", .string participantId),
          ("sentAtMs", .integer sentAtMs)]
  | .paymentPolicy required destinationAccount =>
      tagged "paymentPolicy"
        (("required", .bool required) :: optional "destinationAccount" destinationAccount)
  | .paymentSettlement status =>
      tagged "paymentSettlement" [("status", .string (settlementToken status))]
  | .error category code message =>
      tagged "error"
        [("category", .string (categoryToken category)), ("code", .string code),
          ("message", .string message)]
  | .ping sentAtMs => tagged "ping" [("sentAtMs", .integer sentAtMs)]
  | .pong sentAtMs => tagged "pong" [("sentAtMs", .integer sentAtMs)]

def encodeFrame (frame : ProtocolFrame) : String :=
  Json.text (frameValue frame)

/-! ## Conversions -/

/-- The properties of a value; `null` has none to ask for. -/
def properties : Json → Option Object
  | .null => none
  | .object entries => some entries
  | _ => some []

/-- What `??` takes for a value. -/
def present : Json → Option Json
  | .null => none
  | value => some value

/-- The first of the properties that is neither undefined nor null. -/
@[simp] def coalesce (value : Object) (keys : List String) : Option Json :=
  keys.findSome? fun key => (Json.get? value key).bind present

mutual

/-- `String(value)`. -/
def string : Json → Option String
  | .null => some "null"
  | .bool true => some "true"
  | .bool false => some "false"
  | .integer value => some (toString value)
  | .float _ => none
  | .string value => some value
  | .array items => (itemStrings items).map (String.intercalate ",")
  -- a property of this name would be called
  | .object entries =>
      if (Json.get? entries "toString").isSome then none else some "[object Object]"

def itemStrings : List Json → Option (List String)
  | [] => some []
  | .null :: items => (itemStrings items).map ("" :: ·)
  | item :: items => do
      let item ← string item
      let items ← itemStrings items
      return item :: items

end

/-- The integers that a double tells apart. -/
def IsSafeInteger (value : Int) : Prop :=
  -0x1fffffffffffff ≤ value ∧ value ≤ 0x1fffffffffffff

instance (value : Int) : Decidable (IsSafeInteger value) :=
  inferInstanceAs (Decidable (_ ∧ _))

def safe (value : Int) : Option Int :=
  if IsSafeInteger value then some value else none

/-- The number of a text in decimal digits. The other notations of a number are outside
of the model. -/
def numberOfText (text : String) : Option Int :=
  if text.trimAscii.isEmpty then some 0 else (Linux.parseI64 text.trimAscii.toString).bind safe

/-- `Number(value)`. -/
def number : Json → Option Int
  | .null => some 0
  | .bool value => some value.toInt
  | .integer value => safe value
  | .float _ => none
  | .string value => numberOfText value
  | .array items => (string (.array items)).bind numberOfText
  | .object _ => none

/-- `Boolean(value)`, also of what is undefined. -/
def boolean : Option Json → Option Bool
  | none | some .null => some false
  | some (.bool value) => some value
  | some (.integer value) => some (decide (value ≠ 0))
  | some (.float _) => none
  | some (.string value) => some (decide (value ≠ ""))
  | some (.array _) | some (.object _) => some true

/-- `value !== false`. -/
def isNotFalse : Option Json → Bool
  | some (.bool false) => false
  | _ => true

/-! ## What is read -/

def frameKindAlias : String → String
  | "handshake" => "handshake"
  | "handshake_ack" | "handshakeAck" => "handshakeAck"
  | "participant_presence_delta" | "participantPresenceDelta" => "participantPresenceDelta"
  | "role_grant" | "roleGrant" => "roleGrant"
  | "role_revoke" | "roleRevoke" => "roleRevoke"
  | "permissions_snapshot" | "permissionsSnapshot" => "permissionsSnapshot"
  | "moderation_signed" | "moderationSigned" => "moderationSigned"
  | "session_policy" | "sessionPolicy" => "sessionPolicy"
  | "device_capability" | "deviceCapability" => "deviceCapability"
  | "media_profile_negotiation" | "mediaProfileNegotiation" => "mediaProfileNegotiation"
  | "recording_notice" | "recordingNotice" => "recordingNotice"
  | "e2ee_key_epoch" | "e2eeKeyEpoch" => "e2eeKeyEpoch"
  | "key_rotation_ack" | "keyRotationAck" => "keyRotationAck"
  | "payment_policy" | "paymentPolicy" => "paymentPolicy"
  | "payment_settlement" | "paymentSettlement" => "paymentSettlement"
  | "ping" => "ping"
  | "pong" => "pong"
  | _ => "error"

def payloadOrRoot (raw : Object) (keys : List String) : Object :=
  (keys.findSome? fun key => (Json.get? raw key).bind Json.asObject).getD raw

def categoryAlias : Option Json → SessionErrorCategory
  | some (.string "policyFailure") | some (.string "policy_failure") => .policyFailure
  | some (.string "transportFailure") | some (.string "transport_failure") => .transportFailure
  | _ => .protocolFailure

def roleAlias : Option Json → ParticipantRole
  | some (.string "coHost") | some (.string "co_host") => .coHost
  | some (.string "host") => .host
  | some (.string "guest") => .guest
  | _ => .participant

def moderationAlias : Option Json → ModerationAction
  | some (.string "videoOff") | some (.string "video_off") => .videoOff
  | some (.string "stopShare") | some (.string "stop_share") => .stopShare
  | some (.string "kick") => .kick
  | some (.string "admitFromWaiting") | some (.string "admit_from_waiting") => .admitFromWaiting
  | some (.string "denyFromWaiting") | some (.string "deny_from_waiting") => .denyFromWaiting
  | _ => .mute

def mediaProfileAlias : Option Json → MediaProfile
  | some (.string "hdr") => .hdr
  | _ => .sdr

def recordingAlias : Option Json → RecordingState
  | some (.string "started") => .started
  | _ => .stopped

def guestPolicyAlias : Option Json → GuestPolicy
  | some (.string "inviteOnly") | some (.string "invite_only") => .inviteOnly
  | some (.string "blocked") => .blocked
  | _ => .open

def paymentAlias : Option Json → PaymentSettlementStatus
  | some (.string "pending") => .pending
  | some (.string "settled") => .settled
  | some (.string "blocked") => .blocked
  | _ => .notRequired

@[simp] def stringOr (value : Object) (keys : List String) (default : String) : Option String :=
  (coalesce value keys).elim (some default) string

@[simp] def numberOr (value : Object) (keys : List String) (default : Int) : Option Int :=
  (coalesce value keys).elim (some default) number

/-- The items of an array, and none of anything else. -/
@[simp] def items (value : Option Json) : List Json :=
  (value.bind Json.asArray).getD []

/-- `typeof value === 'string' ? value : undefined`. -/
@[simp] def textOf (value : Object) (key : String) : Option String :=
  (Json.get? value key).bind Json.asString

def decodeParticipant (value : Json) : Option Participant := do
  let participant ← properties value
  let id ← stringOr participant ["id"] ""
  let displayName ← stringOr participant ["displayName", "display_name"] ""
  let muted ← boolean (Json.get? participant "muted")
  let waitingRoom ← boolean (coalesce participant ["waitingRoom", "waiting_room"])
  return {
    id
    displayName
    role := roleAlias (Json.get? participant "role")
    muted
    videoEnabled := isNotFalse (Json.get? participant "videoEnabled") &&
      isNotFalse (Json.get? participant "video_enabled")
    shareEnabled := isNotFalse (Json.get? participant "shareEnabled") &&
      isNotFalse (Json.get? participant "share_enabled")
    waitingRoom }

def decodeRoleChange (value : Json) : Option RoleChange := do
  let change ← properties value
  let participantId ← stringOr change ["participantId", "participant_id"] ""
  return { participantId, role := roleAlias (Json.get? change "role") }

section

variable (nowMs : Int) (value : Object)

def decodeHandshake : Option ProtocolFrame := do
  let roomId ← stringOr value ["roomId", "room_id"] ""
  let participantId ← stringOr value ["participantId", "participant_id"] ""
  let participantName ← stringOr value ["participantName", "participant_name"] ""
  let hdrCapture ← boolean (Json.get? value "hdrCapture")
  let hdrRender ← boolean (Json.get? value "hdrRender")
  let sentAtMs ← numberOr value ["sentAtMs"] nowMs
  return .handshake {
    roomId
    participantId
    participantName
    walletIdentity := textOf value "walletIdentity"
    resumeToken := textOf value "resumeToken"
    preferredProfile := mediaProfileAlias (Json.get? value "preferredProfile")
    hdrCapture
    hdrRender
    sentAtMs }

def decodeHandshakeAck : Option ProtocolFrame := do
  let sessionId ← stringOr value ["sessionId", "session_id"] "session"
  let resumeToken ← stringOr value ["resumeToken", "resume_token"] ""
  let acceptedAtMs ← numberOr value ["acceptedAtMs", "accepted_at_ms"] nowMs
  return .handshakeAck sessionId resumeToken acceptedAtMs

def decodePresenceDelta : Option ProtocolFrame := do
  let joined ← (items (Json.get? value "joined")).mapM decodeParticipant
  let left ← (items (Json.get? value "left")).mapM string
  let roleChanges ←
    (items (coalesce value ["roleChanges", "role_changes"])).mapM decodeRoleChange
  let sequence ← numberOr value ["sequence"] 0
  return .participantPresenceDelta { joined, left, roleChanges, sequence }

def decodeRoleGrant : Option ProtocolFrame := do
  let targetParticipantId ← stringOr value ["targetParticipantId", "target_participant_id"] ""
  let grantedBy ← stringOr value ["grantedBy", "granted_by"] ""
  let issuedAtMs ← numberOr value ["issuedAtMs", "issued_at_ms"] nowMs
  return .roleGrant {
    targetParticipantId
    role := roleAlias (Json.get? value "role")
    grantedBy
    signature := textOf value "signature"
    issuedAtMs }

def decodeRoleRevoke : Option ProtocolFrame := do
  let targetParticipantId ← stringOr value ["targetParticipantId", "target_participant_id"] ""
  let revokedBy ← stringOr value ["revokedBy", "revoked_by"] ""
  let issuedAtMs ← numberOr value ["issuedAtMs", "issued_at_ms"] nowMs
  return .roleRevoke {
    targetParticipantId
    role := roleAlias (Json.get? value "role")
    revokedBy
    signature := textOf value "signature"
    issuedAtMs }

def decodePermissionsSnapshot : Option ProtocolFrame := do
  let participantId ← stringOr value ["participantId", "participant_id"] ""
  let effectivePermissions ←
    (items (coalesce value ["effectivePermissions", "effective_permissions"])).mapM string
  let epoch ← numberOr value ["epoch"] 0
  return .permissionsSnapshot participantId effectivePermissions epoch

def decodeModerationSigned : Option ProtocolFrame := do
  let targetParticipantId ← stringOr value ["targetParticipantId", "target_participant_id"] ""
  let issuedBy ← stringOr value ["issuedBy", "issued_by"] ""
  let sentAtMs ← numberOr value ["sentAtMs", "sent_at_ms"] nowMs
  return .moderationSigned {
    targetParticipantId
    action := moderationAlias (Json.get? value "action")
    issuedBy
    signature := textOf value "signature"
    sentAtMs }

def decodeSessionPolicy : Option ProtocolFrame := do
  let roomLock ← boolean (coalesce value ["roomLock", "room_lock"])
  let waitingRoomEnabled ← boolean (coalesce value ["waitingRoomEnabled", "waiting_room_enabled"])
  let maxParticipants ← numberOr value ["maxParticipants", "max_participants"] 300
  let policyEpoch ← numberOr value ["policyEpoch", "policy_epoch"] 0
  let updatedBy ← stringOr value ["updatedBy", "updated_by"] ""
  let updatedAtMs ← numberOr value ["updatedAtMs", "updated_at_ms"] nowMs
  return .sessionPolicy {
    roomLock
    waitingRoomEnabled
    recordingPolicy := recordingAlias (coalesce value ["recordingPolicy", "recording_policy"])
    guestPolicy := guestPolicyAlias (coalesce value ["guestPolicy", "guest_policy"])
    e2eeRequired := isNotFalse (Json.get? value "e2eeRequired") &&
      isNotFalse (Json.get? value "e2ee_required")
    maxParticipants
    policyEpoch
    updatedBy
    signature := textOf value "signature"
    updatedAtMs }

def decodeDeviceCapability : Option ProtocolFrame := do
  let participantId ← stringOr value ["participantId", "participant_id"] ""
  let codecs ← (items (Json.get? value "codecs")).mapM string
  let hdrCapture ← boolean (coalesce value ["hdrCapture", "hdr_capture"])
  let hdrRender ← boolean (coalesce value ["hdrRender", "hdr_render"])
  let maxStreams ← numberOr value ["maxStreams", "max_streams"] 1
  let updatedAtMs ← numberOr value ["updatedAtMs", "updated_at_ms"] nowMs
  return .deviceCapability
    { participantId, codecs, hdrCapture, hdrRender, maxStreams, updatedAtMs }

def decodeMediaProfileNegotiation : Option ProtocolFrame := do
  let colorPrimaries ← stringOr value ["colorPrimaries", "color_primaries"] "bt709"
  let transferFunction ← stringOr value ["transferFunction", "transfer_function"] "gamma"
  let codec ← stringOr value ["codec"] "h264"
  return .mediaProfileNegotiation {
    preferredProfile :=
      mediaProfileAlias (coalesce value ["preferredProfile", "preferred_profile"])
    negotiatedProfile :=
      mediaProfileAlias (coalesce value ["negotiatedProfile", "negotiated_profile"])
    colorPrimaries
    transferFunction
    codec }

def decodeRecordingNotice : Option ProtocolFrame := do
  let issuedAtMs ← numberOr value ["issuedAtMs", "issued_at_ms"] nowMs
  return .recordingNotice (recordingAlias (Json.get? value "state")) issuedAtMs

def decodeE2eeKeyEpoch : Option ProtocolFrame := do
  let epoch ← numberOr value ["epoch"] 0
  let issuedBy ← stringOr value ["issuedBy", "issued_by"] ""
  let sentAtMs ← numberOr value ["sentAtMs", "sent_at_ms"] nowMs
  return .e2eeKeyEpoch { epoch, issuedBy, signature := textOf value "signature", sentAtMs }

def decodeKeyRotationAck : Option ProtocolFrame := do
  let ackEpoch ← numberOr value ["ackEpoch", "ack_epoch"] 0
  let participantId ← stringOr value ["participantId", "participant_id"] ""
  let sentAtMs ← numberOr value ["sentAtMs", "sent_at_ms"] nowMs
  return .keyRotationAck ackEpoch participantId sentAtMs

def decodePaymentPolicy : Option ProtocolFrame := do
  let required ← boolean (Json.get? value "required")
  return .paymentPolicy required
    ((textOf value "destinationAccount").or (textOf value "destination_account"))

def decodePaymentSettlement : Option ProtocolFrame :=
  some (.paymentSettlement (paymentAlias (Json.get? value "status")))

def decodePing : Option ProtocolFrame := do
  let sentAtMs ← numberOr value ["sentAtMs", "sent_at_ms"] nowMs
  return .ping sentAtMs

def decodePong : Option ProtocolFrame := do
  let sentAtMs ← numberOr value ["sentAtMs", "sent_at_ms"] nowMs
  return .pong sentAtMs

def decodeError : Option ProtocolFrame := do
  let code ← stringOr value ["code"] "unknown_error"
  let message ← stringOr value ["message"] "Unknown protocol frame"
  return .error (categoryAlias (Json.get? value "category")) code message

end

/-- The frame of a kind. The fields of an error are those of the root. -/
def decodeKind (nowMs : Int) (raw : Object) (kind : String) : Option ProtocolFrame :=
  match kind with
  | "handshakeAck" =>
      decodeHandshakeAck nowMs (payloadOrRoot raw ["handshakeAck", "handshake_ack"])
  | "participantPresenceDelta" =>
      decodePresenceDelta (payloadOrRoot raw
        ["presenceDelta", "participantPresenceDelta", "participant_presence_delta"])
  | "roleGrant" => decodeRoleGrant nowMs (payloadOrRoot raw ["roleGrant", "role_grant"])
  | "roleRevoke" => decodeRoleRevoke nowMs (payloadOrRoot raw ["roleRevoke", "role_revoke"])
  | "permissionsSnapshot" =>
      decodePermissionsSnapshot (payloadOrRoot raw ["permissionsSnapshot", "permissions_snapshot"])
  | "moderationSigned" =>
      decodeModerationSigned nowMs (payloadOrRoot raw ["moderationSigned", "moderation_signed"])
  | "sessionPolicy" =>
      decodeSessionPolicy nowMs (payloadOrRoot raw ["sessionPolicy", "session_policy"])
  | "deviceCapability" =>
      decodeDeviceCapability nowMs (payloadOrRoot raw ["deviceCapability", "device_capability"])
  | "mediaProfileNegotiation" =>
      decodeMediaProfileNegotiation (payloadOrRoot raw
        ["mediaProfileNegotiation", "media_profile_negotiation"])
  | "recordingNotice" =>
      decodeRecordingNotice nowMs (payloadOrRoot raw ["recordingNotice", "recording_notice"])
  | "e2eeKeyEpoch" =>
      decodeE2eeKeyEpoch nowMs (payloadOrRoot raw ["e2eeKeyEpoch", "e2ee_key_epoch"])
  | "keyRotationAck" =>
      decodeKeyRotationAck nowMs (payloadOrRoot raw ["keyRotationAck", "key_rotation_ack"])
  | "paymentPolicy" => decodePaymentPolicy (payloadOrRoot raw ["paymentPolicy", "payment_policy"])
  | "paymentSettlement" =>
      decodePaymentSettlement (payloadOrRoot raw ["paymentSettlement", "payment_settlement"])
  | "ping" => decodePing nowMs (payloadOrRoot raw ["ping"])
  | "pong" => decodePong nowMs (payloadOrRoot raw ["pong"])
  | "handshake" => decodeHandshake nowMs (payloadOrRoot raw ["handshake"])
  | _ => decodeError raw

def decodeValue (nowMs : Int) (value : Json) : Option ProtocolFrame := do
  let raw ← properties value
  let kind ← stringOr raw ["kind"] "error"
  decodeKind nowMs raw (frameKindAlias kind)

/-- The frame, where nothing is thrown. `Date.now()` tells `nowMs`. -/
def decodeFrame (nowMs : Int) (payload : String) : Option ProtocolFrame :=
  (Json.parse payload).bind (decodeValue nowMs)

end Kaigi.Session.Web
