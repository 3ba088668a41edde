import Kaigi.Hub.RoomState

/-!
# Field checks

Hexadecimal strings, signatures and the shape of the frames that a client may
send. A failed check is the text of the error frame that reports it.
-/

set_option autoImplicit false

namespace Kaigi.Hub

open Collections Wire

/-- `str::strip_prefix("0x")`, then `"0X"`. -/
def stripHexPrefix (value : String) : String :=
  match value.toList with
  | '0' :: 'x' :: rest => String.ofList rest
  | '0' :: 'X' :: rest => String.ofList rest
  | _ => value

def isHexDigit (character : Char) : Bool :=
  ('0' ≤ character && character ≤ '9') || ('a' ≤ character && character ≤ 'f') ||
    ('A' ≤ character && character ≤ 'F')

/-- `hex::decode(value).is_ok()`. -/
def hexDecodes (value : String) : Bool :=
  value.utf8ByteSize % 2 == 0 && value.toList.all isHexDigit

def isValidTxHashHex (hash : String) : Bool :=
  let normalized := stripHexPrefix hash
  normalized.utf8ByteSize == 64 && hexDecodes normalized

def isValidHex (value : String) : Bool :=
  let normalized := stripHexPrefix value
  normalized.utf8ByteSize != 0 && normalized.utf8ByteSize % 2 == 0 && hexDecodes normalized

def isValidHexLen (value : String) (bytes : Nat) : Bool :=
  let normalized := stripHexPrefix value
  normalized.utf8ByteSize == bytes * 2 && hexDecodes normalized

def hexDigit (value : Nat) : Char :=
  if value < 10 then Char.ofNat ('0'.toNat + value) else Char.ofNat ('a'.toNat + (value - 10))

/-- `hex::encode`: two lower-case digits for each byte. -/
def hexEncode (bytes : List UInt8) : String :=
  String.ofList (bytes.flatMap fun byte => [hexDigit (byte.toNat / 16), hexDigit (byte.toNat % 16)])

def toAsciiLowercase (value : String) : String :=
  String.ofList (value.toList.map fun character =>
    if 'A' ≤ character && character ≤ 'Z' then Char.ofNat (character.toNat + 32) else character)

def deterministicSignatureHex (hub : HubState) (tag payload : String) : String :=
  hexEncode (hub.blake3 (tag ++ payload)).toList

def roleKindToken : RoleKind → String
  | .host => "host"
  | .coHost => "cohost"
  | .participant => "participant"

def moderationActionToken : ModerationAction → String
  | .disableMic => "disable_mic"
  | .disableVideo => "disable_video"
  | .disableScreenShare => "disable_screen_share"
  | .kick => "kick"
  | .admitFromWaiting => "admit_from_waiting"
  | .denyFromWaiting => "deny_from_waiting"

def moderationTargetToken : ModerationTarget → String
  | .all => "all"
  | .participant participantId => s!"participant:{participantId}"

/-- The common shape of the signature validators: the signature must be the
tagged digest of the payload, in any letter case. -/
def signatureIsValid (hub : HubState) (tag payload signatureHex : String) : Bool :=
  deterministicSignatureHex hub tag payload == toAsciiLowercase signatureHex

def moderationSignedSignatureIsValid (hub : HubState) (moderation : ModerationSignedFrame) :
    Bool :=
  signatureIsValid hub "moderation"
    (moderation.issuedBy ++ "|" ++ moderationTargetToken moderation.target ++ "|" ++
      moderationActionToken moderation.action ++ "|" ++ toString moderation.sentAtMs)
    moderation.signatureHex

def roleGrantSignatureIsValid (hub : HubState) (grant : RoleGrantFrame) : Bool :=
  signatureIsValid hub "role_grant"
    (grant.grantedBy ++ "|" ++ grant.targetParticipantId ++ "|" ++ roleKindToken grant.role ++
      "|" ++ toString grant.issuedAtMs)
    grant.signatureHex

def roleRevokeSignatureIsValid (hub : HubState) (revoke : RoleRevokeFrame) : Bool :=
  signatureIsValid hub "role_revoke"
    (revoke.revokedBy ++ "|" ++ revoke.targetParticipantId ++ "|" ++ roleKindToken revoke.role ++
      "|" ++ toString revoke.issuedAtMs)
    revoke.signatureHex

def sessionPolicySignatureIsValid (hub : HubState) (policy : SessionPolicyFrame) : Bool :=
  signatureIsValid hub "session_policy"
    (policy.updatedBy ++ "|" ++ toString policy.roomLock ++ "|" ++
      toString policy.waitingRoomEnabled ++ "|" ++ toString policy.guestJoinAllowed ++ "|" ++
      toString policy.localRecordingAllowed ++ "|" ++ toString policy.e2eeRequired ++ "|" ++
      toString policy.maxParticipants ++ "|" ++ toString policy.policyEpoch ++ "|" ++
      toString policy.updatedAtMs)
    policy.signatureHex

def e2eePublicKeyIsValid (hub : HubState) (frame : E2EEKeyEpochFrame) : Bool :=
  signatureIsValid hub "e2ee_public_key"
    (frame.participantId ++ "|" ++ toString frame.epoch) frame.publicKeyHex

def e2eeSignatureIsValid (hub : HubState) (frame : E2EEKeyEpochFrame) : Bool :=
  signatureIsValid hub "e2ee_key_epoch"
    (frame.participantId ++ "|" ++ toString frame.epoch ++ "|" ++ toString frame.sentAtMs)
    frame.signatureHex

/-- `char::is_whitespace`: the Unicode property `White_Space`. -/
def isWhitespace (character : Char) : Bool :=
  let code := character.toNat
  (0x9 ≤ code && code ≤ 0xD) || code == 0x20 || code == 0x85 || code == 0xA0 || code == 0x1680 ||
    (0x2000 ≤ code && code ≤ 0x200A) || code == 0x2028 || code == 0x2029 || code == 0x202F ||
    code == 0x205F || code == 0x3000

/-- `char::is_control`: the Unicode general category `Cc`. -/
def isControl (character : Char) : Bool :=
  let code := character.toNat
  code ≤ 0x1F || (0x7F ≤ code && code ≤ 0x9F)

/-- `value.trim().is_empty()`. -/
def isBlank (value : String) : Bool :=
  value.toList.all isWhitespace

def isAscii (value : String) : Bool :=
  value.toList.all fun character => character.toNat < 128

def hasDisallowedAnonHandleChars (value : String) : Bool :=
  value.toList.any fun character => isWhitespace character || isControl character

def hasForbiddenAnonHandleSymbol (value : String) : Bool :=
  value.toList.contains '@'

def maxEncryptedCiphertextHexLen : Nat := 64 * 1024
def minEncryptedCiphertextHexLen : Nat := 32
def maxEncryptedRecipientsPerFrame : Nat := 256

/-- The five checks that a handle-like name passes, under the name the error
texts use for it. -/
def validateOpaqueName (value label : String) (maxLength : Nat) : Option String :=
  if isBlank value then some s!"{label} must be non-empty"
  else if !isAscii value then some s!"{label} must be ASCII"
  else if hasForbiddenAnonHandleSymbol value then some s!"{label} must not contain '@'"
  else if hasDisallowedAnonHandleChars value then
    some s!"{label} must not contain whitespace/control chars"
  else if value.utf8ByteSize > maxLength then some s!"{label} too long: max {maxLength} chars"
  else none

def validateGroupKeyUpdateFrame (update : GroupKeyUpdateFrame) : Option String :=
  (validateOpaqueName update.participantHandle "group key participant_handle"
    maxAnonParticipantHandleLen).or <|
  if !isValidHexLen update.x25519PubkeyHex 32 then some "x25519_pubkey_hex must be 32-byte hex"
  else if update.epoch = 0 then some "group key epoch must be >= 1"
  else none

/-- The recipient checks differ in order from the other names: the length comes
before the character checks, and the first check is shared with nonce and
ciphertext. -/
def validateEncryptedRecipientPayload (payload : EncryptedRecipientPayload)
    (recipients : List String) : Option String :=
  let normalizedCiphertext := stripHexPrefix payload.ciphertextHex
  if isBlank payload.recipientHandle || !isValidHexLen payload.nonceHex 24 ||
      payload.ciphertextHex.utf8ByteSize == 0 then
    some "encrypted payloads must include recipient, 24-byte nonce, and ciphertext"
  else if payload.recipientHandle.utf8ByteSize > maxAnonParticipantHandleLen then
    some s!"encrypted recipient handle too long: max {maxAnonParticipantHandleLen} chars"
  else if !isAscii payload.recipientHandle then some "encrypted recipient handle must be ASCII"
  else if hasForbiddenAnonHandleSymbol payload.recipientHandle then
    some "encrypted recipient handle must not contain '@'"
  else if hasDisallowedAnonHandleChars payload.recipientHandle then
    some "encrypted recipient handle must not contain whitespace/control chars"
  else if !isValidHex payload.ciphertextHex then some "encrypted ciphertext must be valid hex"
  else if normalizedCiphertext.utf8ByteSize > maxEncryptedCiphertextHexLen then
    some s!"encrypted ciphertext too long: max {maxEncryptedCiphertextHexLen} hex chars"
  else if normalizedCiphertext.utf8ByteSize < minEncryptedCiphertextHexLen then
    some s!"encrypted ciphertext too short: min {minEncryptedCiphertextHexLen} hex chars"
  else if recipients.contains payload.recipientHandle then
    some "encrypted payload recipients must be unique"
  else none

/-- The loop over the payloads, with the recipients seen so far. -/
def validateEncryptedPayloads : List EncryptedRecipientPayload → List String → Option String
  | [], _ => none
  | payload :: rest, recipients =>
      (validateEncryptedRecipientPayload payload recipients).or
        (validateEncryptedPayloads rest (payload.recipientHandle :: recipients))

def validateEncryptedControlFrame (enc : EncryptedControlFrame) : Option String :=
  if enc.epoch = 0 then some "encrypted control epoch must be >= 1"
  else
    (validateOpaqueName enc.senderHandle "encrypted sender handle"
      maxAnonParticipantHandleLen).or <|
    if enc.payloads.isEmpty then some "encrypted control payloads must be non-empty"
    else if enc.payloads.length > maxEncryptedRecipientsPerFrame then
      some s!"encrypted payload fanout too large: max {maxEncryptedRecipientsPerFrame} recipients"
    else validateEncryptedPayloads enc.payloads []

def validateEncryptedControlRoomRecipients (enc : EncryptedControlFrame) (room : RoomState) :
    Option String :=
  let rosterHandles := (room.participants.values.filter fun participant =>
    participant.anonymousMode && participant.helloSeen).filterMap (·.participantHandle)
  (enc.payloads.find? fun payload => !rosterHandles.contains payload.recipientHandle).map
    fun payload =>
      s!"encrypted recipient handle is not in anonymous roster: {payload.recipientHandle}"

def validateEncryptedControlEpoch (frameEpoch senderEpoch : Nat) : Option String :=
  if senderEpoch = 0 then some "sender key epoch is not initialized"
  else if frameEpoch ≠ senderEpoch then
    some s!"encrypted control epoch mismatch: expected {senderEpoch} got {frameEpoch}"
  else none

def validateEscrowProofFrame (proof : EscrowProofFrame) : Option String :=
  (validateOpaqueName proof.payerHandle "payer_handle" maxAnonParticipantHandleLen).or <|
  (validateOpaqueName proof.escrowId "escrow_id" maxEscrowIdLen).or <|
  if (stripHexPrefix proof.proofHex).utf8ByteSize > maxEscrowProofHexLen then
    some s!"proof_hex too long: max {maxEscrowProofHexLen} hex chars"
  else if !isValidHex proof.proofHex then some "proof_hex must be valid hex"
  else none

def validateEscrowIdConsistency (current : Option String) (incoming : String) : Option String :=
  if current.any (· != incoming) then
    some "escrow_id must remain stable for a participant session"
  else none

def validateDeviceCapabilityFrame (cap : DeviceCapabilityFrame) : Option String :=
  if isBlank cap.participantId then some "device capability participant_id must be non-empty"
  else if cap.maxVideoStreams = 0 then some "device capability max_video_streams must be >= 1"
  else if cap.codecs.isEmpty then some "device capability codecs must be non-empty"
  else if cap.codecs.any isBlank then some "device capability codec entries must be non-empty"
  else none

def validateMediaProfileNegotiationFrame (profile : MediaProfileNegotiationFrame) :
    Option String :=
  if isBlank profile.participantId then some "media profile participant_id must be non-empty"
  else if isBlank profile.codec then some "media profile codec must be non-empty"
  else if profile.epoch = 0 then some "media profile epoch must be >= 1"
  else none

def validateRecordingNoticeFrame (notice : RecordingNoticeFrame) : Option String :=
  if isBlank notice.participantId then some "recording notice participant_id must be non-empty"
  else if isBlank notice.issuedBy then some "recording notice issued_by must be non-empty"
  else none

def validateE2eeKeyEpochFrame (hub : HubState) (frame : E2EEKeyEpochFrame) : Option String :=
  if isBlank frame.participantId then some "e2ee key epoch participant_id must be non-empty"
  else if frame.epoch = 0 then some "e2ee key epoch must be >= 1"
  else if !isValidHexLen frame.publicKeyHex 32 then
    some "e2ee key epoch public_key_hex must be 32-byte hex"
  else if !isValidHexLen frame.signatureHex 32 then
    some "e2ee key epoch signature_hex must be 32-byte hex"
  else if !e2eePublicKeyIsValid hub frame then
    some "e2ee key epoch public_key_hex failed verification"
  else if !e2eeSignatureIsValid hub frame then
    some "e2ee key epoch signature_hex failed verification"
  else none

end Kaigi.Hub
