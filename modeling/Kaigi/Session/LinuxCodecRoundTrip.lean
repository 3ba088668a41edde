import Kaigi.Session.LinuxCodec

/-!
# The round trip of the Linux codec

What the client writes it reads back, for every kind of frame: each field is looked for
under the name that it is written under, and each token stands for its value.
-/

set_option autoImplicit false

namespace Kaigi.Session

/-! ## The ranges of the fields -/

/-- The integers of the frame are those of their types. -/
def ProtocolFrame.InRange : ProtocolFrame → Prop
  | .handshake frame => IsI64 frame.sentAtMs
  | .handshakeAck _ _ acceptedAtMs => IsI64 acceptedAtMs
  | .participantPresenceDelta frame => IsI64 frame.sequence
  | .roleGrant frame => IsI64 frame.issuedAtMs
  | .roleRevoke frame => IsI64 frame.issuedAtMs
  | .permissionsSnapshot _ _ epoch => IsI32 epoch
  | .moderationSigned frame => IsI64 frame.sentAtMs
  | .sessionPolicy frame =>
      IsI32 frame.maxParticipants ∧ IsI32 frame.policyEpoch ∧ IsI64 frame.updatedAtMs
  | .deviceCapability frame => IsI32 frame.maxStreams ∧ IsI64 frame.updatedAtMs
  | .mediaProfileNegotiation _ | .paymentPolicy _ _ | .paymentSettlement _ | .error _ _ _ => True
  | .recordingNotice _ issuedAtMs => IsI64 issuedAtMs
  | .e2eeKeyEpoch frame => IsI32 frame.epoch ∧ IsI64 frame.sentAtMs
  | .keyRotationAck ackEpoch _ sentAtMs => IsI32 ackEpoch ∧ IsI64 sentAtMs
  | .ping sentAtMs => IsI64 sentAtMs
  | .pong sentAtMs => IsI64 sentAtMs

namespace Linux

open Text

/-! ## Tokens and scalars -/

@[simp] theorem parse_categoryToken (category : SessionErrorCategory) :
    parseSessionErrorCategory (some (categoryToken category)) = category := by
  cases category <;> rfl

@[simp] theorem parse_roleToken (role : ParticipantRole) :
    parseParticipantRole (some (roleToken role)) = role := by
  cases role <;> rfl

@[simp] theorem parse_actionToken (action : ModerationAction) :
    parseModerationAction (some (actionToken action)) = action := by
  cases action <;> rfl

@[simp] theorem parse_profileToken (profile : MediaProfile) :
    parseMediaProfile (some (profileToken profile)) = profile := by
  cases profile <;> rfl

@[simp] theorem parse_recordingToken (recording : RecordingState) :
    parseRecordingState (some (recordingToken recording)) = recording := by
  cases recording <;> rfl

@[simp] theorem parse_guestPolicyToken (policy : GuestPolicy) :
    parseGuestPolicy (some (guestPolicyToken policy)) = policy := by
  cases policy <;> rfl

@[simp] theorem parse_settlementToken (status : PaymentSettlementStatus) :
    parsePaymentSettlementStatus (some (settlementToken status)) = status := by
  cases status <;> rfl

@[simp] theorem asString_optional (value : Option String) : (optional value).asString = value := by
  cases value <;> rfl

@[simp] theorem readBool_bool (value : Bool) : readBool (.bool value) = some value :=
  rfl

theorem readI64_integer {value : Int} (range : IsI64 value) :
    readI64 (.integer value) = some value := by
  rw [readI64, Json.asI64_integer range.1 range.2]
  rfl

theorem narrow_of {value : Int} (range : IsI32 value) : narrow value = some value :=
  if_pos range

theorem readI32_integer {value : Int} (range : IsI32 value) :
    (readI64 (.integer value)).bind narrow = some value := by
  rw [readI64_integer (IsI32.isI64 range)]
  exact narrow_of range

/-! ## Lists -/

@[simp] theorem parse_participantValue (participant : Participant) :
    parseParticipant (participantValue participant) = some participant := by
  simp [parseParticipant, participantValue]

@[simp] theorem parse_roleChangeValue (change : RoleChange) :
    parseRoleChange (roleChangeValue change) = some change := by
  simp [parseRoleChange, roleChangeValue]

@[simp] theorem read_strings (values : List String) :
    ((strings values).asArray.getD []).filterMap Json.asString = values := by
  simp [strings, Function.comp_def]

@[simp] theorem ok_bind {Value Result : Type} (value : Value)
    (next : Value → Except CodecError Result) : (Except.ok value >>= next) = next value :=
  rfl

/-! ## Frames -/

theorem decodeValue_tagged (kind : String) {fields : Object}
    (untagged : Json.get? fields "kind" = none) :
    decodeValue (tagged kind fields) =
      decodeKind (("kind", .string kind) :: fields) (canonicalKind kind) := by
  simp [decodeValue, tagged, untagged]

theorem decodeValue_frameValue {frame : ProtocolFrame} (range : frame.InRange) :
    decodeValue (frameValue frame) = .ok frame := by
  cases frame with
  | handshake frame =>
      have time := readI64_integer range
      refine (decodeValue_tagged "handshake" (by simp)).trans ?_
      change decodeHandshake (payloadOrRoot _ _) = _
      simp [payloadOrRoot, decodeHandshake, participantKeys, time]
  | handshakeAck sessionId resumeToken acceptedAtMs =>
      have time := readI64_integer range
      refine (decodeValue_tagged "handshakeAck" (by simp)).trans ?_
      change decodeHandshakeAck (payloadOrRoot _ _) = _
      simp [payloadOrRoot, decodeHandshakeAck, time]
  | participantPresenceDelta frame =>
      have sequence := readI64_integer range
      refine (decodeValue_tagged "participantPresenceDelta" (by simp)).trans ?_
      change Except.ok (decodePresenceDelta (payloadOrRoot _ _)) = _
      simp [payloadOrRoot, decodePresenceDelta, sequence]
  | roleGrant frame =>
      have time := readI64_integer range
      refine (decodeValue_tagged "roleGrant" (by simp)).trans ?_
      change decodeRoleGrant (payloadOrRoot _ _) = _
      simp [payloadOrRoot, decodeRoleGrant, targetKeys, time]
  | roleRevoke frame =>
      have time := readI64_integer range
      refine (decodeValue_tagged "roleRevoke" (by simp)).trans ?_
      change decodeRoleRevoke (payloadOrRoot _ _) = _
      simp [payloadOrRoot, decodeRoleRevoke, targetKeys, time]
  | permissionsSnapshot participantId effectivePermissions epoch =>
      have wide := readI64_integer (IsI32.isI64 range)
      have narrowed := narrow_of range
      refine (decodeValue_tagged "permissionsSnapshot" (by simp)).trans ?_
      change decodePermissionsSnapshot (payloadOrRoot _ _) = _
      simp [payloadOrRoot, decodePermissionsSnapshot, participantKeys, wide, narrowed]
  | moderationSigned frame =>
      have time := readI64_integer range
      refine (decodeValue_tagged "moderationSigned" (by simp)).trans ?_
      change decodeModerationSigned (payloadOrRoot _ _) = _
      simp [payloadOrRoot, decodeModerationSigned, targetKeys, time]
  | sessionPolicy frame =>
      have limit := readI32_integer range.1
      have epoch := readI32_integer range.2.1
      have time := readI64_integer range.2.2
      refine (decodeValue_tagged "sessionPolicy" (by simp)).trans ?_
      change Except.ok (decodeSessionPolicy (payloadOrRoot _ _)) = _
      simp [payloadOrRoot, decodeSessionPolicy, limit, epoch, time]
  | deviceCapability frame =>
      have streams := readI32_integer range.1
      have time := readI64_integer range.2
      refine (decodeValue_tagged "deviceCapability" (by simp)).trans ?_
      change decodeDeviceCapability (payloadOrRoot _ _) = _
      simp [payloadOrRoot, decodeDeviceCapability, participantKeys, streams, time]
  | mediaProfileNegotiation profile =>
      refine (decodeValue_tagged "mediaProfileNegotiation" (by simp)).trans ?_
      change Except.ok (decodeMediaProfileNegotiation (payloadOrRoot _ _)) = _
      simp [payloadOrRoot, decodeMediaProfileNegotiation]
  | recordingNotice recording issuedAtMs =>
      have time := readI64_integer range
      refine (decodeValue_tagged "recordingNotice" (by simp)).trans ?_
      change Except.ok (decodeRecordingNotice (payloadOrRoot _ _)) = _
      simp [payloadOrRoot, decodeRecordingNotice, time]
  | e2eeKeyEpoch frame =>
      have epoch := readI32_integer range.1
      have time := readI64_integer range.2
      refine (decodeValue_tagged "e2eeKeyEpoch" (by simp)).trans ?_
      change Except.ok (decodeE2eeKeyEpoch (payloadOrRoot _ _)) = _
      simp [payloadOrRoot, decodeE2eeKeyEpoch, epoch, time]
  | keyRotationAck ackEpoch participantId sentAtMs =>
      have epoch := readI32_integer range.1
      have time := readI64_integer range.2
      refine (decodeValue_tagged "keyRotationAck" (by simp)).trans ?_
      change decodeKeyRotationAck (payloadOrRoot _ _) = _
      simp [payloadOrRoot, decodeKeyRotationAck, participantKeys, epoch, time]
  | paymentPolicy required destinationAccount =>
      refine (decodeValue_tagged "paymentPolicy" (by simp)).trans ?_
      change Except.ok (decodePaymentPolicy (payloadOrRoot _ _)) = _
      simp [payloadOrRoot, decodePaymentPolicy]
  | paymentSettlement status =>
      refine (decodeValue_tagged "paymentSettlement" (by simp)).trans ?_
      change Except.ok (decodePaymentSettlement (payloadOrRoot _ _)) = _
      simp [payloadOrRoot, decodePaymentSettlement]
  | error category code message =>
      refine (decodeValue_tagged "error" (by simp)).trans ?_
      change Except.ok (decodeError (payloadOrRoot _ _)) = _
      simp [payloadOrRoot, decodeError]
  | ping sentAtMs =>
      have time := readI64_integer range
      refine (decodeValue_tagged "ping" (by simp)).trans ?_
      change Except.ok (ProtocolFrame.ping (decodeSentAtMs (payloadOrRoot _ _))) = _
      simp [payloadOrRoot, decodeSentAtMs, time]
  | pong sentAtMs =>
      have time := readI64_integer range
      refine (decodeValue_tagged "pong" (by simp)).trans ?_
      change Except.ok (ProtocolFrame.pong (decodeSentAtMs (payloadOrRoot _ _))) = _
      simp [payloadOrRoot, decodeSentAtMs, time]

/-- What is written is read back, as long as the text of the JSON value is. -/
theorem decode_encode (serde : SerdeJson) {frame : ProtocolFrame} (range : frame.InRange)
    (roundTrips : serde.RoundTrips (frameValue frame)) :
    (encodeFrame serde frame).bind (decodeFrame serde) = .ok frame := by
  obtain ⟨text, written, read⟩ := roundTrips
  have encoded : encodeFrame serde frame = .ok text := by
    rw [encodeFrame, written]
    rfl
  have decoded : decodeFrame serde text = .ok frame := by
    rw [decodeFrame, read]
    exact decodeValue_frameValue range
  rw [encoded]
  exact decoded

def exampleAck : ProtocolFrame :=
  .keyRotationAck 2 "alice" 5

def exampleAckText : String :=
  "\x7b\"kind\":\"keyRotationAck\",\"ack_epoch\":2,\"participant_id\":\"alice\",\"sent_at_ms\":5\x7d"

/-- The serialization of one frame. -/
def exampleSerde : SerdeJson where
  toString := fun _ => .ok exampleAckText
  fromStr := fun text =>
    if text = exampleAckText then .ok (frameValue exampleAck) else .error "expected value"

theorem decode_encode_example :
    (encodeFrame exampleSerde exampleAck).bind (decodeFrame exampleSerde) = .ok exampleAck :=
  decode_encode exampleSerde ⟨⟨by decide, by decide⟩, by decide, by decide⟩
    ⟨exampleAckText, rfl, by simp [exampleSerde]⟩

end Linux

end Kaigi.Session
