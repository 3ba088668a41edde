import Kaigi.Session.LinuxCodecRoundTrip
import Kaigi.Session.WebCodec
import Kaigi.Text.JsonTextRoundTrip

/-!
# What the Linux and the Web client read of each other

Linux reads every frame of the Web client as it was written. The Web client knows the
Linux names of all fields but those of a handshake that may be missing, so a handshake
loses what they tell.
-/

set_option autoImplicit false

namespace Kaigi.Session

open Text
open Linux (exampleAck)

/-! ## The frames -/

/-- The integers of 64 bits. -/
def ProtocolFrame.wide : ProtocolFrame → List Int
  | .handshake frame => [frame.sentAtMs]
  | .handshakeAck _ _ acceptedAtMs => [acceptedAtMs]
  | .participantPresenceDelta frame => [frame.sequence]
  | .roleGrant frame => [frame.issuedAtMs]
  | .roleRevoke frame => [frame.issuedAtMs]
  | .moderationSigned frame => [frame.sentAtMs]
  | .sessionPolicy frame => [frame.updatedAtMs]
  | .deviceCapability frame => [frame.updatedAtMs]
  | .recordingNotice _ issuedAtMs => [issuedAtMs]
  | .e2eeKeyEpoch frame => [frame.sentAtMs]
  | .keyRotationAck _ _ sentAtMs => [sentAtMs]
  | .ping sentAtMs | .pong sentAtMs => [sentAtMs]
  | .permissionsSnapshot _ _ _ | .mediaProfileNegotiation _ | .paymentPolicy _ _
  | .paymentSettlement _ | .error _ _ _ => []

/-- The integers are those of their types, and those of 64 bits fit into 53. -/
def ProtocolFrame.IsShared (frame : ProtocolFrame) : Prop :=
  frame.InRange ∧ ∀ value ∈ frame.wide, Web.IsSafeInteger value

/-- A handshake without what the Web client does not read of it. -/
def HandshakeFrame.bare (frame : HandshakeFrame) (nowMs : Int) : HandshakeFrame :=
  { frame with
    walletIdentity := none
    resumeToken := none
    preferredProfile := .sdr
    hdrCapture := false
    hdrRender := false
    sentAtMs := nowMs }

def ProtocolFrame.readByWeb (nowMs : Int) : ProtocolFrame → ProtocolFrame
  | .handshake frame => .handshake (frame.bare nowMs)
  | frame => frame

/-! ## Lookups -/

@[simp] theorem get?_optional (name key : String) (value : Option String) :
    Json.get? (Web.optional name value) key = if name = key then value.map .string else none := by
  cases value <;> simp [Web.optional]

@[simp] theorem asString_map (value : Option String) :
    (value.map Json.string).bind Json.asString = value := by
  cases value <;> rfl

theorem mapM_map_some {Item : Type} {write : Item → Json} {read : Json → Option Item}
    (reads : ∀ item, read (write item) = some item) (list : List Item) :
    (list.map write).mapM read = some list := by
  induction list with
  | nil => rfl
  | cons item list ih => simp [reads, ih]

/-! ## What the Web client reads -/

namespace Web

open Linux (categoryToken roleToken actionToken profileToken recordingToken guestPolicyToken
  settlementToken)

@[simp] theorem categoryAlias_token (category : SessionErrorCategory) :
    categoryAlias (some (.string (categoryToken category))) = category := by
  cases category <;> rfl

@[simp] theorem roleAlias_token (role : ParticipantRole) :
    roleAlias (some (.string (roleToken role))) = role := by
  cases role <;> rfl

@[simp] theorem moderationAlias_token (action : ModerationAction) :
    moderationAlias (some (.string (actionToken action))) = action := by
  cases action <;> rfl

@[simp] theorem mediaProfileAlias_token (profile : MediaProfile) :
    mediaProfileAlias (some (.string (profileToken profile))) = profile := by
  cases profile <;> rfl

@[simp] theorem recordingAlias_token (recording : RecordingState) :
    recordingAlias (some (.string (recordingToken recording))) = recording := by
  cases recording <;> rfl

@[simp] theorem guestPolicyAlias_token (policy : GuestPolicy) :
    guestPolicyAlias (some (.string (guestPolicyToken policy))) = policy := by
  cases policy <;> rfl

@[simp] theorem paymentAlias_token (status : PaymentSettlementStatus) :
    paymentAlias (some (.string (settlementToken status))) = status := by
  cases status <;> rfl

section

variable (value : String) (flag : Bool) (integer : Int) (list : List Json)

@[simp] theorem present_string : present (.string value) = some (.string value) := rfl
@[simp] theorem present_bool : present (.bool flag) = some (.bool flag) := rfl
@[simp] theorem present_integer : present (.integer integer) = some (.integer integer) := rfl
@[simp] theorem present_array : present (.array list) = some (.array list) := rfl
@[simp] theorem string_string : string (.string value) = some value := rfl
@[simp] theorem boolean_bool : boolean (some (.bool flag)) = some flag := rfl
@[simp] theorem boolean_none : boolean none = some false := rfl
@[simp] theorem isNotFalse_none : isNotFalse none = true := rfl

@[simp] theorem isNotFalse_bool : isNotFalse (some (.bool flag)) = flag := by
  cases flag <;> rfl

end

@[simp] theorem properties_object (entries : Linux.Object) :
    properties (.object entries) = some entries :=
  rfl

theorem IsSafeInteger.of_isI32 {value : Int} (range : IsI32 value) : IsSafeInteger value := by
  unfold IsI32 at range
  unfold IsSafeInteger
  omega

theorem number_integer {value : Int} (safe : IsSafeInteger value) :
    number (.integer value) = some value :=
  if_pos safe

@[simp] theorem read_strings (values : List String) :
    (((Linux.strings values).asArray).getD []).mapM string = some values := by
  have reads : ∀ value, string (.string value) = some value := fun _ => rfl
  exact mapM_map_some reads values

@[simp] theorem present_strings (values : List String) :
    present (Linux.strings values) = some (Linux.strings values) :=
  rfl

@[simp] theorem decode_participantValue (participant : Participant) :
    decodeParticipant (Linux.participantValue participant) = some participant := by
  simp [decodeParticipant, Linux.participantValue]

@[simp] theorem decode_roleChangeValue (change : RoleChange) :
    decodeRoleChange (Linux.roleChangeValue change) = some change := by
  simp [decodeRoleChange, Linux.roleChangeValue]

theorem decodeValue_tagged (nowMs : Int) (kind : String) {fields : Linux.Object}
    (untagged : Json.get? fields "kind" = none) :
    decodeValue nowMs (Linux.tagged kind fields) =
      decodeKind nowMs (("kind", .string kind) :: fields) (frameKindAlias kind) := by
  simp [decodeValue, Linux.tagged, untagged]

theorem decodeValue_linux (nowMs : Int) {frame : ProtocolFrame} (range : frame.IsShared) :
    decodeValue nowMs (Linux.frameValue frame) = some (frame.readByWeb nowMs) := by
  cases frame with
  | handshake frame =>
      refine (decodeValue_tagged nowMs "handshake" (by simp)).trans ?_
      change decodeHandshake nowMs (payloadOrRoot _ _) = _
      simp [payloadOrRoot, decodeHandshake, ProtocolFrame.readByWeb]
      rfl
  | handshakeAck sessionId resumeToken acceptedAtMs =>
      have time := number_integer (range.2 acceptedAtMs (by simp [ProtocolFrame.wide]))
      refine (decodeValue_tagged nowMs "handshakeAck" (by simp)).trans ?_
      change decodeHandshakeAck nowMs (payloadOrRoot _ _) = _
      simp [payloadOrRoot, decodeHandshakeAck, ProtocolFrame.readByWeb, time]
  | participantPresenceDelta frame =>
      have sequence := number_integer (range.2 frame.sequence (by simp [ProtocolFrame.wide]))
      have joined := mapM_map_some decode_participantValue frame.joined
      have roleChanges := mapM_map_some decode_roleChangeValue frame.roleChanges
      refine (decodeValue_tagged nowMs "participantPresenceDelta" (by simp)).trans ?_
      change decodePresenceDelta (payloadOrRoot _ _) = _
      simp [payloadOrRoot, decodePresenceDelta, ProtocolFrame.readByWeb, sequence, joined,
        roleChanges]
  | roleGrant frame =>
      have time := number_integer (range.2 frame.issuedAtMs (by simp [ProtocolFrame.wide]))
      refine (decodeValue_tagged nowMs "roleGrant" (by simp)).trans ?_
      change decodeRoleGrant nowMs (payloadOrRoot _ _) = _
      simp [payloadOrRoot, decodeRoleGrant, ProtocolFrame.readByWeb, time]
  | roleRevoke frame =>
      have time := number_integer (range.2 frame.issuedAtMs (by simp [ProtocolFrame.wide]))
      refine (decodeValue_tagged nowMs "roleRevoke" (by simp)).trans ?_
      change decodeRoleRevoke nowMs (payloadOrRoot _ _) = _
      simp [payloadOrRoot, decodeRoleRevoke, ProtocolFrame.readByWeb, time]
  | permissionsSnapshot participantId effectivePermissions epoch =>
      have counter := number_integer (IsSafeInteger.of_isI32 range.1)
      refine (decodeValue_tagged nowMs "permissionsSnapshot" (by simp)).trans ?_
      change decodePermissionsSnapshot (payloadOrRoot _ _) = _
      simp [payloadOrRoot, decodePermissionsSnapshot, ProtocolFrame.readByWeb, counter]
  | moderationSigned frame =>
      have time := number_integer (range.2 frame.sentAtMs (by simp [ProtocolFrame.wide]))
      refine (decodeValue_tagged nowMs "moderationSigned" (by simp)).trans ?_
      change decodeModerationSigned nowMs (payloadOrRoot _ _) = _
      simp [payloadOrRoot, decodeModerationSigned, ProtocolFrame.readByWeb, time]
  | sessionPolicy frame =>
      have limit := number_integer (IsSafeInteger.of_isI32 range.1.1)
      have epoch := number_integer (IsSafeInteger.of_isI32 range.1.2.1)
      have time := number_integer (range.2 frame.updatedAtMs (by simp [ProtocolFrame.wide]))
      refine (decodeValue_tagged nowMs "sessionPolicy" (by simp)).trans ?_
      change decodeSessionPolicy nowMs (payloadOrRoot _ _) = _
      simp [payloadOrRoot, decodeSessionPolicy, ProtocolFrame.readByWeb, limit, epoch, time]
  | deviceCapability frame =>
      have streams := number_integer (IsSafeInteger.of_isI32 range.1.1)
      have time := number_integer (range.2 frame.updatedAtMs (by simp [ProtocolFrame.wide]))
      refine (decodeValue_tagged nowMs "deviceCapability" (by simp)).trans ?_
      change decodeDeviceCapability nowMs (payloadOrRoot _ _) = _
      simp [payloadOrRoot, decodeDeviceCapability, ProtocolFrame.readByWeb, streams, time]
  | mediaProfileNegotiation profile =>
      refine (decodeValue_tagged nowMs "mediaProfileNegotiation" (by simp)).trans ?_
      change decodeMediaProfileNegotiation (payloadOrRoot _ _) = _
      simp [payloadOrRoot, decodeMediaProfileNegotiation, ProtocolFrame.readByWeb]
  | recordingNotice recording issuedAtMs =>
      have time := number_integer (range.2 issuedAtMs (by simp [ProtocolFrame.wide]))
      refine (decodeValue_tagged nowMs "recordingNotice" (by simp)).trans ?_
      change decodeRecordingNotice nowMs (payloadOrRoot _ _) = _
      simp [payloadOrRoot, decodeRecordingNotice, ProtocolFrame.readByWeb, time]
  | e2eeKeyEpoch frame =>
      have epoch := number_integer (IsSafeInteger.of_isI32 range.1.1)
      have time := number_integer (range.2 frame.sentAtMs (by simp [ProtocolFrame.wide]))
      refine (decodeValue_tagged nowMs "e2eeKeyEpoch" (by simp)).trans ?_
      change decodeE2eeKeyEpoch nowMs (payloadOrRoot _ _) = _
      simp [payloadOrRoot, decodeE2eeKeyEpoch, ProtocolFrame.readByWeb, epoch, time]
  | keyRotationAck ackEpoch participantId sentAtMs =>
      have epoch := number_integer (IsSafeInteger.of_isI32 range.1.1)
      have time := number_integer (range.2 sentAtMs (by simp [ProtocolFrame.wide]))
      refine (decodeValue_tagged nowMs "keyRotationAck" (by simp)).trans ?_
      change decodeKeyRotationAck nowMs (payloadOrRoot _ _) = _
      simp [payloadOrRoot, decodeKeyRotationAck, ProtocolFrame.readByWeb, epoch, time]
  | paymentPolicy required destinationAccount =>
      refine (decodeValue_tagged nowMs "paymentPolicy" (by simp)).trans ?_
      change decodePaymentPolicy (payloadOrRoot _ _) = _
      simp [payloadOrRoot, decodePaymentPolicy, ProtocolFrame.readByWeb]
  | paymentSettlement status =>
      refine (decodeValue_tagged nowMs "paymentSettlement" (by simp)).trans ?_
      change decodePaymentSettlement (payloadOrRoot _ _) = _
      simp [payloadOrRoot, decodePaymentSettlement, ProtocolFrame.readByWeb]
  | error category code message =>
      refine (decodeValue_tagged nowMs "error" (by simp)).trans ?_
      change decodeError _ = _
      simp [decodeError, ProtocolFrame.readByWeb]
  | ping sentAtMs =>
      have time := number_integer (range.2 sentAtMs (by simp [ProtocolFrame.wide]))
      refine (decodeValue_tagged nowMs "ping" (by simp)).trans ?_
      change decodePing nowMs (payloadOrRoot _ _) = _
      simp [payloadOrRoot, decodePing, ProtocolFrame.readByWeb, time]
  | pong sentAtMs =>
      have time := number_integer (range.2 sentAtMs (by simp [ProtocolFrame.wide]))
      refine (decodeValue_tagged nowMs "pong" (by simp)).trans ?_
      change decodePong nowMs (payloadOrRoot _ _) = _
      simp [payloadOrRoot, decodePong, ProtocolFrame.readByWeb, time]

end Web

/-! ## What Linux reads -/

namespace Linux

@[simp] theorem parse_webParticipantValue (participant : Participant) :
    parseParticipant (Web.participantValue participant) = some participant := by
  simp [parseParticipant, Web.participantValue]

@[simp] theorem parse_webRoleChangeValue (change : RoleChange) :
    parseRoleChange (Web.roleChangeValue change) = some change := by
  simp [parseRoleChange, Web.roleChangeValue]

theorem decodeValue_web {frame : ProtocolFrame} (range : frame.InRange) :
    decodeValue (Web.frameValue frame) = .ok frame := by
  cases frame with
  | handshake frame =>
      have time := readI64_integer range
      refine (decodeValue_tagged "handshake" (by simp)).trans ?_
      change decodeHandshake (payloadOrRoot _ _) = _
      simp [payloadOrRoot, decodeHandshake, participantKeys, time]
  | handshakeAck sessionId resumeToken acceptedAtMs =>
      have time := readI64_integer range
      refine (decodeValue_tagged "handshakeAck" (by simp)).trans ?_
      change decodeHandshakeAck (payloadOrRoot _ _) = _
      simp [payloadOrRoot, decodeHandshakeAck, time]
  | participantPresenceDelta frame =>
      have sequence := readI64_integer range
      refine (decodeValue_tagged "participantPresenceDelta" (by simp)).trans ?_
      change Except.ok (decodePresenceDelta (payloadOrRoot _ _)) = _
      simp [payloadOrRoot, decodePresenceDelta, sequence]
  | roleGrant frame =>
      have time := readI64_integer range
      refine (decodeValue_tagged "roleGrant" (by simp)).trans ?_
      change decodeRoleGrant (payloadOrRoot _ _) = _
      simp [payloadOrRoot, decodeRoleGrant, targetKeys, time]
  | roleRevoke frame =>
      have time := readI64_integer range
      refine (decodeValue_tagged "roleRevoke" (by simp)).trans ?_
      change decodeRoleRevoke (payloadOrRoot _ _) = _
      simp [payloadOrRoot, decodeRoleRevoke, targetKeys, time]
  | permissionsSnapshot participantId effectivePermissions epoch =>
      have wide := readI64_integer (IsI32.isI64 range)
      have narrowed := narrow_of range
      refine (decodeValue_tagged "permissionsSnapshot" (by simp)).trans ?_
      change decodePermissionsSnapshot (payloadOrRoot _ _) = _
      simp [payloadOrRoot, decodePermissionsSnapshot, participantKeys, wide, narrowed]
  | moderationSigned frame =>
      have time := readI64_integer range
      refine (decodeValue_tagged "moderationSigned" (by simp)).trans ?_
      change decodeModerationSigned (payloadOrRoot _ _) = _
      simp [payloadOrRoot, decodeModerationSigned, targetKeys, time]
  | sessionPolicy frame =>
      have limit := readI32_integer range.1
      have epoch := readI32_integer range.2.1
      have time := readI64_integer range.2.2
      refine (decodeValue_tagged "sessionPolicy" (by simp)).trans ?_
      change Except.ok (decodeSessionPolicy (payloadOrRoot _ _)) = _
      simp [payloadOrRoot, decodeSessionPolicy, limit, epoch, time]
  | deviceCapability frame =>
      have streams := readI32_integer range.1
      have time := readI64_integer range.2
      refine (decodeValue_tagged "deviceCapability" (by simp)).trans ?_
      change decodeDeviceCapability (payloadOrRoot _ _) = _
      simp [payloadOrRoot, decodeDeviceCapability, participantKeys, streams, time]
  | mediaProfileNegotiation profile =>
      refine (decodeValue_tagged "mediaProfileNegotiation" (by simp)).trans ?_
      change Except.ok (decodeMediaProfileNegotiation (payloadOrRoot _ _)) = _
      simp [payloadOrRoot, decodeMediaProfileNegotiation]
  | recordingNotice recording issuedAtMs =>
      have time := readI64_integer range
      refine (decodeValue_tagged "recordingNotice" (by simp)).trans ?_
      change Except.ok (decodeRecordingNotice (payloadOrRoot _ _)) = _
      simp [payloadOrRoot, decodeRecordingNotice, time]
  | e2eeKeyEpoch frame =>
      have epoch := readI32_integer range.1
      have time := readI64_integer range.2
      refine (decodeValue_tagged "e2eeKeyEpoch" (by simp)).trans ?_
      change Except.ok (decodeE2eeKeyEpoch (payloadOrRoot _ _)) = _
      simp [payloadOrRoot, decodeE2eeKeyEpoch, epoch, time]
  | keyRotationAck ackEpoch participantId sentAtMs =>
      have epoch := readI32_integer range.1
      have time := readI64_integer range.2
      refine (decodeValue_tagged "keyRotationAck" (by simp)).trans ?_
      change decodeKeyRotationAck (payloadOrRoot _ _) = _
      simp [payloadOrRoot, decodeKeyRotationAck, participantKeys, epoch, time]
  | paymentPolicy required destinationAccount =>
      refine (decodeValue_tagged "paymentPolicy" (by simp)).trans ?_
      change Except.ok (decodePaymentPolicy (payloadOrRoot _ _)) = _
      simp [payloadOrRoot, decodePaymentPolicy]
  | paymentSettlement status =>
      refine (decodeValue_tagged "paymentSettlement" (by simp)).trans ?_
      change Except.ok (decodePaymentSettlement (payloadOrRoot _ _)) = _
      simp [payloadOrRoot, decodePaymentSettlement]
  | error category code message =>
      refine (decodeValue_tagged "error" (by simp)).trans ?_
      change Except.ok (decodeError (payloadOrRoot _ _)) = _
      simp [payloadOrRoot, decodeError]
  | ping sentAtMs =>
      have time := readI64_integer range
      refine (decodeValue_tagged "ping" (by simp)).trans ?_
      change Except.ok (ProtocolFrame.ping (decodeSentAtMs (payloadOrRoot _ _))) = _
      simp [payloadOrRoot, decodeSentAtMs, time]
  | pong sentAtMs =>
      have time := readI64_integer range
      refine (decodeValue_tagged "pong" (by simp)).trans ?_
      change Except.ok (ProtocolFrame.pong (decodeSentAtMs (payloadOrRoot _ _))) = _
      simp [payloadOrRoot, decodeSentAtMs, time]

end Linux

/-! ## Both directions -/

/-- `serde_json` writes and reads the texts of the values of one frame as JSON. -/
structure Linux.SerdeJson.Standard (serde : Linux.SerdeJson) (frame : ProtocolFrame) : Prop where
  writes : serde.toString (Linux.frameValue frame) = .ok (Json.text (Linux.frameValue frame))
  reads : serde.fromStr (Json.text (Web.frameValue frame)) = .ok (Web.frameValue frame)

/-- Each client reads the frame that the other one writes. -/
def ProtocolFrame.Interoperates (serde : Linux.SerdeJson) (nowMs : Int) (frame : ProtocolFrame) :
    Prop :=
  (∃ payload, Linux.encodeFrame serde frame = .ok payload ∧
      Web.decodeFrame nowMs payload = some frame) ∧
    Linux.decodeFrame serde (Web.encodeFrame frame) = .ok frame

/-- No field of a handshake tells what the Web client would not assume of it. -/
def ProtocolFrame.TellsNoMore (nowMs : Int) : ProtocolFrame → Prop
  | .handshake frame =>
      frame.walletIdentity = none ∧ frame.resumeToken = none ∧ frame.preferredProfile = .sdr ∧
        frame.hdrCapture = false ∧ frame.hdrRender = false ∧ frame.sentAtMs = nowMs
  | _ => True

theorem HandshakeFrame.bare_eq_iff (frame : HandshakeFrame) (nowMs : Int) :
    frame.bare nowMs = frame ↔ (ProtocolFrame.handshake frame).TellsNoMore nowMs := by
  cases frame
  simp [HandshakeFrame.bare, ProtocolFrame.TellsNoMore, eq_comm]

theorem ProtocolFrame.readByWeb_eq_iff (frame : ProtocolFrame) (nowMs : Int) :
    frame.readByWeb nowMs = frame ↔ frame.TellsNoMore nowMs := by
  cases frame with
  | handshake frame =>
      rw [← frame.bare_eq_iff]
      simp [ProtocolFrame.readByWeb]
  | _ => exact iff_of_true rfl trivial

theorem integral_strings (values : List String) : Json.Integral (Linux.strings values) := by
  simp [Linux.strings, Json.integralItems_iff]

theorem integral_optional (value : Option String) : Json.Integral (Linux.optional value) := by
  cases value <;> exact trivial

theorem integralEntries_optional (key : String) (value : Option String) :
    Json.IntegralEntries (Web.optional key value) := by
  cases value <;> simp [Web.optional]

theorem Linux.frameValue_integral (frame : ProtocolFrame) :
    Json.Integral (Linux.frameValue frame) := by
  cases frame <;>
    simp [Linux.frameValue, Linux.tagged, integral_strings, integral_optional,
      Json.integralItems_iff, Linux.participantValue, Linux.roleChangeValue]

theorem Web.frameValue_integral (frame : ProtocolFrame) : Json.Integral (Web.frameValue frame) := by
  cases frame <;>
    simp [Web.frameValue, Linux.tagged, integral_strings, Json.integralEntries_append,
      integralEntries_optional, Json.integralItems_iff, Web.participantValue, Web.roleChangeValue]

/-- The serialization by the text of a value. -/
def Linux.textSerde : Linux.SerdeJson where
  toString := fun value => .ok (Json.text value)
  fromStr := fun text => (Json.parse text).elim (.error "expected value") .ok

theorem Linux.textSerde_standard (frame : ProtocolFrame) : Linux.textSerde.Standard frame where
  writes := rfl
  reads := by
    simp [Linux.textSerde, Json.parse_text (Web.frameValue_integral frame)]

section

variable {serde : Linux.SerdeJson} {frame : ProtocolFrame} (standard : serde.Standard frame)

include standard

theorem Web.decodeFrame_linux (nowMs : Int) {payload : String} (range : frame.IsShared)
    (encoded : Linux.encodeFrame serde frame = .ok payload) :
    Web.decodeFrame nowMs payload = some (frame.readByWeb nowMs) := by
  have written : payload = Json.text (Linux.frameValue frame) := by
    rw [Linux.encodeFrame, standard.writes] at encoded
    exact (Except.ok.inj encoded).symm
  rw [Web.decodeFrame, written, Json.parse_text (Linux.frameValue_integral frame)]
  exact Web.decodeValue_linux nowMs range

theorem Linux.decodeFrame_web (range : frame.InRange) :
    Linux.decodeFrame serde (Web.encodeFrame frame) = .ok frame := by
  rw [Linux.decodeFrame, Web.encodeFrame, standard.reads]
  exact Linux.decodeValue_web range

theorem Linux.encodeFrame_standard :
    Linux.encodeFrame serde frame = .ok (Json.text (Linux.frameValue frame)) := by
  rw [Linux.encodeFrame, standard.writes]
  rfl

end

/-- The clients read each other's frame exactly if it is no handshake that tells more than the
Web client reads. -/
theorem interoperates_iff (serde : Linux.SerdeJson) (nowMs : Int) (frame : ProtocolFrame)
    (range : frame.IsShared) (standard : serde.Standard frame) :
    frame.Interoperates serde nowMs ↔ frame.TellsNoMore nowMs := by
  rw [← frame.readByWeb_eq_iff]
  constructor
  · rintro ⟨⟨payload, encoded, decoded⟩, -⟩
    have read := Web.decodeFrame_linux standard nowMs range encoded
    exact Option.some.inj (read.symm.trans decoded)
  · intro same
    have encoded := Linux.encodeFrame_standard standard
    have read := Web.decodeFrame_linux standard nowMs range encoded
    exact ⟨⟨_, encoded, read.trans (congrArg some same)⟩, Linux.decodeFrame_web standard range.1⟩

theorem interoperates_example : exampleAck.Interoperates Linux.textSerde 7 :=
  (interoperates_iff Linux.textSerde 7 exampleAck ⟨⟨⟨by decide, by decide⟩, by decide, by decide⟩,
    by decide⟩ (Linux.textSerde_standard exampleAck)).mpr trivial

/-- A handshake that is resumed with a wallet. -/
def exampleHandshake : ProtocolFrame :=
  .handshake {
    roomId := "daily"
    participantId := "alice@sora"
    participantName := "Alice"
    walletIdentity := some "alice@sora"
    resumeToken := some "resume-1"
    preferredProfile := .hdr
    hdrCapture := true
    hdrRender := true
    sentAtMs := 5 }

theorem exampleHandshake_lost :
    exampleHandshake.IsShared ∧ Linux.textSerde.Standard exampleHandshake ∧
      ¬ exampleHandshake.Interoperates Linux.textSerde 7 := by
  have range : exampleHandshake.IsShared := ⟨⟨by decide, by decide⟩, by decide⟩
  have standard := Linux.textSerde_standard exampleHandshake
  refine ⟨range, standard, ?_⟩
  rintro ⟨⟨payload, encoded, decoded⟩, -⟩
  have read := Web.decodeFrame_linux standard 7 range encoded
  exact absurd (Option.some.inj (read.symm.trans decoded)) (by decide)

end Kaigi.Session
