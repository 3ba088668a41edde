import Kaigi.Hub.Operation

/-!
# Handlers

The asynchronous handlers as processes. Every `rooms.lock().await` of the source
is one operation; readings of the clock inside a critical section are taken just
before it.
-/

set_option autoImplicit false

namespace Kaigi.Hub

open Collections Wire Interleaving

/-- The errors that `?` carries out of a handler. -/
inductive HubError where
  | roomMissing
  | participantMissing
  | wire (error : WireError)
  | wsRecv

def HubError.message : HubError → String
  | .roomMissing => "room missing"
  | .participantMissing => "participant missing"
  | .wire error => error.message
  | .wsRecv => "ws recv"

abbrev Handler (Value : Type) := Process Nat HubRoom Operation HubError Value

def nowMs : Handler Nat := Process.answer

/-- One critical section: perform `op` and keep what it shows of the room. -/
def critical {Value : Type} (op : Operation) (view : Option RoomState → Value) : Handler Value :=
  Process.perform op fun state => view state.room

/-- `encode_framed(frame)?`. -/
def encodeOrFail (hub : HubState) (frame : KaigiFrame) : Handler Unit :=
  match encodeFramed hub.norito frame with
  | .error error => .fail (.wire error)
  | .ok _ => .done ()

/-- The result says whether the channel took the message. -/
def trySend (target : ConnId) (message : Message) : Handler Bool :=
  Process.perform (.trySend target message) fun state => (state.channels target).accepts

/-- The sender lookup of `send_frame_to`. -/
def lookupSender (target : ConnId) : Handler Unit :=
  .atomic (.lookup target) fun state =>
    match state.room with
    | none => .fail .roomMissing
    | some room =>
        if room.participants.containsKey target then .done () else .fail .participantMissing

def sendFrameTo (hub : HubState) (connId : ConnId) (frame : KaigiFrame) : Handler Unit := do
  encodeOrFail hub frame
  lookupSender connId
  let _ ← trySend connId (.binary frame)

def sendError (hub : HubState) (connId : ConnId) (message : String) : Handler Unit :=
  sendFrameTo hub connId (.error ⟨message⟩)

def notifyModerators (hub : HubState) (message : String) : Handler Unit := do
  let targets ← critical .read fun room => (room.map moderatorTargets).getD []
  Process.each targets fun connId => sendFrameTo hub connId (.error ⟨message⟩)

/-- `try_send` to every sender; the result counts the sends that were dropped. -/
def fanoutTo (message : Message) : List ConnId → Nat → Handler Nat
  | [], dropped => pure dropped
  | target :: rest, dropped => do
      let sent ← trySend target message
      fanoutTo message rest (if sent then dropped else dropped + 1)

def broadcastFrame (hub : HubState) (frame : KaigiFrame) : Handler Unit := do
  encodeOrFail hub frame
  match ← critical (.fanout frame) fun room => room.map fun room => room.participants.keys with
  | none => return
  | some senders =>
    let dropped ← fanoutTo (.binary frame) senders 0
    if dropped > 0 then
      let now ← nowMs
      match ← critical (.backpressure dropped now) fun room =>
          room.bind fun room => (backpressureSection room dropped now).2 with
      | none => return
      | some notice => notifyModerators hub notice

def broadcastPermissionsSnapshots (hub : HubState) : Handler Unit := do
  let atMs ← nowMs
  let snapshots ← critical .read fun room =>
    match room with
    | none => []
    | some room => if room.anonymousMode then [] else permissionsSnapshots room atMs
  Process.each snapshots fun (connId, snapshot) =>
    sendFrameTo hub connId (.permissionsSnapshot snapshot)

def broadcastRoomConfig (hub : HubState) : Handler Unit := do
  let updatedAtMs ← nowMs
  let cfg ← critical .read fun room => roomConfigFrame hub room updatedAtMs
  broadcastFrame hub (.roomConfig cfg)

/-- Report the refusal of a check, or go on when it passed. -/
def afterCheck (hub : HubState) (connId : ConnId) (outcome : CheckOutcome)
    (next : Handler Unit) : Handler Unit :=
  match outcome with
  | .ignored => .done ()
  | .refused message => sendError hub connId message
  | .passed => next

/-- A check-only critical section; a missing room ends the handler silently. -/
def checked (hub : HubState) (connId : ConnId) (check : RoomState → CheckOutcome)
    (next : Handler Unit) : Handler Unit := do
  let outcome ← critical .read fun room => (room.map check).getD .ignored
  afterCheck hub connId outcome next

/-- The gate of the transparent handlers: in an anonymous room they answer with
`refusal` and stop. -/
def unlessAnonymous (hub : HubState) (connId : ConnId) (refusal : String)
    (next : Handler Unit) : Handler Unit := do
  if ← critical .read fun room => room.any (·.anonymousMode) then sendError hub connId refusal
  else next

/-- `validate_plaintext_e2ee_gate` and the report of its refusal. -/
def behindE2eeGate (hub : HubState) (connId : ConnId) (next : Handler Unit) : Handler Unit := do
  match ← critical .read fun room => room.bind fun room => plaintextE2eeGate room connId with
  | some message => sendError hub connId message
  | none => next

def handleAnonHello (hub : HubState) (connId : ConnId) (hello : AnonHelloFrame) :
    Handler Unit := do
  if hello.protocolVersion ≠ protocolVersion then
    sendError hub connId s!"unsupported protocol_version {hello.protocolVersion}"
  else if !isValidHexLen hello.x25519PubkeyHex 32 then
    sendError hub connId "x25519_pubkey_hex must be 32-byte hex"
  else
    let now ← nowMs
    let rosterAtMs ← nowMs
    match ← critical (.anonHello hello now rosterAtMs) fun room =>
        (room.map fun room =>
          (anonHelloSection hub room connId hello now rosterAtMs).2).getD .ignored with
    | .ignored => return
    | .rejected message => sendError hub connId message
    | .accepted roster update rotate =>
      sendFrameTo hub connId (.anonRoster roster)
      broadcastFrame hub (.groupKeyUpdate update)
      broadcastFrame hub (.anonGroupKeyRotate rotate)

/-- The end of the anonymous relays. -/
def afterRelay (hub : HubState) (connId : ConnId) (outcome : RelayOutcome) (frame : KaigiFrame) :
    Handler Unit :=
  match outcome with
  | .nothing => .done ()
  | .refused message => sendError hub connId message
  | .relay => broadcastFrame hub frame

def handleGroupKeyUpdate (hub : HubState) (connId : ConnId) (update : GroupKeyUpdateFrame) :
    Handler Unit := do
  let outcome ← critical (.groupKeyUpdate update) fun room =>
    (room.map fun room => (groupKeyUpdateSection room connId update).2).getD .nothing
  afterRelay hub connId outcome (.groupKeyUpdate update)

def handleEncryptedControl (hub : HubState) (connId : ConnId) (enc : EncryptedControlFrame) :
    Handler Unit := do
  let outcome ← critical .read fun room =>
    (room.map fun room => encryptedControlOutcome room connId enc).getD .nothing
  afterRelay hub connId outcome (.encryptedControl enc)

def handleAnonEncryptedPayload (hub : HubState) (connId : ConnId)
    (enc : AnonEncryptedPayloadFrame) : Handler Unit := do
  let outcome ← critical .read fun room =>
    (room.map fun room => anonEncryptedPayloadOutcome room connId enc).getD .nothing
  afterRelay hub connId outcome (.anonEncryptedPayload enc)

def handleEscrowProof (hub : HubState) (connId : ConnId) (proof : EscrowProofFrame) :
    Handler Unit := do
  let now ← nowMs
  match ← critical (.escrowProof proof now) fun room =>
      room.bind fun room => (escrowProofSection room connId proof now).2 with
  | none => return
  | some reason =>
    let receivedAtMs ← nowMs
    sendFrameTo hub connId (.escrowAck {
      receivedAtMs := receivedAtMs
      escrowId := proof.escrowId
      accepted := reason.isNone
      reason := reason })

/-- The frames a joining participant and its room receive. -/
def announceJoin (hub : HubState) (connId : ConnId) (snapshot : ParticipantSnapshot)
    (presenceDelta : ParticipantPresenceDeltaFrame) : Handler Unit := do
  let rosterAtMs ← nowMs
  let roster ← critical .read fun room =>
    (room.map fun room => rosterFrame room rosterAtMs).getD ⟨rosterAtMs, []⟩
  sendFrameTo hub connId (.roster roster)
  broadcastFrame hub (.event (.joined snapshot))
  broadcastFrame hub (.participantPresenceDelta presenceDelta)
  broadcastRoomConfig hub
  let policy ← critical .read sessionPolicyFrame
  sendFrameTo hub connId (.sessionPolicy policy)
  broadcastPermissionsSnapshots hub

def handleHello (hub : HubState) (connId : ConnId) (frame : HelloFrame) : Handler Unit := do
  if frame.protocolVersion ≠ protocolVersion then
    sendError hub connId s!"unsupported protocol_version {frame.protocolVersion}"
  else
    let (hello, forcedOff) := enforceJoinMediaDefaults frame
    let snapshotAtMs ← nowMs
    let deltaAtMs ← nowMs
    match ← critical (.hello hello snapshotAtMs deltaAtMs) fun room =>
        room.map fun room => (helloSection room connId hello snapshotAtMs deltaAtMs).2 with
    | none => Process.fail .roomMissing
    | some .participantMissing => Process.fail .participantMissing
    | some .modeConflict => sendError hub connId "room is already in anonymous mode"
    | some (.denied reason) => sendError hub connId reason
    | some (.waiting notice) =>
      notifyModerators hub notice
      sendError hub connId notice
    | some (.joined snapshot presenceDelta) =>
      if forcedOff then
        sendError hub connId "mic/video/screen share must start disabled; forced off"
      announceJoin hub connId snapshot presenceDelta

def handleChat (hub : HubState) (connId : ConnId) (chat : ChatFrame) : Handler Unit :=
  unlessAnonymous hub connId "anonymous mode requires EncryptedControl frames" do
    if !(← critical .read fun room => room.any (·.helloSeen connId)) then
      sendError hub connId "send Hello first"
    else
      behindE2eeGate hub connId do
        let atMs ← nowMs
        let (fromId, fromName) ← critical .read fun room =>
          ((room.bind fun room => room.participants.get? connId).map fun participant =>
            (participant.participantId, participant.displayName)).getD ("unknown", none)
        broadcastFrame hub (.chat {
          sentAtMs := atMs
          fromParticipantId := fromId
          fromDisplayName := fromName
          text := chat.text })

def handleParticipantState (hub : HubState) (connId : ConnId) (update : ParticipantStateFrame) :
    Handler Unit :=
  unlessAnonymous hub connId "anonymous mode requires EncryptedControl frames" do
    let atMs ← nowMs
    match ← critical (.participantState update atMs) fun room =>
        (room.map fun room => (participantStateSection room connId update atMs).2).getD
          .ignored with
    | .ignored => return
    | .refused message => sendError hub connId message
    | .updated snapshot denyShareMax =>
      match denyShareMax with
      | some maxScreenShares =>
        sendError hub connId
          s!"screen share denied: max_screen_shares={maxScreenShares} already in use"
      | none => pure ()
      broadcastFrame hub (.event (.stateUpdated snapshot))

def handleMediaCapability (hub : HubState) (connId : ConnId) (cap : MediaCapabilityFrame) :
    Handler Unit :=
  unlessAnonymous hub connId "anonymous mode rejects plaintext media capabilities" <|
    checked hub connId (mediaCapabilityCheck · connId cap) <|
      broadcastFrame hub (.mediaCapability cap)

def handleMediaTrackState (hub : HubState) (connId : ConnId) (track : MediaTrackStateFrame) :
    Handler Unit :=
  unlessAnonymous hub connId "anonymous mode rejects plaintext media track states" <|
    behindE2eeGate hub connId do
      let atMs ← nowMs
      match ← critical (.mediaTrackState track atMs) fun room =>
          (room.map fun room => (mediaTrackStateSection room connId track atMs).2).getD
            .ignored with
      | .ignored => return
      | .refused message => sendError hub connId message
      | .updated snapshot _ =>
        broadcastFrame hub (.mediaTrackState track)
        broadcastFrame hub (.event (.stateUpdated snapshot))

def handleVideoSegment (hub : HubState) (connId : ConnId) (segment : VideoSegmentFrame) :
    Handler Unit :=
  unlessAnonymous hub connId "anonymous mode requires encrypted media payloads" <|
    behindE2eeGate hub connId <|
      checked hub connId (videoSegmentCheck · connId segment) <|
        broadcastFrame hub (.videoSegment segment)

def handleAudioPacket (hub : HubState) (connId : ConnId) (packet : AudioPacketFrame) :
    Handler Unit :=
  unlessAnonymous hub connId "anonymous mode requires encrypted media payloads" <|
    behindE2eeGate hub connId <|
      checked hub connId (audioPacketCheck · connId packet) <|
        broadcastFrame hub (.audioPacket packet)

def handleRoomConfigUpdate (hub : HubState) (connId : ConnId) (update : RoomConfigUpdateFrame) :
    Handler Unit :=
  unlessAnonymous hub connId "anonymous mode rejects plaintext room config updates" do
    let now ← nowMs
    match ← critical (.roomConfigUpdate update now) fun room =>
        (room.map fun room => (roomConfigUpdateSection hub room connId update now).2).getD
          .ignored with
    | .ignored => return
    | .refused message => sendError hub connId message
    | .applied changed rejectedZeroRate =>
      if rejectedZeroRate then
        sendError hub connId ("rate_per_minute_nano=0 rejected: paid calls are required " ++
          "unless hub started with --allow-free-calls")
      if changed then broadcastRoomConfig hub

/-- The end of `RoleGrant` and `RoleRevoke`: rebroadcast the frame, then report
what changed. -/
def announceRoleChange (hub : HubState) (frame : KaigiFrame) (outcome : RoleMutationOutcome)
    (presenceDelta : Option ParticipantPresenceDeltaFrame) : Handler Unit := do
  broadcastFrame hub frame
  if outcome.hostChanged then broadcastRoomConfig hub
  if outcome.permissionsChanged then broadcastPermissionsSnapshots hub
  match presenceDelta with
  | some delta => broadcastFrame hub (.participantPresenceDelta delta)
  | none => return

def handleRoleGrant (hub : HubState) (connId : ConnId) (grant : RoleGrantFrame) :
    Handler Unit :=
  unlessAnonymous hub connId "anonymous mode rejects plaintext role grants" do
    let deltaAtMs ← nowMs
    match ← critical (.roleGrant grant deltaAtMs) fun room =>
        room.map fun room => (roleGrantSection hub room connId grant deltaAtMs).2 with
    | none => return
    | some (.error message) => sendError hub connId message
    | some (.ok (outcome, presenceDelta)) =>
      announceRoleChange hub (.roleGrant grant) outcome presenceDelta

def handleRoleRevoke (hub : HubState) (connId : ConnId) (revoke : RoleRevokeFrame) :
    Handler Unit :=
  unlessAnonymous hub connId "anonymous mode rejects plaintext role revokes" do
    let deltaAtMs ← nowMs
    match ← critical (.roleRevoke revoke deltaAtMs) fun room =>
        room.map fun room => (roleRevokeSection hub room connId revoke deltaAtMs).2 with
    | none => return
    | some (.error message) => sendError hub connId message
    | some (.ok (outcome, presenceDelta)) =>
      announceRoleChange hub (.roleRevoke revoke) outcome presenceDelta

def handleSessionPolicy (hub : HubState) (connId : ConnId) (update : SessionPolicyFrame) :
    Handler Unit :=
  unlessAnonymous hub connId "anonymous mode rejects plaintext policy updates" do
    match ← critical (.sessionPolicy update) fun room =>
        room.map fun room => (applySessionPolicyUpdate hub room connId update).2 with
    | none => return
    | some (.error message) => sendError hub connId message
    | some (.ok ()) =>
      let currentPolicy ← critical .read sessionPolicyFrame
      broadcastFrame hub (.sessionPolicy currentPolicy)
      broadcastPermissionsSnapshots hub

/-- The check and the insertion are two critical sections. -/
def handleDeviceCapability (hub : HubState) (connId : ConnId) (cap : DeviceCapabilityFrame) :
    Handler Unit :=
  unlessAnonymous hub connId "anonymous mode rejects plaintext device capabilities" <|
    checked hub connId (deviceCapabilityCheck · connId cap) do
      critical (.deviceCapability cap) fun _ => ()
      broadcastFrame hub (.deviceCapability cap)

def handleMediaProfileNegotiation (hub : HubState) (connId : ConnId)
    (profile : MediaProfileNegotiationFrame) : Handler Unit :=
  unlessAnonymous hub connId "anonymous mode rejects plaintext media profile negotiation" <|
    checked hub connId (mediaProfileCheck · connId profile) do
      let resolvedProfile ← critical .read fun room =>
        (room.map fun room => resolveMediaProfileNegotiation room connId profile).getD profile
      broadcastFrame hub (.mediaProfileNegotiation resolvedProfile)

def handleRecordingNotice (hub : HubState) (connId : ConnId) (notice : RecordingNoticeFrame) :
    Handler Unit :=
  unlessAnonymous hub connId "anonymous mode rejects plaintext recording notices" <|
    checked hub connId (recordingNoticeCheck · connId notice) <|
      broadcastFrame hub (.recordingNotice notice)

def handleE2eeKeyEpoch (hub : HubState) (connId : ConnId) (keyEpoch : E2EEKeyEpochFrame) :
    Handler Unit :=
  unlessAnonymous hub connId "anonymous mode rejects plaintext e2ee key epochs" do
    let outcome ← critical (.e2eeKeyEpoch keyEpoch) fun room =>
      (room.map fun room => (e2eeKeyEpochSection hub room connId keyEpoch).2).getD .ignored
    afterCheck hub connId outcome (broadcastFrame hub (.e2eeKeyEpoch keyEpoch))

def handleKeyRotationAck (hub : HubState) (connId : ConnId) (ack : KeyRotationAckFrame) :
    Handler Unit :=
  unlessAnonymous hub connId "anonymous mode rejects plaintext key rotation acks" do
    let outcome ← critical (.keyRotationAck ack) fun room =>
      (room.map fun room => (keyRotationAckSection room connId ack).2).getD .ignored
    afterCheck hub connId outcome (broadcastFrame hub (.keyRotationAck ack))

/-- The private frames an admitted participant receives. -/
def sendAdmissionFrames (hub : HubState) (outcome : WaitingRoomAdmitOutcome) : Handler Unit := do
  let rosterAtMs ← nowMs
  let roster ← critical .read fun room =>
    (room.map fun room => rosterFrame room rosterAtMs).getD ⟨rosterAtMs, []⟩
  sendFrameTo hub outcome.connId (.roster roster)
  let configAtMs ← nowMs
  let cfg ← critical .read fun room => roomConfigFrame hub room configAtMs
  sendFrameTo hub outcome.connId (.roomConfig cfg)
  let policy ← critical .read sessionPolicyFrame
  sendFrameTo hub outcome.connId (.sessionPolicy policy)

/-- An error frame that the caller does not insist on, then a close message. -/
def sendClosing (target : ConnId) (notice : Option KaigiFrame) : Handler Unit := do
  match notice with
  | some frame => let _ ← trySend target (.binary frame)
  | none => pure ()
  let _ ← trySend target .close

/-- `encode_framed(frame).ok()`, as the frame it would carry. -/
def encodable (hub : HubState) (frame : KaigiFrame) : Option KaigiFrame :=
  match encodeFramed hub.norito frame with
  | .error _ => none
  | .ok _ => some frame

def announceModeration (hub : HubState) (moderation : ModerationFrame) (auditFrame : KaigiFrame)
    (outcome : ModerationOutcome) : Handler Unit := do
  broadcastFrame hub auditFrame
  Process.each outcome.snapshots fun snapshot =>
    broadcastFrame hub (.event (.stateUpdated snapshot))
  Process.each outcome.admittedOutcomes fun admitted =>
    broadcastFrame hub (.event (.joined admitted.snapshot))
  Process.each outcome.admittedOutcomes fun admitted =>
    broadcastFrame hub (.participantPresenceDelta admitted.presenceDelta)
  Process.each outcome.admittedOutcomes (sendAdmissionFrames hub)
  if moderation.action = .admitFromWaiting then broadcastPermissionsSnapshots hub
  if moderation.action = .kick then
    let reason := match moderation.target with
      | .all => "meeting ended by host"
      | .participant participantId => s!"removed by host: {participantId}"
    match encodable hub (.error ⟨reason⟩) with
    | none => return
    | some frame => Process.each outcome.closeSenders fun target => sendClosing target (some frame)
  if moderation.action = .denyFromWaiting then
    Process.each outcome.deniedParticipants fun (target, deniedId) =>
      sendClosing target
        (encodable hub (.error ⟨s!"waiting room admission denied: {deniedId}"⟩))

def processModerationFrame (hub : HubState) (connId : ConnId) (moderation : ModerationFrame)
    (auditFrame : KaigiFrame) : Handler Unit :=
  unlessAnonymous hub connId "anonymous mode requires encrypted moderation payloads" do
    let now ← nowMs
    let admitAtMs ← nowMs
    match ← critical (.moderation moderation now admitAtMs) fun room =>
        room.bind fun room => (moderationSection room connId moderation now admitAtMs).2 with
    | none => return
    | some (.error message) => sendError hub connId message
    | some (.ok outcome) =>
      match outcome.moderationError with
      | some message => sendError hub connId message
      | none => announceModeration hub moderation auditFrame outcome

def handleModeration (hub : HubState) (connId : ConnId) (moderation : ModerationFrame) :
    Handler Unit :=
  processModerationFrame hub connId moderation (.moderation moderation)

def handleModerationSigned (hub : HubState) (connId : ConnId) (signed : ModerationSignedFrame) :
    Handler Unit :=
  unlessAnonymous hub connId "anonymous mode requires encrypted moderation payloads" <|
    checked hub connId (moderationSignedCheck hub · connId signed) <|
      processModerationFrame hub connId
        { sentAtMs := signed.sentAtMs, target := signed.target, action := signed.action }
        (.moderationSigned signed)

def handlePayment (hub : HubState) (connId : ConnId) (payment : PaymentFrame) : Handler Unit :=
  unlessAnonymous hub connId "anonymous mode uses escrow proofs instead of payment frames" do
    let now ← nowMs
    match ← critical (.payment payment now) fun room =>
        (room.map fun room => (paymentSection hub room connId payment now).2).getD .ignored with
    | .ignored => return
    | .requireHello => sendError hub connId "send Hello first"
    | .invalidPaymentHash =>
      sendError hub connId ("payment tx_hash_hex is required and must be 32-byte hex " ++
        "when room rate is non-zero")
    | .accepted paidNanoXor billedNanoXor =>
      sendFrameTo hub connId (.paymentAck {
        receivedAtMs := now
        amountNanoXor := payment.amountNanoXor
        totalPaidNanoXor := paidNanoXor
        totalBilledNanoXor := billedNanoXor })

def handleFrame (hub : HubState) (connId : ConnId) : KaigiFrame → Handler Unit
  | .anonHello hello => handleAnonHello hub connId hello
  | .groupKeyUpdate update => handleGroupKeyUpdate hub connId update
  | .encryptedControl enc => handleEncryptedControl hub connId enc
  | .escrowProof proof => handleEscrowProof hub connId proof
  | .hello hello => handleHello hub connId hello
  | .chat chat => handleChat hub connId chat
  | .participantState update => handleParticipantState hub connId update
  | .mediaCapability cap => handleMediaCapability hub connId cap
  | .mediaTrackState track => handleMediaTrackState hub connId track
  | .videoSegment segment => handleVideoSegment hub connId segment
  | .audioPacket packet => handleAudioPacket hub connId packet
  | .anonGroupKeyRotate _ =>
      sendError hub connId "anonymous group-key rotation frames are hub-managed"
  | .anonEncryptedPayload enc => handleAnonEncryptedPayload hub connId enc
  | .roomConfigUpdate update => handleRoomConfigUpdate hub connId update
  | .roleGrant grant => handleRoleGrant hub connId grant
  | .roleRevoke revoke => handleRoleRevoke hub connId revoke
  | .sessionPolicy update => handleSessionPolicy hub connId update
  | .permissionsSnapshot _ => sendError hub connId "permissions snapshots are hub-managed"
  | .deviceCapability cap => handleDeviceCapability hub connId cap
  | .mediaProfileNegotiation profile => handleMediaProfileNegotiation hub connId profile
  | .recordingNotice notice => handleRecordingNotice hub connId notice
  | .e2eeKeyEpoch keyEpoch => handleE2eeKeyEpoch hub connId keyEpoch
  | .keyRotationAck ack => handleKeyRotationAck hub connId ack
  | .moderation moderation => handleModeration hub connId moderation
  | .moderationSigned signed => handleModerationSigned hub connId signed
  | .participantPresenceDelta _ => sendError hub connId "presence deltas are hub-managed"
  | .payment payment => handlePayment hub connId payment
  | .ping ping => sendFrameTo hub connId (.pong ⟨ping.nonce⟩)
  | .escrowAck _ | .anonRoster _ | .roomConfig _ | .paymentAck _ | .pong _ | .roster _ | .event _
  | .error _ => .done ()

/-- The end of `handle_disconnect` in an anonymous room. -/
def announceAnonymousLeave (hub : HubState) (leftParticipantHandle : Option String) :
    Handler Unit := do
  let rosterAtMs ← nowMs
  let roster ← critical .read fun room =>
    (room.map fun room => anonRosterFrameLocked room rosterAtMs).getD ⟨rosterAtMs, []⟩
  broadcastFrame hub (.anonRoster roster)
  match leftParticipantHandle with
  | some handle =>
    let sentAtMs ← nowMs
    broadcastFrame hub (.groupKeyUpdate {
      sentAtMs := sentAtMs
      participantHandle := handle
      x25519PubkeyHex := ""
      epoch := 0 })
  | none => pure ()
  let now ← nowMs
  match ← critical (.groupKeyRotate now) fun room =>
      room.map fun room => (buildAnonGroupKeyRotateFrame hub room now).2 with
  | none => return
  | some rotate => broadcastFrame hub (.anonGroupKeyRotate rotate)

def handleDisconnect (hub : HubState) (connId : ConnId) : Handler Unit := do
  let deltaAtMs ← nowMs
  let leftAtMs ← nowMs
  match ← critical (.disconnect deltaAtMs leftAtMs) fun room =>
      room.map fun room => (disconnectSection room connId deltaAtMs leftAtMs).2 with
  | none => return
  | some outcome =>
    if outcome.removeRoom then return
    else if outcome.anonymousMode then announceAnonymousLeave hub outcome.leftParticipantHandle
    else
      match outcome.leftParticipantId with
      | some participantId =>
        let atMs ← nowMs
        broadcastFrame hub (.event (.left { atMs := atMs, participantId := participantId }))
        match outcome.presenceDelta with
        | some delta => broadcastFrame hub (.participantPresenceDelta delta)
        | none => pure ()
      | none => pure ()
      if outcome.hostChanged then
        broadcastRoomConfig hub
        broadcastPermissionsSnapshots hub

/-- One turn of the loop of `enforce_billing`; the result says whether the task
goes on. -/
def enforceBilling (hub : HubState) (connId : ConnId) : Handler Bool := do
  let now ← nowMs
  match ← critical (.billing now) fun room =>
      (room.map fun room => (billingSection hub room connId now).2).getD .ended with
  | .ended => return false
  | .goOn => return true
  | .disconnect message =>
    sendClosing connId (encodable hub (.error ⟨message⟩))
    return false

/-! ### Parts of the handlers -/

/-- What the lookup of a sender comes to. -/
def lookedUp (target : ConnId) : Option RoomState → Handler Unit
  | none => .fail .roomMissing
  | some room =>
      if room.participants.containsKey target then .done () else .fail .participantMissing

/-- The end of a fan-out: the drops are recorded and the moderators may be told. -/
def afterFanout (hub : HubState) (dropped : Nat) : Handler Unit :=
  if dropped > 0 then do
    let now ← nowMs
    match ← critical (.backpressure dropped now) fun room =>
        room.bind fun room => (backpressureSection room dropped now).2 with
    | none => return
    | some notice => notifyModerators hub notice
  else pure ()

/-- A fan-out to the connections that the room had. -/
def fanoutFound (hub : HubState) (frame : KaigiFrame) : Option (List ConnId) → Handler Unit
  | none => .done ()
  | some senders => do
      let dropped ← fanoutTo (.binary frame) senders 0
      afterFanout hub dropped

/-- The end of an anonymous leave. -/
def rotateGroupKey (hub : HubState) : Handler Unit := do
  let now ← nowMs
  match ← critical (.groupKeyRotate now) fun room =>
      room.map fun room => (buildAnonGroupKeyRotateFrame hub room now).2 with
  | none => return
  | some rotate => broadcastFrame hub (.anonGroupKeyRotate rotate)

end Kaigi.Hub
