import Kaigi.Hub.AnonymousMode

/-!
# Critical sections of the transparent handlers

Each function is the body of one acquisition of the rooms lock, for a room that
is there: the room after it and what the handler learns from it.
-/

set_option autoImplicit false

namespace Kaigi.Hub

open Collections Wire

/-- What a check-only section tells its handler: the sender or the room is gone,
the frame is refused, or it passed. -/
inductive CheckOutcome where
  | ignored
  | refused (message : String)
  | passed

def senderIdMismatch : String := "participant_id must match sender participant_id"

def e2eeGateMessage : String :=
  "e2ee required: publish E2EEKeyEpoch before plaintext control"

def publishedEpoch (room : RoomState) (connId : ConnId) : Nat :=
  (room.e2eeEpochs.get? connId).getD 0

/-- `validate_plaintext_e2ee_gate`, for a room that is there. -/
def plaintextE2eeGate (room : RoomState) (connId : ConnId) : Option String :=
  match room.participants.get? connId with
  | none => none
  | some sender =>
      if !sender.helloSeen || room.anonymousMode || !room.e2eeRequired then none
      else if publishedEpoch room connId = 0 then some e2eeGateMessage
      else none

/-- The common checks of a frame that names its own sender: joined, and sent
under its own participant id. `further` are the checks after these two. -/
def checkSender (room : RoomState) (connId : ConnId) (participantId : String)
    (further : Option String) : CheckOutcome :=
  match room.participants.get? connId with
  | none => .ignored
  | some sender =>
      if !sender.helloSeen then .refused "send Hello first"
      else if sender.participantId ≠ participantId then .refused senderIdMismatch
      else match further with
        | some message => .refused message
        | none => .passed

/-- The same checks after a shape check made before the lock: its error wins,
but a missing room or sender still ends the handler silently. -/
def checkSenderAfter (shapeError : Option String) (outcome : CheckOutcome) : CheckOutcome :=
  match outcome, shapeError with
  | .ignored, _ => .ignored
  | _, some message => .refused message
  | outcome, none => outcome

def mediaCapabilityCheck (room : RoomState) (connId : ConnId) (cap : MediaCapabilityFrame) :
    CheckOutcome :=
  checkSender room connId cap.participantId <|
    if cap.maxVideoWidth = 0 ∨ cap.maxVideoHeight = 0 ∨ cap.maxVideoFps = 0 then
      some "media capability dimensions/fps must be > 0"
    else if cap.audioSampleRate = 0 ∨ cap.audioChannels = 0 then
      some "audio sample rate/channels must be > 0"
    else none

def videoSegmentCheck (room : RoomState) (connId : ConnId) (segment : VideoSegmentFrame) :
    CheckOutcome :=
  checkSender room connId segment.participantId <|
    if segment.frameWidth = 0 ∨ segment.frameHeight = 0 ∨ segment.frameDurationNs = 0 then
      some "video segment frame_width/frame_height/frame_duration_ns must be > 0"
    else if segment.payload.isEmpty then some "video segment payload must not be empty"
    else none

def audioPacketCheck (room : RoomState) (connId : ConnId) (packet : AudioPacketFrame) :
    CheckOutcome :=
  checkSender room connId packet.participantId <|
    if packet.sampleRate = 0 ∨ packet.channels = 0 ∨ packet.frameSamples = 0 then
      some "audio packet sample_rate/channels/frame_samples must be > 0"
    else if packet.payload.isEmpty then some "audio packet payload must not be empty"
    else none

def deviceCapabilityCheck (room : RoomState) (connId : ConnId) (cap : DeviceCapabilityFrame) :
    CheckOutcome :=
  checkSenderAfter (validateDeviceCapabilityFrame cap) <|
    checkSender room connId cap.participantId none

def mediaProfileCheck (room : RoomState) (connId : ConnId)
    (profile : MediaProfileNegotiationFrame) : CheckOutcome :=
  checkSenderAfter (validateMediaProfileNegotiationFrame profile) <|
    checkSender room connId profile.participantId none

def recordingNoticeCheck (room : RoomState) (connId : ConnId) (notice : RecordingNoticeFrame) :
    CheckOutcome :=
  checkSenderAfter (validateRecordingNoticeFrame notice) <|
    checkSender room connId notice.participantId <|
      if (room.participants.get? connId).any (·.participantId != notice.issuedBy) then
        some "issued_by must match sender participant_id"
      else if notice.state = .started ∧ room.localRecordingAllowed = false then
        some "local recording is disabled by room policy"
      else none

def moderationSignedCheck (hub : HubState) (room : RoomState) (connId : ConnId)
    (signed : ModerationSignedFrame) : CheckOutcome :=
  match room.participants.get? connId with
  | none => .ignored
  | some sender =>
      if !sender.helloSeen then .refused "send Hello first"
      else if !canModerateConn room connId then .refused "host/co-host only"
      else if sender.participantId ≠ signed.issuedBy then
        .refused "issued_by must match sender participant_id"
      else if !isValidHexLen signed.signatureHex 32 then
        .refused "signature_hex must be 32-byte hex"
      else if !moderationSignedSignatureIsValid hub signed then
        .refused "signature_hex failed moderation_signed verification"
      else .passed

inductive StateOutcome where
  | ignored
  | refused (message : String)
  | updated (snapshot : ParticipantSnapshot) (denyShareMax : Option Nat)

/-- Other participants whose screen share is on. -/
def activeScreenShares (room : RoomState) (connId : ConnId) : Nat :=
  (room.participants.iter.filter fun (id, participant) =>
    id != connId && participant.screenShareEnabled).length

/-- The critical section of `ParticipantState`. -/
def participantStateSection (room : RoomState) (connId : ConnId) (update : ParticipantStateFrame)
    (atMs : Nat) : RoomState × StateOutcome :=
  match room.participants.get? connId with
  | none => (room, .ignored)
  | some existing =>
    if !existing.helloSeen then (room, .refused "send Hello first")
    else if room.e2eeRequired && publishedEpoch room connId == 0 then
      (room, .refused e2eeGateMessage)
    else
      let maxScreenShares := max room.maxScreenShares 1
      let denied := update.screenShareEnabled = some true ∧
        existing.screenShareEnabled = false ∧
          activeScreenShares room connId ≥ maxScreenShares
      let applyScreenShare := if denied then none else update.screenShareEnabled
      let updated := { existing with
        micEnabled := update.micEnabled.getD existing.micEnabled
        videoEnabled := update.videoEnabled.getD existing.videoEnabled
        screenShareEnabled := applyScreenShare.getD existing.screenShareEnabled }
      (room.updateParticipant connId fun _ => updated,
        .updated (participantSnapshotFromState updated atMs)
          (if denied then some maxScreenShares else none))

/-- The critical section of `MediaTrackState`. -/
def mediaTrackStateSection (room : RoomState) (connId : ConnId) (track : MediaTrackStateFrame)
    (atMs : Nat) : RoomState × StateOutcome :=
  match room.participants.get? connId with
  | none => (room, .ignored)
  | some sender =>
    if !sender.helloSeen then (room, .refused "send Hello first")
    else if sender.participantId ≠ track.participantId then (room, .refused senderIdMismatch)
    else
      let updated := match track.activeVideoTrack with
        | .camera => { sender with
            micEnabled := track.micEnabled
            videoEnabled := track.cameraEnabled
            screenShareEnabled := false }
        | .screenShare => { sender with
            micEnabled := track.micEnabled
            videoEnabled := false
            screenShareEnabled := track.screenShareEnabled }
      (room.updateParticipant connId fun _ => updated,
        .updated (participantSnapshotFromState updated atMs) none)

/-- The critical section of `E2EEKeyEpoch`. -/
def e2eeKeyEpochSection (hub : HubState) (room : RoomState) (connId : ConnId)
    (keyEpoch : E2EEKeyEpochFrame) : RoomState × CheckOutcome :=
  let currentEpoch := publishedEpoch room connId
  match checkSenderAfter (validateE2eeKeyEpochFrame hub keyEpoch) <|
      checkSender room connId keyEpoch.participantId <|
        if keyEpoch.epoch ≤ currentEpoch then
          some s!"e2ee key epoch must increase: current={currentEpoch} got={keyEpoch.epoch}"
        else none with
  | .ignored => (room, .ignored)
  | .refused message => (room, .refused message)
  | .passed =>
    match enforceSignedActionClock room "e2ee_key_epoch" keyEpoch.participantId "sent_at_ms"
        keyEpoch.sentAtMs with
    | .error message => (room, .refused message)
    | .ok room =>
      ({ room with e2eeEpochs := room.e2eeEpochs.put connId keyEpoch.epoch }, .passed)

/-- The critical section of `KeyRotationAck`. -/
def keyRotationAckSection (room : RoomState) (connId : ConnId) (ack : KeyRotationAckFrame) :
    RoomState × CheckOutcome :=
  let currentEpoch := publishedEpoch room connId
  let lastAckedEpoch := (room.keyRotationAckEpochs.get? connId).getD 0
  match checkSender room connId ack.participantId <|
      if ack.ackEpoch = 0 then some "ack_epoch must be >= 1"
      else if currentEpoch = 0 ∨ ack.ackEpoch > currentEpoch then
        some (s!"ack_epoch exceeds sender key epoch: sender_epoch={currentEpoch} " ++
          s!"ack_epoch={ack.ackEpoch}")
      else if ack.ackEpoch ≤ lastAckedEpoch then
        some (s!"ack_epoch must increase: last={lastAckedEpoch} got={ack.ackEpoch} " ++
          "(stale/replay rejected)")
      else none with
  | .ignored => (room, .ignored)
  | .refused message => (room, .refused message)
  | .passed =>
    match enforceSignedActionClock room "key_rotation_ack" ack.participantId "received_at_ms"
        ack.receivedAtMs with
    | .error message => (room, .refused message)
    | .ok room =>
      ({ room with
          keyRotationAckEpochs := room.keyRotationAckEpochs.put connId ack.ackEpoch }, .passed)

def resolveMediaProfileNegotiation (room : RoomState) (senderConnId : ConnId)
    (profile : MediaProfileNegotiationFrame) : MediaProfileNegotiationFrame :=
  if profile.negotiatedProfile ≠ .hdr then profile
  else
    let senderHdrCapture := (room.deviceCapsByConn.get? senderConnId).any (·.hdrCapture)
    let anyRemoteHdrRender := room.participants.iter.any fun (connId, participant) =>
      connId != senderConnId && participant.helloSeen &&
        (room.deviceCapsByConn.get? connId).any (·.hdrRender)
    if !senderHdrCapture || !anyRemoteHdrRender then { profile with negotiatedProfile := .sdr }
    else profile

def includeSenderInAllTarget (action : ModerationAction) : Bool :=
  action == .kick

/-- What the target loop of `process_moderation_frame` collects. -/
structure ModerationOutcome where
  snapshots : List ParticipantSnapshot
  closeSenders : List ConnId
  admittedOutcomes : List WaitingRoomAdmitOutcome
  deniedParticipants : List (ConnId × String)
  moderationError : Option String

def ModerationOutcome.empty : ModerationOutcome := ⟨[], [], [], [], none⟩

/-- Switch off one medium of the target and report its new state. -/
def disableMedium (room : RoomState) (targetConnId : ConnId) (nowMs : Nat)
    (off : ParticipantState → ParticipantState) (outcome : ModerationOutcome) :
    RoomState × ModerationOutcome :=
  match room.participants.get? targetConnId with
  | none => (room, outcome)
  | some target =>
      (room.updateParticipant targetConnId fun _ => off target,
        { outcome with
          snapshots := outcome.snapshots ++ [participantSnapshotFromState (off target) nowMs] })

/-- One turn of the target loop. -/
def moderateTarget (action : ModerationAction) (nowMs admitAtMs : Nat)
    (state : RoomState × ModerationOutcome) (targetConnId : ConnId) :
    RoomState × ModerationOutcome :=
  let (room, outcome) := state
  match action with
  | .kick => (room, { outcome with closeSenders := outcome.closeSenders ++ [targetConnId] })
  | .disableMic =>
      disableMedium room targetConnId nowMs ({ · with micEnabled := false }) outcome
  | .disableVideo =>
      disableMedium room targetConnId nowMs ({ · with videoEnabled := false }) outcome
  | .disableScreenShare =>
      disableMedium room targetConnId nowMs ({ · with screenShareEnabled := false }) outcome
  | .admitFromWaiting =>
      match admitWaitingParticipant room targetConnId admitAtMs with
      | (room, .ok admitted) =>
          (room, { outcome with admittedOutcomes := outcome.admittedOutcomes ++ [admitted] })
      | (room, .error message) =>
          (room, { outcome with moderationError := outcome.moderationError.or (some message) })
  | .denyFromWaiting =>
      match denyWaitingParticipant room targetConnId with
      | (room, .ok deniedId) =>
          (room, { outcome with
            deniedParticipants := outcome.deniedParticipants ++ [(targetConnId, deniedId)] })
      | (room, .error message) =>
          (room, { outcome with moderationError := outcome.moderationError.or (some message) })

/-- The connections a moderation is applied to: all but perhaps the sender, or
the first connection with that participant id in iteration order. -/
def moderationTargets (room : RoomState) (connId : ConnId) (moderation : ModerationFrame) :
    Except String (List ConnId) :=
  match moderation.target with
  | .all =>
      if moderation.action = .admitFromWaiting ∨ moderation.action = .denyFromWaiting then
        .error ("waiting room admit/deny requires /admit <participant_id> " ++
          "or /deny <participant_id>")
      else .ok (room.participants.keys.filter fun id =>
        id != connId || includeSenderInAllTarget moderation.action)
  | .participant targetId =>
      match room.participants.iter.find? fun (_, participant) =>
          participant.participantId == targetId with
      | some (id, _) => .ok [id]
      | none => .error s!"unknown participant_id: {targetId}"

/-- The critical section of `process_moderation_frame`. The clock of the sender
has advanced even when the target is then refused. -/
def moderationSection (room : RoomState) (connId : ConnId) (moderation : ModerationFrame)
    (nowMs admitAtMs : Nat) : RoomState × Option (Except String ModerationOutcome) :=
  match room.participants.get? connId with
  | none => (room, none)
  | some sender =>
    if !sender.helloSeen then (room, some (.error "send Hello first"))
    else if !canModerateConn room connId then (room, some (.error "host/co-host only"))
    else
      match validateModerationSenderClock room connId moderation with
      | .error message => (room, some (.error message))
      | .ok room =>
        match moderationTargets room connId moderation with
        | .error message => (room, some (.error message))
        | .ok targets =>
          let (room, outcome) :=
            targets.foldl (moderateTarget moderation.action nowMs admitAtMs) (room, .empty)
          (room, some (.ok outcome))

def rosterFrame (room : RoomState) (atMs : Nat) : RosterFrame where
  atMs := atMs
  participants :=
    ((room.participants.values.filter (·.helloSeen)).map fun participant => {
      participantId := participant.participantId
      displayName := participant.displayName
      micEnabled := participant.micEnabled
      videoEnabled := participant.videoEnabled
      screenShareEnabled := participant.screenShareEnabled : RosterEntry }).insertionSort
    fun left right => left.participantId ≤ right.participantId

def roomConfigFrame (hub : HubState) (room : Option RoomState) (updatedAtMs : Nat) :
    RoomConfigFrame :=
  match room with
  | none => {
      updatedAtMs := updatedAtMs
      hostParticipantId := none
      ratePerMinuteNano := hub.billing.defaultRatePerMinuteNano
      billingGraceSecs := hub.billing.graceSecs
      maxScreenShares := 1 }
  | some room => {
      updatedAtMs := updatedAtMs
      hostParticipantId := if room.anonymousMode then none
        else room.hostConnId.bind fun hostId =>
          (room.participants.get? hostId).map (·.participantId)
      ratePerMinuteNano := room.ratePerMinuteNano
      billingGraceSecs := hub.billing.graceSecs
      maxScreenShares := max room.maxScreenShares 1 }

def sessionPolicyFrame (room : Option RoomState) : SessionPolicyFrame :=
  match room with
  | none => {
      updatedAtMs := 0
      roomLock := false
      waitingRoomEnabled := false
      guestJoinAllowed := true
      localRecordingAllowed := true
      e2eeRequired := true
      maxParticipants := defaultMaxParticipants
      policyEpoch := 0
      updatedBy := systemPolicyUpdatedBy
      signatureHex := "" }
  | some room => {
      updatedAtMs := room.policyUpdatedAtMs
      roomLock := room.roomLock
      waitingRoomEnabled := room.waitingRoomEnabled
      guestJoinAllowed := room.guestJoinAllowed
      localRecordingAllowed := room.localRecordingAllowed
      e2eeRequired := room.e2eeRequired
      maxParticipants := room.maxParticipants
      policyEpoch := room.policyEpoch
      updatedBy := room.policyUpdatedBy
      signatureHex := room.policySignatureHex }

def backpressureNoticeMinIntervalMs : Nat := 5000

/-- The second critical section of `broadcast_frame`, when sends were dropped:
the notice for the moderators, unless one went out recently. -/
def backpressureSection (room : RoomState) (dropped nowMs : Nat) : RoomState × Option String :=
  let room := { room with
    backpressureDroppedMessages := saturatingAdd room.backpressureDroppedMessages dropped }
  if nowMs - room.backpressureLastNoticeAtMs ≥ backpressureNoticeMinIntervalMs then
    ({ room with backpressureLastNoticeAtMs := nowMs },
      some (s!"backpressure: dropped fanout to {dropped} participant(s); " ++
        s!"total_dropped={room.backpressureDroppedMessages}"))
  else (room, none)

/-- The recipients of `notify_moderators`: the host, then the co-hosts. -/
def moderatorTargets (room : RoomState) : List ConnId :=
  room.hostConnId.toList ++ room.coHostConnIds.keys

def permissionsSnapshots (room : RoomState) (atMs : Nat) :
    List (ConnId × PermissionsSnapshotFrame) :=
  room.participants.keys.filterMap fun connId =>
    (permissionsSnapshotForConn room connId atMs).map fun snapshot => (connId, snapshot)

end Kaigi.Hub
