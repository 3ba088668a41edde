import Kaigi.Client.ConferenceRobustness
import Kaigi.Client.PayLoop
import Kaigi.Metering.Gaps
import Kaigi.Streaming.Task

/-!
# The loss telemetry of a conference

The reader counts the media of everybody in one flow for the video and one for the audio, and
those of each participant in flows of their own. The numbers of a flow are those of the
senders, so that the joint flows mix several sequences.
-/

set_option autoImplicit false

namespace Kaigi.Client

open Collections Wire Hub Metering Streaming

def u32Max : Nat := 2 ^ 32 - 1

/-! ### Flows -/

structure FlowTelemetry where
  windowStartMs : Nat
  windowCount : Nat
  ratePerSec : Nat
  total : Nat
  lastAtMs : Nat
  lastSeq : Option Nat
  missingPackets : Nat
  sequencePackets : Nat
  jitterEwmaMs : Nat
  lastArrivalMs : Nat

def FlowTelemetry.default : FlowTelemetry :=
  ⟨0, 0, 0, 0, 0, none, 0, 0, 0, 0⟩

def recordFlowTelemetry (flow : FlowTelemetry) (atMs : Nat) : FlowTelemetry :=
  let windowStartMs := if flow.windowStartMs = 0 then atMs else flow.windowStartMs
  let windowCount := min (flow.windowCount + 1) u32Max
  let elapsedMs := atMs - windowStartMs
  let counted := { flow with
    total := min (flow.total + 1) u64Max
    lastAtMs := atMs
    windowStartMs := windowStartMs
    windowCount := windowCount }
  if 1000 ≤ elapsedMs then
    { counted with
      ratePerSec := min (windowCount * 1000 / max elapsedMs 1) u32Max
      windowCount := 0
      windowStartMs := atMs }
  else counted

/-- A moving average over eight samples. The product saturates, and the sum wraps around. -/
def ewma (average sample : Nat) : Nat :=
  if average = 0 then sample else (min (average * 7) u64Max + sample) % (u64Max + 1) / 8

def recordRxSequenceTelemetry (flow : FlowTelemetry) (seq atMs expectedIntervalMs : Nat) :
    FlowTelemetry :=
  let flow := recordFlowTelemetry flow atMs
  let missingPackets :=
    match flow.lastSeq with
    | some lastSeq =>
        if min (lastSeq + 1) u64Max < seq then
          min (flow.missingPackets + (seq - lastSeq - 1)) u64Max
        else flow.missingPackets
    | none => flow.missingPackets
  let jitterEwmaMs :=
    if flow.lastArrivalMs ≠ 0 ∧ 0 < expectedIntervalMs then
      let gap := atMs - flow.lastArrivalMs
      ewma flow.jitterEwmaMs (max gap expectedIntervalMs - min gap expectedIntervalMs)
    else flow.jitterEwmaMs
  let lastSeq :=
    match flow.lastSeq with
    | some last => if last < seq then some seq else some last
    | none => some seq
  { flow with
    sequencePackets := min (flow.sequencePackets + 1) u64Max
    missingPackets := missingPackets
    jitterEwmaMs := jitterEwmaMs
    lastSeq := lastSeq
    lastArrivalMs := atMs }

/-! ### What the reader counts -/

inductive Medium where
  | video
  | audio
deriving DecidableEq

theorem forall_medium {holds : Medium → Prop} :
    (∀ medium, holds medium) ↔ holds .video ∧ holds .audio := by
  constructor
  · intro all
    exact ⟨all .video, all .audio⟩
  · rintro ⟨video, audio⟩ medium
    cases medium with
    | video => exact video
    | audio => exact audio

instance decidableForallMedium {holds : Medium → Prop} [∀ medium, Decidable (holds medium)] :
    Decidable (∀ medium, holds medium) :=
  decidable_of_iff _ forall_medium.symm

structure ParticipantMediaTelemetry where
  video : FlowTelemetry
  audio : FlowTelemetry

def ParticipantMediaTelemetry.default : ParticipantMediaTelemetry :=
  ⟨.default, .default⟩

/-- The counters that the reader writes. -/
structure ConferenceTelemetry where
  rxVideo : FlowTelemetry
  rxAudio : FlowTelemetry
  rttLastMs : Nat
  rttEwmaMs : Nat
  rttSamples : Nat

def ConferenceTelemetry.default : ConferenceTelemetry :=
  ⟨.default, .default, 0, 0, 0⟩

def ConferenceTelemetry.flow (telemetry : ConferenceTelemetry) : Medium → FlowTelemetry
  | .video => telemetry.rxVideo
  | .audio => telemetry.rxAudio

def ParticipantMediaTelemetry.flow (entry : ParticipantMediaTelemetry) : Medium → FlowTelemetry
  | .video => entry.video
  | .audio => entry.audio

def ConferenceTelemetry.recordRx (telemetry : ConferenceTelemetry) (medium : Medium)
    (seq atMs : Nat) : ConferenceTelemetry :=
  match medium with
  | .video => { telemetry with rxVideo := recordRxSequenceTelemetry telemetry.rxVideo seq atMs 100 }
  | .audio => { telemetry with rxAudio := recordRxSequenceTelemetry telemetry.rxAudio seq atMs 100 }

def ParticipantMediaTelemetry.recordRx (entry : ParticipantMediaTelemetry) (medium : Medium)
    (seq atMs : Nat) : ParticipantMediaTelemetry :=
  match medium with
  | .video => { entry with video := recordRxSequenceTelemetry entry.video seq atMs 100 }
  | .audio => { entry with audio := recordRxSequenceTelemetry entry.audio seq atMs 100 }

def recordRttSample (telemetry : ConferenceTelemetry) (sampleMs : Nat) : ConferenceTelemetry :=
  { telemetry with
    rttLastMs := sampleMs
    rttSamples := min (telemetry.rttSamples + 1) u64Max
    rttEwmaMs := ewma telemetry.rttEwmaMs sampleMs }

/-- What the reader writes, with the counters of everybody and of each participant. -/
structure ReaderState where
  conference : ConferenceState
  telemetry : ConferenceTelemetry
  participants : HashMap String ParticipantMediaTelemetry

/-- The counters are at zero and no participant has any. -/
def ReaderState.start (conference : ConferenceState) : ReaderState :=
  ⟨conference, .default, ∅⟩

def ReaderState.entry (state : ReaderState) (participantId : String) : ParticipantMediaTelemetry :=
  (state.participants.get? participantId).getD .default

/-- The number goes to the joint flow and to the flow of the participant. -/
def ReaderState.recordRx (state : ReaderState) (medium : Medium) (participantId : String)
    (seq atMs : Nat) : ReaderState :=
  { state with
    telemetry := state.telemetry.recordRx medium seq atMs
    participants := state.participants.put participantId
      ((state.entry participantId).recordRx medium seq atMs) }

/-! ### The reader -/

section Reader

variable {SegmentBundle EncodedSegment AudioFrame AudioDecoder : Type}
  (libraries : MediaLibraries SegmentBundle EncodedSegment AudioFrame AudioDecoder)

def countVideoSegment (atMs : Nat) (state : ReaderState) (segment : VideoSegmentFrame) :
    Except String ReaderState := do
  match ← decodeAsciiVideoSegment libraries segment atMs with
  | none => return state
  | some decoded =>
    let conference := { state.conference with
      videoFrames := state.conference.videoFrames.put segment.participantId decoded }
    return { state with conference := conference }.recordRx .video segment.participantId
      segment.segmentNumber atMs

def countAudioPacket (atMs : Nat) (state : ReaderState) (packet : AudioPacketFrame) :
    Except String ReaderState := do
  match ← decodeAudioLevel libraries packet with
  | none => return state
  | some level =>
    let conference := { state.conference with
      audioLevels := state.conference.audioLevels.put packet.participantId ⟨level, atMs⟩ }
    return { state with conference := conference }.recordRx .audio packet.participantId
      packet.sequence atMs

def countAnonPlaintext (atMs : Nat) (state : ReaderState) (kind : AnonymousPayloadKind)
    (plaintext : List UInt8) : Except String ReaderState :=
  match kind with
  | .videoSegment =>
      match libraries.decodeVideoSegmentFrame plaintext with
      | .ok segment => countVideoSegment libraries atMs state segment
      | .error _ => .ok state
  | .audioPacket =>
      match libraries.decodeAudioPacketFrame plaintext with
      | .ok packet => countAudioPacket libraries atMs state packet
      | .error _ => .ok state
  | .control => .ok state

def countAnonEncryptedPayload (atMs : Nat) (state : ReaderState)
    (enc : AnonEncryptedPayloadFrame) : Except String ReaderState :=
  match state.conference.anonGroup.key with
  | none => .ok state
  | some key =>
    let group := state.conference.anonGroup
    if group.epoch = 0 ∨ enc.epoch = 0 ∨ enc.epoch < group.epoch then .ok state
    else do
      let plaintext ← decryptAnonGroupPayload libraries key enc.senderHandle enc
      countAnonPlaintext libraries atMs state enc.kind plaintext

/-- A pong whose nonce is a time of the last minute is a sample of the round trip. -/
def countPong (atMs : Nat) (state : ReaderState) (pong : PongFrame) : ReaderState :=
  if pong.nonce ≤ atMs ∧ atMs - pong.nonce ≤ 60000 then
    { state with telemetry := recordRttSample state.telemetry (atMs - pong.nonce) }
  else state

/-- One frame of the reader, with what it counts. -/
def countConferenceFrame (atMs : Nat) (state : ReaderState) :
    KaigiFrame → Except String ReaderState
  | .event (.left left) => .ok { state with
      conference := { state.conference with
        videoFrames := state.conference.videoFrames.remove left.participantId
        audioLevels := state.conference.audioLevels.remove left.participantId }
      participants := state.participants.remove left.participantId }
  | .videoSegment segment => countVideoSegment libraries atMs state segment
  | .audioPacket packet => countAudioPacket libraries atMs state packet
  | .anonGroupKeyRotate update => do
      let anonGroup ← readAnonGroupKeyRotate libraries update
      return { state with conference := { state.conference with anonGroup := anonGroup } }
  | .anonEncryptedPayload enc => countAnonEncryptedPayload libraries atMs state enc
  | .pong pong => .ok (countPong atMs state pong)
  | _ => .ok state

/-- The reader takes one frame after the other, each at its time. -/
def readerStep (state : ReaderState) (input : Nat × KaigiFrame) : Except String ReaderState :=
  countConferenceFrame libraries input.1 state input.2

variable {libraries}

theorem countVideoSegment_conference (atMs : Nat) (state : ReaderState)
    (segment : VideoSegmentFrame) :
    (countVideoSegment libraries atMs state segment).map (·.conference) =
      readVideoSegment libraries atMs state.conference segment := by
  unfold countVideoSegment readVideoSegment
  cases decodeAsciiVideoSegment libraries segment atMs with
  | error failure => rfl
  | ok decoded => cases decoded <;> rfl

theorem countAudioPacket_conference (atMs : Nat) (state : ReaderState)
    (packet : AudioPacketFrame) :
    (countAudioPacket libraries atMs state packet).map (·.conference) =
      readAudioPacket libraries atMs state.conference packet := by
  unfold countAudioPacket readAudioPacket
  cases decodeAudioLevel libraries packet with
  | error failure => rfl
  | ok level => cases level <;> rfl

theorem countAnonPlaintext_conference (atMs : Nat) (state : ReaderState)
    (kind : AnonymousPayloadKind) (plaintext : List UInt8) :
    (countAnonPlaintext libraries atMs state kind plaintext).map (·.conference) =
      readAnonPlaintext libraries atMs state.conference kind plaintext := by
  unfold countAnonPlaintext readAnonPlaintext
  cases kind with
  | control => rfl
  | videoSegment =>
      cases libraries.decodeVideoSegmentFrame plaintext with
      | error failure => rfl
      | ok segment => exact countVideoSegment_conference atMs state segment
  | audioPacket =>
      cases libraries.decodeAudioPacketFrame plaintext with
      | error failure => rfl
      | ok packet => exact countAudioPacket_conference atMs state packet

theorem countAnonEncryptedPayload_conference (atMs : Nat) (state : ReaderState)
    (enc : AnonEncryptedPayloadFrame) :
    (countAnonEncryptedPayload libraries atMs state enc).map (·.conference) =
      readAnonEncryptedPayload libraries atMs state.conference enc := by
  unfold countAnonEncryptedPayload readAnonEncryptedPayload
  cases state.conference.anonGroup.key with
  | none => rfl
  | some key =>
      dsimp only
      split
      · rfl
      · cases decryptAnonGroupPayload libraries key enc.senderHandle enc with
        | error failure => rfl
        | ok plaintext => exact countAnonPlaintext_conference atMs state enc.kind plaintext

/-- The counting leaves what the reader does as it is. -/
theorem countConferenceFrame_conference (atMs : Nat) (state : ReaderState) (frame : KaigiFrame) :
    (countConferenceFrame libraries atMs state frame).map (·.conference) =
      readConferenceFrame libraries atMs state.conference frame := by
  cases frame with
  | videoSegment segment => exact countVideoSegment_conference atMs state segment
  | audioPacket packet => exact countAudioPacket_conference atMs state packet
  | anonEncryptedPayload enc => exact countAnonEncryptedPayload_conference atMs state enc
  | anonGroupKeyRotate update =>
      rw [countConferenceFrame, readConferenceFrame]
      cases readAnonGroupKeyRotate libraries update <;> rfl
  | pong pong =>
      rw [countConferenceFrame, countPong, readConferenceFrame]
      · split <;> rfl
      all_goals simp
  | event change => cases change <;> rfl
  | _ => rfl

end Reader

/-! ### What a frame changes -/

/-- Media of a participant arrive, or a participant leaves. -/
inductive Change where
  | arrival (medium : Medium) (participantId : String) (seq : Nat)
  | departure (participantId : String)
  | nothing

section Changes

variable {SegmentBundle EncodedSegment AudioFrame AudioDecoder : Type}
  (libraries : MediaLibraries SegmentBundle EncodedSegment AudioFrame AudioDecoder)

def videoChange (atMs : Nat) (segment : VideoSegmentFrame) : Change :=
  match decodeAsciiVideoSegment libraries segment atMs with
  | .ok (some _) => .arrival .video segment.participantId segment.segmentNumber
  | _ => .nothing

def audioChange (packet : AudioPacketFrame) : Change :=
  match decodeAudioLevel libraries packet with
  | .ok (some _) => .arrival .audio packet.participantId packet.sequence
  | _ => .nothing

def plaintextChange (atMs : Nat) (kind : AnonymousPayloadKind) (plaintext : List UInt8) : Change :=
  match kind with
  | .videoSegment =>
      match libraries.decodeVideoSegmentFrame plaintext with
      | .ok segment => videoChange libraries atMs segment
      | .error _ => .nothing
  | .audioPacket =>
      match libraries.decodeAudioPacketFrame plaintext with
      | .ok packet => audioChange libraries packet
      | .error _ => .nothing
  | .control => .nothing

/-- A payload is of interest with a key that is not newer than it. -/
def payloadChange (atMs : Nat) (group : AnonGroupMediaState) (enc : AnonEncryptedPayloadFrame) :
    Change :=
  match group.key with
  | none => .nothing
  | some key =>
    if group.epoch = 0 ∨ enc.epoch = 0 ∨ enc.epoch < group.epoch then .nothing
    else
      match decryptAnonGroupPayload libraries key enc.senderHandle enc with
      | .error _ => .nothing
      | .ok plaintext => plaintextChange libraries atMs enc.kind plaintext

/-- What the frame changes for a reader with this group state. -/
def changeOf (atMs : Nat) (group : AnonGroupMediaState) : KaigiFrame → Change
  | .event (.left left) => .departure left.participantId
  | .videoSegment segment => videoChange libraries atMs segment
  | .audioPacket packet => audioChange libraries packet
  | .anonEncryptedPayload enc => payloadChange libraries atMs group enc
  | _ => .nothing

/-- The flows and the participants after the change. -/
def Effect (atMs : Nat) (state next : ReaderState) : Change → Prop
  | .arrival medium participantId seq =>
      (∀ other, next.telemetry.flow other =
        (state.telemetry.recordRx medium seq atMs).flow other) ∧
      next.participants = (state.recordRx medium participantId seq atMs).participants
  | .departure participantId =>
      (∀ other, next.telemetry.flow other = state.telemetry.flow other) ∧
      next.participants = state.participants.remove participantId
  | .nothing =>
      (∀ other, next.telemetry.flow other = state.telemetry.flow other) ∧
      next.participants = state.participants

variable {libraries} {atMs : Nat} {state next : ReaderState}

theorem effect_nothing (state : ReaderState) : Effect atMs state state .nothing :=
  ⟨fun _ => rfl, rfl⟩

theorem countVideoSegment_effect {segment : VideoSegmentFrame}
    (counted : countVideoSegment libraries atMs state segment = .ok next) :
    Effect atMs state next (videoChange libraries atMs segment) := by
  unfold countVideoSegment at counted
  unfold videoChange
  cases decoded : decodeAsciiVideoSegment libraries segment atMs with
  | error failure =>
      rw [decoded] at counted
      cases counted
  | ok frame =>
      rw [decoded] at counted
      cases frame with
      | none =>
          cases counted
          exact effect_nothing state
      | some frame =>
          cases counted
          exact ⟨fun _ => rfl, rfl⟩

theorem countAudioPacket_effect {packet : AudioPacketFrame}
    (counted : countAudioPacket libraries atMs state packet = .ok next) :
    Effect atMs state next (audioChange libraries packet) := by
  unfold countAudioPacket at counted
  unfold audioChange
  cases decoded : decodeAudioLevel libraries packet with
  | error failure =>
      rw [decoded] at counted
      cases counted
  | ok level =>
      rw [decoded] at counted
      cases level with
      | none =>
          cases counted
          exact effect_nothing state
      | some level =>
          cases counted
          exact ⟨fun _ => rfl, rfl⟩

theorem countAnonPlaintext_effect {kind : AnonymousPayloadKind} {plaintext : List UInt8}
    (counted : countAnonPlaintext libraries atMs state kind plaintext = .ok next) :
    Effect atMs state next (plaintextChange libraries atMs kind plaintext) := by
  unfold countAnonPlaintext at counted
  unfold plaintextChange
  cases kind with
  | control =>
      cases counted
      exact effect_nothing state
  | videoSegment =>
      dsimp only at counted ⊢
      cases decoded : libraries.decodeVideoSegmentFrame plaintext with
      | error failure =>
          rw [decoded] at counted
          cases counted
          exact effect_nothing state
      | ok segment =>
          rw [decoded] at counted
          exact countVideoSegment_effect counted
  | audioPacket =>
      dsimp only at counted ⊢
      cases decoded : libraries.decodeAudioPacketFrame plaintext with
      | error failure =>
          rw [decoded] at counted
          cases counted
          exact effect_nothing state
      | ok packet =>
          rw [decoded] at counted
          exact countAudioPacket_effect counted

theorem countAnonEncryptedPayload_effect {enc : AnonEncryptedPayloadFrame}
    (counted : countAnonEncryptedPayload libraries atMs state enc = .ok next) :
    Effect atMs state next (payloadChange libraries atMs state.conference.anonGroup enc) := by
  unfold countAnonEncryptedPayload at counted
  unfold payloadChange
  cases known : state.conference.anonGroup.key with
  | none =>
      rw [known] at counted
      cases counted
      exact effect_nothing state
  | some key =>
      rw [known] at counted
      dsimp only at counted ⊢
      split at counted
      · next stale =>
          rw [if_pos stale]
          cases counted
          exact effect_nothing state
      · next fresh =>
          rw [if_neg fresh]
          cases opened : decryptAnonGroupPayload libraries key enc.senderHandle enc with
          | error failure =>
              rw [opened] at counted
              cases counted
          | ok plaintext =>
              rw [opened] at counted
              exact countAnonPlaintext_effect counted

theorem countPong_flow (atMs : Nat) (state : ReaderState) (pong : PongFrame) (medium : Medium) :
    (countPong atMs state pong).telemetry.flow medium = state.telemetry.flow medium := by
  unfold countPong
  split
  · cases medium <;> rfl
  · rfl

theorem countPong_participants (atMs : Nat) (state : ReaderState) (pong : PongFrame) :
    (countPong atMs state pong).participants = state.participants := by
  unfold countPong
  split <;> rfl

theorem countConferenceFrame_effect {frame : KaigiFrame}
    (counted : countConferenceFrame libraries atMs state frame = .ok next) :
    Effect atMs state next (changeOf libraries atMs state.conference.anonGroup frame) := by
  cases frame with
  | videoSegment segment => exact countVideoSegment_effect counted
  | audioPacket packet => exact countAudioPacket_effect counted
  | anonEncryptedPayload enc => exact countAnonEncryptedPayload_effect counted
  | anonGroupKeyRotate update =>
      rw [countConferenceFrame] at counted
      cases derived : readAnonGroupKeyRotate libraries update with
      | error failure =>
          rw [derived] at counted
          cases counted
      | ok anonGroup =>
          rw [derived] at counted
          cases counted
          exact ⟨fun _ => rfl, rfl⟩
  | pong pong =>
      cases counted
      exact ⟨countPong_flow atMs state pong, countPong_participants atMs state pong⟩
  | event change =>
      cases change with
      | left left =>
          cases counted
          exact ⟨fun _ => rfl, rfl⟩
      | _ =>
          cases counted
          exact effect_nothing state
  | _ =>
      cases counted
      exact effect_nothing state

end Changes

/-! ### The counters after a change -/

section Flows

variable (flow : FlowTelemetry) (seq atMs expectedIntervalMs : Nat)

theorem recordFlowTelemetry_lastSeq : (recordFlowTelemetry flow atMs).lastSeq = flow.lastSeq := by
  unfold recordFlowTelemetry
  dsimp only
  split <;> split <;> rfl

theorem recordFlowTelemetry_missingPackets :
    (recordFlowTelemetry flow atMs).missingPackets = flow.missingPackets := by
  unfold recordFlowTelemetry
  dsimp only
  split <;> split <;> rfl

theorem recordRxSequenceTelemetry_lastSeq :
    (recordRxSequenceTelemetry flow seq atMs expectedIntervalMs).lastSeq =
      some (highest flow.lastSeq seq) := by
  unfold recordRxSequenceTelemetry highest
  dsimp only
  rw [recordFlowTelemetry_lastSeq]
  cases flow.lastSeq with
  | none => rfl
  | some last =>
      dsimp only
      split
      · next rises => rw [Nat.max_eq_right (Nat.le_of_lt rises)]
      · next falls => rw [Nat.max_eq_left (Nat.not_lt.mp falls)]

/-- Nothing is added where nothing is left out. -/
theorem recordRxSequenceTelemetry_missingPackets :
    (recordRxSequenceTelemetry flow seq atMs expectedIntervalMs).missingPackets =
        min (flow.missingPackets + gap flow.lastSeq seq) u64Max ∨
      gap flow.lastSeq seq = 0 ∧
        (recordRxSequenceTelemetry flow seq atMs expectedIntervalMs).missingPackets =
          flow.missingPackets := by
  unfold recordRxSequenceTelemetry gap
  dsimp only
  rw [recordFlowTelemetry_lastSeq, recordFlowTelemetry_missingPackets]
  cases flow.lastSeq with
  | none => exact .inr ⟨rfl, rfl⟩
  | some last =>
      dsimp only
      split
      · exact .inl rfl
      · next small =>
          refine .inr ⟨?_, rfl⟩
          omega

variable {flow seq atMs expectedIntervalMs}

/-- A count that did not saturate is exact. -/
theorem missingPackets_of_lt
    (below : (recordRxSequenceTelemetry flow seq atMs expectedIntervalMs).missingPackets <
      u64Max) :
    (recordRxSequenceTelemetry flow seq atMs expectedIntervalMs).missingPackets =
      flow.missingPackets + gap flow.lastSeq seq := by
  rcases recordRxSequenceTelemetry_missingPackets flow seq atMs expectedIntervalMs
    with added | ⟨none, same⟩
  · rw [added] at below ⊢
    omega
  · rw [same, none, Nat.add_zero]

theorem missingPackets_eq_zero_iff :
    (recordRxSequenceTelemetry flow seq atMs expectedIntervalMs).missingPackets = 0 ↔
      flow.missingPackets = 0 ∧ gap flow.lastSeq seq = 0 := by
  have room : 0 < u64Max := by decide
  rcases recordRxSequenceTelemetry_missingPackets flow seq atMs expectedIntervalMs
    with added | ⟨none, same⟩
  · rw [added]
    omega
  · rw [same, none]
    omega

end Flows

@[simp] theorem ConferenceTelemetry.flow_recordRx (telemetry : ConferenceTelemetry)
    (medium other : Medium) (seq atMs : Nat) :
    (telemetry.recordRx medium seq atMs).flow other =
      if other = medium then recordRxSequenceTelemetry (telemetry.flow medium) seq atMs 100
      else telemetry.flow other := by
  cases medium <;> cases other <;> rfl

@[simp] theorem ParticipantMediaTelemetry.flow_recordRx (entry : ParticipantMediaTelemetry)
    (medium other : Medium) (seq atMs : Nat) :
    (entry.recordRx medium seq atMs).flow other =
      if other = medium then recordRxSequenceTelemetry (entry.flow medium) seq atMs 100
      else entry.flow other := by
  cases medium <;> cases other <;> rfl

theorem ParticipantMediaTelemetry.default_flow (medium : Medium) :
    ParticipantMediaTelemetry.default.flow medium = .default := by
  cases medium <;> rfl

theorem ReaderState.start_flow (conference : ConferenceState) (medium : Medium) :
    (ReaderState.start conference).telemetry.flow medium = .default := by
  cases medium <;> rfl

theorem ReaderState.start_entry (conference : ConferenceState) (participantId : String) :
    (ReaderState.start conference).entry participantId = .default :=
  rfl

section Steps

variable {atMs : Nat} {state next : ReaderState} {participantId : String}

/-- Only the flow of the participant changes. -/
theorem entry_of_put {entry : ParticipantMediaTelemetry}
    (written : next.participants = state.participants.put participantId entry) (other : String) :
    next.entry other = if other = participantId then entry else state.entry other := by
  unfold ReaderState.entry
  rw [written, HashMap.get?_put]
  split <;> rfl

theorem entry_of_remove (written : next.participants = state.participants.remove participantId)
    (other : String) :
    next.entry other = if other = participantId then .default else state.entry other := by
  unfold ReaderState.entry
  rw [written, HashMap.get?_remove]
  split <;> rfl

/-- The missing packets of a participant. -/
def ReaderState.missing (state : ReaderState) (medium : Medium) (participantId : String) : Nat :=
  ((state.entry participantId).flow medium).missingPackets

/-- The sum of the missing packets of the participants. -/
def ReaderState.missingOfAll (state : ReaderState) (medium : Medium) : Nat :=
  sumOf (fun entry => (ParticipantMediaTelemetry.flow entry medium).missingPackets)
    state.participants

theorem missing_eq (state : ReaderState) (medium : Medium) (participantId : String) :
    ((state.participants.get? participantId).map fun entry =>
      (ParticipantMediaTelemetry.flow entry medium).missingPackets).getD 0 =
        state.missing medium participantId := by
  unfold ReaderState.missing ReaderState.entry
  cases state.participants.get? participantId with
  | none => rw [Option.getD_none, ParticipantMediaTelemetry.default_flow]; rfl
  | some entry => rfl

theorem missingOfAll_of_put (medium : Medium) {entry : ParticipantMediaTelemetry}
    (written : next.participants = state.participants.put participantId entry) :
    next.missingOfAll medium + state.missing medium participantId =
      state.missingOfAll medium + (entry.flow medium).missingPackets := by
  unfold ReaderState.missingOfAll
  rw [written, ← missing_eq]
  exact sumOf_put _ _ _ _

theorem missingOfAll_of_remove (medium : Medium)
    (written : next.participants = state.participants.remove participantId) :
    next.missingOfAll medium + state.missing medium participantId = state.missingOfAll medium := by
  unfold ReaderState.missingOfAll
  rw [written, ← missing_eq]
  exact sumOf_remove _ _ _

/-- The joint flows have seen what the flows of the participants have. -/
def Covered (state : ReaderState) : Prop :=
  ∀ medium participantId, Covers (state.telemetry.flow medium).lastSeq
    ((state.entry participantId).flow medium).lastSeq

/-- The joint flows miss as many packets as the participants together. -/
def Agrees (state : ReaderState) : Prop :=
  ∀ medium, (state.telemetry.flow medium).missingPackets = state.missingOfAll medium

/-- No count of missing packets has reached its end. -/
def Unsaturated (state : ReaderState) : Prop :=
  ∀ medium, (state.telemetry.flow medium).missingPackets < u64Max ∧
    ∀ participantId, state.missing medium participantId < u64Max

/-- The number tallies, and who leaves misses nothing. -/
def Fits (state : ReaderState) : Change → Prop
  | .arrival medium participantId seq =>
      Tallies (state.telemetry.flow medium).lastSeq
        ((state.entry participantId).flow medium).lastSeq seq
  | .departure participantId => ∀ medium, state.missing medium participantId = 0
  | .nothing => True

/-- The number of a participant is the one after its last. -/
def InOrder (state : ReaderState) : Change → Prop
  | .arrival medium participantId seq =>
      Follows ((state.entry participantId).flow medium).lastSeq seq
  | _ => True

instance decidableFits {state : ReaderState} : (change : Change) → Decidable (Fits state change)
  | .arrival _ _ _ => inferInstanceAs (Decidable (Tallies _ _ _))
  | .departure _ => inferInstanceAs (Decidable (∀ medium, state.missing medium _ = 0))
  | .nothing => inferInstanceAs (Decidable True)

instance decidableInOrder {state : ReaderState} :
    (change : Change) → Decidable (InOrder state change)
  | .arrival _ _ _ => inferInstanceAs (Decidable (Follows _ _))
  | .departure _ => inferInstanceAs (Decidable True)
  | .nothing => inferInstanceAs (Decidable True)

theorem Covered.step {change : Change} (covered : Covered state)
    (effect : Effect atMs state next change) : Covered next := by
  intro other someone
  cases change with
  | nothing =>
      rw [effect.1, ReaderState.entry, effect.2]
      exact covered other someone
  | departure leaving =>
      rw [effect.1, entry_of_remove effect.2]
      split
      · rw [ParticipantMediaTelemetry.default_flow]
        exact covers_none _
      · exact covered other someone
  | arrival medium participantId seq =>
      rw [effect.1, entry_of_put effect.2, ConferenceTelemetry.flow_recordRx]
      by_cases own : someone = participantId
      · rw [if_pos own, ParticipantMediaTelemetry.flow_recordRx]
        by_cases same : other = medium
        · rw [if_pos same, if_pos same, recordRxSequenceTelemetry_lastSeq,
            recordRxSequenceTelemetry_lastSeq]
          exact (covered medium participantId).raise_both seq
        · rw [if_neg same, if_neg same]
          exact covered other participantId
      · rw [if_neg own]
        by_cases same : other = medium
        · subst same
          rw [if_pos rfl, recordRxSequenceTelemetry_lastSeq]
          exact (covered other someone).raise seq
        · rw [if_neg same]
          exact covered other someone

/-- Below saturation, the counts go on agreeing exactly if the change fits. -/
theorem Agrees.step_iff {change : Change} (agrees : Agrees state) (covered : Covered state)
    (effect : Effect atMs state next change) (below : Unsaturated next) :
    Agrees next ↔ Fits state change := by
  cases change with
  | nothing =>
      refine iff_of_true ?_ trivial
      intro other
      rw [effect.1, ReaderState.missingOfAll, effect.2]
      exact agrees other
  | departure leaving =>
      refine forall_congr' fun other => ?_
      have sum := missingOfAll_of_remove other effect.2
      rw [effect.1, agrees other]
      omega
  | arrival medium participantId seq =>
      have sum := fun other => missingOfAll_of_put other effect.2
      have own := (below medium).2 participantId
      have joint := (below medium).1
      have entry := entry_of_put effect.2 participantId
      rw [if_pos rfl] at entry
      rw [ReaderState.missing, entry, ParticipantMediaTelemetry.flow_recordRx, if_pos rfl] at own
      rw [effect.1, ConferenceTelemetry.flow_recordRx, if_pos rfl] at joint
      have ownCount := missingPackets_of_lt own
      have jointCount := missingPackets_of_lt joint
      rw [Fits, ← gap_eq_gap_iff (covered medium participantId)]
      constructor
      · intro agreesNext
        have after := agreesNext medium
        have before := agrees medium
        have sums := sum medium
        rw [effect.1, ConferenceTelemetry.flow_recordRx, if_pos rfl, jointCount] at after
        rw [ParticipantMediaTelemetry.flow_recordRx, if_pos rfl, ownCount,
          ReaderState.missing] at sums
        omega
      · intro same other
        have before := agrees other
        have sums := sum other
        rw [effect.1, ConferenceTelemetry.flow_recordRx]
        rw [ParticipantMediaTelemetry.flow_recordRx, ReaderState.missing] at sums
        by_cases counted : other = medium
        · subst counted
          rw [if_pos rfl, jointCount]
          rw [if_pos rfl, ownCount] at sums
          omega
        · rw [if_neg counted]
          rw [if_neg counted] at sums
          omega

/-- The joint flows miss nothing. -/
def NoneMissing (state : ReaderState) : Prop :=
  ∀ medium, (state.telemetry.flow medium).missingPackets = 0

/-- No participant misses anything. -/
def AllPresent (state : ReaderState) : Prop :=
  ∀ medium participantId, state.missing medium participantId = 0

/-- Participants whose numbers are in order miss nothing. -/
theorem AllPresent.step {change : Change} (present : AllPresent state)
    (effect : Effect atMs state next change) (inOrder : InOrder state change) :
    AllPresent next := by
  intro other someone
  cases change with
  | nothing =>
      rw [ReaderState.missing, ReaderState.entry, effect.2]
      exact present other someone
  | departure leaving =>
      rw [ReaderState.missing, entry_of_remove effect.2]
      split
      · rw [ParticipantMediaTelemetry.default_flow]
        rfl
      · exact present other someone
  | arrival medium participantId seq =>
      rw [ReaderState.missing, entry_of_put effect.2]
      split
      · rw [ParticipantMediaTelemetry.flow_recordRx]
        split
        · exact missingPackets_eq_zero_iff.mpr
            ⟨present medium participantId, gap_eq_zero_of_follows inOrder⟩
        · exact present other participantId
      · exact present other someone

/-- While the numbers are in order, the joint flows go on missing nothing exactly if the
change fits. -/
theorem NoneMissing.step_iff {change : Change} (none : NoneMissing state)
    (covered : Covered state) (present : AllPresent state)
    (effect : Effect atMs state next change) (inOrder : InOrder state change) :
    NoneMissing next ↔ Fits state change := by
  cases change with
  | nothing =>
      refine iff_of_true (fun other => ?_) trivial
      rw [effect.1]
      exact none other
  | departure leaving =>
      refine iff_of_true (fun other => ?_) fun medium => present medium leaving
      rw [effect.1]
      exact none other
  | arrival medium participantId seq =>
      rw [Fits, tallies_iff_of_follows (covered medium participantId) inOrder]
      constructor
      · intro noneNext
        have after := noneNext medium
        rw [effect.1, ConferenceTelemetry.flow_recordRx, if_pos rfl] at after
        exact (missingPackets_eq_zero_iff.mp after).2
      · intro tallies other
        rw [effect.1, ConferenceTelemetry.flow_recordRx]
        split
        · exact missingPackets_eq_zero_iff.mpr ⟨none medium, tallies⟩
        · exact none other

end Steps

/-! ### Runs of the reader -/

section Runs

variable {SegmentBundle EncodedSegment AudioFrame AudioDecoder : Type}
  (libraries : MediaLibraries SegmentBundle EncodedSegment AudioFrame AudioDecoder)

/-- The states of a reader that starts with these frames, each at its time. -/
def statesOf (conference : ConferenceState) (inputs : List (Nat × KaigiFrame)) :
    List ReaderState :=
  reached (readerStep libraries) (.start conference) inputs

/-- The condition holds of the change of every frame that does not end the reader. -/
def EveryChange (condition : ReaderState → Change → Prop) (conference : ConferenceState)
    (inputs : List (Nat × KaigiFrame)) : Prop :=
  EveryStep (readerStep libraries) (fun state input => condition state
    (changeOf libraries input.1 state.conference.anonGroup input.2)) (.start conference) inputs

variable {libraries}

instance decidableEveryChange {condition : ReaderState → Change → Prop}
    [∀ state change, Decidable (condition state change)] {conference : ConferenceState}
    {inputs : List (Nat × KaigiFrame)} :
    Decidable (EveryChange libraries condition conference inputs) :=
  inferInstanceAs (Decidable (EveryStep _ _ _ _))

theorem covered_start (conference : ConferenceState) : Covered (.start conference) := by
  intro medium participantId
  rw [ReaderState.start_entry, ParticipantMediaTelemetry.default_flow]
  exact covers_none _

theorem noneMissing_start (conference : ConferenceState) : NoneMissing (.start conference) := by
  intro medium
  rw [ReaderState.start_flow]
  rfl

theorem allPresent_start (conference : ConferenceState) : AllPresent (.start conference) := by
  intro medium participantId
  rw [ReaderState.missing, ReaderState.start_entry, ParticipantMediaTelemetry.default_flow]
  rfl

theorem agrees_start (conference : ConferenceState) : Agrees (.start conference) :=
  noneMissing_start conference

/-- A participant whose numbers are in order misses nothing, in every state. -/
theorem allPresent_of_inOrder {conference : ConferenceState} {inputs : List (Nat × KaigiFrame)}
    (inOrder : EveryChange libraries InOrder conference inputs) :
    ∀ state ∈ statesOf libraries conference inputs, AllPresent state :=
  invariant_of_everyStep AllPresent
    (fun present counted inOrder => present.step (countConferenceFrame_effect counted) inOrder)
    (allPresent_start conference) inOrder

/-- Below the end, as long as the joint flows are. -/
theorem unsaturated_of_inOrder {conference : ConferenceState} {inputs : List (Nat × KaigiFrame)}
    (inOrder : EveryChange libraries InOrder conference inputs)
    (joint : ∀ state ∈ statesOf libraries conference inputs, ∀ medium,
      (state.telemetry.flow medium).missingPackets < u64Max) :
    ∀ state ∈ statesOf libraries conference inputs, Unsaturated state := by
  intro state member medium
  refine ⟨joint state member medium, fun participantId => ?_⟩
  rw [allPresent_of_inOrder inOrder state member medium participantId]
  decide

variable (libraries)

/-- The joint flows of a reader agree with those of the participants, and miss nothing while
the numbers of everybody are in order, exactly when every number tallies and nobody who misses
something leaves. -/
theorem missingPackets_agree_iff (conference : ConferenceState)
    (inputs : List (Nat × KaigiFrame)) :
    ((∀ state ∈ statesOf libraries conference inputs, Unsaturated state) →
      ((∀ state ∈ statesOf libraries conference inputs, Agrees state) ↔
        EveryChange libraries Fits conference inputs)) ∧
    (EveryChange libraries InOrder conference inputs →
      ((∀ state ∈ statesOf libraries conference inputs, NoneMissing state) ↔
        EveryChange libraries Fits conference inputs)) := by
  constructor
  · intro below
    refine reached_iff_everyStep Covered (fun covered counted _ => ?_)
      (fun covered agrees counted below => ?_) (covered_start conference)
      (agrees_start conference) (everyStep_of_reached below)
    · exact covered.step (countConferenceFrame_effect counted)
    · exact agrees.step_iff covered (countConferenceFrame_effect counted) (below _ counted)
  · intro inOrder
    refine reached_iff_everyStep (fun state => Covered state ∧ AllPresent state)
      (fun invariant counted inOrder => ?_) (fun invariant none counted inOrder => ?_)
      ⟨covered_start conference, allPresent_start conference⟩ (noneMissing_start conference)
      inOrder
    · have effect := countConferenceFrame_effect counted
      exact ⟨invariant.1.step effect, invariant.2.step effect inOrder⟩
    · exact none.step_iff invariant.1 invariant.2 (countConferenceFrame_effect counted) inOrder

end Runs

/-! ### Two senders -/

def quietConference : ConferenceState :=
  ⟨∅, ∅, .default⟩

def segmentOf (participantId : String) (segmentNumber : Nat) : KaigiFrame :=
  .videoSegment { segmentOfAlice with
    participantId := participantId
    segmentNumber := segmentNumber }

/-- Alice has been sending for longer than bob. -/
def lateSegments : List (Nat × KaigiFrame) :=
  [(1000, segmentOf "bob@sora" 0), (1010, segmentOf "alice@sora" 500),
    (1100, segmentOf "bob@sora" 1), (1110, segmentOf "alice@sora" 501)]

def evenSegments : List (Nat × KaigiFrame) :=
  [(1000, segmentOf "bob@sora" 0), (1010, segmentOf "alice@sora" 0),
    (1100, segmentOf "bob@sora" 1), (1110, segmentOf "alice@sora" 1)]

theorem missingPackets_agree_even :
    (∀ state ∈ statesOf lenientLibraries quietConference evenSegments, Agrees state) ∧
      ∀ state ∈ statesOf lenientLibraries quietConference evenSegments, NoneMissing state := by
  have inOrder : EveryChange lenientLibraries InOrder quietConference evenSegments := by
    decide +kernel
  have fits : EveryChange lenientLibraries Fits quietConference evenSegments := by
    decide +kernel
  obtain ⟨agree, none⟩ :=
    missingPackets_agree_iff lenientLibraries quietConference evenSegments
  exact ⟨(agree (unsaturated_of_inOrder inOrder (by decide +kernel))).mpr fits,
    (none inOrder).mpr fits⟩

/-- Nobody loses anything, and the joint flow misses what alice sent before. -/
theorem jointFlow_misses :
    EveryChange lenientLibraries InOrder quietConference lateSegments ∧
    (∀ state ∈ statesOf lenientLibraries quietConference lateSegments, Unsaturated state) ∧
    ∃ state ∈ statesOf lenientLibraries quietConference lateSegments,
      (state.telemetry.flow .video).missingPackets = 499 ∧ state.missingOfAll .video = 0 := by
  have inOrder : EveryChange lenientLibraries InOrder quietConference lateSegments := by
    decide +kernel
  exact ⟨inOrder, unsaturated_of_inOrder inOrder (by decide +kernel), by decide +kernel⟩

end Kaigi.Client
