import Kaigi.Client.Hex
import Mathlib.Algebra.Ring.Nat

/-!
# The reader of a conference

`room_chat_conference` spawns a task that reads the frames of the hub, decodes the media
in them and keeps the latest picture and level of everybody. An error ends the task.
The counters for the dashboard and the printed lines are left out.
-/

set_option autoImplicit false

namespace Kaigi.Client

open Collections Wire Hub

structure FrameDimensions where
  width : Nat
  height : Nat

inductive AudioLayout where
  | mono
  | stereo
  | firstOrderAmbisonics

/-- The fields that the reader sets; the others have the defaults of the codec. -/
structure AudioEncoderConfig where
  sampleRate : Nat
  frameSamples : Nat
  layout : AudioLayout

/-- What the reader takes from its libraries: the frame and media codecs, the cipher
XChaCha20-Poly1305 and BLAKE3. A decoded segment is the list of its luma planes. -/
structure MediaLibraries (SegmentBundle EncodedSegment AudioFrame AudioDecoder : Type) where
  decodeSegmentBundle : List UInt8 → Except String SegmentBundle
  intoSegment : SegmentBundle → Except String (EncodedSegment × FrameDimensions × Nat)
  decodeSegment : FrameDimensions → Nat → EncodedSegment → Except String (List (List UInt8))
  decodeAudioFrame : List UInt8 → Except String AudioFrame
  newAudioDecoder : AudioEncoderConfig → Except String AudioDecoder
  decodeFrame : AudioDecoder → AudioFrame → Except String (List Int)
  decodeVideoSegmentFrame : List UInt8 → Except String VideoSegmentFrame
  decodeAudioPacketFrame : List UInt8 → Except String AudioPacketFrame
  /-- By key, nonce, message and associated data. -/
  decrypt : Vector UInt8 32 → List UInt8 → List UInt8 → List UInt8 → Option (List UInt8)
  blake3 : List UInt8 → Vector UInt8 32

structure AsciiVideoFrame where
  width : Nat
  height : Nat
  luma : List UInt8
  updatedAtMs : Nat

structure ConferenceAudioStat where
  rms : Nat
  updatedAtMs : Nat

structure AnonGroupMediaState where
  epoch : Nat
  key : Option (Vector UInt8 32)

/-- The group state that the tasks of a conference start with. -/
def AnonGroupMediaState.default : AnonGroupMediaState where
  epoch := 0
  key := none

/-- What the reader writes. -/
structure ConferenceState where
  videoFrames : HashMap String AsciiVideoFrame
  audioLevels : HashMap String ConferenceAudioStat
  anonGroup : AnonGroupMediaState

section Reader

variable {SegmentBundle EncodedSegment AudioFrame AudioDecoder : Type}
  (libraries : MediaLibraries SegmentBundle EncodedSegment AudioFrame AudioDecoder)

def decodeAsciiVideoSegment (segment : VideoSegmentFrame) (atMs : Nat) :
    Except String (Option AsciiVideoFrame) := do
  let bundle ← (libraries.decodeSegmentBundle segment.payload).mapError
    (s!"decode segment bundle: {·}")
  let (encoded, dims, frameDurationNs) ← (libraries.intoSegment bundle).mapError
    (s!"segment bundle validation failed: {·}")
  let frames ← (libraries.decodeSegment dims frameDurationNs encoded).mapError
    (s!"decode baseline segment: {·}")
  return frames.head?.map fun luma => {
    width := dims.width
    height := dims.height
    luma := luma
    updatedAtMs := atMs }

def audioLayout : Nat → Option AudioLayout
  | 1 => some .mono
  | 2 => some .stereo
  | 4 => some .firstOrderAmbisonics
  | _ => none

def decodeAudioLevel (packet : AudioPacketFrame) : Except String (Option Nat) := do
  let frame ← (libraries.decodeAudioFrame packet.payload).mapError (s!"decode audio frame: {·}")
  match audioLayout packet.channels with
  | none => return none
  | some layout =>
    let decoder ← (libraries.newAudioDecoder {
      sampleRate := packet.sampleRate
      frameSamples := packet.frameSamples
      layout := layout }).mapError (s!"audio decoder: {·}")
    let pcm ← (libraries.decodeFrame decoder frame).mapError (s!"audio decode: {·}")
    if pcm.isEmpty then return none
    else
      let sum := (pcm.map Int.natAbs).sum
      return some (min (sum / pcm.length) 65535)

def deriveAnonGroupKey (keyWrapHex : String) : Except String (Vector UInt8 32) :=
  match decodeHexVec keyWrapHex with
  | none => .error "decode hex"
  | some bytes => .ok (libraries.blake3 ("kaigi-anon-group-media-v1".toUTF8.toList ++ bytes))

def anonPayloadKindTag : AnonymousPayloadKind → String
  | .control => "control"
  | .videoSegment => "video"
  | .audioPacket => "audio"

/-- `u64::to_le_bytes`. -/
def toLeBytes (value : Nat) : List UInt8 :=
  (List.range 8).map fun place => UInt8.ofNat (value / 256 ^ place)

def anonGroupAad (senderHandle : String) (frame : AnonEncryptedPayloadFrame) : List UInt8 :=
  "kaigi-anon-group-envelope-v1".toUTF8.toList ++ senderHandle.toUTF8.toList ++
    toLeBytes frame.epoch ++ (anonPayloadKindTag frame.kind).toUTF8.toList

def decryptAnonGroupPayload (key : Vector UInt8 32) (senderHandle : String)
    (frame : AnonEncryptedPayloadFrame) : Except String (List UInt8) :=
  match decodeHexVec frame.nonceHex with
  | none => .error "decode hex"
  | some nonce =>
    if nonce.length ≠ 24 then .error "anonymous payload nonce must be 24 bytes"
    else
      match decodeHexVec frame.ciphertextHex with
      | none => .error "decode hex"
      | some ciphertext =>
        match libraries.decrypt key nonce ciphertext (anonGroupAad senderHandle frame) with
        | none => .error "decrypt anonymous group payload"
        | some plaintext => .ok plaintext

def readVideoSegment (atMs : Nat) (state : ConferenceState) (segment : VideoSegmentFrame) :
    Except String ConferenceState := do
  match ← decodeAsciiVideoSegment libraries segment atMs with
  | none => return state
  | some decoded =>
    return { state with videoFrames := state.videoFrames.put segment.participantId decoded }

def readAudioPacket (atMs : Nat) (state : ConferenceState) (packet : AudioPacketFrame) :
    Except String ConferenceState := do
  match ← decodeAudioLevel libraries packet with
  | none => return state
  | some level =>
    return { state with audioLevels := state.audioLevels.put packet.participantId ⟨level, atMs⟩ }

/-- What the plaintext of a group payload does; one that does not decode is ignored. -/
def readAnonPlaintext (atMs : Nat) (state : ConferenceState) (kind : AnonymousPayloadKind)
    (plaintext : List UInt8) : Except String ConferenceState :=
  match kind with
  | .videoSegment =>
      match libraries.decodeVideoSegmentFrame plaintext with
      | .ok segment => readVideoSegment libraries atMs state segment
      | .error _ => .ok state
  | .audioPacket =>
      match libraries.decodeAudioPacketFrame plaintext with
      | .ok packet => readAudioPacket libraries atMs state packet
      | .error _ => .ok state
  | .control => .ok state

def readAnonEncryptedPayload (atMs : Nat) (state : ConferenceState)
    (enc : AnonEncryptedPayloadFrame) : Except String ConferenceState :=
  match state.anonGroup.key with
  | none => .ok state
  | some key =>
    if state.anonGroup.epoch = 0 ∨ enc.epoch = 0 ∨ enc.epoch < state.anonGroup.epoch then .ok state
    else do
      let plaintext ← decryptAnonGroupPayload libraries key enc.senderHandle enc
      readAnonPlaintext libraries atMs state enc.kind plaintext

/-- A rotation replaces the group key, whatever its epoch is. -/
def readAnonGroupKeyRotate (update : AnonGroupKeyRotateFrame) :
    Except String AnonGroupMediaState := do
  let key ← deriveAnonGroupKey libraries update.keyWrapHex
  return { epoch := update.epoch, key := some key }

/-- One frame of the reader; an error is the end of the task. -/
def readConferenceFrame (atMs : Nat) (state : ConferenceState) :
    KaigiFrame → Except String ConferenceState
  | .event (.left left) => .ok { state with
      videoFrames := state.videoFrames.remove left.participantId
      audioLevels := state.audioLevels.remove left.participantId }
  | .videoSegment segment => readVideoSegment libraries atMs state segment
  | .audioPacket packet => readAudioPacket libraries atMs state packet
  | .anonGroupKeyRotate update => do
      let anonGroup ← readAnonGroupKeyRotate libraries update
      return { state with anonGroup := anonGroup }
  | .anonEncryptedPayload enc => readAnonEncryptedPayload libraries atMs state enc
  | _ => .ok state

end Reader

end Kaigi.Client
