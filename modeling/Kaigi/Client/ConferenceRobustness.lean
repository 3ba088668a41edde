import Kaigi.Client.ConferenceReader
import Kaigi.Hub.HexRelays
import Kaigi.Hub.KeyEpochs

/-!
# Robustness of the conference reader

The reader goes on after a frame of the hub exactly when the media in it decode. The hub
looks into none of them, so that every participant can end the readers of the others.
-/

set_option autoImplicit false

namespace Kaigi.Client

open Collections Wire Hub Interleaving

section Libraries

variable {SegmentBundle EncodedSegment AudioFrame AudioDecoder : Type}
  (libraries : MediaLibraries SegmentBundle EncodedSegment AudioFrame AudioDecoder)

/-! ### What decodes -/

/-- The payload is a segment bundle that validates and decodes. -/
def VideoDecodes (payload : List UInt8) : Prop :=
  ∃ bundle encoded dims frameDurationNs frames,
    libraries.decodeSegmentBundle payload = .ok bundle ∧
    libraries.intoSegment bundle = .ok (encoded, dims, frameDurationNs) ∧
    libraries.decodeSegment dims frameDurationNs encoded = .ok frames

/-- The payload is an audio frame, and it decodes if the layout is known. -/
def AudioDecodes (packet : AudioPacketFrame) : Prop :=
  ∃ frame, libraries.decodeAudioFrame packet.payload = .ok frame ∧
    ∀ layout, audioLayout packet.channels = some layout → ∃ decoder pcm,
      libraries.newAudioDecoder ⟨packet.sampleRate, packet.frameSamples, layout⟩ = .ok decoder ∧
      libraries.decodeFrame decoder frame = .ok pcm

/-- What the plaintext carries, if it carries anything, decodes. -/
def PlaintextDecodes (kind : AnonymousPayloadKind) (plaintext : List UInt8) : Prop :=
  match kind with
  | .videoSegment => ∀ segment, libraries.decodeVideoSegmentFrame plaintext = .ok segment →
      VideoDecodes libraries segment.payload
  | .audioPacket => ∀ packet, libraries.decodeAudioPacketFrame plaintext = .ok packet →
      AudioDecodes libraries packet
  | .control => True

/-- The texts have no prefix, the ciphertext is authentic, and its plaintext decodes. -/
structure Opens (key : Vector UInt8 32) (enc : AnonEncryptedPayloadFrame) : Prop where
  bare : Bare (.anonEncryptedPayload enc)
  authentic : ∀ nonce ciphertext, decodeHexVec enc.nonceHex = some nonce →
    decodeHexVec enc.ciphertextHex = some ciphertext → ∃ plaintext,
      libraries.decrypt key nonce ciphertext (anonGroupAad enc.senderHandle enc) =
        some plaintext ∧ PlaintextDecodes libraries enc.kind plaintext

/-- The media in the frame decode; a group payload is of no interest without a key or when
it is older than the key. -/
def Readable (group : AnonGroupMediaState) : KaigiFrame → Prop
  | .videoSegment segment => VideoDecodes libraries segment.payload
  | .audioPacket packet => AudioDecodes libraries packet
  | .anonEncryptedPayload enc => ∀ key, group.key = some key → group.epoch ≠ 0 →
      group.epoch ≤ enc.epoch → Opens libraries key enc
  | _ => True

variable {libraries}

section Results

variable {Value Result Failure Other : Type}

/-- The computation does not fail. -/
def Succeeds (result : Except Failure Value) : Prop :=
  ∃ value, result = .ok value

theorem succeeds_ok (value : Value) : Succeeds (.ok value : Except Failure Value) :=
  ⟨value, rfl⟩

theorem not_succeeds_error (failure : Failure) :
    ¬ Succeeds (.error failure : Except Failure Value) := by
  rintro ⟨_, same⟩
  cases same

theorem succeeds_bind {first : Except Failure Value} {rest : Value → Except Failure Result} :
    Succeeds (first >>= rest) ↔ ∃ value, first = .ok value ∧ Succeeds (rest value) := by
  cases first with
  | error failure =>
      refine iff_of_false (not_succeeds_error failure) ?_
      rintro ⟨_, same, _⟩
      cases same
  | ok value =>
      constructor
      · exact fun succeeds => ⟨value, rfl, succeeds⟩
      · rintro ⟨_, same, succeeds⟩
        cases same
        exact succeeds

theorem mapError_eq_ok {first : Except Failure Value} {change : Failure → Other} {value : Value} :
    first.mapError change = .ok value ↔ first = .ok value := by
  cases first with
  | error failure =>
      constructor <;>
      · intro same
        cases same
  | ok found =>
      constructor <;>
      · intro same
        cases same
        rfl

/-- What cannot fail may follow. -/
theorem succeeds_bind_sure {first : Except Failure Value} {rest : Value → Except Failure Result}
    (sure : ∀ value, Succeeds (rest value)) : Succeeds (first >>= rest) ↔ Succeeds first := by
  rw [succeeds_bind]
  exact exists_congr fun value => and_iff_left (sure value)

end Results

/-! ### What the reader does -/

theorem decodeAsciiVideoSegment_iff {segment : VideoSegmentFrame} {atMs : Nat} :
    Succeeds (decodeAsciiVideoSegment libraries segment atMs) ↔
      VideoDecodes libraries segment.payload := by
  unfold decodeAsciiVideoSegment
  simp only [succeeds_bind, mapError_eq_ok, Prod.exists, VideoDecodes]
  constructor
  · rintro ⟨bundle, read, encoded, dims, frameDurationNs, valid, frames, decoded, _⟩
    exact ⟨bundle, encoded, dims, frameDurationNs, frames, read, valid, decoded⟩
  · rintro ⟨bundle, encoded, dims, frameDurationNs, frames, read, valid, decoded⟩
    exact ⟨bundle, read, encoded, dims, frameDurationNs, valid, frames, decoded, succeeds_ok _⟩

theorem readVideoSegment_iff {atMs : Nat} {state : ConferenceState} {segment : VideoSegmentFrame} :
    Succeeds (readVideoSegment libraries atMs state segment) ↔
      VideoDecodes libraries segment.payload := by
  rw [← decodeAsciiVideoSegment_iff]
  refine succeeds_bind_sure fun decoded => ?_
  cases decoded with
  | none => exact succeeds_ok state
  | some decoded => exact succeeds_ok _

theorem decodeAudioLevel_iff {packet : AudioPacketFrame} :
    Succeeds (decodeAudioLevel libraries packet) ↔ AudioDecodes libraries packet := by
  unfold decodeAudioLevel
  simp only [succeeds_bind, mapError_eq_ok]
  refine exists_congr fun frame => and_congr_right fun _ => ?_
  cases audioLayout packet.channels with
  | none => exact iff_of_true (succeeds_ok none) fun _ unknown => by cases unknown
  | some layout =>
      simp only [succeeds_bind, mapError_eq_ok, Option.some.injEq, forall_eq']
      refine exists_congr fun decoder => ?_
      rw [← exists_and_left]
      refine exists_congr fun pcm => and_congr_right fun _ => and_iff_left ?_
      split
      · exact succeeds_ok none
      · exact succeeds_ok _

theorem readAudioPacket_iff {atMs : Nat} {state : ConferenceState} {packet : AudioPacketFrame} :
    Succeeds (readAudioPacket libraries atMs state packet) ↔ AudioDecodes libraries packet := by
  rw [← decodeAudioLevel_iff]
  refine succeeds_bind_sure fun level => ?_
  cases level with
  | none => exact succeeds_ok state
  | some level => exact succeeds_ok _

theorem readAnonPlaintext_iff {atMs : Nat} {state : ConferenceState}
    {kind : AnonymousPayloadKind} {plaintext : List UInt8} :
    Succeeds (readAnonPlaintext libraries atMs state kind plaintext) ↔
      PlaintextDecodes libraries kind plaintext := by
  unfold readAnonPlaintext PlaintextDecodes
  cases kind with
  | control => exact iff_of_true (succeeds_ok state) trivial
  | videoSegment =>
      cases libraries.decodeVideoSegmentFrame plaintext with
      | error => exact iff_of_true (succeeds_ok state) fun _ same => by cases same
      | ok segment => simpa using readVideoSegment_iff
  | audioPacket =>
      cases libraries.decodeAudioPacketFrame plaintext with
      | error => exact iff_of_true (succeeds_ok state) fun _ same => by cases same
      | ok packet => simpa using readAudioPacket_iff

/-- A payload whose texts were checked is decrypted if they are bare and it is authentic. -/
theorem decryptAnonGroupPayload_iff {key : Vector UInt8 32} {enc : AnonEncryptedPayloadFrame}
    (checked : HexChecked (.anonEncryptedPayload enc)) {holds : List UInt8 → Prop} :
    (∃ plaintext, decryptAnonGroupPayload libraries key enc.senderHandle enc = .ok plaintext ∧
      holds plaintext) ↔
    Bare (.anonEncryptedPayload enc) ∧ ∀ nonce ciphertext,
      decodeHexVec enc.nonceHex = some nonce → decodeHexVec enc.ciphertextHex = some ciphertext →
        ∃ plaintext, libraries.decrypt key nonce ciphertext
          (anonGroupAad enc.senderHandle enc) = some plaintext ∧ holds plaintext := by
  rw [← checked.decodes_iff]
  unfold decryptAnonGroupPayload
  constructor
  · rintro ⟨plaintext, opened, holds⟩
    split at opened
    · cases opened
    · next nonce nonceRead =>
        split at opened
        · cases opened
        · next size =>
            split at opened
            · cases opened
            · next ciphertext ciphertextRead =>
                split at opened
                · cases opened
                · next decrypted =>
                    cases opened
                    refine ⟨⟨List.forall_mem_nil _,
                      List.forall_mem_singleton.mpr ⟨nonce, nonceRead, not_not.mp size⟩,
                      List.forall_mem_singleton.mpr (by rw [ciphertextRead]; rfl)⟩, ?_⟩
                    rintro otherNonce otherCiphertext sameNonce sameCiphertext
                    rw [nonceRead] at sameNonce
                    rw [ciphertextRead] at sameCiphertext
                    cases sameNonce
                    cases sameCiphertext
                    exact ⟨plaintext, decrypted, holds⟩
  · rintro ⟨decodes, authentic⟩
    obtain ⟨nonce, nonceRead, size⟩ := decodes.nonces _ (List.mem_singleton.mpr rfl)
    obtain ⟨ciphertext, ciphertextRead⟩ :=
      Option.isSome_iff_exists.mp (decodes.ciphertexts _ (List.mem_singleton.mpr rfl))
    obtain ⟨plaintext, decrypted, holds⟩ := authentic nonce ciphertext nonceRead ciphertextRead
    refine ⟨plaintext, ?_, holds⟩
    rw [nonceRead]
    dsimp only
    rw [if_neg (not_not.mpr size), ciphertextRead]
    dsimp only
    rw [decrypted]

theorem readAnonEncryptedPayload_iff {atMs : Nat} {state : ConferenceState}
    {enc : AnonEncryptedPayloadFrame} (checked : HexChecked (.anonEncryptedPayload enc)) :
    Succeeds (readAnonEncryptedPayload libraries atMs state enc) ↔
      Readable libraries state.anonGroup (.anonEncryptedPayload enc) := by
  unfold readAnonEncryptedPayload Readable
  cases state.anonGroup.key with
  | none => exact iff_of_true (succeeds_ok state) fun _ none => by cases none
  | some key =>
      dsimp only
      split
      · next stale =>
          refine iff_of_true (succeeds_ok state) fun _ _ known fresh => ?_
          omega
      · next fresh =>
          rw [succeeds_bind]
          simp only [readAnonPlaintext_iff]
          rw [decryptAnonGroupPayload_iff checked]
          simp only [not_or, not_lt] at fresh
          constructor
          · rintro ⟨bare, authentic⟩ _ same _ _
            cases same
            exact ⟨bare, authentic⟩
          · intro readable
            exact ⟨(readable key rfl fresh.1 fresh.2.2).bare,
              (readable key rfl fresh.1 fresh.2.2).authentic⟩

/-- The wrap of a group key is in digits, as the hub writes it. -/
theorem deriveAnonGroupKey_digits {keyWrapHex : String} {bytes : List UInt8}
    (written : keyWrapHex = hexEncode bytes) : deriveAnonGroupKey libraries keyWrapHex =
      .ok (libraries.blake3 ("kaigi-anon-group-media-v1".toUTF8.toList ++ bytes)) := by
  have read : decodeHexVec keyWrapHex = some bytes := by
    rw [decodeHexVec, written, trim_hexEncode, hexDecode_hexEncode]
  rw [deriveAnonGroupKey, read]

theorem readAnonGroupKeyRotate_digits {update : AnonGroupKeyRotateFrame} {bytes : List UInt8}
    (written : update.keyWrapHex = hexEncode bytes) :
    readAnonGroupKeyRotate libraries update = .ok ⟨update.epoch, some (libraries.blake3
      ("kaigi-anon-group-media-v1".toUTF8.toList ++ bytes))⟩ := by
  rw [readAnonGroupKeyRotate, deriveAnonGroupKey_digits written]
  rfl

/-- In every run of a hub, the reader goes on after a relayed frame exactly when the media in
it decode. -/
theorem conferenceReader_goesOn_iff {hub : HubState} {history : List Event} {system : System}
    {event : Event} {frame : KaigiFrame} (run : Run hub history system)
    (happened : event ∈ history) (fans : event.op = .fanout frame) (atMs : Nat)
    (state : ConferenceState) :
    Succeeds (readConferenceFrame libraries atMs state frame) ↔
      Readable libraries state.anonGroup frame := by
  cases frame with
  | videoSegment segment => exact readVideoSegment_iff
  | audioPacket packet => exact readAudioPacket_iff
  | anonEncryptedPayload enc =>
      exact readAnonEncryptedPayload_iff
        (run.hexChecked happened (by rw [fans]; rfl)).1
  | anonGroupKeyRotate update =>
      have checked := (run.hexChecked happened (by rw [fans]; rfl)).1
      obtain ⟨bytes, written⟩ := checked.wraps _ (List.mem_singleton.mpr rfl)
      refine iff_of_true ?_ trivial
      rw [readConferenceFrame, readAnonGroupKeyRotate_digits written]
      exact succeeds_ok _
  | event change =>
      cases change with
      | left left => exact iff_of_true (succeeds_ok _) trivial
      | _ => exact iff_of_true (succeeds_ok state) trivial
  | _ => exact iff_of_true (succeeds_ok state) trivial

end Libraries

/-! ### Examples -/

def libraryKey : Vector UInt8 32 := Vector.replicate 32 0

/-- Libraries for which everything decodes to something. -/
def lenientLibraries : MediaLibraries Unit Unit Unit Unit where
  decodeSegmentBundle _ := .ok ()
  intoSegment _ := .ok ((), ⟨96, 54⟩, 100000000)
  decodeSegment _ _ _ := .ok [[0]]
  decodeAudioFrame _ := .ok ()
  newAudioDecoder _ := .ok ()
  decodeFrame _ _ := .ok []
  decodeVideoSegmentFrame _ := .error "unexpected end of input"
  decodeAudioPacketFrame _ := .error "unexpected end of input"
  decrypt _ _ _ _ := some []
  blake3 _ := libraryKey

/-- Libraries for which one byte is no segment bundle and no authentic ciphertext. -/
def strictLibraries : MediaLibraries Unit Unit Unit Unit where
  decodeSegmentBundle _ := .error "unexpected end of input"
  intoSegment _ := .error "missing chunk"
  decodeSegment _ _ _ := .error "bitstream"
  decodeAudioFrame _ := .error "unexpected end of input"
  newAudioDecoder _ := .error "unsupported sample rate"
  decodeFrame _ _ := .error "bitstream"
  decodeVideoSegmentFrame _ := .error "unexpected end of input"
  decodeAudioPacketFrame _ := .error "unexpected end of input"
  decrypt _ _ _ _ := none
  blake3 _ := libraryKey

def segmentOfAlice : VideoSegmentFrame where
  sentAtMs := 3
  participantId := "alice@sora"
  segmentNumber := 1
  frameWidth := 96
  frameHeight := 54
  frameDurationNs := 100000000
  payload := [0]

/-- The owl seals a payload whose nonce has a prefix. -/
def payloadOfOwl : AnonEncryptedPayloadFrame where
  sentAtMs := 3
  senderHandle := "owl"
  epoch := 9
  kind := .videoSegment
  nonceHex := "0x000000000000000000000000000000000000000000000000"
  ciphertextHex := "00"

def segmentHub : HubState :=
  scriptedHub [helloAs "alice@sora", helloAs "bob@sora", keyEpochOfAlice 1,
    .videoSegment segmentOfAlice]

/-- Alice and bob join; alice publishes a key and sends a segment. -/
def segmentScript : List Move :=
  [.connect 1 0, .connect 2 0] ++ sendsFrame 1 0 1 28 ++ sendsFrame 2 1 1 30 ++
    sendsFrame 1 2 1 8 ++ sendsFrame 1 3 1 9

def sealedHub : HubState :=
  scriptedHub [anonHelloAs "fox", anonHelloAs "owl", .anonEncryptedPayload payloadOfOwl]

/-- The fox and the owl join; the owl sends its payload. -/
def sealedScript : List Move :=
  [.connect 1 0, .connect 2 0] ++ sendsFrame 1 0 1 14 ++ sendsFrame 2 1 1 14 ++ sendsFrame 2 2 1 7

def relaysSegment : Operation → Bool
  | .fanout (.videoSegment _) => true
  | _ => false

def relaysPrefixed : Operation → Bool
  | .fanout (.anonEncryptedPayload enc) =>
      enc.epoch == 9 && stripHexPrefix enc.nonceHex != enc.nonceHex
  | _ => false

theorem relaysSegment_spec {op : Operation} (relays : relaysSegment op = true) :
    ∃ segment, op = .fanout (.videoSegment segment) := by
  unfold relaysSegment at relays
  split at relays
  · exact ⟨_, rfl⟩
  · cases relays

theorem relaysPrefixed_spec {op : Operation} (relays : relaysPrefixed op = true) :
    ∃ enc, op = .fanout (.anonEncryptedPayload enc) ∧ enc.epoch = 9 ∧
      ¬ Bare (.anonEncryptedPayload enc) := by
  unfold relaysPrefixed at relays
  split at relays
  · next enc =>
      obtain ⟨epoch, changes⟩ := Bool.and_eq_true_iff.mp relays
      exact ⟨enc, rfl, eq_of_beq epoch, fun bare =>
        (bne_iff_ne.mp changes) (bare.nonces enc.nonceHex (List.mem_singleton.mpr rfl))⟩
  · cases relays

theorem segmentHub_relays : ∃ history system, Run segmentHub history system ∧
    ∃ event ∈ history, ∃ segment, event.op = .fanout (.videoSegment segment) := by
  obtain ⟨history, system, run, event, happened, relays⟩ :=
    Run.of_played_event segmentHub segmentScript relaysSegment (by decide +kernel)
  exact ⟨history, system, run, event, happened, relaysSegment_spec relays⟩

theorem sealedHub_relays : ∃ history system, Run sealedHub history system ∧
    ∃ event ∈ history, ∃ enc, event.op = .fanout (.anonEncryptedPayload enc) ∧ enc.epoch = 9 ∧
      ¬ Bare (.anonEncryptedPayload enc) := by
  obtain ⟨history, system, run, event, happened, relays⟩ :=
    Run.of_played_event sealedHub sealedScript relaysPrefixed (by decide +kernel)
  exact ⟨history, system, run, event, happened, relaysPrefixed_spec relays⟩

/-- The payload of the owl is no matter for a reader whose key is of a later epoch. -/
theorem conferenceReader_goesOn_iff_older :
    ∃ history system, Run sealedHub history system ∧ ∃ event ∈ history, ∃ enc,
      event.op = .fanout (.anonEncryptedPayload enc) ∧ ∀ atMs state,
        state.anonGroup = ⟨10, some libraryKey⟩ →
          Succeeds (readConferenceFrame strictLibraries atMs state
            (.anonEncryptedPayload enc)) := by
  obtain ⟨history, system, run, event, happened, enc, fans, epoch, _⟩ := sealedHub_relays
  refine ⟨history, system, run, event, happened, enc, fans, fun atMs state group => ?_⟩
  apply (conferenceReader_goesOn_iff run happened fans atMs state).mpr
  intro key _ _ fresh
  rw [group, epoch] at fresh
  exact absurd fresh (by decide)

/-- A segment that does not decode ends the readers of the room, and so does a payload with a
prefix before its nonce. -/
theorem conferenceReader_ends :
    (∃ history system, Run segmentHub history system ∧ ∃ event ∈ history, ∃ segment,
      event.op = .fanout (.videoSegment segment) ∧ ∀ atMs state,
        ¬ Succeeds (readConferenceFrame strictLibraries atMs state (.videoSegment segment))) ∧
    ∃ history system, Run sealedHub history system ∧ ∃ event ∈ history, ∃ enc,
      event.op = .fanout (.anonEncryptedPayload enc) ∧ ∀ atMs state,
        state.anonGroup = ⟨2, some libraryKey⟩ →
          ¬ Succeeds (readConferenceFrame lenientLibraries atMs state
            (.anonEncryptedPayload enc)) := by
  constructor
  · obtain ⟨history, system, run, event, happened, segment, fans⟩ := segmentHub_relays
    refine ⟨history, system, run, event, happened, segment, fans, fun atMs state succeeds => ?_⟩
    obtain ⟨_, _, _, _, _, decodes, _⟩ := readVideoSegment_iff.mp succeeds
    cases decodes
  · obtain ⟨history, system, run, event, happened, enc, fans, epoch, marked⟩ := sealedHub_relays
    have checked := (run.hexChecked happened (by rw [fans]; rfl)).1
    refine ⟨history, system, run, event, happened, enc, fans, fun atMs state group succeeds => ?_⟩
    have readable := (readAnonEncryptedPayload_iff checked).mp succeeds
    rw [group] at readable
    exact marked (readable libraryKey rfl (by decide) (by rw [epoch]; decide)).bare

end Kaigi.Client
