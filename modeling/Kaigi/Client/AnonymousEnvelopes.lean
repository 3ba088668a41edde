import Kaigi.Client.ConferenceReader
import Kaigi.Text.Suffixes

/-!
# Keys and associated data of anonymous payloads

A group payload is sealed with associated data that name its sender, epoch and kind, and the
key of a pairwise payload is derived from both handles, the epoch and the kind. Either way the
parts are joined without separators.
-/

set_option autoImplicit false

namespace Kaigi.Client

open Wire Hub Text

/-! ### Bytes -/

theorem toList_loop (bytes : ByteArray) (index : Nat) (out : List UInt8) :
    ByteArray.toList.loop bytes index out = out.reverse ++ bytes.data.toList.drop index := by
  induction index, out using ByteArray.toList.loop.induct bytes with
  | case1 index out inside ih =>
      have here : bytes.data.toList.drop index =
          bytes.get! index :: bytes.data.toList.drop (index + 1) := by
        have found : bytes.get! index = bytes.data[index] := getElem!_pos bytes.data index inside
        rw [found]
        exact drop_bytes inside
      rw [ByteArray.toList.loop, if_pos inside, ih, here, List.reverse_cons, List.append_assoc]
      rfl
  | case2 index out outside =>
      have past : bytes.data.toList.length ≤ index := Nat.le_of_not_lt outside
      rw [ByteArray.toList.loop, if_neg outside, List.drop_of_length_le past, List.append_nil]

theorem toList_toUTF8 (text : String) : text.toUTF8.toList = text.toByteArray.data.toList := by
  rw [ByteArray.toList, toList_loop]
  rfl

theorem toUTF8_inj {text other : String} (same : text.toUTF8.toList = other.toUTF8.toList) :
    text = other := by
  rw [toList_toUTF8, toList_toUTF8] at same
  exact String.toByteArray_inj.mp (ByteArray.ext (Array.ext' same))

theorem toUTF8_append (text other : String) :
    text.toUTF8.toList ++ other.toUTF8.toList = (text ++ other).toUTF8.toList := by
  simp only [toList_toUTF8, String.toByteArray_append, ByteArray.toList_data_append]

@[simp] theorem length_toLeBytes (value : Nat) : (toLeBytes value).length = 8 := by
  rw [toLeBytes, List.length_map, List.length_range]

/-- Numbers below a power of the base are the same when all of their digits are. -/
theorem eq_of_digits {base count value other : Nat} (small : value < base ^ count)
    (otherSmall : other < base ^ count)
    (digits : ∀ place < count, value / base ^ place % base = other / base ^ place % base) :
    value = other := by
  induction count generalizing value other with
  | zero =>
      rw [Nat.pow_zero] at small otherSmall
      omega
  | succ count ih =>
      have rest : value / base = other / base := by
        rw [Nat.pow_succ] at small otherSmall
        refine ih (Nat.div_lt_of_lt_mul (Nat.mul_comm _ _ ▸ small))
          (Nat.div_lt_of_lt_mul (Nat.mul_comm _ _ ▸ otherSmall)) fun place inside => ?_
        have shifted := digits (place + 1) (Nat.succ_lt_succ inside)
        rwa [Nat.pow_succ', ← Nat.div_div_eq_div_mul, ← Nat.div_div_eq_div_mul] at shifted
      have last := digits 0 count.succ_pos
      rw [Nat.pow_zero, Nat.div_one, Nat.div_one] at last
      rw [← Nat.div_add_mod value base, ← Nat.div_add_mod other base, rest, last]

theorem toLeBytes_inj {value other : Nat} (small : value < UInt64.size)
    (otherSmall : other < UInt64.size) (same : toLeBytes value = toLeBytes other) :
    value = other := by
  have fits : value < 256 ^ 8 ∧ other < 256 ^ 8 := ⟨small, otherSmall⟩
  refine eq_of_digits fits.1 fits.2 fun place inside => ?_
  have byte := List.map_inj_left.mp same place (List.mem_range.mpr inside)
  simpa using congrArg UInt8.toNat byte

/-! ### Pairwise keys -/

def encryptedKindTag : EncryptedControlKind → String
  | .chat => "chat"
  | .participantState => "participant_state"
  | .moderation => "moderation"
  | .command => "command"
  | .escrowHeartbeat => "escrow_heartbeat"

/-- What the pairwise keys take from their libraries: X25519 and BLAKE3. -/
structure PairwiseLibraries (Secret : Type) where
  diffieHellman : Secret → PublicKey → Vector UInt8 32
  blake3 : List UInt8 → Vector UInt8 32

/-- What goes into the hasher, one `update` after the other. -/
def pairwiseKeyInput (shared : Vector UInt8 32) (senderHandle recipientHandle : String)
    (epoch : UInt64) (kind : EncryptedControlKind) : List UInt8 :=
  "kaigi:anon:pairwise:v1".toUTF8.toList ++ shared.toList ++ senderHandle.toUTF8.toList ++
    recipientHandle.toUTF8.toList ++ toLeBytes epoch.toNat ++
    (encryptedKindTag kind).toUTF8.toList

def derivePairwiseKey {Secret : Type} (libraries : PairwiseLibraries Secret) (localSecret : Secret)
    (peerPublic : PublicKey) (senderHandle recipientHandle : String) (epoch : UInt64)
    (kind : EncryptedControlKind) : Vector UInt8 32 :=
  libraries.blake3 (pairwiseKeyInput (libraries.diffieHellman localSecret peerPublic)
    senderHandle recipientHandle epoch kind)

/-- What a pairwise key is derived for. -/
structure PairwiseUse where
  senderHandle : String
  recipientHandle : String
  epoch : UInt64
  kind : EncryptedControlKind
  deriving DecidableEq

namespace PairwiseUse

variable (use other : PairwiseUse)

def input (shared : Vector UInt8 32) : List UInt8 :=
  pairwiseKeyInput shared use.senderHandle use.recipientHandle use.epoch use.kind

def key {Secret : Type} (libraries : PairwiseLibraries Secret) (localSecret : Secret)
    (peerPublic : PublicKey) : Vector UInt8 32 :=
  derivePairwiseKey libraries localSecret peerPublic use.senderHandle use.recipientHandle
    use.epoch use.kind

/-- The handles of the two uses are the same text when they are joined. -/
structure Alike : Prop where
  handles : use.senderHandle ++ use.recipientHandle =
    other.senderHandle ++ other.recipientHandle
  epoch : use.epoch = other.epoch
  kind : use.kind = other.kind

end PairwiseUse

theorem suffixFree_encryptedKindTag :
    SuffixFree fun kind => (encryptedKindTag kind).toUTF8.toList := by
  intro kind other suffix
  simp only [toList_toUTF8] at suffix
  revert suffix
  cases kind <;> cases other <;> decide +kernel

/-- Nothing keeps the two handles apart. -/
theorem PairwiseUse.input_eq (use : PairwiseUse) (shared : Vector UInt8 32) :
    use.input shared =
      ("kaigi:anon:pairwise:v1".toUTF8.toList ++ shared.toList ++
        (use.senderHandle ++ use.recipientHandle).toUTF8.toList) ++
      toLeBytes use.epoch.toNat ++ (encryptedKindTag use.kind).toUTF8.toList := by
  rw [← toUTF8_append, ← List.append_assoc]
  rfl

/-- The tag comes off the input first, then the epoch; the handles stay joined. -/
theorem PairwiseUse.input_inj {use other : PairwiseUse} {shared : Vector UInt8 32} :
    use.input shared = other.input shared ↔ use.Alike other := by
  rw [use.input_eq, other.input_eq]
  constructor
  · intro same
    have lengths : (toLeBytes use.epoch.toNat).length = (toLeBytes other.epoch.toNat).length := by
      rw [length_toLeBytes, length_toLeBytes]
    obtain ⟨fronts, epochs, kinds⟩ := suffixFree_encryptedKindTag.field_inj lengths same
    exact {
      handles := toUTF8_inj (List.append_cancel_left fronts)
      epoch := UInt64.toNat_inj.mp (toLeBytes_inj use.epoch.toNat_lt other.epoch.toNat_lt epochs)
      kind := kinds }
  · intro alike
    rw [alike.handles, alike.epoch, alike.kind]

section Keys

variable {Secret : Type} {libraries : PairwiseLibraries Secret}

/-- Over one shared secret, two uses have different keys exactly when they are not only told
apart by the place where one handle ends and the other begins. -/
theorem PairwiseUse.separated_iff {localSecret otherSecret : Secret}
    {peerPublic otherPublic : PublicKey} {use other : PairwiseUse}
    (shared : libraries.diffieHellman localSecret peerPublic =
      libraries.diffieHellman otherSecret otherPublic)
    (collisionFree :
      libraries.blake3 (use.input (libraries.diffieHellman localSecret peerPublic)) =
        libraries.blake3 (other.input (libraries.diffieHellman localSecret peerPublic)) →
      use.input (libraries.diffieHellman localSecret peerPublic) =
        other.input (libraries.diffieHellman localSecret peerPublic)) :
    (use ≠ other → use.key libraries localSecret peerPublic ≠
      other.key libraries otherSecret otherPublic) ↔ (use.Alike other → use = other) := by
  have keys : use.key libraries localSecret peerPublic =
      other.key libraries otherSecret otherPublic ↔ use.Alike other := by
    rw [← PairwiseUse.input_inj]
    unfold PairwiseUse.key derivePairwiseKey
    rw [← shared]
    exact ⟨collisionFree, fun same => congrArg libraries.blake3 same⟩
  rw [ne_eq, ne_eq, keys, not_imp_not]

end Keys

/-! Two uses of one secret, and the digests of their inputs. -/

def aliceToBob (epoch : UInt64) : PairwiseUse where
  senderHandle := "alice"
  recipientHandle := "bob"
  epoch := epoch
  kind := .chat

def shiftedUse : PairwiseUse where
  senderHandle := "alic"
  recipientHandle := "ebob"
  epoch := 1
  kind := .chat

def chatLibraries : PairwiseLibraries Unit where
  diffieHellman _ _ := Vector.replicate 32 0x42
  blake3 input :=
    if input = (aliceToBob 1).input (Vector.replicate 32 0x42) then #v[
    0x05, 0x1e, 0x7c, 0x80, 0x4b, 0x53, 0x0e, 0xb2, 0xd0, 0x0f, 0x9e, 0x3f, 0x4f, 0xce, 0x97, 0x48,
    0xaa, 0xc6, 0xf8, 0x48, 0x38, 0xc1, 0x11, 0x6d, 0x64, 0x5c, 0xab, 0xdf, 0x49, 0xed, 0xc6, 0xdf]
    else #v[
    0x14, 0xb3, 0xe0, 0xfe, 0xa3, 0x32, 0x30, 0x6a, 0xd7, 0xec, 0xda, 0xf9, 0x6b, 0x60, 0x28, 0xf0,
    0x74, 0x2f, 0xaf, 0x35, 0x1a, 0xf1, 0x52, 0xa0, 0x13, 0x73, 0xac, 0xed, 0x68, 0xd7, 0x1b, 0x01]

/-- The hub admits all four handles, and the two uses have one input and one key. -/
theorem handles_shift :
    (∀ handle ∈ ["alice", "bob", "alic", "ebob"],
      validateOpaqueName handle "participant_handle" maxAnonParticipantHandleLen = none) ∧
    (chatLibraries.blake3 ((aliceToBob 1).input (chatLibraries.diffieHellman () [])) =
        chatLibraries.blake3 (shiftedUse.input (chatLibraries.diffieHellman () [])) →
      (aliceToBob 1).input (chatLibraries.diffieHellman () []) =
        shiftedUse.input (chatLibraries.diffieHellman () [])) ∧
    ¬ (aliceToBob 1 ≠ shiftedUse → (aliceToBob 1).key chatLibraries () [] ≠
      shiftedUse.key chatLibraries () []) := by
  have same : (aliceToBob 1).input (chatLibraries.diffieHellman () []) =
      shiftedUse.input (chatLibraries.diffieHellman () []) :=
    PairwiseUse.input_inj.mpr ⟨by decide, rfl, rfl⟩
  refine ⟨by decide +kernel, fun _ => same, fun separated => ?_⟩
  exact separated (by decide) (congrArg chatLibraries.blake3 same)

theorem separated_by_epoch :
    (aliceToBob 1).key chatLibraries () [] ≠ (aliceToBob 2).key chatLibraries () [] := by
  have epochs : ¬ (aliceToBob 1).Alike (aliceToBob 2) := fun alike => absurd alike.epoch (by decide)
  have inputs : (aliceToBob 2).input (Vector.replicate 32 0x42) ≠
      (aliceToBob 1).input (Vector.replicate 32 0x42) :=
    fun same => epochs (PairwiseUse.input_inj.mp same.symm)
  refine (PairwiseUse.separated_iff rfl fun collides => ?_).mpr (fun alike => absurd alike epochs)
    (by decide)
  exfalso
  simp only [chatLibraries, if_neg inputs, if_true] at collides
  exact absurd collides (by decide)

/-! ### Group payloads -/

/-- A cipher with associated data: by key, nonce, text and data. -/
abbrev Cipher : Type :=
  Vector UInt8 32 → List UInt8 → List UInt8 → List UInt8 → Option (List UInt8)

/-- The data that `encrypt_anon_group_payload` joins. -/
def anonGroupSealAad (senderHandle : String) (epoch : UInt64) (kind : AnonymousPayloadKind) :
    List UInt8 :=
  "kaigi-anon-group-envelope-v1".toUTF8.toList ++ senderHandle.toUTF8.toList ++
    toLeBytes epoch.toNat ++ (anonPayloadKindTag kind).toUTF8.toList

/-- The nonce comes from the random number generator, and `now` from the clock. -/
def encryptAnonGroupPayload (encrypt : Cipher) (now : UInt64) (nonce : Vector UInt8 24)
    (key : Vector UInt8 32) (senderHandle : String) (epoch : UInt64) (kind : AnonymousPayloadKind)
    (plaintext : List UInt8) : Except String AnonEncryptedPayloadFrame :=
  match encrypt key nonce.toList plaintext (anonGroupSealAad senderHandle epoch kind) with
  | none => .error "encrypt anonymous group payload"
  | some ciphertext => .ok {
      sentAtMs := now.toNat
      senderHandle := senderHandle
      epoch := epoch.toNat
      kind := kind
      nonceHex := hexEncode nonce.toList
      ciphertextHex := hexEncode ciphertext }

theorem suffixFree_anonPayloadKindTag :
    SuffixFree fun kind => (anonPayloadKindTag kind).toUTF8.toList := by
  intro kind other suffix
  simp only [toList_toUTF8] at suffix
  revert suffix
  cases kind <;> cases other <;> decide +kernel

/-- Whatever the handle is, the tag and the epoch come off its end. -/
theorem anonGroupSealAad_inj {senderHandle otherHandle : String} {epoch otherEpoch : UInt64}
    {kind otherKind : AnonymousPayloadKind}
    (same : anonGroupSealAad senderHandle epoch kind =
      anonGroupSealAad otherHandle otherEpoch otherKind) :
    senderHandle = otherHandle ∧ epoch = otherEpoch ∧ kind = otherKind := by
  have lengths : (toLeBytes epoch.toNat).length = (toLeBytes otherEpoch.toNat).length := by
    rw [length_toLeBytes, length_toLeBytes]
  obtain ⟨fronts, epochs, kinds⟩ := suffixFree_anonPayloadKindTag.field_inj lengths same
  have handles := toUTF8_inj (List.append_cancel_left fronts)
  have numbers := toLeBytes_inj epoch.toNat_lt otherEpoch.toNat_lt epochs
  exact ⟨handles, UInt64.toNat_inj.mp numbers, kinds⟩

theorem anonGroupAad_eq {senderHandle : String} {epoch : UInt64}
    {frame : AnonEncryptedPayloadFrame} (epochs : frame.epoch = epoch.toNat) :
    anonGroupAad senderHandle frame = anonGroupSealAad senderHandle epoch frame.kind := by
  rw [anonGroupAad, anonGroupSealAad, epochs]

theorem decodeHexVec_hexEncode (bytes : List UInt8) :
    decodeHexVec (hexEncode bytes) = some bytes := by
  rw [decodeHexVec, trim_hexEncode, hexDecode_hexEncode]

/-- What is sealed opens under the key, nonce and data that it was sealed with, and under
no others. -/
structure IdealCipher (encrypt decrypt : Cipher) : Prop where
  opens : ∀ key nonce message data ciphertext,
    encrypt key nonce message data = some ciphertext →
      decrypt key nonce ciphertext data = some message
  binds : ∀ key nonce message data ciphertext otherKey otherNonce otherData opened,
    encrypt key nonce message data = some ciphertext →
      decrypt otherKey otherNonce ciphertext otherData = some opened →
        otherKey = key ∧ otherNonce = nonce ∧ otherData = data

section Envelopes

variable {SegmentBundle EncodedSegment AudioFrame AudioDecoder : Type}
  {libraries : MediaLibraries SegmentBundle EncodedSegment AudioFrame AudioDecoder}

/-- A frame that was decrypted has a nonce and a ciphertext that the cipher opened. -/
theorem decryptAnonGroupPayload_eq_ok {key : Vector UInt8 32} {senderHandle : String}
    {frame : AnonEncryptedPayloadFrame} {plaintext : List UInt8} :
    decryptAnonGroupPayload libraries key senderHandle frame = .ok plaintext ↔
      ∃ nonce ciphertext, decodeHexVec frame.nonceHex = some nonce ∧ nonce.length = 24 ∧
        decodeHexVec frame.ciphertextHex = some ciphertext ∧
        libraries.decrypt key nonce ciphertext (anonGroupAad senderHandle frame) =
          some plaintext := by
  unfold decryptAnonGroupPayload
  cases decodeHexVec frame.nonceHex with
  | none => simp
  | some nonce =>
      by_cases size : nonce.length = 24
      · cases decodeHexVec frame.ciphertextHex with
        | none => simp [size]
        | some ciphertext =>
            cases opened : libraries.decrypt key nonce ciphertext
                (anonGroupAad senderHandle frame) with
            | none => simp [size, opened]
            | some message => simp [size, opened]
      · simp [size]

/-- What the associated data do for the payloads of a group. -/
structure GroupEnvelopesBound (encrypt : Cipher)
    (libraries : MediaLibraries SegmentBundle EncodedSegment AudioFrame AudioDecoder) : Prop where
  injective : ∀ senderHandle otherHandle epoch otherEpoch kind otherKind,
    anonGroupSealAad senderHandle epoch kind = anonGroupSealAad otherHandle otherEpoch otherKind →
      senderHandle = otherHandle ∧ epoch = otherEpoch ∧ kind = otherKind
  agree : ∀ senderHandle (epoch : UInt64) (frame : AnonEncryptedPayloadFrame),
    frame.epoch = epoch.toNat →
      anonGroupAad senderHandle frame = anonGroupSealAad senderHandle epoch frame.kind
  opens : ∀ now nonce key senderHandle epoch kind plaintext frame,
    encryptAnonGroupPayload encrypt now nonce key senderHandle epoch kind plaintext = .ok frame →
      decryptAnonGroupPayload libraries key senderHandle frame = .ok plaintext
  binds : ∀ now nonce key senderHandle epoch kind plaintext frame,
    encryptAnonGroupPayload encrypt now nonce key senderHandle epoch kind plaintext = .ok frame →
      ∀ otherKey otherHandle opened (other : AnonEncryptedPayloadFrame),
        other.epoch < UInt64.size →
        decodeHexVec other.ciphertextHex = decodeHexVec frame.ciphertextHex →
        decryptAnonGroupPayload libraries otherKey otherHandle other = .ok opened →
          otherHandle = senderHandle ∧ other.epoch = epoch.toNat ∧ other.kind = kind ∧
            opened = plaintext

/-- A payload opens only under the handle, epoch and kind that it was sealed with. -/
theorem group_envelopes_bound {encrypt : Cipher} (ideal : IdealCipher encrypt libraries.decrypt) :
    GroupEnvelopesBound encrypt libraries where
  injective := fun _ _ _ _ _ _ same => anonGroupSealAad_inj same
  agree := fun _ _ _ epochs => anonGroupAad_eq epochs
  opens := by
    intro now nonce key senderHandle epoch kind plaintext frame sealed
    unfold encryptAnonGroupPayload at sealed
    split at sealed
    next => cases sealed
    next ciphertext encrypted =>
      cases sealed
      refine decryptAnonGroupPayload_eq_ok.mpr ⟨nonce.toList, ciphertext,
        decodeHexVec_hexEncode _, nonce.length_toList, decodeHexVec_hexEncode _, ?_⟩
      rw [anonGroupAad_eq rfl]
      exact ideal.opens _ _ _ _ _ encrypted
  binds := by
    intro now nonce key senderHandle epoch kind plaintext frame sealed otherKey otherHandle opened
      other fits carried decrypted
    unfold encryptAnonGroupPayload at sealed
    split at sealed
    next => cases sealed
    next ciphertext encrypted =>
      cases sealed
      obtain ⟨otherNonce, otherText, _, _, otherFound, otherOpened⟩ :=
        decryptAnonGroupPayload_eq_ok.mp decrypted
      have text : otherText = ciphertext := by
        rw [decodeHexVec_hexEncode, otherFound] at carried
        exact Option.some.inj carried
      subst text
      have epochs : other.epoch = (UInt64.ofNat other.epoch).toNat :=
        (UInt64.toNat_ofNat_of_lt fits).symm
      rw [anonGroupAad_eq epochs] at otherOpened
      obtain ⟨keys, nonces, datas⟩ := ideal.binds _ _ _ _ _ _ _ _ _ encrypted otherOpened
      obtain ⟨handles, numbers, kinds⟩ := anonGroupSealAad_inj datas
      have again := ideal.opens _ _ _ _ _ encrypted
      rw [keys, nonces, datas] at otherOpened
      exact ⟨handles, epochs.trans (congrArg UInt64.toNat numbers), kinds,
        Option.some.inj (otherOpened.symm.trans again)⟩

end Envelopes

/-! The text "hi" of one sender under one key and nonce, as XChaCha20-Poly1305 seals it. -/

def hiCiphertext : List UInt8 :=
  [0xeb, 0x0e, 0x93, 0x40, 0x3e, 0xf2, 0xd3, 0x1c, 0x73, 0xe9, 0xe5, 0x55, 0x73, 0xad, 0x77, 0x5f,
    0x35, 0x88]

def encryptHi : Cipher := fun key nonce message data =>
  if key = Vector.replicate 32 0x11 ∧ nonce = List.replicate 24 0x22 ∧ message = [0x68, 0x69] ∧
      data = anonGroupSealAad "alice" 1 .audioPacket then some hiCiphertext
  else none

def decryptHi : Cipher := fun key nonce ciphertext data =>
  if key = Vector.replicate 32 0x11 ∧ nonce = List.replicate 24 0x22 ∧
      ciphertext = hiCiphertext ∧ data = anonGroupSealAad "alice" 1 .audioPacket then
    some [0x68, 0x69]
  else none

def hiLibraries : MediaLibraries Unit Unit Unit Unit where
  decodeSegmentBundle _ := .error "unexpected end of input"
  intoSegment _ := .error "missing chunk"
  decodeSegment _ _ _ := .error "bitstream"
  decodeAudioFrame _ := .error "unexpected end of input"
  newAudioDecoder _ := .error "unsupported sample rate"
  decodeFrame _ _ := .error "bitstream"
  decodeVideoSegmentFrame _ := .error "unexpected end of input"
  decodeAudioPacketFrame _ := .error "unexpected end of input"
  decrypt := decryptHi
  blake3 _ := Vector.replicate 32 0x11

theorem idealCipher_hi : IdealCipher encryptHi decryptHi where
  opens := by
    intro key nonce message data ciphertext sealed
    unfold encryptHi at sealed
    split at sealed
    next same =>
      cases sealed
      obtain ⟨rfl, rfl, rfl, rfl⟩ := same
      exact if_pos ⟨rfl, rfl, rfl, rfl⟩
    next => cases sealed
  binds := by
    intro key nonce message data ciphertext otherKey otherNonce otherData opened sealed decrypted
    unfold encryptHi at sealed
    unfold decryptHi at decrypted
    split at sealed
    next same =>
      split at decrypted
      next others =>
        exact ⟨others.1.trans same.1.symm, others.2.1.trans same.2.1.symm,
          others.2.2.2.trans same.2.2.2.symm⟩
      next => cases decrypted
    next => cases sealed

/-- What alice sealed in the first epoch does not open under the handle of bob. -/
theorem group_envelopes_bound_hi : ∃ frame,
    encryptAnonGroupPayload encryptHi 7 (Vector.replicate 24 0x22) (Vector.replicate 32 0x11)
        "alice" 1 .audioPacket [0x68, 0x69] = .ok frame ∧
      decryptAnonGroupPayload hiLibraries (Vector.replicate 32 0x11) "alice" frame =
        .ok [0x68, 0x69] ∧
      ∀ opened, decryptAnonGroupPayload hiLibraries (Vector.replicate 32 0x11) "bob" frame ≠
        .ok opened := by
  have bound : GroupEnvelopesBound encryptHi hiLibraries := group_envelopes_bound idealCipher_hi
  have sealed : encryptHi (Vector.replicate 32 0x11) (Vector.replicate 24 0x22).toList [0x68, 0x69]
      (anonGroupSealAad "alice" 1 .audioPacket) = some hiCiphertext :=
    if_pos ⟨rfl, by decide, rfl, rfl⟩
  obtain ⟨frame, made⟩ : ∃ frame, encryptAnonGroupPayload encryptHi 7 (Vector.replicate 24 0x22)
      (Vector.replicate 32 0x11) "alice" 1 .audioPacket [0x68, 0x69] = .ok frame := by
    unfold encryptAnonGroupPayload
    rw [sealed]
    exact ⟨_, rfl⟩
  have epochs : frame.epoch < UInt64.size := by
    unfold encryptAnonGroupPayload at made
    rw [sealed] at made
    cases made
    decide
  refine ⟨frame, made, bound.opens _ _ _ _ _ _ _ _ made, fun opened decrypted => ?_⟩
  obtain ⟨handles, _⟩ := bound.binds _ _ _ _ _ _ _ _ made _ _ _ frame epochs rfl decrypted
  exact absurd handles (by decide)

end Kaigi.Client
