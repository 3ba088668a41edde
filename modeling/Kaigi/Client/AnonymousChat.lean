import Kaigi.Client.AnonymousEnvelopes
import Kaigi.Client.AnonymousPeers

/-!
# Anonymous chat

The client of an anonymous room: a command loop that replaces the key of the client and seals
lines for its peers, and a reader that follows the keys of the peers and opens what was sealed
for the client. Both take the lock of the local key and the lock of the peers, one at a time.
-/

set_option autoImplicit false

namespace Kaigi.Client

open Collections Wire Hub

/-- X25519 and XChaCha20Poly1305. -/
structure ControlLibraries (Secret : Type) extends PairwiseLibraries Secret where
  publicKey : Secret → PublicKey
  encrypt : Cipher
  decrypt : Cipher

/-- Two parties agree on a shared secret, and the cipher is ideal. -/
structure ControlLibraries.Ideal {Secret : Type} (libraries : ControlLibraries Secret) : Prop
    extends IdealCipher libraries.encrypt libraries.decrypt where
  agrees : ∀ localSecret peerSecret,
    libraries.diffieHellman localSecret (libraries.publicKey peerSecret) =
      libraries.diffieHellman peerSecret (libraries.publicKey localSecret)

section Payloads

variable {Secret : Type} (libraries : ControlLibraries Secret)

def anonControlAad : List UInt8 :=
  "kaigi-anon-control".toUTF8.toList

def encryptForRecipient (localSecret : Secret) (peerPublic : PublicKey)
    (senderHandle recipientHandle : String) (epoch : UInt64) (kind : EncryptedControlKind)
    (nonce : Vector UInt8 24) (plaintext : List UInt8) :
    Except String EncryptedRecipientPayload :=
  let key := derivePairwiseKey libraries.toPairwiseLibraries localSecret peerPublic senderHandle
    recipientHandle epoch kind
  match libraries.encrypt key nonce.toList plaintext anonControlAad with
  | none => .error "failed to encrypt anonymous payload"
  | some ciphertext => .ok {
      recipientHandle := recipientHandle
      nonceHex := hexEncode nonce.toList
      ciphertextHex := hexEncode ciphertext }

def decryptFromSender (localSecret : Secret) (senderPublic : PublicKey)
    (senderHandle recipientHandle : String) (epoch : UInt64) (kind : EncryptedControlKind)
    (payload : EncryptedRecipientPayload) : Except String (List UInt8) :=
  let key := derivePairwiseKey libraries.toPairwiseLibraries localSecret senderPublic senderHandle
    recipientHandle epoch kind
  match decodeHexVec payload.nonceHex with
  | none => .error "decode hex"
  | some nonce =>
    if nonce.length ≠ 24 then .error "nonce must be 24 bytes"
    else
      match decodeHexVec payload.ciphertextHex with
      | none => .error "decode hex"
      | some ciphertext =>
        match libraries.decrypt key nonce ciphertext anonControlAad with
        | none => .error "failed to decrypt anonymous payload"
        | some plaintext => .ok plaintext

variable {libraries} {localSecret : Secret} {peerPublic : PublicKey}
  {senderHandle recipientHandle : String} {epoch : UInt64} {kind : EncryptedControlKind}
  {nonce : Vector UInt8 24} {plaintext : List UInt8} {payload : EncryptedRecipientPayload}

theorem encryptForRecipient_eq_ok
    (made : encryptForRecipient libraries localSecret peerPublic senderHandle recipientHandle epoch
      kind nonce plaintext = .ok payload) :
    ∃ ciphertext, libraries.encrypt (derivePairwiseKey libraries.toPairwiseLibraries localSecret
        peerPublic senderHandle recipientHandle epoch kind) nonce.toList plaintext anonControlAad =
          some ciphertext ∧
      payload = ⟨recipientHandle, hexEncode nonce.toList, hexEncode ciphertext⟩ := by
  unfold encryptForRecipient at made
  dsimp only at made
  split at made
  · cases made
  · next ciphertext encrypted =>
      cases made
      exact ⟨ciphertext, encrypted, rfl⟩

theorem decryptFromSender_hexEncode {secret : Secret} {senderPublic : PublicKey}
    {ciphertext : List UInt8} :
    decryptFromSender libraries secret senderPublic senderHandle recipientHandle epoch kind
        ⟨recipientHandle, hexEncode nonce.toList, hexEncode ciphertext⟩ =
      match libraries.decrypt (derivePairwiseKey libraries.toPairwiseLibraries secret senderPublic
          senderHandle recipientHandle epoch kind) nonce.toList ciphertext anonControlAad with
      | none => .error "failed to decrypt anonymous payload"
      | some plaintext => .ok plaintext := by
  have size : nonce.toList.length = 24 := by simp
  simp only [decryptFromSender, decodeHexVec_hexEncode, size]
  rfl

/-- Who has the secret of the key that a payload is sealed for opens it with the key of its
sender. -/
theorem decryptFromSender_sealed (ideal : libraries.Ideal) {peerSecret : Secret}
    (made : encryptForRecipient libraries localSecret (libraries.publicKey peerSecret) senderHandle
      recipientHandle epoch kind nonce plaintext = .ok payload) :
    decryptFromSender libraries peerSecret (libraries.publicKey localSecret) senderHandle
      recipientHandle epoch kind payload = .ok plaintext := by
  obtain ⟨ciphertext, encrypted, rfl⟩ := encryptForRecipient_eq_ok made
  have opened := ideal.opens _ _ _ _ _ encrypted
  rw [decryptFromSender_hexEncode]
  unfold derivePairwiseKey at opened ⊢
  rw [ideal.agrees peerSecret localSecret, opened]

/-- A payload opens to what was sealed in it, or not at all. -/
theorem decryptFromSender_binds (ideal : libraries.Ideal) {secret : Secret}
    {senderPublic : PublicKey} {sealing : List UInt8}
    (made : encryptForRecipient libraries localSecret peerPublic senderHandle recipientHandle epoch
      kind nonce sealing = .ok payload)
    (opens : decryptFromSender libraries secret senderPublic senderHandle recipientHandle epoch
      kind payload = .ok plaintext) : plaintext = sealing := by
  obtain ⟨ciphertext, encrypted, rfl⟩ := encryptForRecipient_eq_ok made
  rw [decryptFromSender_hexEncode] at opens
  split at opens
  · cases opens
  · next message opened =>
      cases opens
      obtain ⟨same, _, _⟩ := ideal.binds _ _ _ _ _ _ _ _ _ encrypted opened
      rw [same, ideal.opens _ _ _ _ _ encrypted] at opened
      exact (Option.some.inj opened).symm

end Payloads

/-! ### The client -/

inductive CommandLoop where
  | waiting
  /-- `/rekey` has replaced the local key and has still to enter it into the peers. -/
  | rekeying
  | ended
  deriving DecidableEq

/-- What the reader has found for a sealed frame among the peers, before it takes the local
key. -/
structure Opening where
  enc : EncryptedControlFrame
  payload : EncryptedRecipientPayload
  senderPublic : Option PublicKey

structure AnonMember (Secret : Type) where
  handle : String
  secret : Secret
  epoch : UInt64
  peers : Peers
  commands : CommandLoop
  opening : Option Opening
  /-- Written to the stream, and not yet taken by the hub. -/
  outbox : List KaigiFrame
  /-- Delivered by the hub, and not yet read. -/
  inbox : List KaigiFrame

/-- The local state, without the secret. -/
def AnonMember.own {Secret : Type} (libraries : ControlLibraries Secret)
    (member : AnonMember Secret) : AnonLocalState :=
  ⟨member.handle, libraries.publicKey member.secret⟩

def buildInitialAnonJoinFrames (participantHandle x25519PubkeyHex : String) : List KaigiFrame :=
  [.anonHello {
    protocolVersion := protocolVersion
    participantHandle := participantHandle
    x25519PubkeyHex := x25519PubkeyHex }]

def AnonMember.start {Secret : Type} (libraries : ControlLibraries Secret) (handle : String)
    (secret : Secret) : AnonMember Secret where
  handle := handle
  secret := secret
  epoch := 1
  peers := initialPeers ⟨handle, libraries.publicKey secret⟩
  commands := .waiting
  opening := none
  outbox := buildInitialAnonJoinFrames handle (hexEncode (libraries.publicKey secret))
  inbox := []

/-- `u64::saturating_add(1)`. -/
def nextEpoch (epoch : UInt64) : UInt64 :=
  if epoch.toNat < Hub.u64Max then UInt64.ofNat (epoch.toNat + 1) else epoch

/-- What the input line seals. -/
def commandKind (input : String) : EncryptedControlKind :=
  if input = "/end" then .command else .chat

def commandBody (input : String) : String :=
  if input = "/end" then "cmd:end" else "chat:" ++ input

inductive MemberMove (Secret : Type) where
  /-- `/rekey` under the lock of the local key. -/
  | rekey (secret : Secret)
  /-- The rest of `/rekey`. -/
  | enterKey (sentAtMs : Nat)
  /-- A line of input that is no other command. The peers are iterated in some order. -/
  | send (sentAtMs : Nat) (input : String) (order : List String) (nonce : String → Vector UInt8 24)
  | quit
  | escrow (sentAtMs : Nat) (escrowId proofHex : String)
  | read
  | openPayload

/-- What a move of a client leaves behind. -/
inductive MemberEvent (Secret : Type) where
  | rekeyed (secret : Secret)
  | entered (publicKey : PublicKey)
  | sealed (enc : EncryptedControlFrame) (secret : Secret) (peers : Peers) (body : String)
  | paid (proof : EscrowProofFrame)
  | read (frame : KaigiFrame) (own : AnonLocalState)
  /-- The reader is done with a payload for its client; without an outcome it did not know the
  key of the sender. -/
  | processed (enc : EncryptedControlFrame) (payload : EncryptedRecipientPayload)
      (secret : Secret) (outcome : Option (Except String (List UInt8)))

section Moves

variable {Secret : Type} (libraries : ControlLibraries Secret) (member : AnonMember Secret)

/-- The payloads of a line, one for each peer; the first failure is that of the line. -/
def sealPayloads (input : String) (nonce : String → Vector UInt8 24)
    (recipients : List (String × PublicKey)) : Except String (List EncryptedRecipientPayload) :=
  recipients.mapM fun (recipient, pubkey) =>
    encryptForRecipient libraries member.secret pubkey member.handle recipient member.epoch
      (commandKind input) (nonce recipient) (commandBody input).toUTF8.toList

def sealFrame (sentAtMs : Nat) (input : String) (order : List String)
    (nonce : String → Vector UInt8 24) : Except String EncryptedControlFrame := do
  let payloads ← sealPayloads libraries member input nonce (member.peers.reorder order).iter
  return {
    sentAtMs := sentAtMs
    senderHandle := member.handle
    epoch := member.epoch.toNat
    kind := commandKind input
    payloads := payloads }

variable {libraries member} {input : String} {nonce : String → Vector UInt8 24}

/-- What a list of computations yields comes from its items. -/
theorem exists_of_mem_mapM {Item Result Error : Type} {compute : Item → Except Error Result}
    {items : List Item} {results : List Result} {result : Result}
    (computed : items.mapM compute = .ok results) (member : result ∈ results) :
    ∃ item ∈ items, compute item = .ok result := by
  induction items generalizing results with
  | nil =>
      cases computed
      cases member
  | cons item rest ih =>
      rw [List.mapM_cons] at computed
      cases first : compute item with
      | error error =>
          rw [first] at computed
          cases computed
      | ok head =>
          rw [first] at computed
          cases others : rest.mapM compute with
          | error error =>
              rw [others] at computed
              cases computed
          | ok tail =>
              rw [others] at computed
              cases computed
              rcases List.mem_cons.mp member with rfl | later
              · exact ⟨item, List.mem_cons_self, first⟩
              · obtain ⟨origin, among, made⟩ := ih others later
                exact ⟨origin, List.mem_cons_of_mem _ among, made⟩

/-- A line is sealed for a peer with the key that the sender knows of it. -/
theorem sealFrame_eq_ok {sentAtMs : Nat} {order : List String} {enc : EncryptedControlFrame}
    (made : sealFrame libraries member sentAtMs input order nonce = .ok enc) :
    enc.senderHandle = member.handle ∧ enc.epoch = member.epoch.toNat ∧
      enc.kind = commandKind input ∧ ∀ payload ∈ enc.payloads, ∃ peerPublic,
        member.peers.get? payload.recipientHandle = some peerPublic ∧
        encryptForRecipient libraries member.secret peerPublic member.handle
          payload.recipientHandle member.epoch (commandKind input) (nonce payload.recipientHandle)
          (commandBody input).toUTF8.toList = .ok payload := by
  unfold sealFrame at made
  cases sealed : sealPayloads libraries member input nonce (member.peers.reorder order).iter with
  | error error =>
      rw [sealed] at made
      cases made
  | ok payloads =>
      rw [sealed] at made
      cases made
      refine ⟨rfl, rfl, rfl, fun payload among => ?_⟩
      obtain ⟨⟨recipient, peerPublic⟩, listed, made⟩ := exists_of_mem_mapM sealed among
      dsimp only at made
      have known := HashMap.mem_iter.mp listed
      rw [HashMap.get?_reorder] at known
      obtain ⟨ciphertext, _, rfl⟩ := encryptForRecipient_eq_ok made
      exact ⟨peerPublic, known, made⟩

variable (libraries member)

/-- The reader looks for the payload of its client, and for the key of the sender. -/
def openingOf (handle : String) (peers : Peers) : KaigiFrame → Option Opening
  | .encryptedControl enc =>
      (enc.payloads.find? fun payload => payload.recipientHandle == handle).map fun payload =>
        ⟨enc, payload, peers.get? enc.senderHandle⟩
  | _ => none

/-- Without the key of the sender the reader goes on. -/
def Opening.outcome (opening : Opening) (handle : String) (secret : Secret) :
    Option (Except String (List UInt8)) :=
  opening.senderPublic.map fun senderPublic =>
    decryptFromSender libraries secret senderPublic opening.enc.senderHandle handle
      (UInt64.ofNat opening.enc.epoch) opening.enc.kind opening.payload

/-- What `/rekey` announces. -/
def AnonMember.keyUpdate (sentAtMs : Nat) : GroupKeyUpdateFrame where
  sentAtMs := sentAtMs
  participantHandle := member.handle
  x25519PubkeyHex := hexEncode (libraries.publicKey member.secret)
  epoch := member.epoch.toNat

/-- One step of a client; it fails where the client stops with an error or has to wait. -/
def AnonMember.step : MemberMove Secret → Option (AnonMember Secret × Option (MemberEvent Secret))
  | .rekey secret =>
      if member.commands = .waiting then
        some ({ member with
          secret := secret
          epoch := nextEpoch member.epoch
          commands := .rekeying }, some (.rekeyed secret))
      else none
  | .enterKey sentAtMs =>
      if member.commands = .rekeying then
        let update := member.keyUpdate libraries sentAtMs
        (parseX25519PubkeyHex update.x25519PubkeyHex).map fun publicKey =>
          ({ member with
            peers := member.peers.put member.handle publicKey
            commands := .waiting
            outbox := member.outbox ++ [.groupKeyUpdate update] }, some (.entered publicKey))
      else none
  | .send sentAtMs input order nonce =>
      if member.commands = .waiting then
        if member.peers.isEmpty then some (member, none)
        else
          match sealFrame libraries member sentAtMs input order nonce with
          | .error _ => none
          | .ok enc =>
              some ({ member with
                commands := if input = "/end" then .ended else .waiting
                outbox := member.outbox ++ [.encryptedControl enc] },
                some (.sealed enc member.secret member.peers (commandBody input)))
      else none
  | .quit =>
      if member.commands = .waiting then some ({ member with commands := .ended }, none) else none
  | .escrow sentAtMs escrowId proofHex =>
      let proof : EscrowProofFrame := {
        sentAtMs := sentAtMs
        payerHandle := member.handle
        escrowId := escrowId
        proofHex := proofHex }
      some ({ member with outbox := member.outbox ++ [.escrowProof proof] }, some (.paid proof))
  | .read =>
      match member.opening, member.inbox with
      | none, frame :: inbox =>
          let own := member.own libraries
          some ({ member with
            inbox := inbox
            peers := readFrame own member.peers frame
            opening := openingOf member.handle member.peers frame }, some (.read frame own))
      | _, _ => none
  | .openPayload =>
      member.opening.map fun opening =>
        ({ member with opening := none },
          some (.processed opening.enc opening.payload member.secret
            (opening.outcome libraries member.handle member.secret)))

end Moves

/-! ### What a step does -/

section Steps

variable {Secret : Type} {libraries : ControlLibraries Secret} {member next : AnonMember Secret}

/-- The steps of a client, with what each leaves behind. -/
inductive MemberStep (libraries : ControlLibraries Secret) (member : AnonMember Secret) :
    MemberMove Secret → AnonMember Secret → Option (MemberEvent Secret) → Prop where
  | rekeyed {secret : Secret} : member.commands = .waiting →
      MemberStep libraries member (.rekey secret)
        { member with
          secret := secret
          epoch := nextEpoch member.epoch
          commands := .rekeying } (some (.rekeyed secret))
  | entered {sentAtMs : Nat} {publicKey : PublicKey} : member.commands = .rekeying →
      parseX25519PubkeyHex (hexEncode (libraries.publicKey member.secret)) = some publicKey →
      MemberStep libraries member (.enterKey sentAtMs)
        { member with
          peers := member.peers.put member.handle publicKey
          commands := .waiting
          outbox := member.outbox ++ [.groupKeyUpdate (member.keyUpdate libraries sentAtMs)] }
        (some (.entered publicKey))
  | waited {move : MemberMove Secret} {commands : CommandLoop} : member.commands = .waiting →
      commands ≠ .rekeying →
      MemberStep libraries member move { member with commands := commands } none
  | sealed {sentAtMs : Nat} {input : String} {order : List String}
      {nonce : String → Vector UInt8 24} {enc : EncryptedControlFrame} {commands : CommandLoop} :
      member.commands = .waiting → commands ≠ .rekeying →
      sealFrame libraries member sentAtMs input order nonce = .ok enc →
      MemberStep libraries member (.send sentAtMs input order nonce)
        { member with
          commands := commands
          outbox := member.outbox ++ [.encryptedControl enc] }
        (some (.sealed enc member.secret member.peers (commandBody input)))
  | paid {sentAtMs : Nat} {escrowId proofHex : String} {proof : EscrowProofFrame} :
      MemberStep libraries member (.escrow sentAtMs escrowId proofHex)
        { member with outbox := member.outbox ++ [.escrowProof proof] } (some (.paid proof))
  | read {frame : KaigiFrame} {inbox : List KaigiFrame} : member.opening = none →
      member.inbox = frame :: inbox →
      MemberStep libraries member .read
        { member with
          inbox := inbox
          peers := readFrame (member.own libraries) member.peers frame
          opening := openingOf member.handle member.peers frame }
        (some (.read frame (member.own libraries)))
  | processed {opening : Opening} : member.opening = some opening →
      MemberStep libraries member .openPayload { member with opening := none }
        (some (.processed opening.enc opening.payload member.secret
          (opening.outcome libraries member.handle member.secret)))

theorem AnonMember.step_cases {move : MemberMove Secret} {event : Option (MemberEvent Secret)}
    (stepped : member.step libraries move = some (next, event)) :
    MemberStep libraries member move next event := by
  unfold AnonMember.step at stepped
  cases move with
  | rekey secret =>
      dsimp only at stepped
      split at stepped
      · next waiting =>
          cases stepped
          exact .rekeyed waiting
      · cases stepped
  | enterKey sentAtMs =>
      dsimp only at stepped
      split at stepped
      · next rekeying =>
          obtain ⟨publicKey, parsed, made⟩ := Option.map_eq_some_iff.mp stepped
          cases made
          exact .entered rekeying parsed
      · cases stepped
  | send sentAtMs input order nonce =>
      dsimp only at stepped
      split at stepped
      · next waiting =>
          split at stepped
          · cases stepped
            have rests : member.commands ≠ .rekeying := by simp [waiting]
            exact .waited waiting rests
          · split at stepped
            · cases stepped
            · next enc made =>
                cases stepped
                refine .sealed waiting ?_ made
                split <;> simp
      · cases stepped
  | quit =>
      dsimp only at stepped
      split at stepped
      · next waiting =>
          cases stepped
          exact .waited waiting (by simp)
      · cases stepped
  | escrow sentAtMs escrowId proofHex =>
      cases stepped
      exact .paid
  | read =>
      dsimp only at stepped
      split at stepped
      · next frame inbox free waiting =>
          cases stepped
          exact .read free waiting
      · cases stepped
  | openPayload =>
      obtain ⟨opening, found, made⟩ := Option.map_eq_some_iff.mp stepped
      cases made
      exact .processed found

end Steps

end Kaigi.Client
