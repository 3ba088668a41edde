import Kaigi.Hub.Duties
import Kaigi.Hub.FrameOperations

/-!
# Rules for whole handlers

A property of programs that passes from the parts of a program to the program holds of every
handler of a connection, if it holds of the broadcasts that the handler makes. A broadcast counts
as one part.
-/

set_option autoImplicit false

namespace Kaigi.Hub

open Collections Wire Interleaving

namespace Operation

/-- Only a broadcast performs the operation. -/
def isBroadcast : Operation → Bool
  | .fanout _ | .backpressure _ _ => true
  | _ => false

end Operation

/-- The frames that the hub makes itself and broadcasts, whoever has caused them. -/
def isManaged : KaigiFrame → Bool
  | .event _ | .participantPresenceDelta _ | .roomConfig _ | .sessionPolicy _ | .anonRoster _
  | .anonGroupKeyRotate _ => true
  | _ => false

/-- The frames that the hub sends to a single connection, apart from acknowledgements. -/
def isPrivate : KaigiFrame → Bool
  | .error _ | .roster _ | .anonRoster _ | .roomConfig _ | .sessionPolicy _
  | .permissionsSnapshot _ | .pong _ => true
  | _ => false

/-- The answers to a payment and to an escrow proof. -/
def isAck : KaigiFrame → Bool
  | .escrowAck _ | .paymentAck _ => true
  | _ => false

/-- A handler of a frame performs the operation outside its broadcasts. -/
def Operation.isPart : Operation → Bool
  | .trySend _ (.binary frame) => isPrivate frame
  | op => !op.isBroadcast && !op.isDisconnect

theorem Operation.isPart_stays {op : Operation} (part : op.isPart = true) :
    op.isBroadcast = false ∧ op.isDisconnect = false := by
  cases op with
  | trySend => exact ⟨rfl, rfl⟩
  | _ => simpa [isPart] using part

/-- The property passes from the parts of a program to the program. -/
structure PartRules (holds : {Value : Type} → Handler Value → Prop) : Prop where
  done : ∀ {Value : Type} (value : Value), holds (.done value)
  fail : ∀ {Value : Type} (error : HubError), holds (.fail error : Handler Value)
  ask : ∀ {Value : Type} {next : Nat → Handler Value}, (∀ clock, holds (next clock)) →
    holds (.ask next)
  atomic : ∀ {Value : Type} {op : Operation} {next : HubRoom → Handler Value},
    op.isPart = true → (∀ state, holds (next state)) → holds (.atomic op next)
  bind : ∀ {Value Result : Type} {program : Handler Value} {next : Value → Handler Result},
    holds program → (∀ value, holds (next value)) → holds (program >>= next)

/-- The broadcasts and acknowledgements of some frames have the property too, and what the hub
broadcasts by itself is among them. -/
structure HandlerRules (hub : HubState) (may : KaigiFrame → Prop)
    (holds : {Value : Type} → Handler Value → Prop) : Prop extends PartRules holds where
  broadcast : ∀ {frame}, may frame → holds (broadcastFrame hub frame)
  managed : ∀ {frame}, isManaged frame = true → may frame
  ack : ∀ {target frame}, isAck frame = true → may frame → holds (trySend target (.binary frame))

namespace PartRules

variable {hub : HubState} {connId : ConnId} {holds : {Value : Type} → Handler Value → Prop}
  {Value Result : Type}

theorem each (rules : PartRules holds) {Item : Type} {items : List Item}
    {body : Item → Handler Unit} (item : ∀ current, holds (body current)) :
    holds (Process.each items body) := by
  induction items with
  | nil => exact rules.done ()
  | cons head rest ih => exact rules.bind (item head) fun _ => ih

/-- A statement made only under a condition, before the rest of the program. -/
theorem when (rules : PartRules holds) {condition : Prop} [Decidable condition]
    {body : Handler Unit} {next : Unit → Handler Value} (first : holds body)
    (rest : ∀ done, holds (next done)) :
    holds (if condition then body >>= next else next ()) := by
  split
  · exact rules.bind first rest
  · exact rest ()

theorem nowMs (rules : PartRules holds) : holds nowMs :=
  rules.ask rules.done

theorem critical (rules : PartRules holds) {op : Operation} {view : Option RoomState → Value}
    (part : op.isPart = true) : holds (critical op view) :=
  rules.atomic part fun _ => rules.done _

theorem encodeOrFail (rules : PartRules holds) (frame : KaigiFrame) :
    holds (encodeOrFail hub frame) := by
  unfold Hub.encodeOrFail
  split
  · exact rules.fail _
  · exact rules.done ()

theorem trySend (rules : PartRules holds) {target : ConnId} {message : Message}
    (part : Operation.isPart (.trySend target message) = true) : holds (trySend target message) :=
  rules.atomic part fun _ => rules.done _

theorem lookupSender (rules : PartRules holds) (target : ConnId) :
    holds (lookupSender target) := by
  refine rules.atomic rfl fun state => ?_
  split
  · exact rules.fail _
  · split
    · exact rules.done ()
    · exact rules.fail _

theorem sendFrameTo (rules : PartRules holds) (target : ConnId) {frame : KaigiFrame}
    (alone : isPrivate frame = true) : holds (sendFrameTo hub target frame) :=
  rules.bind (rules.encodeOrFail frame) fun _ => rules.bind (rules.lookupSender target) fun _ =>
    rules.bind (rules.trySend alone) fun _ => rules.done ()

theorem sendError (rules : PartRules holds) (target : ConnId) (message : String) :
    holds (sendError hub target message) :=
  rules.sendFrameTo target rfl

theorem notifyModerators (rules : PartRules holds) (message : String) :
    holds (notifyModerators hub message) :=
  rules.bind (rules.critical rfl) fun _ => rules.each fun target => rules.sendFrameTo target rfl

theorem broadcastPermissionsSnapshots (rules : PartRules holds) :
    holds (broadcastPermissionsSnapshots hub) :=
  rules.bind rules.nowMs fun _ => rules.bind (rules.critical rfl) fun _ =>
    rules.each fun (target, _) => rules.sendFrameTo target rfl

theorem afterCheck (rules : PartRules holds) (outcome : CheckOutcome) {next : Handler Unit}
    (passed : holds next) : holds (afterCheck hub connId outcome next) := by
  cases outcome with
  | ignored => exact rules.done ()
  | refused message => exact rules.sendError connId message
  | passed => exact passed

theorem checked (rules : PartRules holds) {check : RoomState → CheckOutcome}
    {next : Handler Unit} (passed : holds next) : holds (checked hub connId check next) :=
  rules.bind (rules.critical rfl) fun outcome => rules.afterCheck outcome passed

theorem behindE2eeGate (rules : PartRules holds) {next : Handler Unit}
    (passed : holds next) : holds (behindE2eeGate hub connId next) := by
  refine rules.bind (rules.critical rfl) fun refusal => ?_
  cases refusal with
  | none => exact passed
  | some message => exact rules.sendError connId message

theorem unlessAnonymous (rules : PartRules holds) {refusal : String} {next : Handler Unit}
    (passed : holds next) : holds (unlessAnonymous hub connId refusal next) := by
  refine rules.bind (rules.critical rfl) fun anonymous => ?_
  cases anonymous with
  | true => exact rules.sendError connId refusal
  | false => exact passed

theorem sendClosing (rules : PartRules holds) (target : ConnId) {notice : Option KaigiFrame}
    (alone : ∀ frame, notice = some frame → isPrivate frame = true) :
    holds (sendClosing target notice) := by
  have close : holds (do let _ ← Hub.trySend target .close : Handler Unit) :=
    rules.bind (rules.trySend rfl) fun _ => rules.done ()
  cases notice with
  | none => exact close
  | some frame => exact rules.bind (rules.trySend (alone frame rfl)) fun _ => close

end PartRules

/-! ### The handlers -/

/-- The end of `RoleGrant` and of `RoleRevoke`. -/
def afterRoleChange (hub : HubState) (connId : ConnId) (frame : KaigiFrame) :
    Option (Except String (RoleMutationOutcome × Option ParticipantPresenceDeltaFrame)) →
      Handler Unit
  | none => return
  | some (.error message) => sendError hub connId message
  | some (.ok (outcome, presenceDelta)) => announceRoleChange hub frame outcome presenceDelta

/-- The end of `handle_disconnect`. -/
def afterLeave (hub : HubState) : Option DisconnectOutcome → Handler Unit
  | none => return
  | some outcome => do
    if outcome.removeRoom then return
    else if outcome.anonymousMode then announceAnonymousLeave hub outcome.leftParticipantHandle
    else
      match outcome.leftParticipantId with
      | some participantId =>
        let atMs ← nowMs
        broadcastFrame hub (.event (.left { atMs := atMs, participantId := participantId }))
        match outcome.presenceDelta with
        | some delta => broadcastFrame hub (.participantPresenceDelta delta)
        | none => pure ()
      | none => pure ()
      if outcome.hostChanged then
        broadcastRoomConfig hub
        broadcastPermissionsSnapshots hub

namespace HandlerRules

variable {hub : HubState} {connId : ConnId} {may : KaigiFrame → Prop}
  {holds : {Value : Type} → Handler Value → Prop}

theorem announce (rules : HandlerRules hub may holds) {frame : KaigiFrame}
    (managed : isManaged frame = true) : holds (broadcastFrame hub frame) :=
  rules.broadcast (rules.managed managed)

theorem broadcastRoomConfig (rules : HandlerRules hub may holds) :
    holds (broadcastRoomConfig hub) :=
  rules.bind rules.nowMs fun _ => rules.bind (rules.critical rfl) fun _ => rules.announce rfl

theorem afterRelay (rules : HandlerRules hub may holds) (outcome : RelayOutcome)
    {frame : KaigiFrame} (relays : may frame) : holds (afterRelay hub connId outcome frame) := by
  cases outcome with
  | nothing => exact rules.done ()
  | refused message => exact rules.sendError connId message
  | relay => exact rules.broadcast relays

/-- The frames that announce an anonymous hello. -/
theorem announceAnonHello (rules : HandlerRules hub may holds) {update : GroupKeyUpdateFrame}
    (relays : may (.groupKeyUpdate update)) (roster : AnonRosterFrame)
    (rotate : AnonGroupKeyRotateFrame) : holds (do
      Hub.sendFrameTo hub connId (.anonRoster roster)
      Hub.broadcastFrame hub (.groupKeyUpdate update)
      Hub.broadcastFrame hub (.anonGroupKeyRotate rotate) : Handler Unit) :=
  rules.bind (rules.sendFrameTo connId rfl) fun _ =>
    rules.bind (rules.broadcast relays) fun _ => rules.announce rfl

theorem handleAnonHello (rules : HandlerRules hub may holds) (hello : AnonHelloFrame)
    (relays : ∀ update, may (.groupKeyUpdate update)) :
    holds (handleAnonHello hub connId hello) := by
  unfold Hub.handleAnonHello
  split
  · exact rules.sendError connId _
  · split
    · exact rules.sendError connId _
    · refine rules.bind rules.nowMs fun now => rules.bind rules.nowMs fun rosterAtMs =>
        rules.bind (rules.critical rfl) fun outcome => ?_
      cases outcome with
      | ignored => exact rules.done ()
      | rejected message => exact rules.sendError connId message
      | accepted roster update rotate => exact rules.announceAnonHello (relays update) roster rotate

theorem acknowledge (rules : HandlerRules hub may holds) (target : ConnId) {frame : KaigiFrame}
    (acks : isAck frame = true) (answers : may frame) : holds (sendFrameTo hub target frame) :=
  rules.bind (rules.encodeOrFail frame) fun _ => rules.bind (rules.lookupSender target) fun _ =>
    rules.bind (rules.ack acks answers) fun _ => rules.done ()

theorem handleEscrowProof (rules : HandlerRules hub may holds) (proof : EscrowProofFrame)
    (answers : ∀ ack, may (.escrowAck ack)) : holds (handleEscrowProof hub connId proof) := by
  refine rules.bind rules.nowMs fun now => rules.bind (rules.critical rfl) fun reason => ?_
  cases reason with
  | none => exact rules.done ()
  | some reason => exact rules.bind rules.nowMs fun _ => rules.acknowledge connId rfl (answers _)

theorem announceJoin (rules : HandlerRules hub may holds) (snapshot : ParticipantSnapshot)
    (presenceDelta : ParticipantPresenceDeltaFrame) :
    holds (announceJoin hub connId snapshot presenceDelta) :=
  rules.bind rules.nowMs fun _ => rules.bind (rules.critical rfl) fun _ =>
    rules.bind (rules.sendFrameTo connId rfl) fun _ => rules.bind (rules.announce rfl) fun _ =>
      rules.bind (rules.announce rfl) fun _ => rules.bind rules.broadcastRoomConfig fun _ =>
        rules.bind (rules.critical rfl) fun _ => rules.bind (rules.sendFrameTo connId rfl) fun _ =>
          rules.broadcastPermissionsSnapshots

theorem handleHello (rules : HandlerRules hub may holds) (frame : HelloFrame) :
    holds (handleHello hub connId frame) := by
  unfold Hub.handleHello
  split
  · exact rules.sendError connId _
  · refine rules.bind rules.nowMs fun snapshotAtMs => rules.bind rules.nowMs fun deltaAtMs =>
      rules.bind (rules.critical rfl) fun outcome => ?_
    cases outcome with
    | none => exact rules.fail _
    | some outcome =>
        cases outcome with
        | participantMissing => exact rules.fail _
        | modeConflict => exact rules.sendError connId _
        | denied reason => exact rules.sendError connId reason
        | waiting notice =>
            exact rules.bind (rules.notifyModerators notice) fun _ => rules.sendError connId notice
        | joined snapshot presenceDelta =>
            exact rules.when (rules.sendError connId _) fun _ =>
              rules.announceJoin snapshot presenceDelta

theorem handleChat (rules : HandlerRules hub may holds) (chat : ChatFrame)
    (relays : ∀ chat, may (.chat chat)) : holds (handleChat hub connId chat) := by
  refine rules.unlessAnonymous <| rules.bind (rules.critical rfl) fun joined => ?_
  cases joined with
  | false => exact rules.sendError connId _
  | true =>
      exact rules.behindE2eeGate <| rules.bind rules.nowMs fun _ =>
        rules.bind (rules.critical rfl) fun _ => rules.broadcast (relays _)

theorem handleParticipantState (rules : HandlerRules hub may holds)
    (update : ParticipantStateFrame) : holds (handleParticipantState hub connId update) := by
  refine rules.unlessAnonymous <| rules.bind rules.nowMs fun atMs =>
    rules.bind (rules.critical rfl) fun outcome => ?_
  cases outcome with
  | ignored => exact rules.done ()
  | refused message => exact rules.sendError connId message
  | updated snapshot denyShareMax =>
      cases denyShareMax with
      | none => exact rules.announce rfl
      | some limit => exact rules.bind (rules.sendError connId _) fun _ => rules.announce rfl

theorem handleMediaTrackState (rules : HandlerRules hub may holds) {track : MediaTrackStateFrame}
    (relays : may (.mediaTrackState track)) : holds (handleMediaTrackState hub connId track) := by
  refine rules.unlessAnonymous <| rules.behindE2eeGate <| rules.bind rules.nowMs fun atMs =>
    rules.bind (rules.critical rfl) fun outcome => ?_
  cases outcome with
  | ignored => exact rules.done ()
  | refused message => exact rules.sendError connId message
  | updated => exact rules.bind (rules.broadcast relays) fun _ => rules.announce rfl

theorem handleRoomConfigUpdate (rules : HandlerRules hub may holds)
    (update : RoomConfigUpdateFrame) : holds (handleRoomConfigUpdate hub connId update) := by
  refine rules.unlessAnonymous <| rules.bind rules.nowMs fun now =>
    rules.bind (rules.critical rfl) fun outcome => ?_
  cases outcome with
  | ignored => exact rules.done ()
  | refused message => exact rules.sendError connId message
  | applied changed rejectedZeroRate =>
      refine rules.when (rules.sendError connId _) fun _ => ?_
      split
      · exact rules.broadcastRoomConfig
      · exact rules.done ()

theorem announceRoleChange (rules : HandlerRules hub may holds) {frame : KaigiFrame}
    (relays : may frame) (outcome : RoleMutationOutcome)
    (presenceDelta : Option ParticipantPresenceDeltaFrame) :
    holds (announceRoleChange hub frame outcome presenceDelta) := by
  refine rules.bind (rules.broadcast relays) fun _ => rules.when rules.broadcastRoomConfig fun _ =>
    rules.when rules.broadcastPermissionsSnapshots fun _ => ?_
  cases presenceDelta with
  | none => exact rules.done ()
  | some delta => exact rules.announce rfl

theorem afterRoleChange (rules : HandlerRules hub may holds) {frame : KaigiFrame}
    (outcome : Option (Except String
      (RoleMutationOutcome × Option ParticipantPresenceDeltaFrame)))
    (relays : ∀ changes, outcome = some (.ok changes) → may frame) :
    holds (afterRoleChange hub connId frame outcome) := by
  rcases outcome with _ | (message | ⟨outcome, presenceDelta⟩)
  · exact rules.done ()
  · exact rules.sendError connId message
  · exact rules.announceRoleChange (relays _ rfl) outcome presenceDelta

theorem handleSessionPolicy (rules : HandlerRules hub may holds) (update : SessionPolicyFrame) :
    holds (handleSessionPolicy hub connId update) := by
  refine rules.unlessAnonymous <| rules.bind (rules.critical rfl) fun outcome => ?_
  rcases outcome with _ | (message | _)
  · exact rules.done ()
  · exact rules.sendError connId message
  · exact rules.bind (rules.critical rfl) fun _ => rules.bind (rules.announce rfl) fun _ =>
      rules.broadcastPermissionsSnapshots

theorem sendAdmissionFrames (rules : HandlerRules hub may holds)
    (outcome : WaitingRoomAdmitOutcome) : holds (sendAdmissionFrames hub outcome) :=
  rules.bind rules.nowMs fun _ => rules.bind (rules.critical rfl) fun _ =>
    rules.bind (rules.sendFrameTo _ rfl) fun _ => rules.bind rules.nowMs fun _ =>
      rules.bind (rules.critical rfl) fun _ => rules.bind (rules.sendFrameTo _ rfl) fun _ =>
        rules.bind (rules.critical rfl) fun _ => rules.sendFrameTo _ rfl

theorem announceModeration (rules : HandlerRules hub may holds) (moderation : ModerationFrame)
    {auditFrame : KaigiFrame} (relays : may auditFrame) (outcome : ModerationOutcome) :
    holds (announceModeration hub moderation auditFrame outcome) := by
  refine rules.bind (rules.broadcast relays) fun _ =>
    rules.bind (rules.each fun _ => rules.announce rfl) fun _ =>
      rules.bind (rules.each fun _ => rules.announce rfl) fun _ =>
        rules.bind (rules.each fun _ => rules.announce rfl) fun _ =>
          rules.bind (rules.each fun _ => rules.sendAdmissionFrames _) fun _ =>
            rules.when rules.broadcastPermissionsSnapshots fun _ => ?_
  have alone : ∀ {notice : ErrorFrame} {frame : KaigiFrame},
      encodable hub (.error notice) = some frame → isPrivate frame = true := by
    intro notice frame accepted
    rw [encodable_eq_some accepted]
    rfl
  have denied : holds (if moderation.action = .denyFromWaiting then
      Process.each outcome.deniedParticipants fun denied =>
        Hub.sendClosing denied.1
          (encodable hub (.error ⟨s!"waiting room admission denied: {denied.2}"⟩))
      else pure () : Handler Unit) := by
    split
    · exact rules.each fun _ => rules.sendClosing _ fun _ => alone
    · exact rules.done ()
  dsimp only
  by_cases kicks : moderation.action = .kick
  · rw [if_pos kicks]
    split
    · exact rules.done ()
    · next frame accepted =>
        refine rules.bind (rules.each fun _ => rules.sendClosing _ ?_) fun _ => denied
        intro _ same
        cases same
        exact alone accepted
  · rw [if_neg kicks]
    exact denied

theorem processModerationFrame (rules : HandlerRules hub may holds) (moderation : ModerationFrame)
    {auditFrame : KaigiFrame} (relays : may auditFrame) :
    holds (processModerationFrame hub connId moderation auditFrame) := by
  refine rules.unlessAnonymous <| rules.bind rules.nowMs fun now => rules.bind rules.nowMs
    fun admitAtMs => rules.bind (rules.critical rfl) fun outcome => ?_
  rcases outcome with _ | (message | outcome)
  · exact rules.done ()
  · exact rules.sendError connId message
  · dsimp only
    split
    · exact rules.sendError connId _
    · exact rules.announceModeration moderation relays outcome

theorem handlePayment (rules : HandlerRules hub may holds) (payment : PaymentFrame)
    (answers : ∀ ack, may (.paymentAck ack)) : holds (handlePayment hub connId payment) := by
  refine rules.unlessAnonymous <| rules.bind rules.nowMs fun now =>
    rules.bind (rules.critical rfl) fun outcome => ?_
  cases outcome with
  | ignored => exact rules.done ()
  | requireHello | invalidPaymentHash => exact rules.sendError connId _
  | accepted => exact rules.acknowledge connId rfl (answers _)

end HandlerRules

/-- The handler of the frame sends nothing but what the hub makes itself. -/
def announcesOnly : KaigiFrame → Bool
  | .escrowProof _ | .payment _ | .anonHello _ | .groupKeyUpdate _ | .encryptedControl _ | .chat _
  | .mediaCapability _
  | .mediaTrackState _ | .videoSegment _ | .audioPacket _ | .anonEncryptedPayload _ | .roleGrant _
  | .roleRevoke _ | .deviceCapability _ | .mediaProfileNegotiation _ | .recordingNotice _
  | .e2eeKeyEpoch _ | .keyRotationAck _ | .moderation _ | .moderationSigned _ => false
  | _ => true

/-- The handler of the frame relays or answers with the other one. Most handlers only relay
frames like the one that they handle. -/
def relays : KaigiFrame → KaigiFrame → Bool
  | .anonHello _, .groupKeyUpdate _ | .escrowProof _, .escrowAck _ | .payment _, .paymentAck _ =>
      true
  | frame, sent => !announcesOnly frame && frame.ctorIdx == sent.ctorIdx

namespace HandlerRules

variable {hub : HubState} {connId : ConnId} {may : KaigiFrame → Prop}
  {holds : {Value : Type} → Handler Value → Prop}

theorem handleAnnouncing (rules : HandlerRules hub may holds) {frame : KaigiFrame}
    (announces : announcesOnly frame = true) : holds (handleFrame hub connId frame) := by
  cases frame with
  | hello hello => exact rules.handleHello hello
  | participantState update => exact rules.handleParticipantState update
  | roomConfigUpdate update => exact rules.handleRoomConfigUpdate update
  | sessionPolicy update => exact rules.handleSessionPolicy update
  | anonGroupKeyRotate | permissionsSnapshot | participantPresenceDelta =>
      exact rules.sendError connId _
  | ping => exact rules.sendFrameTo connId rfl
  | escrowAck | anonRoster | roomConfig | paymentAck | pong | roster | event | error =>
      exact rules.done ()
  | _ => cases announces

/-- What holds of all that the handler of a frame relays or answers holds of that handler. -/
theorem handleFrame (rules : HandlerRules hub may holds) (frame : KaigiFrame)
    (every : ∀ sent, relays frame sent = true → may sent) :
    holds (handleFrame hub connId frame) := by
  cases announces : announcesOnly frame with
  | true => exact rules.handleAnnouncing announces
  | false =>
      cases frame with
      | escrowProof proof => exact rules.handleEscrowProof proof fun _ => every _ rfl
      | payment payment => exact rules.handlePayment payment fun _ => every _ rfl
      | anonHello hello => exact rules.handleAnonHello hello fun _ => every _ rfl
      | groupKeyUpdate | encryptedControl | anonEncryptedPayload =>
          exact rules.bind (rules.critical rfl) fun _ => rules.afterRelay _ (every _ rfl)
      | chat chat => exact rules.handleChat chat fun _ => every _ rfl
      | mediaCapability | recordingNotice =>
          exact rules.unlessAnonymous <| rules.checked (rules.broadcast (every _ rfl))
      | mediaTrackState track => exact rules.handleMediaTrackState (every _ rfl)
      | videoSegment | audioPacket =>
          exact rules.unlessAnonymous <| rules.behindE2eeGate <|
            rules.checked (rules.broadcast (every _ rfl))
      | roleGrant | roleRevoke =>
          exact rules.unlessAnonymous <| rules.bind rules.nowMs fun _ =>
            rules.bind (rules.critical rfl) fun outcome =>
              rules.afterRoleChange outcome fun _ _ => every _ rfl
      | deviceCapability =>
          exact rules.unlessAnonymous <| rules.checked <| rules.bind (rules.critical rfl) fun _ =>
            rules.broadcast (every _ rfl)
      | mediaProfileNegotiation =>
          exact rules.unlessAnonymous <| rules.checked <| rules.bind (rules.critical rfl) fun _ =>
            rules.broadcast (every _ rfl)
      | e2eeKeyEpoch | keyRotationAck =>
          exact rules.unlessAnonymous <| rules.bind (rules.critical rfl) fun _ =>
            rules.afterCheck _ (rules.broadcast (every _ rfl))
      | moderation moderation => exact rules.processModerationFrame moderation (every _ rfl)
      | moderationSigned signed =>
          exact rules.unlessAnonymous <|
            rules.checked (rules.processModerationFrame _ (every _ rfl))
      | _ => cases announces

theorem announceAnonymousLeave (rules : HandlerRules hub may holds) (handle : Option String)
    (notice : ∀ name sentAtMs, handle = some name → may (.groupKeyUpdate {
      sentAtMs := sentAtMs
      participantHandle := name
      x25519PubkeyHex := ""
      epoch := 0 })) : holds (announceAnonymousLeave hub handle) := by
  have rotate : holds (rotateGroupKey hub) := by
    refine rules.bind rules.nowMs fun _ => rules.bind (rules.critical rfl) fun outcome => ?_
    cases outcome with
    | none => exact rules.done ()
    | some rotate => exact rules.announce rfl
  refine rules.bind rules.nowMs fun _ => rules.bind (rules.critical rfl) fun _ =>
    rules.bind (rules.announce rfl) fun _ => ?_
  cases handle with
  | none => exact rotate
  | some name =>
      exact rules.bind rules.nowMs fun sentAtMs =>
        rules.bind (rules.broadcast (notice name sentAtMs rfl)) fun _ => rotate

theorem afterLeave (rules : HandlerRules hub may holds) (outcome : Option DisconnectOutcome)
    (notice : ∀ left name sentAtMs, outcome = some left →
      left.leftParticipantHandle = some name → may (.groupKeyUpdate {
        sentAtMs := sentAtMs
        participantHandle := name
        x25519PubkeyHex := ""
        epoch := 0 })) : holds (afterLeave hub outcome) := by
  cases outcome with
  | none => exact rules.done ()
  | some outcome =>
      unfold Hub.afterLeave
      dsimp only
      split
      · exact rules.done ()
      · split
        · exact rules.announceAnonymousLeave _ fun name sentAtMs named =>
            notice outcome name sentAtMs rfl named
        · have config : holds (if outcome.hostChanged then (do
              Hub.broadcastRoomConfig hub
              Hub.broadcastPermissionsSnapshots hub) else pure () : Handler Unit) := by
            split
            · exact rules.bind rules.broadcastRoomConfig
                fun _ => rules.broadcastPermissionsSnapshots
            · exact rules.done ()
          split
          · refine rules.bind rules.nowMs fun _ => rules.bind (rules.announce rfl) fun _ => ?_
            split
            · exact rules.bind (rules.announce rfl) fun _ => config
            · exact config
          · exact config

theorem handleDisconnect (rules : HandlerRules hub may holds)
    (leavers : ∀ update, may (.groupKeyUpdate update))
    (leaves : ∀ {Value : Type} (deltaAtMs leftAtMs : Nat) {next : HubRoom → Handler Value},
      (∀ state, holds (next state)) → holds (.atomic (.disconnect deltaAtMs leftAtMs) next)) :
    holds (handleDisconnect hub connId) :=
  rules.bind rules.nowMs fun deltaAtMs => rules.bind rules.nowMs fun leftAtMs =>
    rules.bind (leaves deltaAtMs leftAtMs fun _ => rules.done _) fun outcome =>
      rules.afterLeave outcome fun _ _ _ _ _ => leavers _

end HandlerRules

/-! ### Invariants of the own history -/

section Invariants

variable {hub : HubState} {connId : ConnId} {admits : List Event → Operation → HubRoom → Prop}

theorem stable_own (inv : List Event → Prop) :
    Process.Stable (ownContract hub connId admits) fun world => inv world.own := by
  intro before after own holds
  rw [show after.own = before.own from own]
  exact holds

/-- A program that performs one operation after another keeps what each of them keeps. -/
theorem partRules_of_inv {inv : List Event → Prop}
    (parts : ∀ (op : Operation) past state, op.isPart = true → inv past →
      admits past op state ∧ inv (⟨connId, .connection, op, state⟩ :: past)) :
    PartRules fun program => program.Keeps (ownContract hub connId admits) fun world =>
      inv world.own where
  done := .done (stable_own inv)
  fail _ _ _ := trivial
  ask := .ask
  atomic part rest := .atomic (stable_own inv)
    (fun world start => (parts _ world.own world.shared part start).1)
    (fun world start => (parts _ world.own world.shared part start).2) rest
  bind := .bind

/-- The rules for what a program may perform: all that is not broadcast, and the broadcasts of
frames that it `may`. -/
theorem handlerRules_of_performs (hub : HubState) {may : KaigiFrame → Prop}
    {allowed : Operation → Prop} (managed : ∀ {frame}, isManaged frame = true → may frame)
    (parts : ∀ op : Operation, op.isPart = true → allowed op)
    (reports : ∀ dropped nowMs, allowed (.backpressure dropped nowMs))
    (fans : ∀ frame, may frame → allowed (.fanout frame))
    (sends : ∀ frame target, may frame → allowed (.trySend target (.binary frame))) :
    HandlerRules hub may fun program => program.Performs allowed where
  done _ := trivial
  fail _ := trivial
  ask rest := rest
  atomic part rest := ⟨parts _ part, rest⟩
  bind := .bind
  managed := managed
  ack _ answers := ⟨sends _ _ answers, fun _ => trivial⟩
  broadcast answers := performs_broadcastFrame
    ⟨parts _ rfl, fun _ => parts _ rfl, reports, fun _ _ => parts _ rfl⟩
    ⟨fans _ answers, fun _ => sends _ _ answers⟩

/-- The contract never stands in the way of what is not broadcast. -/
def AdmitsParts (admits : List Event → Operation → HubRoom → Prop) : Prop :=
  ∀ op past state, op.isPart = true → admits past op state

/-- The rules of a contract that never depends on what its task has done before, as long as it
sends nothing but frames that it `may`. -/
theorem handlerRules_of_admits (hub : HubState) {may : KaigiFrame → Prop}
    (managed : ∀ {frame}, isManaged frame = true → may frame)
    (parts : AdmitsParts admits)
    (reports : ∀ dropped nowMs past state, admits past (.backpressure dropped nowMs) state)
    (fans : ∀ frame past state, may frame → admits past (.fanout frame) state)
    (sends : ∀ frame target past state, may frame →
      admits past (.trySend target (.binary frame)) state) :
    HandlerRules hub may fun program =>
      program.Keeps (ownContract hub connId admits) fun _ => True where
  toPartRules := @partRules_of_inv hub connId admits (fun _ => True)
    fun op past state part _ => ⟨parts op past state part, trivial⟩
  managed := managed
  ack _ allowed := .atomic (stable_own fun _ => True)
    (fun world _ => sends _ _ world.own world.shared allowed) (fun _ _ => trivial)
    fun _ => .done (stable_own fun _ => True) _
  broadcast {frame} allowed := by
    have plumbing : Plumbing fun op => ∀ past state, admits past op state :=
      ⟨fun past state => parts _ past state rfl, fun _ past state => parts _ past state rfl,
        reports, fun _ _ past state => parts _ past state rfl⟩
    have relays : Relays (fun op => ∀ past state, admits past op state) frame :=
      ⟨fun past state => fans frame past state allowed,
        fun target past state => sends frame target past state allowed⟩
    exact (performs_broadcastFrame plumbing relays).keeps (stable_own fun _ => True)
      (fun op world admitted _ => ⟨admitted world.own world.shared, trivial⟩) fun _ _ _ => trivial

end Invariants

/-! ### Handlers that depend on what they have seen -/

section Seen

variable {hub : HubState} {connId : ConnId} {admits : List Event → Operation → HubRoom → Prop}
  {world : World} {next : Handler Unit}

/-- The program keeps to what its own history admits. -/
abbrev MeetsOwn (hub : HubState) (connId : ConnId)
    (admits : List Event → Operation → HubRoom → Prop) {Value : Type} (program : Handler Value)
    (world : World) : Prop :=
  program.Meets (ownContract hub connId admits) (fun _ _ => True) world

theorem AdmitsParts.rules (parts : AdmitsParts admits) : PartRules fun program =>
    program.Keeps (ownContract hub connId admits) fun _ => True :=
  @partRules_of_inv hub connId admits (fun _ => True)
    fun op past state part _ => ⟨parts op past state part, trivial⟩

theorem AdmitsParts.error (parts : AdmitsParts admits) (message : String) :
    MeetsOwn hub connId admits (sendError hub connId message) world :=
  parts.rules.sendError connId message world trivial

theorem AdmitsParts.done (parts : AdmitsParts admits) {Value : Type} (value : Value) :
    MeetsOwn hub connId admits (.done value) world :=
  parts.rules.done value world trivial

/-- A critical section, before the rest of the handler. -/
theorem AdmitsParts.section (parts : AdmitsParts admits) {Value : Type} {op : Operation}
    {view : Option RoomState → Value} {rest : Value → Handler Unit} (part : op.isPart = true)
    (each : ∀ shared state : HubRoom, MeetsOwn hub connId admits (rest (view state.room))
      ⟨shared, ⟨connId, .connection, op, state⟩ :: world.own⟩) :
    MeetsOwn hub connId admits (critical op view >>= rest) world :=
  meets_critical fun state => ⟨parts op world.own state part, each _ state⟩

theorem AdmitsParts.unlessAnonymous (parts : AdmitsParts admits) {refusal : String}
    (passed : ∀ later, MeetsOwn hub connId admits next later) :
    MeetsOwn hub connId admits (unlessAnonymous hub connId refusal next) world := by
  refine parts.section rfl fun _ state => ?_
  split
  · exact parts.error refusal
  · exact passed _

theorem AdmitsParts.afterCheck (parts : AdmitsParts admits) {outcome : CheckOutcome}
    (passed : outcome = .passed → MeetsOwn hub connId admits next world) :
    MeetsOwn hub connId admits (afterCheck hub connId outcome next) world := by
  cases outcome with
  | ignored => exact parts.done ()
  | refused message => exact parts.error message
  | passed => exact passed rfl

theorem AdmitsParts.checked (parts : AdmitsParts admits) {check : RoomState → CheckOutcome}
    (passed : ∀ shared state room, state.room = some room → check room = .passed →
      MeetsOwn hub connId admits next
        ⟨shared, ⟨connId, .connection, .read, state⟩ :: world.own⟩) :
    MeetsOwn hub connId admits (checked hub connId check next) world := by
  refine parts.section rfl fun shared state => parts.afterCheck fun outcome => ?_
  cases found : state.room with
  | none =>
      rw [found] at outcome
      cases outcome
  | some room =>
      rw [found] at outcome
      exact passed shared state room found outcome

theorem AdmitsParts.behindE2eeGate (parts : AdmitsParts admits)
    (passed : ∀ shared state, MeetsOwn hub connId admits next
      ⟨shared, ⟨connId, .connection, .read, state⟩ :: world.own⟩) :
    MeetsOwn hub connId admits (behindE2eeGate hub connId next) world := by
  refine parts.section rfl fun shared state => ?_
  split
  · exact parts.error _
  · exact passed shared state

/-- A broadcast that is admitted here, of a frame that may be sent anywhere. -/
theorem AdmitsParts.broadcastFrame (parts : AdmitsParts admits) {frame : KaigiFrame}
    (fans : ∀ state, admits world.own (.fanout frame) state)
    (sends : ∀ target past state, admits past (.trySend target (.binary frame)) state)
    (reports : ∀ dropped nowMs past state, admits past (.backpressure dropped nowMs) state) :
    MeetsOwn hub connId admits (broadcastFrame hub frame) world := by
  unfold Hub.broadcastFrame Hub.encodeOrFail
  split
  · trivial
  · refine meets_critical fun state => ⟨fans state, ?_⟩
    change MeetsOwn hub connId admits
      (fanoutFound hub frame (state.room.map (·.participants.keys))) _
    have plumbing : Plumbing fun op => ∀ past state, admits past op state :=
      ⟨fun past state => parts _ past state rfl, fun _ past state => parts _ past state rfl,
        reports, fun _ _ past state => parts _ past state rfl⟩
    cases state.room with
    | none => exact parts.done ()
    | some room =>
        refine meets_of_performs ?_ (fun _ admitted => admitted) _
        exact performs_bind
          (performs_fanoutTo (fun target past state => sends target past state) _ _)
          fun dropped => performs_afterFanout plumbing dropped

end Seen

end Kaigi.Hub
