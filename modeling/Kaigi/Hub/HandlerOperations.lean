import Kaigi.Hub.TaskProtocol

/-!
# What the handlers perform

The operations that the building blocks of the handlers contain. Most handlers
neither change who is in the room or what it is configured to, nor send frames
that say so.
-/

set_option autoImplicit false

namespace Kaigi.Hub

open Collections Wire Interleaving

/-- The frames that report changes of the membership or of the configuration. -/
def isReport : KaigiFrame → Bool
  | .participantPresenceDelta _ | .roomConfig _ | .sessionPolicy _ | .permissionsSnapshot _
  | .anonRoster _ | .groupKeyUpdate _ => true
  | _ => false

/-- The frames whose handlers make or report such changes. -/
def isRequest : KaigiFrame → Bool
  | .hello _ | .anonHello _ | .groupKeyUpdate _ | .roomConfigUpdate _ | .roleGrant _
  | .roleRevoke _ | .sessionPolicy _ | .moderation _ | .moderationSigned _ => true
  | _ => false

namespace Operation

/-- The frame that the operation gives to a channel or to a fan-out. -/
def frame? : Operation → Option KaigiFrame
  | .fanout frame | .trySend _ (.binary frame) => some frame
  | _ => none

/-- The operation neither makes nor reports such a change. -/
def isOrdinary (op : Operation) : Bool :=
  match op with
  | .connect _ | .disconnect _ _ | .hello _ _ _ | .anonHello _ _ _ | .groupKeyUpdate _
  | .roomConfigUpdate _ _ | .roleGrant _ _ | .roleRevoke _ _ | .sessionPolicy _
  | .moderation _ _ _ => false
  | op => !op.frame?.any isReport

end Operation

/-- What every handler may perform: it looks at the room and reports errors. -/
structure Plumbing (allowed : Operation → Prop) : Prop where
  read : allowed .read
  lookup : ∀ target, allowed (.lookup target)
  backpressure : ∀ dropped nowMs, allowed (.backpressure dropped nowMs)
  report : ∀ target notice, allowed (.trySend target (.binary (.error notice)))

/-- The frame may be sent and fanned out. -/
structure Relays (allowed : Operation → Prop) (frame : KaigiFrame) : Prop where
  fanout : allowed (.fanout frame)
  send : ∀ target, allowed (.trySend target (.binary frame))

theorem plumbing_ordinary : Plumbing fun op => op.isOrdinary = true :=
  ⟨rfl, fun _ => rfl, fun _ _ => rfl, fun _ _ => rfl⟩

theorem relays_ordinary {frame : KaigiFrame} (ordinary : isReport frame = false) :
    Relays (fun op => op.isOrdinary = true) frame where
  fanout := by simp [Operation.isOrdinary, Operation.frame?, ordinary]
  send target := by simp [Operation.isOrdinary, Operation.frame?, ordinary]

section Blocks

variable {hub : HubState} {connId : ConnId} {allowed : Operation → Prop} {Value Result : Type}

theorem performs_bind {program : Handler Value} {next : Value → Handler Result}
    (first : program.Performs allowed) (second : ∀ value, (next value).Performs allowed) :
    (program >>= next).Performs allowed :=
  Process.Performs.bind first second

/-- A statement made only under a condition, before the rest of the program. -/
theorem performs_when {condition : Prop} [Decidable condition] {body : Handler Unit}
    {next : Unit → Handler Value} (first : body.Performs allowed)
    (rest : ∀ done, (next done).Performs allowed) :
    (if condition then body >>= next else next () : Handler Value).Performs allowed := by
  split
  · exact performs_bind first rest
  · exact rest ()

theorem performs_nowMs : (nowMs : Handler Nat).Performs allowed :=
  fun _ => trivial

theorem performs_critical {op : Operation} {view : Option RoomState → Value} (may : allowed op) :
    (critical op view).Performs allowed :=
  ⟨may, fun _ => trivial⟩

/-- What follows a critical section knows what the section has read. -/
theorem performs_critical_bind {op : Operation} {view : Option RoomState → Value}
    {next : Value → Handler Result} (may : allowed op)
    (rest : ∀ room, (next (view room)).Performs allowed) :
    (critical op view >>= next).Performs allowed :=
  ⟨may, fun state => rest state.room⟩

theorem performs_encodeOrFail (frame : KaigiFrame) :
    (encodeOrFail hub frame).Performs allowed := by
  unfold encodeOrFail
  split <;> trivial

theorem performs_lookupSender {target : ConnId} (may : allowed (.lookup target)) :
    (lookupSender target).Performs allowed := by
  refine ⟨may, fun state => ?_⟩
  dsimp only
  split
  · trivial
  · split <;> trivial

theorem performs_trySend {target : ConnId} {message : Message}
    (may : allowed (.trySend target message)) : (trySend target message).Performs allowed :=
  ⟨may, fun _ => trivial⟩

theorem performs_fanoutTo {frame : KaigiFrame}
    (sends : ∀ target, allowed (.trySend target (.binary frame))) (targets : List ConnId)
    (dropped : Nat) :
    (fanoutTo (.binary frame) targets dropped).Performs allowed := by
  induction targets generalizing dropped with
  | nil => trivial
  | cons target rest ih =>
      exact performs_bind (performs_trySend (sends target)) fun _ => ih _

variable (plumbing : Plumbing allowed)
include plumbing

theorem performs_sendFrameTo {target : ConnId} {frame : KaigiFrame}
    (may : allowed (.trySend target (.binary frame))) :
    (sendFrameTo hub target frame).Performs allowed :=
  performs_bind (performs_encodeOrFail frame) fun _ =>
    performs_bind (performs_lookupSender (plumbing.lookup target)) fun _ =>
      performs_bind (performs_trySend may) fun _ => trivial

theorem performs_sendError (target : ConnId) (message : String) :
    (sendError hub target message).Performs allowed :=
  performs_sendFrameTo plumbing (plumbing.report target _)

theorem performs_notifyModerators (message : String) :
    (notifyModerators hub message).Performs allowed :=
  performs_bind (performs_critical plumbing.read) fun _ =>
    .each fun target _ => performs_sendFrameTo plumbing (plumbing.report target _)

theorem performs_afterFanout (dropped : Nat) : (afterFanout hub dropped).Performs allowed := by
  unfold afterFanout
  split
  · refine performs_bind performs_nowMs fun now =>
      performs_bind (performs_critical (plumbing.backpressure dropped now)) fun notice => ?_
    cases notice with
    | none => trivial
    | some notice => exact performs_notifyModerators plumbing notice
  · trivial

theorem performs_broadcastFrame {frame : KaigiFrame} (relays : Relays allowed frame) :
    (broadcastFrame hub frame).Performs allowed := by
  refine performs_bind (performs_encodeOrFail frame) fun _ =>
    performs_bind (performs_critical relays.fanout) fun senders => ?_
  cases senders with
  | none => trivial
  | some senders =>
      exact performs_bind (performs_fanoutTo relays.send senders 0) fun dropped =>
        performs_afterFanout plumbing dropped

theorem performs_broadcastRoomConfig (relays : ∀ cfg, Relays allowed (.roomConfig cfg)) :
    (broadcastRoomConfig hub).Performs allowed :=
  performs_bind performs_nowMs fun _ => performs_bind (performs_critical plumbing.read) fun cfg =>
    performs_broadcastFrame plumbing (relays cfg)

theorem performs_broadcastPermissionsSnapshots
    (may : ∀ target snapshot, allowed (.trySend target (.binary (.permissionsSnapshot snapshot)))) :
    (broadcastPermissionsSnapshots hub).Performs allowed :=
  performs_bind performs_nowMs fun _ => performs_bind (performs_critical plumbing.read) fun _ =>
    .each fun (_, _) _ => performs_sendFrameTo plumbing (may _ _)

theorem performs_afterCheck {outcome : CheckOutcome} {next : Handler Unit}
    (passed : next.Performs allowed) : (afterCheck hub connId outcome next).Performs allowed := by
  cases outcome with
  | ignored => trivial
  | refused message => exact performs_sendError plumbing connId message
  | passed => exact passed

theorem performs_checked {check : RoomState → CheckOutcome} {next : Handler Unit}
    (passed : next.Performs allowed) : (checked hub connId check next).Performs allowed :=
  performs_bind (performs_critical plumbing.read) fun _ => performs_afterCheck plumbing passed

theorem performs_behindE2eeGate {next : Handler Unit} (passed : next.Performs allowed) :
    (behindE2eeGate hub connId next).Performs allowed := by
  refine performs_bind (performs_critical plumbing.read) fun refusal => ?_
  cases refusal with
  | none => exact passed
  | some message => exact performs_sendError plumbing connId message

theorem performs_afterRelay {outcome : RelayOutcome} {frame : KaigiFrame}
    (relays : Relays allowed frame) :
    (afterRelay hub connId outcome frame).Performs allowed := by
  cases outcome with
  | nothing => trivial
  | refused message => exact performs_sendError plumbing connId message
  | relay => exact performs_broadcastFrame plumbing relays

theorem performs_unlessAnonymous {refusal : String} {next : Handler Unit}
    (passed : next.Performs allowed) :
    (unlessAnonymous hub connId refusal next).Performs allowed := by
  refine performs_bind (performs_critical plumbing.read) fun anonymous => ?_
  cases anonymous with
  | true => exact performs_sendError plumbing connId refusal
  | false => exact passed

omit plumbing in
theorem performs_sendClosing {target : ConnId} {notice : Option KaigiFrame}
    (closes : allowed (.trySend target .close))
    (may : ∀ frame, notice = some frame → allowed (.trySend target (.binary frame))) :
    (sendClosing target notice).Performs allowed := by
  have close : ((do let _ ← trySend target .close) : Handler Unit).Performs allowed :=
    performs_bind (performs_trySend closes) fun _ => trivial
  cases notice with
  | none => exact close
  | some frame => exact performs_bind (performs_trySend (may frame rfl)) fun _ => close

/-- The end of a moderation: whoever is put out is told why. -/
theorem performs_dismissals (moderation : ModerationFrame) (outcome : ModerationOutcome)
    (closes : ∀ target, allowed (.trySend target .close)) : ((do
      if moderation.action = .kick then
        let reason := match moderation.target with
          | .all => "meeting ended by host"
          | .participant participantId => s!"removed by host: {participantId}"
        match encodable hub (.error ⟨reason⟩) with
        | none => return
        | some frame =>
          Process.each outcome.closeSenders fun target => sendClosing target (some frame)
      if moderation.action = .denyFromWaiting then
        Process.each outcome.deniedParticipants fun (target, deniedId) =>
          sendClosing target
            (encodable hub (.error ⟨s!"waiting room admission denied: {deniedId}"⟩))) :
        Handler Unit).Performs allowed := by
  have report : ∀ {target : ConnId} {notice : ErrorFrame} {frame : KaigiFrame},
      encodable hub (.error notice) = some frame →
        allowed (.trySend target (.binary frame)) := by
    intro target notice frame accepted
    rw [encodable_eq_some accepted]
    exact plumbing.report target notice
  have denied : (if moderation.action = .denyFromWaiting then
      Process.each outcome.deniedParticipants fun (target, deniedId) =>
        sendClosing target (encodable hub (.error ⟨s!"waiting room admission denied: {deniedId}"⟩))
      else pure () : Handler Unit).Performs allowed := by
    split
    · exact .each fun _ _ => performs_sendClosing (closes _) fun _ accepted => report accepted
    · trivial
  by_cases kicks : moderation.action = .kick
  · rw [if_pos kicks]
    dsimp only
    split
    · trivial
    · next frame accepted =>
        refine performs_bind (.each fun _ _ => performs_sendClosing (closes _) ?_) fun _ => denied
        rintro _ ⟨⟩
        exact report accepted
  · rw [if_neg kicks]
    exact denied

theorem performs_handleRoomConfigUpdate {update : RoomConfigUpdateFrame}
    (may : ∀ nowMs, allowed (.roomConfigUpdate update nowMs))
    (relays : ∀ cfg, Relays allowed (.roomConfig cfg)) :
    (handleRoomConfigUpdate hub connId update).Performs allowed := by
  refine performs_unlessAnonymous plumbing <| performs_bind performs_nowMs fun now =>
    performs_bind (performs_critical (may now)) fun outcome => ?_
  cases outcome with
  | ignored => trivial
  | refused message => exact performs_sendError plumbing connId message
  | applied changed rejectedZeroRate =>
      refine performs_when (performs_sendError plumbing connId _) fun _ => ?_
      split
      · exact performs_broadcastRoomConfig plumbing relays
      · trivial

theorem performs_handleSessionPolicy {update : SessionPolicyFrame}
    (may : allowed (.sessionPolicy update))
    (relays : ∀ policy, Relays allowed (.sessionPolicy policy))
    (snapshots : ∀ target snapshot,
      allowed (.trySend target (.binary (.permissionsSnapshot snapshot)))) :
    (handleSessionPolicy hub connId update).Performs allowed := by
  refine performs_unlessAnonymous plumbing <|
    performs_bind (performs_critical may) fun outcome => ?_
  rcases outcome with _ | (message | _)
  · trivial
  · exact performs_sendError plumbing connId message
  · exact performs_bind (performs_critical plumbing.read) fun _ =>
      performs_bind (performs_broadcastFrame plumbing (relays _)) fun _ =>
        performs_broadcastPermissionsSnapshots plumbing snapshots

theorem performs_handleAnonHello {hello : AnonHelloFrame}
    (may : ∀ nowMs rosterAtMs, allowed (.anonHello hello nowMs rosterAtMs))
    (sends : ∀ roster, allowed (.trySend connId (.binary (.anonRoster roster))))
    (relays : ∀ update, Relays allowed (.groupKeyUpdate update))
    (rotates : ∀ rotate, Relays allowed (.anonGroupKeyRotate rotate)) :
    (handleAnonHello hub connId hello).Performs allowed := by
  unfold handleAnonHello
  split
  · exact performs_sendError plumbing connId _
  · split
    · exact performs_sendError plumbing connId _
    · refine performs_bind performs_nowMs fun now => performs_bind performs_nowMs fun rosterAtMs =>
        performs_bind (performs_critical (may now rosterAtMs)) fun outcome => ?_
      cases outcome with
      | ignored => trivial
      | rejected message => exact performs_sendError plumbing connId message
      | accepted roster update rotate =>
          exact performs_bind (performs_sendFrameTo plumbing (sends roster)) fun _ =>
            performs_bind (performs_broadcastFrame plumbing (relays update)) fun _ =>
              performs_broadcastFrame plumbing (rotates rotate)

theorem performs_handleGroupKeyUpdate {update : GroupKeyUpdateFrame}
    (may : allowed (.groupKeyUpdate update)) (relays : Relays allowed (.groupKeyUpdate update)) :
    (handleGroupKeyUpdate hub connId update).Performs allowed :=
  performs_bind (performs_critical may) fun _ => performs_afterRelay plumbing relays

/-- The last statement of an anonymous leave. -/
theorem performs_announceRotate (may : ∀ nowMs, allowed (.groupKeyRotate nowMs))
    (rotates : ∀ room nowMs,
      Relays allowed (.anonGroupKeyRotate (buildAnonGroupKeyRotateFrame hub room nowMs).2)) :
    ((do
      let now ← nowMs
      match ← critical (.groupKeyRotate now) fun room =>
          room.map fun room => (buildAnonGroupKeyRotateFrame hub room now).2 with
      | none => return
      | some rotate => broadcastFrame hub (.anonGroupKeyRotate rotate)) :
        Handler Unit).Performs allowed := by
  refine performs_bind performs_nowMs fun now =>
    performs_critical_bind (may now) fun room => ?_
  cases room with
  | none => trivial
  | some room => exact performs_broadcastFrame plumbing (rotates room now)

theorem performs_announceAnonymousLeave {handle : Option String}
    (may : ∀ nowMs, allowed (.groupKeyRotate nowMs))
    (rosters : ∀ roster, Relays allowed (.anonRoster roster))
    (relays : ∀ update, Relays allowed (.groupKeyUpdate update))
    (rotates : ∀ rotate, Relays allowed (.anonGroupKeyRotate rotate)) :
    (announceAnonymousLeave hub handle).Performs allowed := by
  refine performs_bind performs_nowMs fun rosterAtMs =>
    performs_bind (performs_critical plumbing.read) fun roster =>
      performs_bind (performs_broadcastFrame plumbing (rosters roster)) fun _ => ?_
  cases handle with
  | none => exact performs_announceRotate plumbing may fun _ _ => rotates _
  | some handle =>
      exact performs_bind performs_nowMs fun _ =>
        performs_bind (performs_broadcastFrame plumbing (relays _)) fun _ =>
          performs_announceRotate plumbing may fun _ _ => rotates _

theorem performs_sendAdmissionFrames {outcome : WaitingRoomAdmitOutcome}
    (rosters : ∀ roster, Relays allowed (.roster roster))
    (configs : ∀ cfg, Relays allowed (.roomConfig cfg))
    (policies : ∀ policy, Relays allowed (.sessionPolicy policy)) :
    (sendAdmissionFrames hub outcome).Performs allowed :=
  performs_bind performs_nowMs fun _ => performs_bind (performs_critical plumbing.read) fun _ =>
    performs_bind (performs_sendFrameTo plumbing ((rosters _).send _)) fun _ =>
      performs_bind performs_nowMs fun _ => performs_bind (performs_critical plumbing.read) fun _ =>
        performs_bind (performs_sendFrameTo plumbing ((configs _).send _)) fun _ =>
          performs_bind (performs_critical plumbing.read) fun _ =>
            performs_sendFrameTo plumbing ((policies _).send _)

end Blocks

section Ordinary

variable {hub : HubState} {connId : ConnId}

/-- The program makes and reports no change. -/
abbrev Ordinary {Value : Type} (program : Handler Value) : Prop :=
  program.Performs fun op => op.isOrdinary = true

theorem ordinary_broadcastFrame {frame : KaigiFrame} (ordinary : isReport frame = false) :
    Ordinary (broadcastFrame hub frame) :=
  performs_broadcastFrame plumbing_ordinary (relays_ordinary ordinary)

theorem ordinary_sendFrameTo {target : ConnId} {frame : KaigiFrame}
    (ordinary : isReport frame = false) : Ordinary (sendFrameTo hub target frame) :=
  performs_sendFrameTo plumbing_ordinary ((relays_ordinary ordinary).send target)

theorem ordinary_sendError (target : ConnId) (message : String) :
    Ordinary (sendError hub target message) :=
  performs_sendError plumbing_ordinary target message

theorem ordinary_handleEscrowProof (proof : EscrowProofFrame) :
    Ordinary (handleEscrowProof hub connId proof) := by
  refine performs_bind performs_nowMs fun now =>
    performs_bind (performs_critical rfl) fun reason => ?_
  cases reason with
  | none => trivial
  | some reason => exact performs_bind performs_nowMs fun _ => ordinary_sendFrameTo rfl

theorem ordinary_handleChat (chat : ChatFrame) : Ordinary (handleChat hub connId chat) := by
  refine performs_unlessAnonymous plumbing_ordinary <|
    performs_bind (performs_critical rfl) fun joined => ?_
  cases joined with
  | false => exact ordinary_sendError connId _
  | true =>
      exact performs_behindE2eeGate plumbing_ordinary <| performs_bind performs_nowMs fun _ =>
        performs_bind (performs_critical rfl) fun _ => ordinary_broadcastFrame rfl

theorem ordinary_handleParticipantState (update : ParticipantStateFrame) :
    Ordinary (handleParticipantState hub connId update) := by
  refine performs_unlessAnonymous plumbing_ordinary <| performs_bind performs_nowMs fun atMs =>
    performs_bind (performs_critical rfl) fun outcome => ?_
  cases outcome with
  | ignored => trivial
  | refused message => exact ordinary_sendError connId message
  | updated snapshot denyShareMax =>
      cases denyShareMax with
      | none => exact ordinary_broadcastFrame rfl
      | some maxScreenShares =>
          exact performs_bind (ordinary_sendError connId _) fun _ => ordinary_broadcastFrame rfl

theorem ordinary_handleMediaTrackState (track : MediaTrackStateFrame) :
    Ordinary (handleMediaTrackState hub connId track) := by
  refine performs_unlessAnonymous plumbing_ordinary <| performs_behindE2eeGate plumbing_ordinary <|
    performs_bind performs_nowMs fun atMs => performs_bind (performs_critical rfl) fun outcome => ?_
  cases outcome with
  | ignored => trivial
  | refused message => exact ordinary_sendError connId message
  | updated =>
      exact performs_bind (ordinary_broadcastFrame rfl) fun _ => ordinary_broadcastFrame rfl

theorem ordinary_handlePayment (payment : PaymentFrame) :
    Ordinary (handlePayment hub connId payment) := by
  refine performs_unlessAnonymous plumbing_ordinary <| performs_bind performs_nowMs fun now =>
    performs_bind (performs_critical rfl) fun outcome => ?_
  cases outcome with
  | ignored => trivial
  | requireHello | invalidPaymentHash => exact ordinary_sendError connId _
  | accepted => exact ordinary_sendFrameTo rfl

theorem ordinary_handleFrame {frame : KaigiFrame} (ordinary : isRequest frame = false) :
    Ordinary (handleFrame hub connId frame) := by
  have checkedRelay : ∀ {check : RoomState → CheckOutcome} {sent : KaigiFrame},
      isReport sent = false → Ordinary (checked hub connId check (broadcastFrame hub sent)) :=
    fun plain => performs_checked plumbing_ordinary (ordinary_broadcastFrame plain)
  cases frame with
  | hello | anonHello | groupKeyUpdate | roomConfigUpdate | roleGrant | roleRevoke | sessionPolicy
  | moderation | moderationSigned => cases ordinary
  | encryptedControl | anonEncryptedPayload =>
      exact performs_bind (performs_critical rfl) fun _ =>
        performs_afterRelay plumbing_ordinary (relays_ordinary rfl)
  | escrowProof proof => exact ordinary_handleEscrowProof proof
  | chat chat => exact ordinary_handleChat chat
  | participantState update => exact ordinary_handleParticipantState update
  | mediaCapability | recordingNotice =>
      exact performs_unlessAnonymous plumbing_ordinary (checkedRelay rfl)
  | mediaTrackState track => exact ordinary_handleMediaTrackState track
  | videoSegment | audioPacket =>
      exact performs_unlessAnonymous plumbing_ordinary <|
        performs_behindE2eeGate plumbing_ordinary (checkedRelay rfl)
  | anonGroupKeyRotate | permissionsSnapshot | participantPresenceDelta =>
      exact ordinary_sendError connId _
  | deviceCapability =>
      exact performs_unlessAnonymous plumbing_ordinary <| performs_checked plumbing_ordinary <|
        performs_bind (performs_critical rfl) fun _ => ordinary_broadcastFrame rfl
  | mediaProfileNegotiation =>
      exact performs_unlessAnonymous plumbing_ordinary <| performs_checked plumbing_ordinary <|
        performs_bind (performs_critical rfl) fun _ => ordinary_broadcastFrame rfl
  | e2eeKeyEpoch | keyRotationAck =>
      exact performs_unlessAnonymous plumbing_ordinary <|
        performs_bind (performs_critical rfl) fun _ =>
          performs_afterCheck plumbing_ordinary (ordinary_broadcastFrame rfl)
  | payment payment => exact ordinary_handlePayment payment
  | ping => exact ordinary_sendFrameTo rfl
  | escrowAck | anonRoster | roomConfig | paymentAck | pong | roster | event | error => trivial

end Ordinary

end Kaigi.Hub
