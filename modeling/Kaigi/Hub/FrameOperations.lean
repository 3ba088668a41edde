import Kaigi.Hub.HandlerOperations

/-!
# The operations of a frame

A handler looks at the room and sends, like every other handler, and performs the
critical section of its own frame.
-/

set_option autoImplicit false

namespace Kaigi.Hub

open Collections Wire Interleaving

/-- The operation looks at the room, sends, or counts what could not be sent. -/
def Operation.isPlumbing : Operation → Bool
  | .read | .lookup _ | .fanout _ | .backpressure _ _ | .trySend _ _ => true
  | _ => false

theorem plumbing_isPlumbing : Plumbing fun op => op.isPlumbing = true :=
  ⟨rfl, fun _ => rfl, fun _ _ => rfl, fun _ _ => rfl⟩

theorem relays_isPlumbing (frame : KaigiFrame) : Relays (fun op => op.isPlumbing = true) frame :=
  ⟨rfl, fun _ => rfl⟩

/-- Looking and sending, without a fan-out. -/
def Operation.isQuiet (op : Operation) : Bool :=
  match op with
  | .fanout _ => false
  | op => op.isPlumbing

theorem plumbing_isQuiet : Plumbing fun op => op.isQuiet = true :=
  ⟨rfl, fun _ => rfl, fun _ _ => rfl, fun _ _ => rfl⟩

/-- The frames that speak of the keys of an anonymous room or are sealed with them. -/
def isKeyed : KaigiFrame → Bool
  | .groupKeyUpdate _ | .anonGroupKeyRotate _ | .encryptedControl _ => true
  | _ => false

/-- The frames whose handlers fan out keyed frames. -/
def announcesKeys : KaigiFrame → Bool
  | .anonHello _ | .groupKeyUpdate _ | .encryptedControl _ => true
  | _ => false

/-- Plumbing that carries no keyed frame. -/
def Operation.isRoutine (op : Operation) : Bool :=
  op.isPlumbing && !op.frame?.any isKeyed

/-- The frames of an anonymous room, in which there are hexadecimal texts. -/
def carriesHex : KaigiFrame → Bool
  | .anonRoster _ | .anonEncryptedPayload _ => true
  | frame => isKeyed frame

/-- Plumbing that carries no hexadecimal text. -/
def Operation.isPlain (op : Operation) : Bool :=
  op.isPlumbing && !op.frame?.any carriesHex

theorem Operation.isPlumbing_of_isPlain {op : Operation} (plain : op.isPlain = true) :
    op.isPlumbing = true :=
  (Bool.and_eq_true_iff.mp plain).1

theorem Operation.isRoutine_of_isPlain {op : Operation} (plain : op.isPlain = true) :
    op.isRoutine = true := by
  obtain ⟨plumbing, unkeyed⟩ := Bool.and_eq_true_iff.mp plain
  refine Bool.and_eq_true_iff.mpr ⟨plumbing, ?_⟩
  cases found : op.frame? with
  | none => rfl
  | some frame =>
      rw [found] at unkeyed
      cases frame with
      | anonRoster | anonEncryptedPayload => cases unkeyed
      | _ => exact unkeyed

/-- The critical section in which the handler of a frame may change the room. -/
inductive SectionOf : KaigiFrame → Operation → Prop where
  | anonHello {hello : AnonHelloFrame} {nowMs rosterAtMs : Nat} :
      SectionOf (.anonHello hello) (.anonHello hello nowMs rosterAtMs)
  | groupKeyUpdate {update : GroupKeyUpdateFrame} :
      SectionOf (.groupKeyUpdate update) (.groupKeyUpdate update)
  | escrowProof {proof : EscrowProofFrame} {nowMs : Nat} :
      SectionOf (.escrowProof proof) (.escrowProof proof nowMs)
  | hello {frame : HelloFrame} {snapshotAtMs deltaAtMs : Nat} :
      SectionOf (.hello frame) (.hello (enforceJoinMediaDefaults frame).1 snapshotAtMs deltaAtMs)
  | participantState {update : ParticipantStateFrame} {atMs : Nat} :
      SectionOf (.participantState update) (.participantState update atMs)
  | mediaTrackState {track : MediaTrackStateFrame} {atMs : Nat} :
      SectionOf (.mediaTrackState track) (.mediaTrackState track atMs)
  | roomConfigUpdate {update : RoomConfigUpdateFrame} {nowMs : Nat} :
      SectionOf (.roomConfigUpdate update) (.roomConfigUpdate update nowMs)
  | roleGrant {grant : RoleGrantFrame} {deltaAtMs : Nat} :
      SectionOf (.roleGrant grant) (.roleGrant grant deltaAtMs)
  | roleRevoke {revoke : RoleRevokeFrame} {deltaAtMs : Nat} :
      SectionOf (.roleRevoke revoke) (.roleRevoke revoke deltaAtMs)
  | sessionPolicy {update : SessionPolicyFrame} :
      SectionOf (.sessionPolicy update) (.sessionPolicy update)
  | deviceCapability {cap : DeviceCapabilityFrame} :
      SectionOf (.deviceCapability cap) (.deviceCapability cap)
  | e2eeKeyEpoch {keyEpoch : E2EEKeyEpochFrame} :
      SectionOf (.e2eeKeyEpoch keyEpoch) (.e2eeKeyEpoch keyEpoch)
  | keyRotationAck {ack : KeyRotationAckFrame} :
      SectionOf (.keyRotationAck ack) (.keyRotationAck ack)
  | moderation {frame : ModerationFrame} {nowMs admitAtMs : Nat} :
      SectionOf (.moderation frame) (.moderation frame nowMs admitAtMs)
  | moderationSigned {signed : ModerationSignedFrame} {nowMs admitAtMs : Nat} :
      SectionOf (.moderationSigned signed)
        (.moderation ⟨signed.sentAtMs, signed.target, signed.action⟩ nowMs admitAtMs)
  | payment {payment : PaymentFrame} {nowMs : Nat} :
      SectionOf (.payment payment) (.payment payment nowMs)

/-- What the handler of a frame may perform. -/
def FrameOperation (frame : KaigiFrame) (op : Operation) : Prop :=
  op.isPlumbing = true ∨ SectionOf frame op

/-- What the handler of a disconnect may perform. -/
def LeaveOperation (op : Operation) : Prop :=
  op.isPlumbing = true ∨ (∃ deltaAtMs leftAtMs, op = .disconnect deltaAtMs leftAtMs) ∨
    ∃ nowMs, op = .groupKeyRotate nowMs

section Handlers

variable {hub : HubState} {connId : ConnId} {allowed : Operation → Prop}
  (every : ∀ op : Operation, op.isPlain = true → allowed op)
include every

theorem plumbing_of_every : Plumbing allowed :=
  ⟨every _ rfl, fun _ => every _ rfl, fun _ _ => every _ rfl, fun _ _ => every _ rfl⟩

theorem relays_of_every {frame : KaigiFrame} (plain : carriesHex frame = false) :
    Relays allowed frame where
  fanout := every _ (by simp [Operation.isPlain, Operation.isPlumbing, Operation.frame?, plain])
  send _ := every _ (by simp [Operation.isPlain, Operation.isPlumbing, Operation.frame?, plain])

theorem performs_reports (target : ConnId) (message : String) :
    (sendError hub target message).Performs allowed :=
  performs_sendError (plumbing_of_every every) target message

theorem performs_sends (target : ConnId) {frame : KaigiFrame} (plain : carriesHex frame = false) :
    (sendFrameTo hub target frame).Performs allowed :=
  performs_sendFrameTo (plumbing_of_every every) ((relays_of_every every plain).send target)

theorem performs_broadcasts {frame : KaigiFrame} (plain : carriesHex frame = false) :
    (broadcastFrame hub frame).Performs allowed :=
  performs_broadcastFrame (plumbing_of_every every) (relays_of_every every plain)

theorem performs_snapshots : (broadcastPermissionsSnapshots hub).Performs allowed :=
  performs_broadcastPermissionsSnapshots (plumbing_of_every every) fun _ _ => every _ rfl

theorem performs_configs : (broadcastRoomConfig hub).Performs allowed :=
  performs_broadcastRoomConfig (plumbing_of_every every) fun _ =>
    relays_of_every every rfl

theorem performs_looks {Value : Type} (view : Option RoomState → Value) :
    (critical .read view).Performs allowed :=
  performs_critical (every _ rfl)

theorem performs_announceJoin (snapshot : ParticipantSnapshot)
    (delta : ParticipantPresenceDeltaFrame) :
    (announceJoin hub connId snapshot delta).Performs allowed :=
  performs_bind performs_nowMs fun _ => performs_bind (performs_looks every _) fun _ =>
    performs_bind (performs_sends every _ rfl) fun _ =>
      performs_bind (performs_broadcasts every rfl) fun _ =>
        performs_bind (performs_broadcasts every rfl) fun _ =>
          performs_bind (performs_configs every) fun _ =>
            performs_bind (performs_looks every _) fun _ =>
              performs_bind (performs_sends every _ rfl) fun _ => performs_snapshots every

theorem performs_handleHello {frame : HelloFrame}
    (may : ∀ snapshotAtMs deltaAtMs,
      allowed (.hello (enforceJoinMediaDefaults frame).1 snapshotAtMs deltaAtMs)) :
    (handleHello hub connId frame).Performs allowed := by
  unfold handleHello
  split
  · exact performs_reports every connId _
  · refine performs_bind performs_nowMs fun snapshotAtMs => performs_bind performs_nowMs
      fun deltaAtMs => performs_bind (performs_critical (may snapshotAtMs deltaAtMs))
        fun outcome => ?_
    cases outcome with
    | none => trivial
    | some outcome =>
        cases outcome with
        | participantMissing => trivial
        | modeConflict => exact performs_reports every connId _
        | denied reason => exact performs_reports every connId reason
        | waiting notice =>
            exact performs_bind (performs_notifyModerators (plumbing_of_every every) notice)
              fun _ => performs_reports every connId notice
        | joined snapshot delta =>
            exact performs_when (performs_reports every connId _) fun _ =>
              performs_announceJoin every snapshot delta

theorem performs_handleParticipantState {update : ParticipantStateFrame}
    (may : ∀ atMs, allowed (.participantState update atMs)) :
    (handleParticipantState hub connId update).Performs allowed := by
  refine performs_unlessAnonymous (plumbing_of_every every) <| performs_bind performs_nowMs
    fun atMs => performs_bind (performs_critical (may atMs)) fun outcome => ?_
  cases outcome with
  | ignored => trivial
  | refused message => exact performs_reports every connId message
  | updated snapshot denyShareMax =>
      cases denyShareMax with
      | none => exact performs_broadcasts every rfl
      | some maxScreenShares =>
          exact performs_bind (performs_reports every connId _) fun _ =>
            performs_broadcasts every rfl

theorem performs_handleMediaTrackState {track : MediaTrackStateFrame}
    (may : ∀ atMs, allowed (.mediaTrackState track atMs)) :
    (handleMediaTrackState hub connId track).Performs allowed := by
  refine performs_unlessAnonymous (plumbing_of_every every) <|
    performs_behindE2eeGate (plumbing_of_every every) <| performs_bind performs_nowMs fun atMs =>
      performs_bind (performs_critical (may atMs)) fun outcome => ?_
  cases outcome with
  | ignored => trivial
  | refused message => exact performs_reports every connId message
  | updated =>
      exact performs_bind (performs_broadcasts every rfl) fun _ => performs_broadcasts every rfl

theorem performs_announceRoleChange {frame : KaigiFrame} (plain : carriesHex frame = false)
    (outcome : RoleMutationOutcome) (delta : Option ParticipantPresenceDeltaFrame) :
    (announceRoleChange hub frame outcome delta).Performs allowed := by
  refine performs_bind (performs_broadcasts every plain) fun _ =>
    performs_when (performs_configs every) fun _ =>
      performs_when (performs_snapshots every) fun _ => ?_
  cases delta with
  | none => trivial
  | some delta => exact performs_broadcasts every rfl

theorem performs_handleRoleGrant {grant : RoleGrantFrame}
    (may : ∀ deltaAtMs, allowed (.roleGrant grant deltaAtMs)) :
    (handleRoleGrant hub connId grant).Performs allowed := by
  refine performs_unlessAnonymous (plumbing_of_every every) <| performs_bind performs_nowMs
    fun deltaAtMs => performs_bind (performs_critical (may deltaAtMs)) fun outcome => ?_
  rcases outcome with _ | (message | ⟨outcome, delta⟩)
  · trivial
  · exact performs_reports every connId message
  · exact performs_announceRoleChange every rfl outcome delta

theorem performs_handleRoleRevoke {revoke : RoleRevokeFrame}
    (may : ∀ deltaAtMs, allowed (.roleRevoke revoke deltaAtMs)) :
    (handleRoleRevoke hub connId revoke).Performs allowed := by
  refine performs_unlessAnonymous (plumbing_of_every every) <| performs_bind performs_nowMs
    fun deltaAtMs => performs_bind (performs_critical (may deltaAtMs)) fun outcome => ?_
  rcases outcome with _ | (message | ⟨outcome, delta⟩)
  · trivial
  · exact performs_reports every connId message
  · exact performs_announceRoleChange every rfl outcome delta

theorem performs_announceModeration (moderation : ModerationFrame) {auditFrame : KaigiFrame}
    (plain : carriesHex auditFrame = false) (outcome : ModerationOutcome) :
    (announceModeration hub moderation auditFrame outcome).Performs allowed :=
  performs_bind (performs_broadcasts every plain) fun _ =>
    performs_bind (.each fun _ _ => performs_broadcasts every rfl) fun _ =>
      performs_bind (.each fun _ _ => performs_broadcasts every rfl) fun _ =>
        performs_bind (.each fun _ _ => performs_broadcasts every rfl) fun _ =>
          performs_bind (.each fun _ _ => performs_sendAdmissionFrames (plumbing_of_every every)
            (fun _ => relays_of_every every rfl) (fun _ => relays_of_every every rfl)
              fun _ => relays_of_every every rfl) fun _ =>
            performs_when (performs_snapshots every) fun _ =>
              performs_dismissals (plumbing_of_every every) moderation outcome fun _ => every _ rfl

theorem performs_processModerationFrame {moderation : ModerationFrame} {auditFrame : KaigiFrame}
    (plain : carriesHex auditFrame = false)
    (may : ∀ nowMs admitAtMs, allowed (.moderation moderation nowMs admitAtMs)) :
    (processModerationFrame hub connId moderation auditFrame).Performs allowed := by
  refine performs_unlessAnonymous (plumbing_of_every every) <| performs_bind performs_nowMs
    fun now => performs_bind performs_nowMs fun admitAtMs =>
      performs_bind (performs_critical (may now admitAtMs)) fun outcome => ?_
  rcases outcome with _ | (message | outcome)
  · trivial
  · exact performs_reports every connId message
  · dsimp only
    split
    · exact performs_reports every connId _
    · exact performs_announceModeration every moderation plain outcome

theorem performs_handlePayment {payment : PaymentFrame}
    (may : ∀ nowMs, allowed (.payment payment nowMs)) :
    (handlePayment hub connId payment).Performs allowed := by
  refine performs_unlessAnonymous (plumbing_of_every every) <| performs_bind performs_nowMs
    fun now => performs_bind (performs_critical (may now)) fun outcome => ?_
  cases outcome with
  | ignored => trivial
  | requireHello | invalidPaymentHash => exact performs_reports every connId _
  | accepted => exact performs_sends every connId rfl

theorem performs_handleEscrowProof {proof : EscrowProofFrame}
    (may : ∀ nowMs, allowed (.escrowProof proof nowMs)) :
    (handleEscrowProof hub connId proof).Performs allowed := by
  refine performs_bind performs_nowMs fun now => performs_bind (performs_critical (may now))
    fun reason => ?_
  cases reason with
  | none => trivial
  | some reason => exact performs_bind performs_nowMs fun _ => performs_sends every connId rfl

/-- The end of `handle_disconnect` in a transparent room. -/
theorem performs_announceLeave (outcome : DisconnectOutcome) : ((do
    match outcome.leftParticipantId with
    | some participantId =>
      let atMs ← nowMs
      broadcastFrame hub (.event (.left { atMs := atMs, participantId := participantId }))
      match outcome.presenceDelta with
      | some delta => broadcastFrame hub (.participantPresenceDelta delta)
      | none => pure ()
    | none => pure ()
    if outcome.hostChanged then
      broadcastRoomConfig hub
      broadcastPermissionsSnapshots hub) : Handler Unit).Performs allowed := by
  have hostChange : ∀ changed : Bool, ((if changed then do
      broadcastRoomConfig hub
      broadcastPermissionsSnapshots hub
      else pure ()) : Handler Unit).Performs allowed := by
    intro changed
    split
    · exact performs_bind (performs_configs every) fun _ => performs_snapshots every
    · trivial
  cases outcome.leftParticipantId with
  | none => exact hostChange _
  | some participantId =>
      refine performs_bind performs_nowMs fun _ =>
        performs_bind (performs_broadcasts every rfl) fun _ => ?_
      cases outcome.presenceDelta with
      | none => exact hostChange _
      | some delta => exact performs_bind (performs_broadcasts every rfl) fun _ => hostChange _

theorem performs_handleDisconnect
    (leaves : ∀ deltaAtMs leftAtMs, allowed (.disconnect deltaAtMs leftAtMs))
    (anonymously : ∀ handle, (announceAnonymousLeave hub handle).Performs allowed) :
    (handleDisconnect hub connId).Performs allowed := by
  refine performs_bind performs_nowMs fun deltaAtMs => performs_bind performs_nowMs fun leftAtMs =>
    performs_bind (performs_critical (leaves deltaAtMs leftAtMs)) fun outcome => ?_
  cases outcome with
  | none => trivial
  | some outcome =>
      dsimp only
      split
      · trivial
      · split
        · exact anonymously _
        · exact performs_announceLeave every outcome

/-- The handlers that announce no keys; of these only the relay of sealed payloads sends
hexadecimal text. -/
theorem performs_unkeyedFrame {frame : KaigiFrame} (unkeyed : announcesKeys frame = false)
    (relays : ∀ enc, frame = .anonEncryptedPayload enc → Relays allowed frame)
    (own : ∀ op, SectionOf frame op → allowed op) :
    (handleFrame hub connId frame).Performs allowed := by
  have plumbing := plumbing_of_every every
  cases frame with
  | anonHello | groupKeyUpdate | encryptedControl => cases unkeyed
  | hello => exact performs_handleHello every fun _ _ => own _ .hello
  | roomConfigUpdate =>
      exact performs_handleRoomConfigUpdate plumbing (fun _ => own _ .roomConfigUpdate)
        fun _ => relays_of_every every rfl
  | roleGrant => exact performs_handleRoleGrant every fun _ => own _ .roleGrant
  | roleRevoke => exact performs_handleRoleRevoke every fun _ => own _ .roleRevoke
  | sessionPolicy =>
      exact performs_handleSessionPolicy plumbing (own _ .sessionPolicy)
        (fun _ => relays_of_every every rfl) fun _ _ => every _ rfl
  | moderation => exact performs_processModerationFrame every rfl fun _ _ => own _ .moderation
  | moderationSigned =>
      exact performs_unlessAnonymous plumbing <| performs_checked plumbing <|
        performs_processModerationFrame every rfl fun _ _ => own _ .moderationSigned
  | anonEncryptedPayload =>
      exact performs_bind (performs_looks every _) fun _ =>
        performs_afterRelay plumbing (relays _ rfl)
  | escrowProof => exact performs_handleEscrowProof every fun _ => own _ .escrowProof
  | chat =>
      refine performs_unlessAnonymous plumbing <| performs_bind (performs_looks every _)
        fun joined => ?_
      cases joined with
      | false => exact performs_reports every connId _
      | true =>
          exact performs_behindE2eeGate plumbing <| performs_bind performs_nowMs fun _ =>
            performs_bind (performs_looks every _) fun _ => performs_broadcasts every rfl
  | participantState =>
      exact performs_handleParticipantState every fun _ => own _ .participantState
  | mediaTrackState => exact performs_handleMediaTrackState every fun _ => own _ .mediaTrackState
  | mediaCapability | recordingNotice =>
      exact performs_unlessAnonymous plumbing <| performs_checked plumbing <|
        performs_broadcasts every rfl
  | videoSegment | audioPacket =>
      exact performs_unlessAnonymous plumbing <| performs_behindE2eeGate plumbing <|
        performs_checked plumbing <| performs_broadcasts every rfl
  | anonGroupKeyRotate | permissionsSnapshot | participantPresenceDelta =>
      exact performs_reports every connId _
  | deviceCapability =>
      exact performs_unlessAnonymous plumbing <| performs_checked plumbing <|
        performs_bind (performs_critical (own _ .deviceCapability)) fun _ =>
          performs_broadcasts every rfl
  | mediaProfileNegotiation =>
      exact performs_unlessAnonymous plumbing <| performs_checked plumbing <|
        performs_bind (performs_looks every _) fun _ => performs_broadcasts every rfl
  | e2eeKeyEpoch =>
      exact performs_unlessAnonymous plumbing <| performs_bind
        (performs_critical (own _ .e2eeKeyEpoch)) fun _ =>
          performs_afterCheck plumbing (performs_broadcasts every rfl)
  | keyRotationAck =>
      exact performs_unlessAnonymous plumbing <| performs_bind
        (performs_critical (own _ .keyRotationAck)) fun _ =>
          performs_afterCheck plumbing (performs_broadcasts every rfl)
  | payment => exact performs_handlePayment every fun _ => own _ .payment
  | ping => exact performs_sends every connId rfl
  | escrowAck | anonRoster | roomConfig | paymentAck | pong | roster | event | error => trivial

end Handlers

variable {hub : HubState} {connId : ConnId}

theorem performs_handleFrame (frame : KaigiFrame) :
    (handleFrame hub connId frame).Performs (FrameOperation frame) := by
  have every : ∀ op : Operation, op.isPlain = true → FrameOperation frame op :=
    fun _ plain => .inl (Operation.isPlumbing_of_isPlain plain)
  have plumbing := plumbing_of_every every
  have relays : ∀ keyed, Relays (FrameOperation frame) keyed :=
    fun _ => ⟨.inl rfl, fun _ => .inl rfl⟩
  cases unkeyed : announcesKeys frame with
  | false => exact performs_unkeyedFrame every unkeyed (fun _ _ => relays frame) fun _ => .inr
  | true =>
      cases frame with
      | anonHello =>
          exact performs_handleAnonHello plumbing (fun _ _ => .inr .anonHello)
            (fun _ => .inl rfl) (fun _ => relays _) fun _ => relays _
      | groupKeyUpdate =>
          exact performs_handleGroupKeyUpdate plumbing (.inr .groupKeyUpdate) (relays _)
      | encryptedControl =>
          exact performs_bind (performs_looks every _) fun _ =>
            performs_afterRelay plumbing (relays _)
      | _ => cases unkeyed

theorem performs_leave : (handleDisconnect hub connId).Performs LeaveOperation := by
  have every : ∀ op : Operation, op.isPlain = true → LeaveOperation op :=
    fun _ plain => .inl (Operation.isPlumbing_of_isPlain plain)
  have relays : ∀ frame, Relays LeaveOperation frame := fun _ => ⟨.inl rfl, fun _ => .inl rfl⟩
  exact performs_handleDisconnect every (fun _ _ => .inr (.inl ⟨_, _, rfl⟩)) fun _ =>
    performs_announceAnonymousLeave (plumbing_of_every every) (fun _ => .inr (.inr ⟨_, rfl⟩))
      (fun _ => relays _) (fun _ => relays _) fun _ => relays _

/-- The rule for one critical section of a task that relies on its own history only. -/
theorem meets_critical {admits : List Event → Operation → HubRoom → Prop} {Value Result : Type}
    {op : Operation} {view : Option RoomState → Value} {next : Value → Handler Result}
    {post : Result → World → Prop} {world : World}
    (step : ∀ state : HubRoom, admits world.own op state ∧
      (next (view state.room)).Meets (ownContract hub connId admits) post
        ⟨op.apply hub connId state, ⟨connId, .connection, op, state⟩ :: world.own⟩) :
    (critical op view >>= next).Meets (ownContract hub connId admits) post world := by
  rintro ⟨shared, own⟩ same
  obtain rfl : own = world.own := same
  exact step shared

theorem meets_nowMs {admits : List Event → Operation → HubRoom → Prop} {Result : Type}
    {next : Nat → Handler Result} {post : Result → World → Prop} {world : World}
    (rest : ∀ clock, (next clock).Meets (ownContract hub connId admits) post world) :
    (nowMs >>= next).Meets (ownContract hub connId admits) post world :=
  rest

/-- A program whose operations are always admitted. -/
theorem meets_of_performs {admits : List Event → Operation → HubRoom → Prop}
    {allowed : Operation → Prop} {Value : Type} {program : Handler Value}
    (performs : program.Performs allowed)
    (admitted : ∀ op, allowed op → ∀ past state, admits past op state) (world : World) :
    program.Meets (ownContract hub connId admits) (fun _ _ => True) world := by
  have keeps : program.Keeps (ownContract hub connId admits) fun _ => True :=
    performs.keeps (fun _ _ _ _ => trivial)
      (fun op world may _ => ⟨admitted op may world.own world.shared, trivial⟩)
      fun _ _ _ => trivial
  exact keeps world trivial

/-- A program whose operations are admitted once an event has happened. -/
theorem meets_after {admits : List Event → Operation → HubRoom → Prop}
    {allowed : Operation → Prop} {Value : Type} {program : Handler Value} {event : Event}
    {world : World} (performs : program.Performs allowed)
    (admitted : ∀ op, allowed op → ∀ past state, event ∈ past → admits past op state)
    (happened : event ∈ world.own) :
    program.Meets (ownContract hub connId admits) (fun _ _ => True) world := by
  have keeps : program.Keeps (ownContract hub connId admits) fun world => event ∈ world.own := by
    refine performs.keeps ?_ ?_ fun _ _ _ => trivial
    · intro before after same among
      rw [show after.own = before.own from same]
      exact among
    · exact fun op world may among =>
        ⟨admitted op may world.own world.shared among, List.mem_cons_of_mem _ among⟩
  exact (keeps world happened).mono fun _ _ _ => trivial

/-- The rule for a broadcast to which sending is always admitted. -/
theorem meets_broadcastFrame {admits : List Event → Operation → HubRoom → Prop}
    {frame : KaigiFrame} {world : World} (fans : ∀ state, admits world.own (.fanout frame) state)
    (quiet : ∀ op : Operation, op.isQuiet = true → ∀ past state, admits past op state) :
    (broadcastFrame hub frame).Meets (ownContract hub connId admits) (fun _ _ => True) world := by
  unfold broadcastFrame encodeOrFail
  split
  · trivial
  · refine meets_critical fun state => ⟨fans state, meets_of_performs ?_ quiet _⟩
    cases state.room with
    | none => trivial
    | some room =>
        exact performs_bind (performs_fanoutTo (fun _ => rfl) _ 0) fun dropped =>
          performs_afterFanout plumbing_isQuiet dropped

end Kaigi.Hub
