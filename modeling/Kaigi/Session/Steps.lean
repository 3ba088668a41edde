import Kaigi.Session.Machine

/-!
# What a step can do

A rejection and its relief leave everything but the phase, the fallback and the last
error as it is; each of the other fields is written by a few kinds of frames.
-/

set_option autoImplicit false

namespace Kaigi.Session

variable {rules : Rules} {state : SessionView} {nowMs : Int}

/-! ## Rejections -/

/-- Only the phase, the fallback and the last error differ. -/
def Marked (before after : SessionView) : Prop :=
  ∃ connectionPhase fallback lastError,
    after = { before with connectionPhase, fallback, lastError }

theorem Marked.refl (state : SessionView) : Marked state state :=
  ⟨_, _, _, rfl⟩

theorem reject_marked (rules : Rules) (state : SessionView) (nowMs : Int)
    (code message : String) : Marked state (reject rules state nowMs code message) :=
  ⟨_, _, _, rfl⟩

theorem relieve_marked (rules : Rules) (lifted : SessionError → Bool) (state : SessionView) :
    Marked state (relieve rules lifted state) := by
  unfold relieve
  split
  · exact ⟨_, _, _, rfl⟩
  · exact .refl state

theorem checkPayment_marked (rules : Rules) (state : SessionView) (nowMs : Int) :
    Marked state (checkPayment rules state nowMs) := by
  unfold checkPayment
  split
  · split <;> exact reject_marked ..
  · exact relieve_marked ..

theorem checkEpoch_marked (rules : Rules) (state : SessionView) (nowMs : Int) :
    Marked state (checkEpoch rules state nowMs) := by
  unfold checkEpoch
  split
  · exact reject_marked ..
  · exact relieve_marked ..

theorem refuse_marked (rules : Rules) (state : SessionView) (nowMs : Int) (guard : Guard) :
    Marked state (refuse rules state nowMs guard) := by
  unfold refuse
  split <;> exact reject_marked ..

theorem fail_marked (state : SessionView) (code message : String) (nowMs : Int) :
    Marked state (fail state code message nowMs) := by
  unfold fail
  split <;> exact ⟨_, _, _, rfl⟩

/-! ## The content of a session -/

/-- What an event can do to everything but the phase, the fallback and the last error. -/
inductive Update (rules : Rules) (state : SessionView) : ProtocolEvent → SessionView → Prop where
  | quiet {event : ProtocolEvent} (handshakeComplete : Bool) (resumeToken : Option String)
      (mediaProfile : MediaProfileState) (recordingNotice : RecordingState) :
      Update rules state event
        { state with handshakeComplete, resumeToken, mediaProfile, recordingNotice }
  | config (config : MeetingConfig) :
      Update rules state (.configUpdated config) { state with config }
  | presence (frame : PresenceDeltaFrame) (newer : state.presenceSequence < frame.sequence) :
      Update rules state (.frameReceived (.participantPresenceDelta frame))
        { state with
          participants := present rules state.participants frame
          presenceSequence := frame.sequence }
  | grant (frame : RoleGrantFrame) (accepted : passes rules state frame.guard = true) :
      Update rules state (.frameReceived (.roleGrant frame))
        { state with
          participants := revise rules state.participants frame.targetParticipantId
            fun participant => some (withRole frame.role participant) }
  | revoke (frame : RoleRevokeFrame) (accepted : passes rules state frame.guard = true) :
      Update rules state (.frameReceived (.roleRevoke frame))
        { state with participants := revoked rules state.participants frame }
  | moderation (frame : ModerationSignedFrame)
      (accepted : passes rules state frame.guard = true) :
      Update rules state (.frameReceived (.moderationSigned frame))
        { state with
          participants := revise rules state.participants frame.targetParticipantId
            (moderated frame.action) }
  | snapshot (name : String) (effectivePermissions : List String) (epoch : Int)
      (newer : ∀ snapshot ∈ rules.snapshot state.permissionSnapshots name,
        snapshot.epoch < epoch) :
      Update rules state (.frameReceived (.permissionsSnapshot name effectivePermissions epoch))
        (setSnapshot state name { effectivePermissions, epoch })
  | policy (frame : SessionPolicyFrame) (accepted : passes rules state frame.guard = true)
      (fresh : state.policyEpoch ≤ frame.policyEpoch) :
      Update rules state (.frameReceived (.sessionPolicy frame)) (setPolicy state frame)
  | epoch (frame : E2eeKeyEpochFrame) (accepted : signed rules state frame.signature = true) :
      Update rules state (.frameReceived (.e2eeKeyEpoch frame)) (raiseEpoch state frame.epoch)
  | acknowledgement (ackEpoch : Int) (participantId : String) (sentAtMs : Int) :
      Update rules state (.frameReceived (.keyRotationAck ackEpoch participantId sentAtMs))
        { state with
          e2eeState :=
            { state.e2eeState with lastAckEpoch := max state.e2eeState.lastAckEpoch ackEpoch } }
  | payment (required : Bool) (destination : Option String) :
      Update rules state (.frameReceived (.paymentPolicy required destination))
        (setPayment state required destination)
  | settlement (status : PaymentSettlementStatus) :
      Update rules state (.frameReceived (.paymentSettlement status)) (setSettlement state status)

theorem Update.none (rules : Rules) (state : SessionView) (event : ProtocolEvent) :
    Update rules state event state :=
  .quiet state.handshakeComplete state.resumeToken state.mediaProfile state.recordingNotice

theorem Update.disconnected (rules : Rules) (state : SessionView) (event : ProtocolEvent) :
    Update rules state event { state with handshakeComplete := false } :=
  .quiet false state.resumeToken state.mediaProfile state.recordingNotice

/-- The step changes the content as `Update` says, and else only its marks. -/
def Reaches (rules : Rules) (state : SessionView) (event : ProtocolEvent) (next : SessionView) :
    Prop :=
  ∃ content, Update rules state event content ∧ Marked content next

theorem guarded_reaches {guard : Guard} {accepted : SessionView} {event : ProtocolEvent}
    (reached : passes rules state guard = true → Reaches rules state event accepted) :
    Reaches rules state event (guarded rules state nowMs guard accepted) := by
  unfold guarded
  split
  · next passed => exact reached passed
  · exact ⟨state, .none .., refuse_marked ..⟩

theorem receive_reaches (frame : ProtocolFrame) :
    Reaches rules state (.frameReceived frame) (receive rules state frame nowMs) := by
  cases frame with
  | handshakeAck _ resumeToken _ =>
      exact ⟨_, .quiet true (some resumeToken) state.mediaProfile state.recordingNotice,
        _, _, _, rfl⟩
  | mediaProfileNegotiation profile =>
      exact ⟨_, .quiet state.handshakeComplete state.resumeToken profile state.recordingNotice,
        _, _, _, rfl⟩
  | recordingNotice recording _ =>
      exact ⟨_, .quiet state.handshakeComplete state.resumeToken state.mediaProfile recording,
        .refl _⟩
  | error _ _ _ | handshake _ | deviceCapability _ | ping _ | pong _ =>
      exact ⟨state, .none .., _, _, _, rfl⟩
  | participantPresenceDelta frame =>
      simp only [receive]
      split
      · exact ⟨state, .none .., .refl state⟩
      · next stale => exact ⟨_, .presence frame (Int.not_le.mp stale), .refl _⟩
  | roleGrant frame => exact guarded_reaches fun passed => ⟨_, .grant frame passed, .refl _⟩
  | roleRevoke frame => exact guarded_reaches fun passed => ⟨_, .revoke frame passed, .refl _⟩
  | moderationSigned frame =>
      exact guarded_reaches fun passed => ⟨_, .moderation frame passed, .refl _⟩
  | permissionsSnapshot name effectivePermissions epoch =>
      simp only [receive]
      split
      · next newer =>
          refine ⟨_, .snapshot name effectivePermissions epoch ?_, .refl _⟩
          intro snapshot found
          rw [Option.mem_def.mp found] at newer
          exact of_decide_eq_true newer
      · exact ⟨state, .none .., .refl state⟩
  | sessionPolicy frame =>
      refine guarded_reaches fun passed => ?_
      split
      · exact ⟨state, .none .., .refl state⟩
      · next stale =>
          exact ⟨_, .policy frame passed (Int.not_lt.mp stale), checkEpoch_marked ..⟩
  | e2eeKeyEpoch frame =>
      simp only [receive]
      split
      · next accepted => exact ⟨_, .epoch frame accepted, checkEpoch_marked ..⟩
      · exact ⟨state, .none .., reject_marked ..⟩
  | keyRotationAck ackEpoch participantId sentAtMs =>
      exact ⟨_, .acknowledgement ackEpoch participantId sentAtMs, .refl _⟩
  | paymentPolicy required destination =>
      exact ⟨_, .payment required destination, checkPayment_marked ..⟩
  | paymentSettlement status => exact ⟨_, .settlement status, checkPayment_marked ..⟩

theorem step_reaches (rules : Rules) (state : SessionView) (event : ProtocolEvent)
    (nowMs : Int) : Reaches rules state event (step rules state event nowMs) := by
  cases event with
  | frameReceived frame => exact receive_reaches frame
  | configUpdated config => exact ⟨_, .config config, checkPayment_marked ..⟩
  | frameSendFailed message => exact ⟨state, .none .., fail_marked ..⟩
  | transportDisconnected _ | transportFailure _ =>
      refine ⟨_, .disconnected .., ?_⟩
      simp only [step, fail]
      split <;> exact ⟨_, _, _, rfl⟩
  | connectRequested | manualDisconnected => exact ⟨_, .disconnected .., _, _, _, rfl⟩
  | transportConnected | fallbackActivated _ | fallbackRecovered =>
      exact ⟨state, .none .., _, _, _, rfl⟩

/-! ## The fallback -/

/-- The fallback is as before, or as a rejection leaves it. -/
def FallsBack (rules : Rules) (nowMs : Int) (before after : FallbackState) : Prop :=
  after = before ∨ ∃ config code, after = rules.fallback config before code nowMs

theorem reject_fallback {code message : String} :
    FallsBack rules nowMs state.fallback (reject rules state nowMs code message).fallback :=
  .inr ⟨state.config, code, rfl⟩

theorem relieve_fallback {lifted : SessionError → Bool} :
    (relieve rules lifted state).fallback = state.fallback := by
  unfold relieve
  split <;> rfl

theorem checkPayment_fallback :
    FallsBack rules nowMs state.fallback (checkPayment rules state nowMs).fallback := by
  unfold checkPayment
  split
  · split <;> exact reject_fallback
  · exact .inl relieve_fallback

theorem checkEpoch_fallback :
    FallsBack rules nowMs state.fallback (checkEpoch rules state nowMs).fallback := by
  unfold checkEpoch
  split
  · exact reject_fallback
  · exact .inl relieve_fallback

theorem guarded_fallback {guard : Guard} {accepted : SessionView}
    (kept : FallsBack rules nowMs state.fallback accepted.fallback) :
    FallsBack rules nowMs state.fallback (guarded rules state nowMs guard accepted).fallback := by
  unfold guarded refuse
  split
  · exact kept
  · split <;> exact reject_fallback

theorem receive_fallback (frame : ProtocolFrame) :
    FallsBack rules nowMs state.fallback (receive rules state frame nowMs).fallback := by
  cases frame with
  | participantPresenceDelta frame =>
      simp only [receive]
      split <;> exact .inl rfl
  | roleGrant frame => exact guarded_fallback (.inl rfl)
  | roleRevoke frame => exact guarded_fallback (.inl rfl)
  | permissionsSnapshot name effectivePermissions epoch =>
      simp only [receive]
      split <;> exact .inl rfl
  | moderationSigned frame => exact guarded_fallback (.inl rfl)
  | sessionPolicy frame =>
      refine guarded_fallback ?_
      split
      · exact .inl rfl
      · exact checkEpoch_fallback
  | e2eeKeyEpoch frame =>
      simp only [receive]
      split
      · exact checkEpoch_fallback
      · exact reject_fallback
  | paymentPolicy required destination => exact checkPayment_fallback
  | paymentSettlement status => exact checkPayment_fallback
  | handshake _ | handshakeAck _ _ _ | deviceCapability _ | mediaProfileNegotiation _
  | recordingNotice _ _ | keyRotationAck _ _ _ | error _ _ _ | ping _ | pong _ =>
      exact .inl rfl

/-- Only the two events of the fallback itself do more than a rejection. -/
theorem step_fallback {event : ProtocolEvent}
    (notActivated : ∀ reason, event ≠ .fallbackActivated reason)
    (notRecovered : event ≠ .fallbackRecovered) :
    FallsBack rules nowMs state.fallback (step rules state event nowMs).fallback := by
  cases event with
  | fallbackActivated reason => exact absurd rfl (notActivated reason)
  | fallbackRecovered => exact absurd rfl notRecovered
  | frameReceived frame => exact receive_fallback frame
  | configUpdated config => exact checkPayment_fallback
  | transportDisconnected reason | transportFailure message | frameSendFailed message =>
      simp only [step, fail]
      split <;> exact .inl rfl
  | connectRequested | transportConnected | manualDisconnected => exact .inl rfl

end Kaigi.Session
