import Kaigi.Session.Linux
import Kaigi.Session.Steps

/-!
# Who may change what a client shows

The participants of a session change by presence deltas and by frames whose issuer may
act; the policies of the room change only by the latter.
-/

set_option autoImplicit false

namespace Kaigi.Session

/-- The fields of the room that a session policy sets. -/
structure RoomPolicy where
  roomLocked : Bool
  waitingRoomEnabled : Bool
  guestPolicy : GuestPolicy
  e2eeRequired : Bool
  maxParticipants : Int
  policyEpoch : Int

def ProtocolSessionState.policy {Map : Type → Type} (state : ProtocolSessionState Map) :
    RoomPolicy where
  roomLocked := state.roomLocked
  waitingRoomEnabled := state.waitingRoomEnabled
  guestPolicy := state.guestPolicy
  e2eeRequired := state.e2eeRequired
  maxParticipants := state.maxParticipants
  policyEpoch := state.policyEpoch

/-- The frames that act on a participant. -/
def ProtocolFrame.memberGuard : ProtocolFrame → Option Guard
  | .roleGrant frame => some frame.guard
  | .roleRevoke frame => some frame.guard
  | .moderationSigned frame => some frame.guard
  | _ => none

section

variable {rules : Rules} {state : SessionView} {nowMs : Int} {event : ProtocolEvent}

theorem step_participants
    (changed : (step rules state event nowMs).participants ≠ state.participants) :
    (∃ frame, event = .frameReceived (.participantPresenceDelta frame) ∧
      state.presenceSequence < frame.sequence) ∨
    ∃ frame guard, event = .frameReceived frame ∧ frame.memberGuard = some guard ∧
      passes rules state guard = true := by
  obtain ⟨content, update, _, _, _, marked⟩ := step_reaches rules state event nowMs
  rw [marked] at changed
  cases update with
  | presence frame newer => exact .inl ⟨frame, rfl, newer⟩
  | grant frame accepted => exact .inr ⟨_, _, rfl, rfl, accepted⟩
  | revoke frame accepted => exact .inr ⟨_, _, rfl, rfl, accepted⟩
  | moderation frame accepted => exact .inr ⟨_, _, rfl, rfl, accepted⟩
  | quiet | config | snapshot | policy | epoch | acknowledgement | payment | settlement =>
      exact absurd rfl changed

theorem step_policy (changed : (step rules state event nowMs).policy ≠ state.policy) :
    ∃ frame, event = .frameReceived (.sessionPolicy frame) ∧
      passes rules state frame.guard = true := by
  obtain ⟨content, update, _, _, _, marked⟩ := step_reaches rules state event nowMs
  rw [marked] at changed
  cases update with
  | policy frame accepted fresh => exact ⟨frame, rfl, accepted⟩
  | quiet | config | presence | grant | revoke | moderation | snapshot | epoch
  | acknowledgement | payment | settlement => exact absurd rfl changed

end

/-! ## The Linux client -/

namespace Linux

/-- The frame carries the signature that the configuration asks for, and its issuer may
act. -/
structure Entitled (state : ClientState) (guard : Guard) : Prop where
  signature : state.config.requireSignedModeration = true →
    ∃ value, guard.signature = some value ∧ Hub.isBlank value = false
  issuer : guard.issuer = "system" ∨
    ∃ participant, state.participants.get? guard.issuer = some participant ∧
      (participant.role = .host ∨ participant.role = .coHost)

theorem signed_iff {state : ClientState} {signature : Option String} :
    signed rules state.view signature = true ↔
      (state.config.requireSignedModeration = true →
        ∃ value, signature = some value ∧ Hub.isBlank value = false) := by
  unfold signed
  cases required : state.config.requireSignedModeration <;> cases signature <;>
    simp [rules, required]

theorem authorized_iff {state : ClientState} {issuer : String} :
    authorized rules state.view issuer = true ↔
      issuer = "system" ∨ ∃ participant, state.participants.get? issuer = some participant ∧
        (participant.role = .host ∨ participant.role = .coHost) := by
  unfold authorized
  cases found : state.participants.get? issuer <;> simp [rules, found]

theorem passes_iff {state : ClientState} {guard : Guard} :
    passes rules state.view guard = true ↔ Entitled state guard := by
  unfold passes
  rw [Bool.and_eq_true, signed_iff, authorized_iff]
  exact ⟨fun both => ⟨both.1, both.2⟩, fun entitled => ⟨entitled.signature, entitled.issuer⟩⟩

/-- The frame lacks the signature or the authority that it needs. -/
def Rejected (state : ClientState) : ProtocolFrame → Prop
  | .roleGrant frame => ¬Entitled state frame.guard
  | .roleRevoke frame => ¬Entitled state frame.guard
  | .moderationSigned frame => ¬Entitled state frame.guard
  | .sessionPolicy frame => ¬Entitled state frame.guard
  | .e2eeKeyEpoch frame =>
      ¬(state.config.requireSignedModeration = true →
        ∃ value, frame.signature = some value ∧ Hub.isBlank value = false)
  | _ => False

/-- Nothing but the phase, the fallback and the last error differs. -/
def OnlyMarked (before after : ClientState) : Prop :=
  ∃ connectionPhase fallback lastError,
    after = { before with connectionPhase, fallback, lastError }

theorem policyReject_onlyMarked (state : ClientState) (nowMs : Int) (code message : String) :
    OnlyMarked state (policyReject state nowMs code message) :=
  ⟨_, _, _, rfl⟩

theorem checked_onlyMarked {state accepted : ClientState} {nowMs : Int} {guard : Guard}
    (denied : ¬Entitled state guard) :
    OnlyMarked state
      (if !hasRequiredSignature guard.signature state then
        policyReject state nowMs (guard.name ++ "_signature_missing")
          (guard.title ++ " signature is required")
      else if !actorIsAuthorized guard.issuer state then
        policyReject state nowMs (guard.name ++ "_not_authorized")
          (guard.title ++ " issuer is not host/co-host")
      else accepted) := by
  have refused : ¬passes rules state.view guard = true :=
    fun passed => denied (passes_iff.mp passed)
  unfold passes at refused
  rw [← hasRequiredSignature_view, ← actorIsAuthorized_view] at refused
  cases present : hasRequiredSignature guard.signature state with
  | false => exact policyReject_onlyMarked ..
  | true =>
      cases allowed : actorIsAuthorized guard.issuer state with
      | false => exact policyReject_onlyMarked ..
      | true => exact absurd (by rw [present, allowed]; rfl) refused

theorem reduceFrame_rejected {state : ClientState} {frame : ProtocolFrame} {nowMs : Int}
    (rejected : Rejected state frame) : OnlyMarked state (reduceFrame state frame nowMs) := by
  cases frame with
  | roleGrant frame => exact checked_onlyMarked rejected
  | roleRevoke frame => exact checked_onlyMarked rejected
  | moderationSigned frame => exact checked_onlyMarked rejected
  | sessionPolicy frame => exact checked_onlyMarked rejected
  | e2eeKeyEpoch frame =>
      have missing : hasRequiredSignature frame.signature state = false := by
        rw [hasRequiredSignature_view, ← Bool.not_eq_true, signed_iff]
        exact rejected
      simp only [reduceFrame, applyE2eeKeyEpoch, missing]
      exact policyReject_onlyMarked ..
  | handshake _ | handshakeAck _ _ _ | participantPresenceDelta _ | permissionsSnapshot _ _ _
  | deviceCapability _ | mediaProfileNegotiation _ | recordingNotice _ _ | keyRotationAck _ _ _
  | paymentPolicy _ _ | paymentSettlement _ | error _ _ _ | ping _ | pong _ =>
      exact rejected.elim

/-- What an event may change, given the state before it. -/
structure Authorized (state : ClientState) (event : ProtocolEvent) (next : ClientState) :
    Prop where
  participants : ∀ name, next.participants.get? name ≠ state.participants.get? name →
    (∃ frame, event = .frameReceived (.participantPresenceDelta frame) ∧
      state.presenceSequence < frame.sequence) ∨
    ∃ frame guard, event = .frameReceived frame ∧ frame.memberGuard = some guard ∧
      Entitled state guard
  policy : next.policy ≠ state.policy →
    ∃ frame, event = .frameReceived (.sessionPolicy frame) ∧ Entitled state frame.guard
  rejected : ∀ frame, event = .frameReceived frame → Rejected state frame →
    OnlyMarked state next

/-- In every state, an event changes participants and policies under authority only. -/
theorem reduce_authorized (state : ClientState) (event : ProtocolEvent) (nowMs : Int) :
    Authorized state event (reduce state event nowMs) where
  participants := by
    intro name changed
    have viewed : (step rules state.view event nowMs).participants ≠ state.view.participants := by
      rw [← reduce_view]
      exact fun same => changed (congrFun same name)
    obtain delta | ⟨frame, guard, received, guarded, passed⟩ := step_participants viewed
    · exact .inl delta
    · exact .inr ⟨frame, guard, received, guarded, passes_iff.mp passed⟩
  policy := by
    intro changed
    have viewed : (step rules state.view event nowMs).policy ≠ state.view.policy := by
      rw [← reduce_view]
      exact changed
    obtain ⟨frame, received, passed⟩ := step_policy viewed
    exact ⟨frame, received, passes_iff.mp passed⟩
  rejected := by
    intro frame received rejected
    subst received
    exact reduceFrame_rejected rejected

end Linux

end Kaigi.Session
