import Kaigi.Session.Android

/-!
# The reducer of the Apple client

The Apple client declares the types of the session protocol as the others do, with a few
fields more that its reducer does not read. Its signatures are texts that may be empty,
and a frame may come without the payload of its kind. Swift takes texts that are
canonically equivalent for equal; here they are compared as they are written, and no
result depends on it.
-/

set_option autoImplicit false

namespace Kaigi.Session.Apple

open Collections

inductive MeetingSessionEvent where
  | connectRequested
  | transportConnected
  | transportDisconnected (reason : String)
  | transportFailure (message : String)
  /-- The payload of the frame, if it is there. -/
  | frameReceived (frame : Option ProtocolFrame)
  | frameSendFailed (message : String)
  | manualDisconnected
  | fallbackActivated (reason : String)
  | fallbackRecovered
  | configUpdated (config : MeetingConfig)
deriving DecidableEq

def actorIsAuthorized (actorID : String) (state : ClientState) : Bool :=
  if actorID = "system" then true
  else
    match state.participants.get? actorID with
    | none => false
    | some actor => actor.role = .host || actor.role = .coHost

/-- `whitespacesAndNewlines` holds the characters that the hub trims. -/
def hasRequiredSignature (signature : Option String) (state : ClientState) : Bool :=
  if !state.config.requireSignedModeration then true
  else !Hub.isBlank (signature.getD "")

def rejectPolicy (code message : String) (state : ClientState) (nowMs : Int) : ClientState :=
  { state with
    lastError := some { category := .policyFailure, code, message, atMs := nowMs }
    connectionPhase := if state.fallback.active then .fallbackActive else .error }

/-- The state after its error is cleared. -/
def clearError (state : ClientState) : ClientState :=
  { state with
    lastError := none
    connectionPhase :=
      if state.fallback.active then .fallbackActive
      else if state.connectionPhase = .error && state.handshakeComplete then .connected
      else state.connectionPhase }

def clearE2EEEpochPolicyErrorIfNeeded (state : ClientState) : ClientState :=
  match state.lastError with
  | none => state
  | some error =>
      if error.category ≠ .policyFailure then state
      else if error.code ≠ "e2ee_epoch_required" then state
      else clearError state

def enforceE2EEEpochPolicy (state : ClientState) (nowMs : Int) : ClientState :=
  if !state.e2eeRequired || 1 ≤ state.e2eeState.currentEpoch then
    clearE2EEEpochPolicyErrorIfNeeded state
  else
    rejectPolicy "e2ee_epoch_required" "E2EE key epoch is required before continuing" state nowMs

def clearPaymentPolicyErrorIfNeeded (state : ClientState) : ClientState :=
  match state.lastError with
  | none => state
  | some error =>
      if error.category ≠ .policyFailure then state
      else if error.code ≠ "payment_settlement_required" &&
          error.code ≠ "payment_settlement_blocked" then state
      else clearError state

def enforcePaymentSettlementPolicy (state : ClientState) (nowMs : Int) : ClientState :=
  if !(state.config.requirePaymentSettlement && state.paymentState.required) then
    clearPaymentPolicyErrorIfNeeded state
  else
    match state.paymentState.settlementStatus with
    | .settled | .notRequired => clearPaymentPolicyErrorIfNeeded state
    | .blocked =>
        rejectPolicy "payment_settlement_blocked" "Payment settlement is blocked by policy" state
          nowMs
    | .pending =>
        rejectPolicy "payment_settlement_required"
          "Payment settlement is required before continuing" state nowMs

def changeParticipantRole (participants : Table Participant) (change : RoleChange) :
    Table Participant :=
  match participants.get? change.participantId with
  | none => participants
  | some participant =>
      participants.put change.participantId { participant with role := change.role }

def participantPresenceDelta (delta : PresenceDeltaFrame) (state : ClientState) : ClientState :=
  if delta.sequence ≤ state.presenceSequence then state
  else
    let joined := delta.joined.foldl
      (fun participants participant => participants.put participant.id participant)
      state.participants
    let stayed := delta.left.foldl HashMap.remove joined
    { state with
      presenceSequence := delta.sequence
      participants := delta.roleChanges.foldl changeParticipantRole stayed }

def roleGrant (frame : RoleGrantFrame) (state : ClientState) (nowMs : Int) : ClientState :=
  if !hasRequiredSignature frame.signature state then
    rejectPolicy "role_grant_signature_missing" "RoleGrant signature is required" state nowMs
  else if !actorIsAuthorized frame.grantedBy state then
    rejectPolicy "role_grant_not_authorized" "RoleGrant issuer is not host/co-host" state nowMs
  else
    match state.participants.get? frame.targetParticipantId with
    | none => state
    | some participant =>
        { state with
          participants :=
            state.participants.put frame.targetParticipantId
              { participant with role := frame.role } }

def roleRevoke (frame : RoleRevokeFrame) (state : ClientState) (nowMs : Int) : ClientState :=
  if !hasRequiredSignature frame.signature state then
    rejectPolicy "role_revoke_signature_missing" "RoleRevoke signature is required" state nowMs
  else if !actorIsAuthorized frame.revokedBy state then
    rejectPolicy "role_revoke_not_authorized" "RoleRevoke issuer is not host/co-host" state nowMs
  else
    match state.participants.get? frame.targetParticipantId with
    | none => state
    | some participant =>
        if participant.role = frame.role then
          { state with
            participants :=
              state.participants.put frame.targetParticipantId
                { participant with role := .participant } }
        else state

def permissionsSnapshot (participantID : String) (effectivePermissions : List String)
    (epoch : Int) (state : ClientState) : ClientState :=
  if (state.permissionSnapshots.get? participantID).any fun prior => epoch ≤ prior.epoch then state
  else
    { state with
      permissionSnapshots :=
        state.permissionSnapshots.put participantID { effectivePermissions, epoch } }

def applyModeration (frame : ModerationSignedFrame) (state : ClientState) : ClientState :=
  let target := frame.targetParticipantId
  match state.participants.get? target with
  | none => state
  | some participant =>
      { state with
        participants :=
          match frame.action with
          | .mute => state.participants.put target { participant with muted := true }
          | .videoOff => state.participants.put target { participant with videoEnabled := false }
          | .stopShare => state.participants.put target { participant with shareEnabled := false }
          | .admitFromWaiting =>
              state.participants.put target { participant with waitingRoom := false }
          | .kick | .denyFromWaiting => state.participants.remove target }

def moderationSigned (frame : ModerationSignedFrame) (state : ClientState) (nowMs : Int) :
    ClientState :=
  if !hasRequiredSignature frame.signature state then
    rejectPolicy "moderation_signature_missing" "Moderation signature is required" state nowMs
  else if !actorIsAuthorized frame.issuedBy state then
    rejectPolicy "moderation_not_authorized" "Moderation issuer is not host/co-host" state nowMs
  else applyModeration frame state

def sessionPolicy (frame : SessionPolicyFrame) (state : ClientState) (nowMs : Int) :
    ClientState :=
  if !hasRequiredSignature frame.signature state then
    rejectPolicy "session_policy_signature_missing" "SessionPolicy signature is required" state
      nowMs
  else if !actorIsAuthorized frame.updatedBy state then
    rejectPolicy "session_policy_not_authorized" "SessionPolicy issuer is not host/co-host" state
      nowMs
  else if frame.policyEpoch < state.policyEpoch then state
  else
    enforceE2EEEpochPolicy
      { state with
        roomLocked := frame.roomLock
        waitingRoomEnabled := frame.waitingRoomEnabled
        guestPolicy := frame.guestPolicy
        e2eeRequired := frame.e2eeRequired
        maxParticipants := frame.maxParticipants
        policyEpoch := frame.policyEpoch
        recordingNotice := frame.recordingPolicy } nowMs

def e2eeKeyEpoch (frame : E2eeKeyEpochFrame) (state : ClientState) (nowMs : Int) : ClientState :=
  if !hasRequiredSignature frame.signature state then
    rejectPolicy "e2ee_signature_missing" "E2EE key epoch signature is required" state nowMs
  else
    enforceE2EEEpochPolicy
      { state with
        e2eeState :=
          { state.e2eeState with
            currentEpoch := max state.e2eeState.currentEpoch frame.epoch } } nowMs

/-- The branches of `apply(frame:to:nowMs:)`; the longer ones are the definitions above. -/
def applyFrame (frame : ProtocolFrame) (state : ClientState) (nowMs : Int) : ClientState :=
  match frame with
  | .handshakeAck _ resumeToken _ =>
      { state with
        handshakeComplete := true
        resumeToken := some resumeToken
        connectionPhase := if state.fallback.active then .fallbackActive else .connected
        lastError := none }
  | .participantPresenceDelta delta => participantPresenceDelta delta state
  | .roleGrant frame => roleGrant frame state nowMs
  | .roleRevoke frame => roleRevoke frame state nowMs
  | .permissionsSnapshot participantID effectivePermissions epoch =>
      permissionsSnapshot participantID effectivePermissions epoch state
  | .moderationSigned frame => moderationSigned frame state nowMs
  | .sessionPolicy frame => sessionPolicy frame state nowMs
  | .mediaProfileNegotiation profile =>
      { state with
        mediaProfile := profile
        connectionPhase :=
          if profile.preferredProfile = .hdr && profile.negotiatedProfile = .sdr then .degraded
          else if state.handshakeComplete && !state.fallback.active then .connected
          else state.connectionPhase }
  | .recordingNotice recording _ => { state with recordingNotice := recording }
  | .e2eeKeyEpoch frame => e2eeKeyEpoch frame state nowMs
  | .keyRotationAck ackEpoch _ _ =>
      { state with
        e2eeState :=
          { state.e2eeState with lastAckEpoch := max state.e2eeState.lastAckEpoch ackEpoch } }
  | .paymentPolicy required destinationAccount =>
      enforcePaymentSettlementPolicy
        { state with
          paymentState :=
            { required
              destination := destinationAccount
              settlementStatus := if required then .pending else .notRequired } } nowMs
  | .paymentSettlement status =>
      enforcePaymentSettlementPolicy
        { state with paymentState := { state.paymentState with settlementStatus := status } }
        nowMs
  | .error category code message =>
      { state with
        lastError := some { category, code, message, atMs := nowMs }
        connectionPhase :=
          match category with
          | .policyFailure => if state.fallback.active then .fallbackActive else .error
          | .protocolFailure => if state.fallback.active then .fallbackActive else .degraded
          | .transportFailure => if state.fallback.active then .fallbackActive else .degraded }
  | .ping _ | .pong _ | .handshake _ | .deviceCapability _ => state

/-- The branches of a transport event that the fallback hides. -/
def transportFailed (code message : String) (state : ClientState) (nowMs : Int) : ClientState :=
  if state.fallback.active then { state with connectionPhase := .fallbackActive }
  else
    { state with
      connectionPhase := .degraded
      lastError := some { category := .transportFailure, code, message, atMs := nowMs } }

def reduce (state : ClientState) (event : MeetingSessionEvent) (nowMs : Int) : ClientState :=
  match event with
  | .connectRequested =>
      { state with
        connectionPhase := .connecting, handshakeComplete := false, lastError := none }
  | .transportConnected => { state with connectionPhase := .connecting, lastError := none }
  | .transportDisconnected reason =>
      transportFailed "transport_disconnected" reason { state with handshakeComplete := false }
        nowMs
  | .transportFailure message =>
      transportFailed "transport_failure" message { state with handshakeComplete := false } nowMs
  | .frameSendFailed message => transportFailed "send_failed" message state nowMs
  | .manualDisconnected =>
      { state with
        connectionPhase := .disconnected, handshakeComplete := false, lastError := none }
  | .fallbackActivated reason =>
      { state with
        connectionPhase := .fallbackActive
        fallback :=
          { state.fallback with
            active := true, reason := some reason, activatedAtMs := some nowMs }
        lastError := some
          { category := .transportFailure, code := "fallback_activated", message := reason
            atMs := nowMs } }
  | .fallbackRecovered =>
      { state with
        fallback :=
          { state.fallback with
            active := false
            reason := none
            recoveredAtMs := some nowMs
            -- Without a time of activation the last reading stays.
            lastRtoMs :=
              match state.fallback.activatedAtMs with
              | some activatedAt => some (max 0 (nowMs - activatedAt))
              | none => state.fallback.lastRtoMs }
        connectionPhase := .disconnected }
  | .configUpdated config => enforcePaymentSettlementPolicy { state with config } nowMs
  | .frameReceived none => state
  | .frameReceived (some frame) => applyFrame frame state nowMs

/-! ## The reducer as a session machine -/

/-- The Apple client differs from the Android client in what it takes for a signature. -/
def rules : Rules :=
  { Android.rules with signs := fun signature => !Hub.isBlank (signature.getD "") }

/-- The event without the payloads that are missing. -/
def MeetingSessionEvent.event? : MeetingSessionEvent → Option ProtocolEvent
  | .connectRequested => some .connectRequested
  | .transportConnected => some .transportConnected
  | .transportDisconnected reason => some (.transportDisconnected reason)
  | .transportFailure message => some (.transportFailure message)
  | .frameReceived frame => frame.map .frameReceived
  | .frameSendFailed message => some (.frameSendFailed message)
  | .manualDisconnected => some .manualDisconnected
  | .fallbackActivated reason => some (.fallbackActivated reason)
  | .fallbackRecovered => some .fallbackRecovered
  | .configUpdated config => some (.configUpdated config)

variable (state : ClientState) (nowMs : Int)

theorem hasRequiredSignature_view (signature : Option String) :
    hasRequiredSignature signature state = signed rules state.view signature := by
  unfold hasRequiredSignature signed
  cases required : state.config.requireSignedModeration <;> simp [rules, required]

theorem actorIsAuthorized_view (actorID : String) :
    actorIsAuthorized actorID state = authorized rules state.view actorID := by
  unfold actorIsAuthorized authorized
  by_cases system : actorID = "system"
  · simp [system]
  · cases found : state.participants.get? actorID <;> simp [system, rules, Android.rules, found]

theorem rejectPolicy_view (code message : String) :
    (rejectPolicy code message state nowMs).view = reject rules state.view nowMs code message :=
  rfl

theorem clearPaymentPolicyErrorIfNeeded_view :
    (clearPaymentPolicyErrorIfNeeded state).view =
      relieve rules rules.paymentError state.view := by
  unfold clearPaymentPolicyErrorIfNeeded relieve
  cases last : state.lastError with
  | none => simp [last]
  | some error =>
      by_cases policy : error.category = .policyFailure <;>
        by_cases required : error.code = "payment_settlement_required" <;>
        by_cases blocked : error.code = "payment_settlement_blocked" <;>
        simp [last, policy, required, blocked, rules, Android.rules, clearError,
          ProtocolSessionState.view]

theorem clearE2EEEpochPolicyErrorIfNeeded_view :
    (clearE2EEEpochPolicyErrorIfNeeded state).view =
      relieve rules rules.epochError state.view := by
  unfold clearE2EEEpochPolicyErrorIfNeeded relieve
  cases last : state.lastError with
  | none => simp [last]
  | some error =>
      by_cases policy : error.category = .policyFailure <;>
        by_cases required : error.code = "e2ee_epoch_required" <;>
        simp [last, policy, required, rules, Android.rules, clearError,
          ProtocolSessionState.view]

theorem enforcePaymentSettlementPolicy_view :
    (enforcePaymentSettlementPolicy state nowMs).view = checkPayment rules state.view nowMs := by
  have cleared := clearPaymentPolicyErrorIfNeeded_view state
  unfold enforcePaymentSettlementPolicy checkPayment
  cases enforced : state.config.requirePaymentSettlement with
  | false => simpa [paymentDue, enforced] using cleared
  | true =>
      cases required : state.paymentState.required with
      | false => simpa [paymentDue, enforced, required] using cleared
      | true =>
          cases status : state.paymentState.settlementStatus with
          | notRequired => simpa [paymentDue, enforced, required, status] using cleared
          | settled => simpa [paymentDue, enforced, required, status] using cleared
          | pending =>
              simp [paymentDue, enforced, required, status, rejectPolicy_view, rules, Android.rules]
          | blocked =>
              simp [paymentDue, enforced, required, status, rejectPolicy_view, rules, Android.rules]

theorem enforceE2EEEpochPolicy_view :
    (enforceE2EEEpochPolicy state nowMs).view = checkEpoch rules state.view nowMs := by
  have cleared := clearE2EEEpochPolicyErrorIfNeeded_view state
  unfold enforceE2EEEpochPolicy checkEpoch
  cases required : state.e2eeRequired with
  | false => simpa [epochDue, required] using cleared
  | true =>
      by_cases known : 1 ≤ state.e2eeState.currentEpoch
      · have due : ¬state.e2eeState.currentEpoch ≤ 0 := by omega
        simpa [epochDue, required, known, due] using cleared
      · have due : state.e2eeState.currentEpoch ≤ 0 := by omega
        simp [epochDue, required, known, due, rejectPolicy_view, rules, Android.rules]

theorem checked_view (guard : Guard) {accepted : ClientState} {target : SessionView}
    (same : accepted.view = target) :
    (if !hasRequiredSignature guard.signature state then
        rejectPolicy (guard.name ++ "_signature_missing")
          (guard.title ++ " signature is required") state nowMs
      else if !actorIsAuthorized guard.issuer state then
        rejectPolicy (guard.name ++ "_not_authorized")
          (guard.title ++ " issuer is not host/co-host") state nowMs
      else accepted).view = guarded rules state.view nowMs guard target :=
  guarded_view rules guard (hasRequiredSignature_view state _) (actorIsAuthorized_view state _)
    (rejectPolicy_view ..) (rejectPolicy_view ..) same

theorem changeParticipantRole_view (participants : Table Participant) (change : RoleChange) :
    (changeParticipantRole participants change).get? =
      changeRole rules participants.get? change := by
  apply found_view
  · intro participant found
    have present : participants.get? change.participantId = some participant := found
    simp only [changeParticipantRole, present, withRole]
  · intro absent
    have missing : participants.get? change.participantId = none := absent
    simp only [changeParticipantRole, missing]

theorem participantPresenceDelta_view (frame : PresenceDeltaFrame) :
    (participantPresenceDelta frame state).view =
      receive rules state.view (.participantPresenceDelta frame) nowMs := by
  have shown (participants : Table Participant) :
      HashMap.get? (frame.roleChanges.foldl changeParticipantRole
        (frame.left.foldl HashMap.remove (frame.joined.foldl
          (fun participants participant => participants.put participant.id participant)
          participants))) = present rules participants.get? frame :=
    present_view rules (fun _ _ => get?_put ..) changeParticipantRole_view participants frame
  unfold participantPresenceDelta receive
  by_cases stale : frame.sequence ≤ state.presenceSequence
  · simp [stale]
  · simp [stale, ProtocolSessionState.view, shown]

theorem put_view (name : String) (participant : Participant) :
    { state with participants := state.participants.put name participant }.view =
      { state.view with
        participants := assign state.view.participants name (some participant) } := by
  simp only [ProtocolSessionState.view, get?_put]

theorem roleGrant_view (frame : RoleGrantFrame) :
    (roleGrant frame state nowMs).view =
      receive rules state.view (.roleGrant frame) nowMs := by
  refine checked_view state nowMs frame.guard ?_
  exact found_or_state_view rules rfl fun participant _ => put_view ..

theorem roleRevoke_view (frame : RoleRevokeFrame) :
    (roleRevoke frame state nowMs).view =
      receive rules state.view (.roleRevoke frame) nowMs := by
  refine checked_view state nowMs frame.guard ?_
  unfold revoked revise
  cases found : state.participants.get? frame.targetParticipantId with
  | none =>
      have missing : rules.participant state.view.participants
          frame.targetParticipantId = none := found
      simp only [missing, Option.any_none, Bool.false_eq_true, ↓reduceIte]
  | some participant =>
      have present : rules.participant state.view.participants
          frame.targetParticipantId = some participant := found
      by_cases same : participant.role = frame.role
      · simp only [present, Option.any_some, same, decide_true, ↓reduceIte]
        exact put_view ..
      · simp only [present, Option.any_some, same, decide_false, Bool.false_eq_true, ↓reduceIte]

theorem moderationSigned_view (frame : ModerationSignedFrame) :
    (moderationSigned frame state nowMs).view =
      receive rules state.view (.moderationSigned frame) nowMs := by
  refine checked_view state nowMs frame.guard ?_
  refine found_or_state_view rules rfl fun participant _ => ?_
  cases frame.action with
  | mute | videoOff | stopShare | admitFromWaiting => exact put_view ..
  | kick | denyFromWaiting => simp only [ProtocolSessionState.view, get?_remove, moderated]

theorem permissionsSnapshot_view (name : String) (effectivePermissions : List String)
    (epoch : Int) :
    (permissionsSnapshot name effectivePermissions epoch state).view =
      receive rules state.view
        (.permissionsSnapshot name effectivePermissions epoch) nowMs := by
  unfold permissionsSnapshot receive setSnapshot
  cases found : state.permissionSnapshots.get? name with
  | none => simp [found, rules, Android.rules, ProtocolSessionState.view, get?_put]
  | some prior =>
      by_cases newer : prior.epoch < epoch
      · simp [found, rules, Android.rules, ProtocolSessionState.view, get?_put, newer,
          Int.not_le.mpr newer]
      · simp [found, rules, Android.rules, newer, Int.not_lt.mp newer]

theorem sessionPolicy_view (frame : SessionPolicyFrame) :
    (sessionPolicy frame state nowMs).view =
      receive rules state.view (.sessionPolicy frame) nowMs := by
  refine checked_view state nowMs frame.guard ?_
  by_cases stale : frame.policyEpoch < state.policyEpoch
  · simp [stale]
  · simp only [stale, ↓reduceIte, enforceE2EEEpochPolicy_view]
    simp [stale, setPolicy, ProtocolSessionState.view]

theorem e2eeKeyEpoch_view (frame : E2eeKeyEpochFrame) :
    (e2eeKeyEpoch frame state nowMs).view =
      receive rules state.view (.e2eeKeyEpoch frame) nowMs := by
  simp only [e2eeKeyEpoch, receive, hasRequiredSignature_view]
  cases signed rules state.view frame.signature with
  | false => exact rejectPolicy_view state nowMs _ _
  | true => exact enforceE2EEEpochPolicy_view _ nowMs

theorem applyFrame_view (frame : ProtocolFrame) :
    (applyFrame frame state nowMs).view = receive rules state.view frame nowMs := by
  cases frame with
  | handshakeAck _ resumeToken _ => rfl
  | participantPresenceDelta frame => exact participantPresenceDelta_view state nowMs frame
  | roleGrant frame => exact roleGrant_view state nowMs frame
  | roleRevoke frame => exact roleRevoke_view state nowMs frame
  | permissionsSnapshot participantId effectivePermissions epoch =>
      exact permissionsSnapshot_view state nowMs participantId effectivePermissions epoch
  | moderationSigned frame => exact moderationSigned_view state nowMs frame
  | sessionPolicy frame => exact sessionPolicy_view state nowMs frame
  | mediaProfileNegotiation profile => rfl
  | recordingNotice recording _ => rfl
  | e2eeKeyEpoch frame => exact e2eeKeyEpoch_view state nowMs frame
  | keyRotationAck ackEpoch _ _ => rfl
  | paymentPolicy required destinationAccount =>
      exact enforcePaymentSettlementPolicy_view _ nowMs
  | paymentSettlement status => exact enforcePaymentSettlementPolicy_view _ nowMs
  | error category code message => cases category <;> rfl
  | handshake _ | deviceCapability _ | ping _ | pong _ => rfl

theorem transportFailed_view (code message : String) :
    (transportFailed code message state nowMs).view = fail state.view code message nowMs := by
  unfold transportFailed fail
  cases active : state.fallback.active <;> simp [ProtocolSessionState.view, active]

/-- Only the recovery has its own way to tell how long it took. -/
theorem reduce_view {event : MeetingSessionEvent} (notRecovered : event ≠ .fallbackRecovered) :
    (reduce state event nowMs).view =
      event.event?.elim state.view fun event => step rules state.view event nowMs := by
  cases event with
  | transportDisconnected reason | transportFailure message =>
      refine (transportFailed_view _ nowMs _ _).trans ?_
      simp only [MeetingSessionEvent.event?, Option.elim_some, step, fail]
      cases active : state.fallback.active <;> simp [ProtocolSessionState.view, active]
  | frameSendFailed message => exact transportFailed_view state nowMs _ message
  | configUpdated config => exact enforcePaymentSettlementPolicy_view _ nowMs
  | frameReceived frame =>
      cases frame with
      | none => rfl
      | some frame => exact applyFrame_view state nowMs frame
  | fallbackRecovered => exact absurd rfl notRecovered
  | connectRequested | transportConnected | manualDisconnected | fallbackActivated => rfl

end Kaigi.Session.Apple
