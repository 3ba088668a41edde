import Kaigi.Session.Linux

/-!
# The reducer of the Windows client

It follows the rules of the Linux client.
-/

set_option autoImplicit false

namespace Kaigi.Session.Windows

open Collections

/-- `string.IsNullOrWhiteSpace`; `char.IsWhiteSpace` holds of the code points of
`char::is_whitespace`. -/
def isNullOrWhiteSpace (value : Option String) : Bool :=
  value.all fun text => text.toList.all Hub.isWhitespace

def hasRequiredSignature (signature : Option String) (state : ClientState) : Bool :=
  if !state.config.requireSignedModeration then true
  else !isNullOrWhiteSpace signature

def actorAuthorized (actorId : String) (state : ClientState) : Bool :=
  if actorId = "system" then true
  else
    match state.participants.get? actorId with
    | none => false
    | some participant => participant.role = .host || participant.role = .coHost

def policyReject (state : ClientState) (nowMs : Int) (code message : String) : ClientState :=
  let fallbackRequested := state.config.preferWebFallbackOnPolicyFailure
  let fallbackActive := fallbackRequested || state.fallback.active
  { state with
    connectionPhase := if fallbackActive then .fallbackActive else .error
    fallback :=
      if fallbackActive then
        { state.fallback with
          active := true
          reason := some (state.fallback.reason.getD ("policy:" ++ code))
          activatedAtMs := some (state.fallback.activatedAtMs.getD nowMs) }
      else state.fallback
    lastError := some { category := .policyFailure, code, message, atMs := nowMs } }

/-- The state without its error, in the phase that follows from the rest of it. -/
def withoutError (state : ClientState) : ClientState :=
  { state with
    lastError := none
    connectionPhase :=
      if state.fallback.active then .fallbackActive
      else if state.handshakeComplete then .connected
      else .connecting }

def clearPaymentError (state : ClientState) : ClientState :=
  match state.lastError with
  | none => state
  | some lastError =>
      if lastError.category ≠ .policyFailure then state
      else if !startsWith lastError.code "payment_settlement_" &&
          lastError.code ≠ "payment_unsettled" then state
      else withoutError state

def enforcePaymentPolicy (state : ClientState) (nowMs : Int) : ClientState :=
  if !state.config.requirePaymentSettlement || !state.paymentState.required then
    clearPaymentError state
  else if state.paymentState.settlementStatus = .settled ||
      state.paymentState.settlementStatus = .notRequired then
    clearPaymentError state
  else if state.paymentState.settlementStatus = .blocked then
    policyReject state nowMs "payment_settlement_blocked" "Payment settlement blocked by policy"
  else
    policyReject state nowMs "payment_settlement_required"
      "Payment settlement required before media/session actions can continue"

def clearE2eeError (state : ClientState) : ClientState :=
  match state.lastError with
  | none => state
  | some lastError =>
      if lastError.category ≠ .policyFailure || !startsWith lastError.code "e2ee_" then state
      else withoutError state

def enforceE2eeEpoch (state : ClientState) (nowMs : Int) : ClientState :=
  if !state.e2eeRequired then clearE2eeError state
  else if 0 < state.e2eeState.currentEpoch then clearE2eeError state
  else
    policyReject state nowMs "e2ee_epoch_required" "E2EE key epoch is required by session policy"

/-- Replace the participant under a name, if there is one. -/
def replace (participants : Table Participant) (name : String)
    (change : Participant → Participant) : Table Participant :=
  match participants.get? name with
  | some participant => participants.put name (change participant)
  | none => participants

def applyPresenceDelta (state : ClientState) (delta : PresenceDeltaFrame) : ClientState :=
  if delta.sequence ≤ state.presenceSequence then state
  else
    let joined := delta.joined.foldl (fun next participant => next.put participant.id participant)
      state.participants
    let stayed := delta.left.foldl HashMap.remove joined
    { state with
      participants := delta.roleChanges.foldl
        (fun next roleChange =>
          replace next roleChange.participantId ({ · with role := roleChange.role })) stayed
      presenceSequence := delta.sequence }

def applyPermissionSnapshot (state : ClientState) (participantId : String)
    (effectivePermissions : List String) (epoch : Int) : ClientState :=
  if (state.permissionSnapshots.get? participantId).any fun prior => epoch ≤ prior.epoch then state
  else
    { state with
      permissionSnapshots :=
        state.permissionSnapshots.put participantId { effectivePermissions, epoch } }

def applyRoleGrant (state : ClientState) (grant : RoleGrantFrame) (nowMs : Int) : ClientState :=
  if !hasRequiredSignature grant.signature state then
    policyReject state nowMs "role_grant_signature_missing" "RoleGrant signature is required"
  else if !actorAuthorized grant.grantedBy state then
    policyReject state nowMs "role_grant_not_authorized" "RoleGrant issuer is not host/co-host"
  else
    { state with
      participants :=
        replace state.participants grant.targetParticipantId ({ · with role := grant.role }) }

def applyRoleRevoke (state : ClientState) (revoke : RoleRevokeFrame) (nowMs : Int) :
    ClientState :=
  if !hasRequiredSignature revoke.signature state then
    policyReject state nowMs "role_revoke_signature_missing" "RoleRevoke signature is required"
  else if !actorAuthorized revoke.revokedBy state then
    policyReject state nowMs "role_revoke_not_authorized" "RoleRevoke issuer is not host/co-host"
  else
    let next := state.participants
    { state with
      participants :=
        match next.get? revoke.targetParticipantId with
        | some participant =>
            if participant.role = revoke.role then
              next.put revoke.targetParticipantId { participant with role := .participant }
            else next
        | none => next }

def applyModeration (state : ClientState) (moderation : ModerationSignedFrame) (nowMs : Int) :
    ClientState :=
  if !hasRequiredSignature moderation.signature state then
    policyReject state nowMs "moderation_signature_missing" "Moderation signature is required"
  else if !actorAuthorized moderation.issuedBy state then
    policyReject state nowMs "moderation_not_authorized" "Moderation issuer is not host/co-host"
  else
    let next := state.participants
    let target := moderation.targetParticipantId
    match next.get? target with
    | none => state
    | some participant =>
        { state with
          participants :=
            match moderation.action with
            | .mute => next.put target { participant with muted := true }
            | .videoOff => next.put target { participant with videoEnabled := false }
            | .stopShare => next.put target { participant with shareEnabled := false }
            | .admitFromWaiting => next.put target { participant with waitingRoom := false }
            | .kick | .denyFromWaiting => next.remove target }

def applySessionPolicy (state : ClientState) (policy : SessionPolicyFrame) (nowMs : Int) :
    ClientState :=
  if !hasRequiredSignature policy.signature state then
    policyReject state nowMs "session_policy_signature_missing"
      "SessionPolicy signature is required"
  else if !actorAuthorized policy.updatedBy state then
    policyReject state nowMs "session_policy_not_authorized"
      "SessionPolicy issuer is not host/co-host"
  else if policy.policyEpoch < state.policyEpoch then state
  else
    enforceE2eeEpoch
      { state with
        roomLocked := policy.roomLock
        waitingRoomEnabled := policy.waitingRoomEnabled
        guestPolicy := policy.guestPolicy
        e2eeRequired := policy.e2eeRequired
        maxParticipants := policy.maxParticipants
        policyEpoch := policy.policyEpoch
        recordingNotice := policy.recordingPolicy } nowMs

def applyE2eeEpoch (state : ClientState) (epoch : E2eeKeyEpochFrame) (nowMs : Int) :
    ClientState :=
  if !hasRequiredSignature epoch.signature state then
    policyReject state nowMs "e2ee_signature_missing" "E2EE key epoch signature is required"
  else
    enforceE2eeEpoch
      { state with
        e2eeState :=
          { state.e2eeState with
            currentEpoch := max state.e2eeState.currentEpoch epoch.epoch } } nowMs

def reduceFrame (state : ClientState) (frame : ProtocolFrame) (nowMs : Int) : ClientState :=
  match frame with
  | .handshakeAck _ resumeToken _ =>
      { state with
        handshakeComplete := true
        resumeToken := some resumeToken
        connectionPhase := if state.fallback.active then .fallbackActive else .connected
        lastError := none }
  | .participantPresenceDelta delta => applyPresenceDelta state delta
  | .roleGrant grant => applyRoleGrant state grant nowMs
  | .roleRevoke revoke => applyRoleRevoke state revoke nowMs
  | .permissionsSnapshot participantId effectivePermissions epoch =>
      applyPermissionSnapshot state participantId effectivePermissions epoch
  | .moderationSigned moderation => applyModeration state moderation nowMs
  | .sessionPolicy policy => applySessionPolicy state policy nowMs
  | .mediaProfileNegotiation media =>
      { state with
        mediaProfile := media
        connectionPhase :=
          if media.preferredProfile = .hdr && media.negotiatedProfile = .sdr then .degraded
          else if state.handshakeComplete && !state.fallback.active then .connected
          else state.connectionPhase }
  | .recordingNotice recording _ => { state with recordingNotice := recording }
  | .e2eeKeyEpoch epoch => applyE2eeEpoch state epoch nowMs
  | .keyRotationAck ackEpoch _ _ =>
      { state with
        e2eeState :=
          { state.e2eeState with lastAckEpoch := max state.e2eeState.lastAckEpoch ackEpoch } }
  | .paymentPolicy required destinationAccount =>
      enforcePaymentPolicy
        { state with
          paymentState :=
            { required
              destination := destinationAccount
              settlementStatus := if required then .pending else .notRequired } } nowMs
  | .paymentSettlement status =>
      enforcePaymentPolicy
        { state with paymentState := { state.paymentState with settlementStatus := status } }
        nowMs
  | .error category code message =>
      { state with
        connectionPhase :=
          if state.fallback.active then .fallbackActive
          else if category = .policyFailure then .error
          else .degraded
        lastError := some { category, code, message, atMs := nowMs } }
  | .handshake _ | .deviceCapability _ | .ping _ | .pong _ => state

/-- A branch of a transport event, before it looks at the handshake. -/
def transportFailed (state : ClientState) (code message : String) (nowMs : Int) : ClientState :=
  if state.fallback.active then { state with connectionPhase := .fallbackActive }
  else
    { state with
      connectionPhase := .degraded
      lastError := some { category := .transportFailure, code, message, atMs := nowMs } }

def reduce (state : ClientState) (event : ProtocolEvent) (nowMs : Int) : ClientState :=
  match event with
  | .connectRequested =>
      { state with
        connectionPhase := .connecting, handshakeComplete := false, lastError := none }
  | .transportConnected => { state with connectionPhase := .connecting, lastError := none }
  | .transportDisconnected reason =>
      { transportFailed state "transport_disconnected" reason nowMs with
        handshakeComplete := false }
  | .transportFailure message =>
      { transportFailed state "transport_failure" message nowMs with handshakeComplete := false }
  | .frameSendFailed message => transportFailed state "send_failed" message nowMs
  | .manualDisconnected =>
      { state with
        connectionPhase := .disconnected, handshakeComplete := false, lastError := none }
  | .fallbackActivated reason =>
      { state with
        connectionPhase := .fallbackActive
        fallback :=
          { state.fallback with
            active := true, reason := some reason, activatedAtMs := some nowMs }
        lastError := some
          { category := .transportFailure, code := "fallback_activated", message := reason
            atMs := nowMs } }
  | .fallbackRecovered =>
      { state with
        connectionPhase := .disconnected
        fallback :=
          { state.fallback with
            active := false
            reason := none
            recoveredAtMs := some nowMs
            lastRtoMs := state.fallback.activatedAtMs.map fun activated =>
              max 0 (nowMs - activated) } }
  | .configUpdated config => enforcePaymentPolicy { state with config } nowMs
  | .frameReceived frame => reduceFrame state frame nowMs

def run (config : MeetingConfig) (calls : List Call) : ClientState :=
  calls.foldl (fun state call => reduce state call.event call.nowMs) (.initial config)

/-! ## The reducer as a session machine -/

open Linux (rules)

variable (state : ClientState) (nowMs : Int)

theorem hasRequiredSignature_view (signature : Option String) :
    hasRequiredSignature signature state = signed rules state.view signature := by
  unfold hasRequiredSignature signed isNullOrWhiteSpace
  cases required : state.config.requireSignedModeration <;> cases signature <;>
    simp [rules, Hub.isBlank, required]

theorem actorAuthorized_view (actorId : String) :
    actorAuthorized actorId state = authorized rules state.view actorId := by
  unfold actorAuthorized authorized
  by_cases system : actorId = "system"
  · simp [system]
  · cases found : state.participants.get? actorId <;> simp [system, rules, found]

theorem policyReject_view (code message : String) :
    (policyReject state nowMs code message).view = reject rules state.view nowMs code message :=
  Linux.policyReject_view state nowMs code message

theorem clearPaymentError_view :
    (clearPaymentError state).view = relieve rules rules.paymentError state.view := by
  unfold clearPaymentError relieve
  cases last : state.lastError with
  | none => simp [last]
  | some error =>
      by_cases policy : error.category = .policyFailure <;>
        cases settlement : startsWith error.code "payment_settlement_" <;>
        by_cases unsettled : error.code = "payment_unsettled" <;>
        simp [last, policy, settlement, unsettled, rules, withoutError,
          Linux.isPaymentPolicyError, ProtocolSessionState.view]

theorem clearE2eeError_view :
    (clearE2eeError state).view = relieve rules rules.epochError state.view := by
  unfold clearE2eeError relieve
  cases last : state.lastError with
  | none => simp [last]
  | some error =>
      by_cases policy : error.category = .policyFailure <;>
        cases epoch : startsWith error.code "e2ee_" <;>
        simp [last, policy, epoch, rules, withoutError, Linux.isE2eePolicyError,
          ProtocolSessionState.view]

theorem enforcePaymentPolicy_view :
    (enforcePaymentPolicy state nowMs).view = checkPayment rules state.view nowMs := by
  have cleared := clearPaymentError_view state
  unfold enforcePaymentPolicy checkPayment
  cases enforced : state.config.requirePaymentSettlement with
  | false => simpa [paymentDue, enforced] using cleared
  | true =>
      cases required : state.paymentState.required with
      | false => simpa [paymentDue, enforced, required] using cleared
      | true =>
          cases status : state.paymentState.settlementStatus with
          | notRequired => simpa [paymentDue, enforced, required, status] using cleared
          | settled => simpa [paymentDue, enforced, required, status] using cleared
          | pending => simp [paymentDue, enforced, required, status, policyReject_view, rules]
          | blocked => simp [paymentDue, enforced, required, status, policyReject_view, rules]

theorem enforceE2eeEpoch_view :
    (enforceE2eeEpoch state nowMs).view = checkEpoch rules state.view nowMs := by
  have cleared := clearE2eeError_view state
  unfold enforceE2eeEpoch checkEpoch
  cases required : state.e2eeRequired with
  | false => simpa [epochDue, required] using cleared
  | true =>
      by_cases known : 0 < state.e2eeState.currentEpoch
      · simpa [epochDue, required, known, Int.not_le.mpr known] using cleared
      · simp [epochDue, required, known, Int.not_lt.mp known, policyReject_view, rules]

theorem checked_view (guard : Guard) {accepted : ClientState} {target : SessionView}
    (same : accepted.view = target) :
    (if !hasRequiredSignature guard.signature state then
        policyReject state nowMs (guard.name ++ "_signature_missing")
          (guard.title ++ " signature is required")
      else if !actorAuthorized guard.issuer state then
        policyReject state nowMs (guard.name ++ "_not_authorized")
          (guard.title ++ " issuer is not host/co-host")
      else accepted).view = guarded rules state.view nowMs guard target :=
  guarded_view rules guard (hasRequiredSignature_view state _) (actorAuthorized_view state _)
    (policyReject_view ..) (policyReject_view ..) same

theorem replace_view (participants : Table Participant) (name : String)
    (change : Participant → Participant) :
    (replace participants name change).get? =
      revise rules participants.get? name fun participant => some (change participant) := by
  apply found_view
  · intro participant found
    have present : participants.get? name = some participant := found
    simp only [replace, present]
  · intro absent
    have missing : participants.get? name = none := absent
    simp only [replace, missing]

theorem applyPresenceDelta_view (delta : PresenceDeltaFrame) :
    (applyPresenceDelta state delta).view =
      receive rules state.view (.participantPresenceDelta delta) nowMs := by
  have shown (participants : Table Participant) :
      HashMap.get? (delta.roleChanges.foldl
        (fun next roleChange =>
          replace next roleChange.participantId ({ · with role := roleChange.role }))
        (delta.left.foldl HashMap.remove (delta.joined.foldl
          (fun next participant => next.put participant.id participant) participants))) =
        present rules participants.get? delta :=
    present_view rules (fun _ _ => get?_put ..) (fun _ _ => replace_view ..) participants delta
  unfold applyPresenceDelta receive
  by_cases stale : delta.sequence ≤ state.presenceSequence
  · simp [stale]
  · simp [stale, ProtocolSessionState.view, shown]

theorem revoke_view (revoke : RoleRevokeFrame) :
    HashMap.get? (match state.participants.get? revoke.targetParticipantId with
      | some participant =>
          if participant.role = revoke.role then
            state.participants.put revoke.targetParticipantId
              { participant with role := .participant }
          else state.participants
      | none => state.participants) = revoked rules state.participants.get? revoke := by
  unfold revoked revise
  cases found : state.participants.get? revoke.targetParticipantId with
  | none => simp [rules, found]
  | some participant =>
      by_cases same : participant.role = revoke.role <;>
        simp [rules, found, same, withRole, get?_put]

theorem applyModeration_view (moderation : ModerationSignedFrame) :
    (applyModeration state moderation nowMs).view =
      receive rules state.view (.moderationSigned moderation) nowMs := by
  refine checked_view state nowMs moderation.guard ?_
  unfold revise
  cases found : state.participants.get? moderation.targetParticipantId with
  | none =>
      simp only [rules, ProtocolSessionState.view_participants, found]
      rfl
  | some participant =>
      cases moderation.action <;>
        simp [rules, found, moderated, ProtocolSessionState.view, get?_put, get?_remove]

theorem applyPermissionSnapshot_view (name : String) (effectivePermissions : List String)
    (epoch : Int) :
    (applyPermissionSnapshot state name effectivePermissions epoch).view =
      receive rules state.view (.permissionsSnapshot name effectivePermissions epoch) nowMs := by
  unfold applyPermissionSnapshot receive setSnapshot
  cases found : state.permissionSnapshots.get? name with
  | none => simp [found, rules, ProtocolSessionState.view, get?_put]
  | some prior =>
      by_cases newer : prior.epoch < epoch
      · simp [found, rules, ProtocolSessionState.view, get?_put, newer, Int.not_le.mpr newer]
      · simp [found, rules, newer, Int.not_lt.mp newer]

theorem applySessionPolicy_view (policy : SessionPolicyFrame) :
    (applySessionPolicy state policy nowMs).view =
      receive rules state.view (.sessionPolicy policy) nowMs := by
  refine checked_view state nowMs policy.guard ?_
  by_cases stale : policy.policyEpoch < state.policyEpoch
  · simp [stale]
  · simp only [stale, ↓reduceIte, enforceE2eeEpoch_view]
    simp [stale, setPolicy, ProtocolSessionState.view]

theorem applyE2eeEpoch_view (epoch : E2eeKeyEpochFrame) :
    (applyE2eeEpoch state epoch nowMs).view =
      receive rules state.view (.e2eeKeyEpoch epoch) nowMs := by
  simp only [applyE2eeEpoch, receive, hasRequiredSignature_view]
  cases signed rules state.view epoch.signature with
  | false => exact policyReject_view state nowMs _ _
  | true => exact enforceE2eeEpoch_view _ nowMs

theorem reduceFrame_view (frame : ProtocolFrame) :
    (reduceFrame state frame nowMs).view = receive rules state.view frame nowMs := by
  cases frame with
  | handshakeAck _ resumeToken _ => rfl
  | participantPresenceDelta delta => exact applyPresenceDelta_view state nowMs delta
  | roleGrant grant =>
      refine checked_view state nowMs grant.guard ?_
      simp only [ProtocolSessionState.view, replace_view]
      rfl
  | roleRevoke revoke =>
      refine checked_view state nowMs revoke.guard ?_
      simp only [ProtocolSessionState.view, revoke_view]
  | permissionsSnapshot participantId effectivePermissions epoch =>
      exact applyPermissionSnapshot_view state nowMs participantId effectivePermissions epoch
  | moderationSigned moderation => exact applyModeration_view state nowMs moderation
  | sessionPolicy policy => exact applySessionPolicy_view state nowMs policy
  | mediaProfileNegotiation media => rfl
  | recordingNotice recording _ => rfl
  | e2eeKeyEpoch epoch => exact applyE2eeEpoch_view state nowMs epoch
  | keyRotationAck ackEpoch _ _ => rfl
  | paymentPolicy required destinationAccount => exact enforcePaymentPolicy_view _ nowMs
  | paymentSettlement status => exact enforcePaymentPolicy_view _ nowMs
  | error category code message => rfl
  | handshake _ | deviceCapability _ | ping _ | pong _ => rfl

theorem transportFailed_view (code message : String) :
    (transportFailed state code message nowMs).view = fail state.view code message nowMs := by
  unfold transportFailed fail
  cases active : state.fallback.active <;> simp [ProtocolSessionState.view, active]

theorem reduce_view (event : ProtocolEvent) :
    (reduce state event nowMs).view = step rules state.view event nowMs := by
  cases event with
  | transportDisconnected reason =>
      exact congrArg ({ · with handshakeComplete := false })
        (transportFailed_view state nowMs _ reason)
  | transportFailure message =>
      exact congrArg ({ · with handshakeComplete := false })
        (transportFailed_view state nowMs _ message)
  | frameSendFailed message => exact transportFailed_view state nowMs _ message
  | fallbackRecovered =>
      simp [reduce, step, rules, ProtocolSessionState.view, Int.max_comm 0]
  | configUpdated config => exact enforcePaymentPolicy_view _ nowMs
  | frameReceived frame => exact reduceFrame_view state nowMs frame
  | connectRequested | transportConnected | manualDisconnected | fallbackActivated => rfl

theorem run_view (config : MeetingConfig) (calls : List Call) :
    (run config calls).view = follow rules (ProtocolSessionState.initial config).view calls :=
  (List.foldl_hom ProtocolSessionState.view fun state call =>
    (reduce_view state call.nowMs call.event).symm).symm

end Kaigi.Session.Windows
