import Kaigi.Session.Machine

/-!
# The reducer of the Linux client
-/

set_option autoImplicit false

namespace Kaigi.Session.Linux

open Collections

def hasRequiredSignature (signature : Option String) (state : ClientState) : Bool :=
  if !state.config.requireSignedModeration then true
  else signature.any fun value => !Hub.isBlank value

def actorIsAuthorized (issuer : String) (state : ClientState) : Bool :=
  if issuer = "system" then true
  else (state.participants.get? issuer).any fun participant =>
    participant.role = .host || participant.role = .coHost

def policyReject (state : ClientState) (nowMs : Int) (code message : String) : ClientState :=
  let fallbackRequested := state.config.preferWebFallbackOnPolicyFailure
  let fallbackActive := fallbackRequested || state.fallback.active
  { state with
    connectionPhase := if fallbackActive then .fallbackActive else .error
    fallback :=
      if fallbackActive then
        { state.fallback with
          active := true
          reason := some (state.fallback.reason.getD ("policy:" ++ code))
          activatedAtMs := some (state.fallback.activatedAtMs.getD nowMs) }
      else state.fallback
    lastError := some { category := .policyFailure, code, message, atMs := nowMs } }

def clearErrorIfMatching (state : ClientState) (predicate : Option SessionError → Bool) :
    ClientState :=
  if !predicate state.lastError then state
  else
    { state with
      connectionPhase :=
        if state.fallback.active then .fallbackActive
        else if state.handshakeComplete then .connected
        else .connecting
      lastError := none }

def isPaymentPolicyError (error : Option SessionError) : Bool :=
  error.any fun value =>
    value.category = .policyFailure &&
      (startsWith value.code "payment_settlement_" || value.code = "payment_unsettled")

def enforcePaymentSettlementPolicy (state : ClientState) (nowMs : Int) : ClientState :=
  if !state.config.requirePaymentSettlement || !state.paymentState.required then
    clearErrorIfMatching state isPaymentPolicyError
  else if state.paymentState.settlementStatus = .settled ||
      state.paymentState.settlementStatus = .notRequired then
    clearErrorIfMatching state isPaymentPolicyError
  else if state.paymentState.settlementStatus = .blocked then
    policyReject state nowMs "payment_settlement_blocked" "Payment settlement blocked by policy"
  else
    policyReject state nowMs "payment_settlement_required"
      "Payment settlement required before media/session actions can continue"

def isE2eePolicyError (error : Option SessionError) : Bool :=
  error.any fun value => value.category = .policyFailure && startsWith value.code "e2ee_"

def enforceE2eeEpochPolicy (state : ClientState) (nowMs : Int) : ClientState :=
  if !state.e2eeRequired then clearErrorIfMatching state isE2eePolicyError
  else if 0 < state.e2eeState.currentEpoch then clearErrorIfMatching state isE2eePolicyError
  else
    policyReject state nowMs "e2ee_epoch_required" "E2EE key epoch is required by session policy"

def insertParticipant (participants : Table Participant) (participant : Participant) :
    Table Participant :=
  participants.put participant.id participant

def changeParticipantRole (participants : Table Participant) (change : RoleChange) :
    Table Participant :=
  participants.modify change.participantId fun participant =>
    { participant with role := change.role }

def applyPresenceDelta (state : ClientState) (frame : PresenceDeltaFrame) : ClientState :=
  if frame.sequence ≤ state.presenceSequence then state
  else
    let joined := frame.joined.foldl insertParticipant state.participants
    let stayed := frame.left.foldl HashMap.remove joined
    { state with
      participants := frame.roleChanges.foldl changeParticipantRole stayed
      presenceSequence := frame.sequence }

def applyRoleGrant (state : ClientState) (frame : RoleGrantFrame) (nowMs : Int) : ClientState :=
  if !hasRequiredSignature frame.signature state then
    policyReject state nowMs "role_grant_signature_missing" "RoleGrant signature is required"
  else if !actorIsAuthorized frame.grantedBy state then
    policyReject state nowMs "role_grant_not_authorized" "RoleGrant issuer is not host/co-host"
  else
    { state with
      participants := state.participants.modify frame.targetParticipantId fun participant =>
        { participant with role := frame.role } }

def applyRoleRevoke (state : ClientState) (frame : RoleRevokeFrame) (nowMs : Int) :
    ClientState :=
  if !hasRequiredSignature frame.signature state then
    policyReject state nowMs "role_revoke_signature_missing" "RoleRevoke signature is required"
  else if !actorIsAuthorized frame.revokedBy state then
    policyReject state nowMs "role_revoke_not_authorized" "RoleRevoke issuer is not host/co-host"
  else
    { state with
      participants := state.participants.modify frame.targetParticipantId fun participant =>
        if participant.role = frame.role then { participant with role := .participant }
        else participant }

def applyPermissionsSnapshot (state : ClientState) (participantId : String)
    (effectivePermissions : List String) (epoch : Int) : ClientState :=
  let shouldApply := (state.permissionSnapshots.get? participantId).all fun snapshot =>
    snapshot.epoch < epoch
  if shouldApply then
    { state with
      permissionSnapshots :=
        state.permissionSnapshots.put participantId { effectivePermissions, epoch } }
  else state

def applyModeration (state : ClientState) (frame : ModerationSignedFrame) (nowMs : Int) :
    ClientState :=
  if !hasRequiredSignature frame.signature state then
    policyReject state nowMs "moderation_signature_missing" "Moderation signature is required"
  else if !actorIsAuthorized frame.issuedBy state then
    policyReject state nowMs "moderation_not_authorized" "Moderation issuer is not host/co-host"
  else
    let participants := state.participants
    let target := frame.targetParticipantId
    { state with
      participants :=
        match frame.action with
        | .mute => participants.modify target ({ · with muted := true })
        | .videoOff => participants.modify target ({ · with videoEnabled := false })
        | .stopShare => participants.modify target ({ · with shareEnabled := false })
        | .kick | .denyFromWaiting => participants.remove target
        | .admitFromWaiting => participants.modify target ({ · with waitingRoom := false }) }

def applySessionPolicy (state : ClientState) (frame : SessionPolicyFrame) (nowMs : Int) :
    ClientState :=
  if !hasRequiredSignature frame.signature state then
    policyReject state nowMs "session_policy_signature_missing"
      "SessionPolicy signature is required"
  else if !actorIsAuthorized frame.updatedBy state then
    policyReject state nowMs "session_policy_not_authorized"
      "SessionPolicy issuer is not host/co-host"
  else if frame.policyEpoch < state.policyEpoch then state
  else
    enforceE2eeEpochPolicy
      { state with
        roomLocked := frame.roomLock
        waitingRoomEnabled := frame.waitingRoomEnabled
        recordingNotice := frame.recordingPolicy
        guestPolicy := frame.guestPolicy
        e2eeRequired := frame.e2eeRequired
        maxParticipants := frame.maxParticipants
        policyEpoch := frame.policyEpoch } nowMs

def applyMediaProfile (state : ClientState) (profile : MediaProfileState) : ClientState :=
  { state with
    mediaProfile := profile
    connectionPhase :=
      if profile.preferredProfile = .hdr && profile.negotiatedProfile = .sdr then .degraded
      else if state.handshakeComplete && !state.fallback.active then .connected
      else state.connectionPhase }

def applyE2eeKeyEpoch (state : ClientState) (frame : E2eeKeyEpochFrame) (nowMs : Int) :
    ClientState :=
  if !hasRequiredSignature frame.signature state then
    policyReject state nowMs "e2ee_signature_missing" "E2EE key epoch signature is required"
  else
    enforceE2eeEpochPolicy
      { state with
        e2eeState :=
          { state.e2eeState with
            currentEpoch := max state.e2eeState.currentEpoch frame.epoch } } nowMs

/-- The branches of `reduce_frame`; those of more than one statement are the definitions
above. -/
def reduceFrame (state : ClientState) (frame : ProtocolFrame) (nowMs : Int) : ClientState :=
  match frame with
  | .handshakeAck _ resumeToken _ =>
      { state with
        handshakeComplete := true
        resumeToken := some resumeToken
        connectionPhase := if state.fallback.active then .fallbackActive else .connected
        lastError := none }
  | .participantPresenceDelta frame => applyPresenceDelta state frame
  | .roleGrant frame => applyRoleGrant state frame nowMs
  | .roleRevoke frame => applyRoleRevoke state frame nowMs
  | .permissionsSnapshot participantId effectivePermissions epoch =>
      applyPermissionsSnapshot state participantId effectivePermissions epoch
  | .moderationSigned frame => applyModeration state frame nowMs
  | .sessionPolicy frame => applySessionPolicy state frame nowMs
  | .mediaProfileNegotiation profile => applyMediaProfile state profile
  | .recordingNotice recording _ => { state with recordingNotice := recording }
  | .e2eeKeyEpoch frame => applyE2eeKeyEpoch state frame nowMs
  | .keyRotationAck ackEpoch _ _ =>
      { state with
        e2eeState :=
          { state.e2eeState with lastAckEpoch := max state.e2eeState.lastAckEpoch ackEpoch } }
  | .paymentPolicy required destinationAccount =>
      enforcePaymentSettlementPolicy
        { state with
          paymentState :=
            { required
              destination := destinationAccount
              settlementStatus := if required then .pending else .notRequired } } nowMs
  | .paymentSettlement status =>
      enforcePaymentSettlementPolicy
        { state with paymentState := { state.paymentState with settlementStatus := status } }
        nowMs
  | .error category code message =>
      { state with
        connectionPhase :=
          if state.fallback.active then .fallbackActive
          else if category = .policyFailure then .error
          else .degraded
        lastError := some { category, code, message, atMs := nowMs } }
  | .handshake _ | .deviceCapability _ | .ping _ | .pong _ => state

/-- The branches of a transport event that the fallback hides. -/
def transportFailed (state : ClientState) (code message : String) (nowMs : Int) : ClientState :=
  if state.fallback.active then
    { state with connectionPhase := .fallbackActive, handshakeComplete := false }
  else
    { state with
      connectionPhase := .degraded
      handshakeComplete := false
      lastError := some { category := .transportFailure, code, message, atMs := nowMs } }

def reduce (state : ClientState) (event : ProtocolEvent) (nowMs : Int) : ClientState :=
  match event with
  | .connectRequested =>
      { state with
        connectionPhase := .connecting, handshakeComplete := false, lastError := none }
  | .transportConnected => { state with connectionPhase := .connecting, lastError := none }
  | .transportDisconnected reason => transportFailed state "transport_disconnected" reason nowMs
  | .transportFailure message => transportFailed state "transport_failure" message nowMs
  | .frameSendFailed message =>
      if state.fallback.active then { state with connectionPhase := .fallbackActive }
      else
        { state with
          connectionPhase := .degraded
          lastError := some
            { category := .transportFailure, code := "send_failed", message, atMs := nowMs } }
  | .manualDisconnected =>
      { state with
        connectionPhase := .disconnected, handshakeComplete := false, lastError := none }
  | .fallbackActivated reason =>
      { state with
        connectionPhase := .fallbackActive
        fallback :=
          { state.fallback with
            active := true, reason := some reason, activatedAtMs := some nowMs }
        lastError := some
          { category := .transportFailure, code := "fallback_activated", message := reason
            atMs := nowMs } }
  | .fallbackRecovered =>
      let rto := state.fallback.activatedAtMs.map fun activated => max (nowMs - activated) 0
      { state with
        connectionPhase := .disconnected
        fallback :=
          { state.fallback with
            active := false, reason := none, recoveredAtMs := some nowMs, lastRtoMs := rto } }
  | .configUpdated config => enforcePaymentSettlementPolicy { state with config } nowMs
  | .frameReceived frame => reduceFrame state frame nowMs

def run (config : MeetingConfig) (calls : List Call) : ClientState :=
  calls.foldl (fun state call => reduce state call.event call.nowMs) (.initial config)

/-! ## The reducer as a session machine -/

def rules : Rules where
  signs := fun signature => signature.any fun value => !Hub.isBlank value
  participant := fun participants name => participants name
  snapshot := fun snapshots name => snapshots name
  fallback := fun config fallback code nowMs =>
    if config.preferWebFallbackOnPolicyFailure || fallback.active then
      { fallback with
        active := true
        reason := some (fallback.reason.getD ("policy:" ++ code))
        activatedAtMs := some (fallback.activatedAtMs.getD nowMs) }
    else fallback
  rto := fun activatedAtMs nowMs => activatedAtMs.map fun activated => max (nowMs - activated) 0
  paymentError := fun error => isPaymentPolicyError (some error)
  epochError := fun error => isE2eePolicyError (some error)
  resumed := fun state =>
    if state.fallback.active then .fallbackActive
    else if state.handshakeComplete then .connected
    else .connecting
  blockedMessage := "Payment settlement blocked by policy"
  requiredMessage := "Payment settlement required before media/session actions can continue"
  epochMessage := "E2EE key epoch is required by session policy"

variable (state : ClientState) (nowMs : Int)

theorem hasRequiredSignature_view (signature : Option String) :
    hasRequiredSignature signature state = signed rules state.view signature := by
  unfold hasRequiredSignature signed
  cases required : state.config.requireSignedModeration <;>
    simp [rules, ProtocolSessionState.view, required]

theorem actorIsAuthorized_view (issuer : String) :
    actorIsAuthorized issuer state = authorized rules state.view issuer := by
  unfold actorIsAuthorized authorized
  by_cases system : issuer = "system" <;> simp [system, rules, ProtocolSessionState.view]

theorem policyReject_view (code message : String) :
    (policyReject state nowMs code message).view = reject rules state.view nowMs code message := by
  unfold policyReject reject
  cases requested : state.config.preferWebFallbackOnPolicyFailure <;>
    cases active : state.fallback.active <;>
    simp [rules, ProtocolSessionState.view, requested, active]

theorem clearErrorIfMatching_view {predicate : Option SessionError → Bool}
    (absent : predicate none = false) :
    (clearErrorIfMatching state predicate).view =
      relieve rules (fun error => predicate (some error)) state.view := by
  unfold clearErrorIfMatching relieve
  cases last : state.lastError with
  | none => simp [ProtocolSessionState.view, last, absent]
  | some error =>
      cases matched : predicate (some error) <;>
        simp [ProtocolSessionState.view, rules, last, matched]

theorem enforcePaymentSettlementPolicy_view :
    (enforcePaymentSettlementPolicy state nowMs).view = checkPayment rules state.view nowMs := by
  have cleared : (clearErrorIfMatching state isPaymentPolicyError).view =
      relieve rules rules.paymentError state.view := clearErrorIfMatching_view state rfl
  unfold enforcePaymentSettlementPolicy checkPayment
  cases enforced : state.config.requirePaymentSettlement with
  | false => simpa [paymentDue, enforced] using cleared
  | true =>
      cases required : state.paymentState.required with
      | false => simpa [paymentDue, enforced, required] using cleared
      | true =>
          cases status : state.paymentState.settlementStatus with
          | notRequired => simpa [paymentDue, enforced, required, status] using cleared
          | settled => simpa [paymentDue, enforced, required, status] using cleared
          | pending => simp [paymentDue, enforced, required, status, policyReject_view, rules]
          | blocked => simp [paymentDue, enforced, required, status, policyReject_view, rules]

theorem enforceE2eeEpochPolicy_view :
    (enforceE2eeEpochPolicy state nowMs).view = checkEpoch rules state.view nowMs := by
  have cleared : (clearErrorIfMatching state isE2eePolicyError).view =
      relieve rules rules.epochError state.view := clearErrorIfMatching_view state rfl
  unfold enforceE2eeEpochPolicy checkEpoch
  cases required : state.e2eeRequired with
  | false => simpa [epochDue, required] using cleared
  | true =>
      by_cases known : 0 < state.e2eeState.currentEpoch
      · simpa [epochDue, required, known, Int.not_le.mpr known] using cleared
      · simp [epochDue, required, known, Int.not_lt.mp known, policyReject_view, rules]

theorem checked_view (guard : Guard) {accepted : ClientState} {target : SessionView}
    (same : accepted.view = target) :
    (if !hasRequiredSignature guard.signature state then
        policyReject state nowMs (guard.name ++ "_signature_missing")
          (guard.title ++ " signature is required")
      else if !actorIsAuthorized guard.issuer state then
        policyReject state nowMs (guard.name ++ "_not_authorized")
          (guard.title ++ " issuer is not host/co-host")
      else accepted).view = guarded rules state.view nowMs guard target :=
  guarded_view rules guard (hasRequiredSignature_view state _) (actorIsAuthorized_view state _)
    (policyReject_view ..) (policyReject_view ..) same

theorem modify_view (participants : Table Participant) (name : String)
    (change : Participant → Participant) :
    (participants.modify name change).get? =
      revise rules participants.get? name fun participant => some (change participant) := by
  rw [get?_modify, revise]
  cases found : participants.get? name with
  | none => simpa [rules, found] using assign_none found
  | some participant => simp [rules, found]

theorem applyPresenceDelta_view (frame : PresenceDeltaFrame) :
    (applyPresenceDelta state frame).view =
      receive rules state.view (.participantPresenceDelta frame) nowMs := by
  have shown (participants : Table Participant) :
      HashMap.get? (frame.roleChanges.foldl changeParticipantRole
        (frame.left.foldl HashMap.remove (frame.joined.foldl insertParticipant participants))) =
        present rules participants.get? frame :=
    present_view rules (fun _ _ => get?_put ..) (fun _ _ => modify_view ..) participants frame
  unfold applyPresenceDelta receive
  by_cases stale : frame.sequence ≤ state.presenceSequence
  · simp [stale]
  · simp [stale, ProtocolSessionState.view, shown]

theorem revoke_view (frame : RoleRevokeFrame) :
    (state.participants.modify frame.targetParticipantId fun participant =>
        if participant.role = frame.role then { participant with role := .participant }
        else participant).get? = revoked rules state.participants.get? frame := by
  rw [modify_view, revoked, revise]
  cases found : state.participants.get? frame.targetParticipantId with
  | none => simp [rules, found]
  | some participant =>
      by_cases same : participant.role = frame.role
      · simp [rules, found, same, revise, withRole]
      · simpa [rules, found, same] using
          found ▸ assign_self state.participants.get? frame.targetParticipantId

theorem moderate_view (frame : ModerationSignedFrame) :
    HashMap.get? (match frame.action with
      | .mute =>
          state.participants.modify frame.targetParticipantId ({ · with muted := true })
      | .videoOff =>
          state.participants.modify frame.targetParticipantId ({ · with videoEnabled := false })
      | .stopShare =>
          state.participants.modify frame.targetParticipantId ({ · with shareEnabled := false })
      | .kick | .denyFromWaiting => state.participants.remove frame.targetParticipantId
      | .admitFromWaiting =>
          state.participants.modify frame.targetParticipantId ({ · with waitingRoom := false })) =
      revise rules state.participants.get? frame.targetParticipantId (moderated frame.action) := by
  cases frame.action with
  | mute | videoOff | stopShare | admitFromWaiting => exact modify_view _ _ _
  | kick | denyFromWaiting =>
      simp only [get?_remove, revise]
      cases found : state.participants.get? frame.targetParticipantId with
      | none => simpa [rules, found] using assign_none found
      | some participant => simp [rules, found, moderated]

theorem applyPermissionsSnapshot_view (name : String) (effectivePermissions : List String)
    (epoch : Int) :
    (applyPermissionsSnapshot state name effectivePermissions epoch).view =
      receive rules state.view (.permissionsSnapshot name effectivePermissions epoch) nowMs := by
  unfold applyPermissionsSnapshot receive setSnapshot
  cases newer : (state.permissionSnapshots.get? name).all fun snapshot => snapshot.epoch < epoch <;>
    simp [newer, rules, ProtocolSessionState.view, get?_put]

theorem applySessionPolicy_view (frame : SessionPolicyFrame) :
    (applySessionPolicy state frame nowMs).view =
      receive rules state.view (.sessionPolicy frame) nowMs := by
  refine checked_view state nowMs frame.guard ?_
  by_cases stale : frame.policyEpoch < state.policyEpoch
  · simp [stale]
  · simp only [stale, ↓reduceIte, enforceE2eeEpochPolicy_view]
    simp [stale, setPolicy, ProtocolSessionState.view]

theorem applyE2eeKeyEpoch_view (frame : E2eeKeyEpochFrame) :
    (applyE2eeKeyEpoch state frame nowMs).view =
      receive rules state.view (.e2eeKeyEpoch frame) nowMs := by
  simp only [applyE2eeKeyEpoch, receive, hasRequiredSignature_view]
  cases signed rules state.view frame.signature with
  | false => exact policyReject_view state nowMs _ _
  | true => exact enforceE2eeEpochPolicy_view _ nowMs

theorem reduceFrame_view (frame : ProtocolFrame) :
    (reduceFrame state frame nowMs).view = receive rules state.view frame nowMs := by
  cases frame with
  | handshakeAck _ resumeToken _ => rfl
  | participantPresenceDelta frame => exact applyPresenceDelta_view state nowMs frame
  | roleGrant frame =>
      refine checked_view state nowMs frame.guard ?_
      simp only [ProtocolSessionState.view, modify_view]
      rfl
  | roleRevoke frame =>
      refine checked_view state nowMs frame.guard ?_
      simp only [ProtocolSessionState.view, revoke_view]
  | permissionsSnapshot participantId effectivePermissions epoch =>
      exact applyPermissionsSnapshot_view state nowMs participantId effectivePermissions epoch
  | moderationSigned frame =>
      refine checked_view state nowMs frame.guard ?_
      simp only [ProtocolSessionState.view, moderate_view]
  | sessionPolicy frame => exact applySessionPolicy_view state nowMs frame
  | mediaProfileNegotiation profile => rfl
  | recordingNotice recording _ => rfl
  | e2eeKeyEpoch frame => exact applyE2eeKeyEpoch_view state nowMs frame
  | keyRotationAck ackEpoch _ _ => rfl
  | paymentPolicy required destinationAccount => exact enforcePaymentSettlementPolicy_view _ nowMs
  | paymentSettlement status => exact enforcePaymentSettlementPolicy_view _ nowMs
  | error category code message => rfl
  | handshake _ | deviceCapability _ | ping _ | pong _ => rfl

theorem transportFailed_view (code message : String) :
    (transportFailed state code message nowMs).view =
      { fail state.view code message nowMs with handshakeComplete := false } := by
  unfold transportFailed fail
  cases active : state.fallback.active <;> simp [ProtocolSessionState.view, active]

theorem reduce_view (event : ProtocolEvent) :
    (reduce state event nowMs).view = step rules state.view event nowMs := by
  cases event with
  | transportDisconnected reason => exact transportFailed_view state nowMs _ reason
  | transportFailure message => exact transportFailed_view state nowMs _ message
  | frameSendFailed message =>
      unfold reduce step fail
      cases active : state.fallback.active <;> simp [ProtocolSessionState.view, active]
  | configUpdated config => exact enforcePaymentSettlementPolicy_view _ nowMs
  | frameReceived frame => exact reduceFrame_view state nowMs frame
  | connectRequested | transportConnected | manualDisconnected | fallbackActivated
  | fallbackRecovered => rfl

/-- A run of the client is a run of the machine. -/
theorem run_view (config : MeetingConfig) (calls : List Call) :
    (run config calls).view = follow rules (ProtocolSessionState.initial config).view calls :=
  (List.foldl_hom ProtocolSessionState.view fun state call =>
    (reduce_view state call.nowMs call.event).symm).symm

end Kaigi.Session.Linux
