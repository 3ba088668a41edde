import Kaigi.Session.Machine

/-!
# The reducer of the Android client

A rejection by policy does not turn the fallback on, and the errors of the payment and
epoch policies are lifted by their exact codes, in a phase of its own choice.
-/

set_option autoImplicit false

namespace Kaigi.Session.Android

open Collections

/-- `Char.isWhitespace`: the separators of Unicode and the controls that Java counts as
whitespace. -/
def isWhitespace (character : Char) : Bool :=
  let code := character.toNat
  (0x9 ≤ code && code ≤ 0xD) || (0x1C ≤ code && code ≤ 0x20) || code == 0xA0 ||
    code == 0x1680 || (0x2000 ≤ code && code ≤ 0x200A) || code == 0x2028 || code == 0x2029 ||
    code == 0x202F || code == 0x205F || code == 0x3000

def isNotBlank (text : String) : Bool :=
  !text.toList.all isWhitespace

def actorIsAuthorized (actorId : String) (state : ClientState) : Bool :=
  if actorId = "system" then true
  else
    match state.participants.get? actorId with
    | none => false
    | some actor => actor.role = .host || actor.role = .coHost

/-- A frame without a signature holds the empty text. -/
def hasRequiredSignature (signature : Option String) (state : ClientState) : Bool :=
  if !state.config.requireSignedModeration then true
  else isNotBlank (signature.getD "")

def policyReject (state : ClientState) (nowMs : Int) (code message : String) : ClientState :=
  { state with
    connectionPhase := if state.fallback.active then .fallbackActive else .error
    lastError := some { category := .policyFailure, code, message, atMs := nowMs } }

/-- The phase after an error is cleared. -/
def clearedPhase (state : ClientState) : ConnectionPhase :=
  if state.fallback.active then .fallbackActive
  else if state.connectionPhase = .error && state.handshakeComplete then .connected
  else state.connectionPhase

def clearPaymentPolicyErrorIfNeeded (state : ClientState) : ClientState :=
  match state.lastError with
  | none => state
  | some error =>
      if error.category ≠ .policyFailure then state
      else if error.code ≠ "payment_settlement_required" &&
          error.code ≠ "payment_settlement_blocked" then state
      else { state with connectionPhase := clearedPhase state, lastError := none }

def enforcePaymentSettlementPolicy (state : ClientState) (nowMs : Int) : ClientState :=
  if !state.config.requirePaymentSettlement || !state.paymentState.required then
    clearPaymentPolicyErrorIfNeeded state
  else
    match state.paymentState.settlementStatus with
    | .settled | .notRequired => clearPaymentPolicyErrorIfNeeded state
    | .blocked =>
        policyReject state nowMs "payment_settlement_blocked"
          "Payment settlement is blocked by policy"
    | .pending =>
        policyReject state nowMs "payment_settlement_required"
          "Payment settlement is required before continuing"

def clearE2eeEpochPolicyErrorIfNeeded (state : ClientState) : ClientState :=
  match state.lastError with
  | none => state
  | some error =>
      if error.category ≠ .policyFailure || error.code ≠ "e2ee_epoch_required" then state
      else { state with connectionPhase := clearedPhase state, lastError := none }

def enforceE2eeEpochPolicy (state : ClientState) (nowMs : Int) : ClientState :=
  if !state.e2eeRequired || 1 ≤ state.e2eeState.currentEpoch then
    clearE2eeEpochPolicyErrorIfNeeded state
  else
    policyReject state nowMs "e2ee_epoch_required" "E2EE key epoch is required before continuing"

/-- `participants + (name to participant)`. -/
def withParticipant (state : ClientState) (name : String) (participant : Participant) :
    ClientState :=
  { state with participants := state.participants.put name participant }

def changeParticipantRole (participants : Table Participant) (change : RoleChange) :
    Table Participant :=
  match participants.get? change.participantId with
  | some participant =>
      participants.put change.participantId { participant with role := change.role }
  | none => participants

def participantPresenceDelta (state : ClientState) (frame : PresenceDeltaFrame) : ClientState :=
  if frame.sequence ≤ state.presenceSequence then state
  else
    let joined := frame.joined.foldl
      (fun participants participant => participants.put participant.id participant)
      state.participants
    let stayed := frame.left.foldl HashMap.remove joined
    { state with
      participants := frame.roleChanges.foldl changeParticipantRole stayed
      presenceSequence := frame.sequence }

def roleGrant (state : ClientState) (frame : RoleGrantFrame) (nowMs : Int) : ClientState :=
  if !hasRequiredSignature frame.signature state then
    policyReject state nowMs "role_grant_signature_missing" "RoleGrant signature is required"
  else if !actorIsAuthorized frame.grantedBy state then
    policyReject state nowMs "role_grant_not_authorized" "RoleGrant issuer is not host/co-host"
  else
    match state.participants.get? frame.targetParticipantId with
    | none => state
    | some participant =>
        withParticipant state frame.targetParticipantId { participant with role := frame.role }

def roleRevoke (state : ClientState) (frame : RoleRevokeFrame) (nowMs : Int) : ClientState :=
  if !hasRequiredSignature frame.signature state then
    policyReject state nowMs "role_revoke_signature_missing" "RoleRevoke signature is required"
  else if !actorIsAuthorized frame.revokedBy state then
    policyReject state nowMs "role_revoke_not_authorized" "RoleRevoke issuer is not host/co-host"
  else
    match state.participants.get? frame.targetParticipantId with
    | none => state
    | some participant =>
        if participant.role ≠ frame.role then state
        else
          withParticipant state frame.targetParticipantId
            { participant with role := .participant }

def permissionsSnapshot (state : ClientState) (participantId : String)
    (effectivePermissions : List String) (epoch : Int) : ClientState :=
  if (state.permissionSnapshots.get? participantId).any fun prior =>
      epoch ≤ prior.epoch then state
  else
    { state with
      permissionSnapshots :=
        state.permissionSnapshots.put participantId { effectivePermissions, epoch } }

def moderationSigned (state : ClientState) (frame : ModerationSignedFrame) (nowMs : Int) :
    ClientState :=
  if !hasRequiredSignature frame.signature state then
    policyReject state nowMs "moderation_signature_missing" "Moderation signature is required"
  else if !actorIsAuthorized frame.issuedBy state then
    policyReject state nowMs "moderation_not_authorized" "Moderation issuer is not host/co-host"
  else
    let target := frame.targetParticipantId
    match state.participants.get? target with
    | none => state
    | some participant =>
        match frame.action with
        | .mute => withParticipant state target { participant with muted := true }
        | .videoOff => withParticipant state target { participant with videoEnabled := false }
        | .stopShare => withParticipant state target { participant with shareEnabled := false }
        | .admitFromWaiting =>
            withParticipant state target { participant with waitingRoom := false }
        | .kick | .denyFromWaiting =>
            { state with participants := state.participants.remove target }

def sessionPolicy (state : ClientState) (frame : SessionPolicyFrame) (nowMs : Int) :
    ClientState :=
  if !hasRequiredSignature frame.signature state then
    policyReject state nowMs "session_policy_signature_missing"
      "SessionPolicy signature is required"
  else if !actorIsAuthorized frame.updatedBy state then
    policyReject state nowMs "session_policy_not_authorized"
      "SessionPolicy issuer is not host/co-host"
  else if frame.policyEpoch < state.policyEpoch then state
  else
    enforceE2eeEpochPolicy
      { state with
        roomLocked := frame.roomLock
        waitingRoomEnabled := frame.waitingRoomEnabled
        guestPolicy := frame.guestPolicy
        e2eeRequired := frame.e2eeRequired
        maxParticipants := frame.maxParticipants
        policyEpoch := frame.policyEpoch
        recordingNotice := frame.recordingPolicy } nowMs

def e2eeKeyEpoch (state : ClientState) (frame : E2eeKeyEpochFrame) (nowMs : Int) : ClientState :=
  if !hasRequiredSignature frame.signature state then
    policyReject state nowMs "e2ee_signature_missing" "E2EE key epoch signature is required"
  else
    enforceE2eeEpochPolicy
      { state with
        e2eeState :=
          { state.e2eeState with
            currentEpoch := max state.e2eeState.currentEpoch frame.epoch } } nowMs

/-- The branches of `reduceFrame`; the longer ones are the definitions above. -/
def reduceFrame (state : ClientState) (frame : ProtocolFrame) (nowMs : Int) : ClientState :=
  match frame with
  | .handshakeAck _ resumeToken _ =>
      { state with
        handshakeComplete := true
        resumeToken := some resumeToken
        connectionPhase := if state.fallback.active then .fallbackActive else .connected
        lastError := none }
  | .participantPresenceDelta frame => participantPresenceDelta state frame
  | .roleGrant frame => roleGrant state frame nowMs
  | .roleRevoke frame => roleRevoke state frame nowMs
  | .permissionsSnapshot participantId effectivePermissions epoch =>
      permissionsSnapshot state participantId effectivePermissions epoch
  | .moderationSigned frame => moderationSigned state frame nowMs
  | .sessionPolicy frame => sessionPolicy state frame nowMs
  | .mediaProfileNegotiation profile =>
      { state with
        mediaProfile := profile
        connectionPhase :=
          if profile.preferredProfile = .hdr && profile.negotiatedProfile = .sdr then .degraded
          else if state.handshakeComplete && !state.fallback.active then .connected
          else state.connectionPhase }
  | .recordingNotice recording _ => { state with recordingNotice := recording }
  | .e2eeKeyEpoch frame => e2eeKeyEpoch state frame nowMs
  | .keyRotationAck ackEpoch _ _ =>
      { state with
        e2eeState :=
          { state.e2eeState with lastAckEpoch := max state.e2eeState.lastAckEpoch ackEpoch } }
  | .paymentPolicy required destinationAccount =>
      enforcePaymentSettlementPolicy
        { state with
          paymentState :=
            { required
              destination := destinationAccount
              settlementStatus := if required then .pending else .notRequired } } nowMs
  | .paymentSettlement status =>
      enforcePaymentSettlementPolicy
        { state with paymentState := { state.paymentState with settlementStatus := status } }
        nowMs
  | .error category code message =>
      { state with
        connectionPhase :=
          if state.fallback.active then .fallbackActive
          else if category = .policyFailure then .error
          else .degraded
        lastError := some { category, code, message, atMs := nowMs } }
  | .handshake _ | .deviceCapability _ | .ping _ | .pong _ => state

def transportFailed (state : ClientState) (code message : String) (nowMs : Int) : ClientState :=
  if state.fallback.active then
    { state with connectionPhase := .fallbackActive, handshakeComplete := false }
  else
    { state with
      connectionPhase := .degraded
      handshakeComplete := false
      lastError := some { category := .transportFailure, code, message, atMs := nowMs } }

def reduce (state : ClientState) (event : ProtocolEvent) (nowMs : Int) : ClientState :=
  match event with
  | .connectRequested =>
      { state with
        connectionPhase := .connecting, handshakeComplete := false, lastError := none }
  | .transportConnected => { state with connectionPhase := .connecting, lastError := none }
  | .transportDisconnected reason => transportFailed state "transport_disconnected" reason nowMs
  | .transportFailure message => transportFailed state "transport_failure" message nowMs
  | .frameSendFailed message =>
      if state.fallback.active then { state with connectionPhase := .fallbackActive }
      else
        { state with
          connectionPhase := .degraded
          lastError := some
            { category := .transportFailure, code := "send_failed", message, atMs := nowMs } }
  | .manualDisconnected =>
      { state with
        connectionPhase := .disconnected, handshakeComplete := false, lastError := none }
  | .fallbackActivated reason =>
      { state with
        connectionPhase := .fallbackActive
        fallback :=
          { state.fallback with
            active := true, reason := some reason, activatedAtMs := some nowMs }
        lastError := some
          { category := .transportFailure, code := "fallback_activated", message := reason
            atMs := nowMs } }
  | .fallbackRecovered =>
      let rto := state.fallback.activatedAtMs.map fun activated =>
        max (nowMs - activated) 0
      { state with
        connectionPhase := .disconnected
        fallback :=
          { state.fallback with
            active := false, reason := none, recoveredAtMs := some nowMs, lastRtoMs := rto } }
  | .configUpdated config => enforcePaymentSettlementPolicy { state with config } nowMs
  | .frameReceived frame => reduceFrame state frame nowMs

def run (config : MeetingConfig) (calls : List Call) : ClientState :=
  calls.foldl (fun state call => reduce state call.event call.nowMs)
    (.initial config)

/-! ## The reducer as a session machine -/

def rules : Rules where
  signs := fun signature => isNotBlank (signature.getD "")
  participant := fun participants name => participants name
  snapshot := fun snapshots name => snapshots name
  fallback := fun _ fallback _ _ => fallback
  rto := fun activatedAtMs nowMs => activatedAtMs.map fun activated => max (nowMs - activated) 0
  paymentError := fun error =>
    error.category = .policyFailure &&
      (error.code = "payment_settlement_required" || error.code = "payment_settlement_blocked")
  epochError := fun error =>
    error.category = .policyFailure && error.code = "e2ee_epoch_required"
  resumed := fun state =>
    if state.fallback.active then .fallbackActive
    else if state.connectionPhase = .error && state.handshakeComplete then .connected
    else state.connectionPhase
  blockedMessage := "Payment settlement is blocked by policy"
  requiredMessage := "Payment settlement is required before continuing"
  epochMessage := "E2EE key epoch is required before continuing"

variable (state : ClientState) (nowMs : Int)

theorem hasRequiredSignature_view (signature : Option String) :
    hasRequiredSignature signature state = signed rules state.view signature := by
  unfold hasRequiredSignature signed
  cases required : state.config.requireSignedModeration <;> simp [rules, required]

theorem actorIsAuthorized_view (actorId : String) :
    actorIsAuthorized actorId state = authorized rules state.view actorId := by
  unfold actorIsAuthorized authorized
  by_cases system : actorId = "system"
  · simp [system]
  · cases found : state.participants.get? actorId <;> simp [system, rules, found]

theorem policyReject_view (code message : String) :
    (policyReject state nowMs code message).view = reject rules state.view nowMs code message :=
  rfl

theorem clearPaymentPolicyErrorIfNeeded_view :
    (clearPaymentPolicyErrorIfNeeded state).view =
      relieve rules rules.paymentError state.view := by
  unfold clearPaymentPolicyErrorIfNeeded relieve
  cases last : state.lastError with
  | none => simp [last]
  | some error =>
      by_cases policy : error.category = .policyFailure <;>
        by_cases required : error.code = "payment_settlement_required" <;>
        by_cases blocked : error.code = "payment_settlement_blocked" <;>
        simp [last, policy, required, blocked, rules, clearedPhase, ProtocolSessionState.view]

theorem clearE2eeEpochPolicyErrorIfNeeded_view :
    (clearE2eeEpochPolicyErrorIfNeeded state).view =
      relieve rules rules.epochError state.view := by
  unfold clearE2eeEpochPolicyErrorIfNeeded relieve
  cases last : state.lastError with
  | none => simp [last]
  | some error =>
      by_cases policy : error.category = .policyFailure <;>
        by_cases required : error.code = "e2ee_epoch_required" <;>
        simp [last, policy, required, rules, clearedPhase, ProtocolSessionState.view]

theorem enforcePaymentSettlementPolicy_view :
    (enforcePaymentSettlementPolicy state nowMs).view = checkPayment rules state.view nowMs := by
  have cleared := clearPaymentPolicyErrorIfNeeded_view state
  unfold enforcePaymentSettlementPolicy checkPayment
  cases enforced : state.config.requirePaymentSettlement with
  | false => simpa [paymentDue, enforced] using cleared
  | true =>
      cases required : state.paymentState.required with
      | false => simpa [paymentDue, enforced, required] using cleared
      | true =>
          cases status : state.paymentState.settlementStatus with
          | notRequired => simpa [paymentDue, enforced, required, status] using cleared
          | settled => simpa [paymentDue, enforced, required, status] using cleared
          | pending => simp [paymentDue, enforced, required, status, policyReject_view, rules]
          | blocked => simp [paymentDue, enforced, required, status, policyReject_view, rules]

theorem enforceE2eeEpochPolicy_view :
    (enforceE2eeEpochPolicy state nowMs).view = checkEpoch rules state.view nowMs := by
  have cleared := clearE2eeEpochPolicyErrorIfNeeded_view state
  unfold enforceE2eeEpochPolicy checkEpoch
  cases required : state.e2eeRequired with
  | false => simpa [epochDue, required] using cleared
  | true =>
      by_cases known : 1 ≤ state.e2eeState.currentEpoch
      · have due : ¬state.e2eeState.currentEpoch ≤ 0 := by omega
        simpa [epochDue, required, known, due] using cleared
      · have due : state.e2eeState.currentEpoch ≤ 0 := by omega
        simp [epochDue, required, known, due, policyReject_view, rules]

theorem checked_view (guard : Guard) {accepted : ClientState} {target : SessionView}
    (same : accepted.view = target) :
    (if !hasRequiredSignature guard.signature state then
        policyReject state nowMs (guard.name ++ "_signature_missing")
          (guard.title ++ " signature is required")
      else if !actorIsAuthorized guard.issuer state then
        policyReject state nowMs (guard.name ++ "_not_authorized")
          (guard.title ++ " issuer is not host/co-host")
      else accepted).view = guarded rules state.view nowMs guard target :=
  guarded_view rules guard (hasRequiredSignature_view state _) (actorIsAuthorized_view state _)
    (policyReject_view ..) (policyReject_view ..) same

theorem changeParticipantRole_view (participants : Table Participant) (change : RoleChange) :
    (changeParticipantRole participants change).get? =
      changeRole rules participants.get? change := by
  apply found_view
  · intro participant found
    have present : participants.get? change.participantId =
        some participant := found
    simp only [changeParticipantRole, present, withRole]
  · intro absent
    have missing : participants.get? change.participantId = none := absent
    simp only [changeParticipantRole, missing]

theorem participantPresenceDelta_view (frame : PresenceDeltaFrame) :
    (participantPresenceDelta state frame).view =
      receive rules state.view (.participantPresenceDelta frame) nowMs := by
  have shown (participants : Table Participant) :
      HashMap.get? (frame.roleChanges.foldl changeParticipantRole
        (frame.left.foldl HashMap.remove (frame.joined.foldl
          (fun participants participant => participants.put participant.id participant)
          participants))) = present rules participants.get? frame :=
    present_view rules (fun _ _ => get?_put ..) changeParticipantRole_view participants frame
  unfold participantPresenceDelta receive
  by_cases stale : frame.sequence ≤ state.presenceSequence
  · simp [stale]
  · simp [stale, ProtocolSessionState.view, shown]

theorem withParticipant_view (name : String) (participant : Participant) :
    (withParticipant state name participant).view =
      { state.view with
        participants := assign state.view.participants name (some participant) } := by
  simp only [withParticipant, ProtocolSessionState.view, get?_put]

theorem roleGrant_view (frame : RoleGrantFrame) :
    (roleGrant state frame nowMs).view =
      receive rules state.view (.roleGrant frame) nowMs := by
  refine checked_view state nowMs frame.guard ?_
  exact found_or_state_view rules rfl fun participant _ => withParticipant_view ..

theorem roleRevoke_view (frame : RoleRevokeFrame) :
    (roleRevoke state frame nowMs).view =
      receive rules state.view (.roleRevoke frame) nowMs := by
  refine checked_view state nowMs frame.guard ?_
  unfold revoked revise
  cases found : state.participants.get? frame.targetParticipantId with
  | none =>
      have missing : rules.participant state.view.participants
          frame.targetParticipantId = none := found
      simp only [missing, Option.any_none, Bool.false_eq_true, ↓reduceIte]
  | some participant =>
      have present : rules.participant state.view.participants
          frame.targetParticipantId = some participant := found
      by_cases same : participant.role = frame.role
      · simp only [present, Option.any_some, same, decide_true, ↓reduceIte, ne_eq,
          not_true_eq_false]
        exact withParticipant_view ..
      · simp only [present, Option.any_some, same, decide_false, Bool.false_eq_true, ↓reduceIte,
          ne_eq, not_false_eq_true]

theorem moderationSigned_view (frame : ModerationSignedFrame) :
    (moderationSigned state frame nowMs).view =
      receive rules state.view (.moderationSigned frame) nowMs := by
  refine checked_view state nowMs frame.guard ?_
  refine found_or_state_view rules rfl fun participant _ => ?_
  cases frame.action with
  | mute | videoOff | stopShare | admitFromWaiting => exact withParticipant_view ..
  | kick | denyFromWaiting => simp only [ProtocolSessionState.view, get?_remove, moderated]

theorem permissionsSnapshot_view (name : String) (effectivePermissions : List String)
    (epoch : Int) :
    (permissionsSnapshot state name effectivePermissions epoch).view =
      receive rules state.view
        (.permissionsSnapshot name effectivePermissions epoch) nowMs := by
  unfold permissionsSnapshot receive setSnapshot
  cases found : state.permissionSnapshots.get? name with
  | none => simp [found, rules, ProtocolSessionState.view, get?_put]
  | some prior =>
      by_cases newer : prior.epoch < epoch
      · simp [found, rules, ProtocolSessionState.view, get?_put, newer, Int.not_le.mpr newer]
      · simp [found, rules, newer, Int.not_lt.mp newer]

theorem sessionPolicy_view (frame : SessionPolicyFrame) :
    (sessionPolicy state frame nowMs).view =
      receive rules state.view (.sessionPolicy frame) nowMs := by
  refine checked_view state nowMs frame.guard ?_
  by_cases stale : frame.policyEpoch < state.policyEpoch
  · simp [stale]
  · simp only [stale, ↓reduceIte, enforceE2eeEpochPolicy_view]
    simp [stale, setPolicy, ProtocolSessionState.view]

theorem e2eeKeyEpoch_view (frame : E2eeKeyEpochFrame) :
    (e2eeKeyEpoch state frame nowMs).view =
      receive rules state.view (.e2eeKeyEpoch frame) nowMs := by
  simp only [e2eeKeyEpoch, receive, hasRequiredSignature_view]
  cases signed rules state.view frame.signature with
  | false => exact policyReject_view state nowMs _ _
  | true => exact enforceE2eeEpochPolicy_view _ nowMs

theorem reduceFrame_view (frame : ProtocolFrame) :
    (reduceFrame state frame nowMs).view =
      receive rules state.view frame nowMs := by
  cases frame with
  | handshakeAck _ resumeToken _ => rfl
  | participantPresenceDelta frame =>
      exact participantPresenceDelta_view state nowMs frame
  | roleGrant frame => exact roleGrant_view state nowMs frame
  | roleRevoke frame => exact roleRevoke_view state nowMs frame
  | permissionsSnapshot participantId effectivePermissions epoch =>
      exact permissionsSnapshot_view state nowMs participantId effectivePermissions epoch
  | moderationSigned frame => exact moderationSigned_view state nowMs frame
  | sessionPolicy frame => exact sessionPolicy_view state nowMs frame
  | mediaProfileNegotiation profile => rfl
  | recordingNotice recording _ => rfl
  | e2eeKeyEpoch frame => exact e2eeKeyEpoch_view state nowMs frame
  | keyRotationAck ackEpoch _ _ => rfl
  | paymentPolicy required destinationAccount =>
      exact enforcePaymentSettlementPolicy_view _ nowMs
  | paymentSettlement status => exact enforcePaymentSettlementPolicy_view _ nowMs
  | error category code message => rfl
  | handshake _ | deviceCapability _ | ping _ | pong _ => rfl

theorem transportFailed_view (code message : String) :
    (transportFailed state code message nowMs).view =
      { fail state.view code message nowMs with handshakeComplete := false } := by
  unfold transportFailed fail
  cases active : state.fallback.active <;> simp [ProtocolSessionState.view, active]

theorem reduce_view (event : ProtocolEvent) :
    (reduce state event nowMs).view =
      step rules state.view event nowMs := by
  cases event with
  | transportDisconnected reason => exact transportFailed_view state nowMs _ reason
  | transportFailure message => exact transportFailed_view state nowMs _ message
  | frameSendFailed message =>
      unfold reduce step fail
      cases active : state.fallback.active <;> simp [ProtocolSessionState.view, active]
  | configUpdated config => exact enforcePaymentSettlementPolicy_view _ nowMs
  | frameReceived frame => exact reduceFrame_view state nowMs frame
  | connectRequested | transportConnected | manualDisconnected | fallbackActivated
  | fallbackRecovered => rfl

theorem run_view (config : MeetingConfig) (calls : List Call) :
    (run config calls).view =
      follow rules (ProtocolSessionState.initial config).view calls :=
  (List.foldl_hom ProtocolSessionState.view fun state call =>
    (reduce_view state call.nowMs call.event).symm).symm

end Kaigi.Session.Android
