import Kaigi.Session.Linux

/-!
# The reducer of the Web client

Its tables are plain objects, in which a lookup also finds the properties that every
object inherits; a number is tested for truth where the other clients ask whether it
is there.
-/

set_option autoImplicit false

namespace Kaigi.Session.Web

open Collections

/-- The properties of `Object.prototype`. -/
def prototypeNames : List String :=
  ["constructor", "__defineGetter__", "__defineSetter__", "hasOwnProperty", "__lookupGetter__",
    "__lookupSetter__", "isPrototypeOf", "propertyIsEnumerable", "toString", "valueOf",
    "__proto__", "toLocaleString"]

/-- What the inherited properties look like where the reducer reads an entry. -/
structure ObjectPrototype where
  participant : String → Option Participant
  snapshot : String → Option PermissionSnapshot
  participant_absent : ∀ name, name ∉ prototypeNames → participant name = none
  snapshot_absent : ∀ name, name ∉ prototypeNames → snapshot name = none

variable (prototype : ObjectPrototype)

def findParticipant (participants : Table Participant) (name : String) : Option Participant :=
  (participants.get? name).or (prototype.participant name)

def findSnapshot (snapshots : Table PermissionSnapshot) (name : String) :
    Option PermissionSnapshot :=
  (snapshots.get? name).or (prototype.snapshot name)

/-- The characters that `String.prototype.trim` removes. -/
def isTrimmed (character : Char) : Bool :=
  let code := character.toNat
  (0x9 ≤ code && code ≤ 0xD) || code == 0x20 || code == 0xA0 || code == 0x1680 ||
    (0x2000 ≤ code && code ≤ 0x200A) || code == 0x2028 || code == 0x2029 || code == 0x202F ||
    code == 0x205F || code == 0x3000 || code == 0xFEFF

def hasRequiredSignature (signature : Option String) (state : ClientState) : Bool :=
  if !state.config.requireSignedModeration then true
  else signature.any fun value => !value.toList.all isTrimmed

def actorIsAuthorized (issuer : String) (state : ClientState) : Bool :=
  if issuer = "system" then true
  else
    let participant := findParticipant prototype state.participants issuer
    participant.any (·.role = .host) || participant.any (·.role = .coHost)

def clearErrorIfMatching (state : ClientState) (predicate : Option SessionError → Bool) :
    ClientState :=
  if !predicate state.lastError then state
  else
    { state with
      connectionPhase :=
        if state.fallback.active then .fallbackActive
        else if state.handshakeComplete then .connected
        else .connecting
      lastError := none }

def clearPaymentPolicyErrorIfNeeded (state : ClientState) : ClientState :=
  clearErrorIfMatching state fun error =>
    error.any fun error =>
      error.category = .policyFailure &&
        (startsWith error.code "payment_settlement_" || error.code = "payment_unsettled")

def clearE2eePolicyErrorIfNeeded (state : ClientState) : ClientState :=
  clearErrorIfMatching state fun error =>
    error.any fun error => error.category = .policyFailure && startsWith error.code "e2ee_"

def policyReject (state : ClientState) (nowMs : Int) (code message : String) : ClientState :=
  let fallbackRequested := state.config.preferWebFallbackOnPolicyFailure
  let fallbackActive := fallbackRequested || state.fallback.active
  { state with
    connectionPhase := if fallbackActive then .fallbackActive else .error
    fallback :=
      if fallbackActive then
        { state.fallback with
          active := true
          reason := some (state.fallback.reason.getD ("policy:" ++ code))
          activatedAtMs := some (state.fallback.activatedAtMs.getD nowMs) }
      else state.fallback
    lastError := some { category := .policyFailure, code, message, atMs := nowMs } }

def enforcePaymentSettlementPolicy (state : ClientState) (nowMs : Int) : ClientState :=
  if !state.config.requirePaymentSettlement || !state.paymentState.required then
    clearPaymentPolicyErrorIfNeeded state
  else
    match state.paymentState.settlementStatus with
    | .settled | .notRequired => clearPaymentPolicyErrorIfNeeded state
    | .blocked =>
        policyReject state nowMs "payment_settlement_blocked"
          "Payment settlement blocked by policy"
    | .pending =>
        policyReject state nowMs "payment_settlement_required"
          "Payment settlement required before media/session actions can continue"

def enforceE2eeEpochPolicy (state : ClientState) (nowMs : Int) : ClientState :=
  if !state.e2eeRequired then clearE2eePolicyErrorIfNeeded state
  else if 0 < state.e2eeState.currentEpoch then clearE2eePolicyErrorIfNeeded state
  else
    policyReject state nowMs "e2ee_epoch_required" "E2EE key epoch is required by session policy"

/-- Spread a record with another value under one name. -/
def withParticipant (state : ClientState) (name : String) (participant : Participant) :
    ClientState :=
  { state with participants := state.participants.put name participant }

def changeParticipantRole (participants : Table Participant) (change : RoleChange) :
    Table Participant :=
  match findParticipant prototype participants change.participantId with
  | some participant =>
      participants.put change.participantId { participant with role := change.role }
  | none => participants

def participantPresenceDelta (state : ClientState) (frame : PresenceDeltaFrame) : ClientState :=
  if frame.sequence ≤ state.presenceSequence then state
  else
    let joined := frame.joined.foldl
      (fun participants participant => participants.put participant.id participant)
      state.participants
    let stayed := frame.left.foldl HashMap.remove joined
    { state with
      participants := frame.roleChanges.foldl (changeParticipantRole prototype) stayed
      presenceSequence := frame.sequence }

def roleGrant (state : ClientState) (frame : RoleGrantFrame) (nowMs : Int) : ClientState :=
  if !hasRequiredSignature frame.signature state then
    policyReject state nowMs "role_grant_signature_missing" "RoleGrant signature is required"
  else if !actorIsAuthorized prototype frame.grantedBy state then
    policyReject state nowMs "role_grant_not_authorized" "RoleGrant issuer is not host/co-host"
  else
    match findParticipant prototype state.participants frame.targetParticipantId with
    | none => state
    | some participant =>
        withParticipant state frame.targetParticipantId { participant with role := frame.role }

def roleRevoke (state : ClientState) (frame : RoleRevokeFrame) (nowMs : Int) : ClientState :=
  if !hasRequiredSignature frame.signature state then
    policyReject state nowMs "role_revoke_signature_missing" "RoleRevoke signature is required"
  else if !actorIsAuthorized prototype frame.revokedBy state then
    policyReject state nowMs "role_revoke_not_authorized" "RoleRevoke issuer is not host/co-host"
  else
    match findParticipant prototype state.participants frame.targetParticipantId with
    | none => state
    | some participant =>
        if participant.role ≠ frame.role then state
        else
          withParticipant state frame.targetParticipantId
            { participant with role := .participant }

def permissionsSnapshot (state : ClientState) (participantId : String)
    (effectivePermissions : List String) (epoch : Int) : ClientState :=
  if (findSnapshot prototype state.permissionSnapshots participantId).any fun previous =>
      epoch ≤ previous.epoch then state
  else
    { state with
      permissionSnapshots :=
        state.permissionSnapshots.put participantId { effectivePermissions, epoch } }

def moderationSigned (state : ClientState) (frame : ModerationSignedFrame) (nowMs : Int) :
    ClientState :=
  if !hasRequiredSignature frame.signature state then
    policyReject state nowMs "moderation_signature_missing" "Moderation signature is required"
  else if !actorIsAuthorized prototype frame.issuedBy state then
    policyReject state nowMs "moderation_not_authorized" "Moderation issuer is not host/co-host"
  else
    let target := frame.targetParticipantId
    match findParticipant prototype state.participants target with
    | none => state
    | some participant =>
        match frame.action with
        | .mute => withParticipant state target { participant with muted := true }
        | .videoOff => withParticipant state target { participant with videoEnabled := false }
        | .stopShare => withParticipant state target { participant with shareEnabled := false }
        | .admitFromWaiting =>
            withParticipant state target { participant with waitingRoom := false }
        | .kick | .denyFromWaiting =>
            { state with participants := state.participants.remove target }

def sessionPolicy (state : ClientState) (frame : SessionPolicyFrame) (nowMs : Int) :
    ClientState :=
  if !hasRequiredSignature frame.signature state then
    policyReject state nowMs "session_policy_signature_missing"
      "SessionPolicy signature is required"
  else if !actorIsAuthorized prototype frame.updatedBy state then
    policyReject state nowMs "session_policy_not_authorized"
      "SessionPolicy issuer is not host/co-host"
  else if frame.policyEpoch < state.policyEpoch then state
  else
    enforceE2eeEpochPolicy
      { state with
        roomLocked := frame.roomLock
        waitingRoomEnabled := frame.waitingRoomEnabled
        guestPolicy := frame.guestPolicy
        e2eeRequired := frame.e2eeRequired
        maxParticipants := frame.maxParticipants
        policyEpoch := frame.policyEpoch
        recordingNotice := frame.recordingPolicy } nowMs

def e2eeKeyEpoch (state : ClientState) (frame : E2eeKeyEpochFrame) (nowMs : Int) : ClientState :=
  if !hasRequiredSignature frame.signature state then
    policyReject state nowMs "e2ee_signature_missing" "E2EE key epoch signature is required"
  else
    enforceE2eeEpochPolicy
      { state with
        e2eeState :=
          { state.e2eeState with
            currentEpoch := max state.e2eeState.currentEpoch frame.epoch } } nowMs

/-- The cases of `reduceFrame`; the longer ones are the definitions above. -/
def reduceFrame (state : ClientState) (frame : ProtocolFrame) (nowMs : Int) : ClientState :=
  match frame with
  | .handshakeAck _ resumeToken _ =>
      { state with
        handshakeComplete := true
        resumeToken := some resumeToken
        connectionPhase := if state.fallback.active then .fallbackActive else .connected
        lastError := none }
  | .participantPresenceDelta frame => participantPresenceDelta prototype state frame
  | .roleGrant frame => roleGrant prototype state frame nowMs
  | .roleRevoke frame => roleRevoke prototype state frame nowMs
  | .permissionsSnapshot participantId effectivePermissions epoch =>
      permissionsSnapshot prototype state participantId effectivePermissions epoch
  | .moderationSigned frame => moderationSigned prototype state frame nowMs
  | .sessionPolicy frame => sessionPolicy prototype state frame nowMs
  | .mediaProfileNegotiation profile =>
      { state with
        mediaProfile := profile
        connectionPhase :=
          if profile.preferredProfile = .hdr && profile.negotiatedProfile = .sdr then .degraded
          else if state.handshakeComplete && !state.fallback.active then .connected
          else state.connectionPhase }
  | .recordingNotice recording _ => { state with recordingNotice := recording }
  | .e2eeKeyEpoch frame => e2eeKeyEpoch state frame nowMs
  | .keyRotationAck ackEpoch _ _ =>
      { state with
        e2eeState :=
          { state.e2eeState with lastAckEpoch := max state.e2eeState.lastAckEpoch ackEpoch } }
  | .paymentPolicy required destinationAccount =>
      enforcePaymentSettlementPolicy
        { state with
          paymentState :=
            { required
              destination := destinationAccount
              settlementStatus := if required then .pending else .notRequired } } nowMs
  | .paymentSettlement status =>
      enforcePaymentSettlementPolicy
        { state with paymentState := { state.paymentState with settlementStatus := status } }
        nowMs
  | .error category code message =>
      { state with
        connectionPhase :=
          if state.fallback.active then .fallbackActive
          else if category = .policyFailure then .error
          else .degraded
        lastError := some { category, code, message, atMs := nowMs } }
  | .handshake _ | .deviceCapability _ | .ping _ | .pong _ => state

def transportFailed (state : ClientState) (code message : String) (nowMs : Int) : ClientState :=
  if state.fallback.active then
    { state with connectionPhase := .fallbackActive, handshakeComplete := false }
  else
    { state with
      connectionPhase := .degraded
      handshakeComplete := false
      lastError := some { category := .transportFailure, code, message, atMs := nowMs } }

def reduceSession (state : ClientState) (event : ProtocolEvent) (nowMs : Int) : ClientState :=
  match event with
  | .connectRequested =>
      { state with
        connectionPhase := .connecting, handshakeComplete := false, lastError := none }
  | .transportConnected => { state with connectionPhase := .connecting, lastError := none }
  | .transportDisconnected reason => transportFailed state "transport_disconnected" reason nowMs
  | .transportFailure message => transportFailed state "transport_failure" message nowMs
  | .frameSendFailed message =>
      if state.fallback.active then { state with connectionPhase := .fallbackActive }
      else
        { state with
          connectionPhase := .degraded
          lastError := some
            { category := .transportFailure, code := "send_failed", message, atMs := nowMs } }
  | .manualDisconnected =>
      { state with
        connectionPhase := .disconnected, handshakeComplete := false, lastError := none }
  | .fallbackActivated reason =>
      { state with
        connectionPhase := .fallbackActive
        fallback :=
          { state.fallback with
            active := true, reason := some reason, activatedAtMs := some nowMs }
        lastError := some
          { category := .transportFailure, code := "fallback_activated", message := reason
            atMs := nowMs } }
  | .fallbackRecovered =>
      -- a reading of 0 counts as none
      let rto := (state.fallback.activatedAtMs.filter (· ≠ 0)).map fun activated =>
        max 0 (nowMs - activated)
      { state with
        connectionPhase := .disconnected
        fallback :=
          { state.fallback with
            active := false, reason := none, recoveredAtMs := some nowMs, lastRtoMs := rto } }
  | .configUpdated config => enforcePaymentSettlementPolicy { state with config } nowMs
  | .frameReceived frame => reduceFrame prototype state frame nowMs

def run (config : MeetingConfig) (calls : List Call) : ClientState :=
  calls.foldl (fun state call => reduceSession prototype state call.event call.nowMs)
    (.initial config)

/-! ## The reducer as a session machine -/

def rules : Rules :=
  { Linux.rules with
    signs := fun signature => signature.any fun value => !value.toList.all isTrimmed
    participant := fun participants name =>
      (participants name).or (prototype.participant name)
    snapshot := fun snapshots name => (snapshots name).or (prototype.snapshot name)
    rto := fun activatedAtMs nowMs =>
      (activatedAtMs.filter (· ≠ 0)).map fun activated => max 0 (nowMs - activated) }

variable (state : ClientState) (nowMs : Int)

theorem hasRequiredSignature_view (signature : Option String) :
    hasRequiredSignature signature state = signed (rules prototype) state.view signature := by
  unfold hasRequiredSignature signed
  cases required : state.config.requireSignedModeration <;> simp [rules, required]

theorem actorIsAuthorized_view (issuer : String) :
    actorIsAuthorized prototype issuer state =
      authorized (rules prototype) state.view issuer := by
  unfold actorIsAuthorized authorized findParticipant
  by_cases system : issuer = "system"
  · simp [system]
  · cases found : (state.participants.get? issuer).or (prototype.participant issuer) <;>
      simp [system, rules, found]

theorem policyReject_view (code message : String) :
    (policyReject state nowMs code message).view =
      reject (rules prototype) state.view nowMs code message :=
  Linux.policyReject_view state nowMs code message

theorem enforcePaymentSettlementPolicy_view :
    (enforcePaymentSettlementPolicy state nowMs).view =
      checkPayment (rules prototype) state.view nowMs := by
  have same : enforcePaymentSettlementPolicy state nowMs =
      Linux.enforcePaymentSettlementPolicy state nowMs := by
    unfold enforcePaymentSettlementPolicy Linux.enforcePaymentSettlementPolicy
    cases state.paymentState.settlementStatus <;> rfl
  rw [same]
  exact Linux.enforcePaymentSettlementPolicy_view state nowMs

theorem enforceE2eeEpochPolicy_view :
    (enforceE2eeEpochPolicy state nowMs).view =
      checkEpoch (rules prototype) state.view nowMs :=
  Linux.enforceE2eeEpochPolicy_view state nowMs

theorem checked_view (guard : Guard) {accepted : ClientState} {target : SessionView}
    (same : accepted.view = target) :
    (if !hasRequiredSignature guard.signature state then
        policyReject state nowMs (guard.name ++ "_signature_missing")
          (guard.title ++ " signature is required")
      else if !actorIsAuthorized prototype guard.issuer state then
        policyReject state nowMs (guard.name ++ "_not_authorized")
          (guard.title ++ " issuer is not host/co-host")
      else accepted).view = guarded (rules prototype) state.view nowMs guard target :=
  guarded_view _ guard (hasRequiredSignature_view prototype state _)
    (actorIsAuthorized_view prototype state _) (policyReject_view ..) (policyReject_view ..) same

theorem changeParticipantRole_view (participants : Table Participant) (change : RoleChange) :
    (changeParticipantRole prototype participants change).get? =
      changeRole (rules prototype) participants.get? change := by
  apply found_view
  · intro participant found
    have present : findParticipant prototype participants change.participantId =
        some participant := found
    simp only [changeParticipantRole, present, withRole]
  · intro absent
    have missing : findParticipant prototype participants change.participantId = none := absent
    simp only [changeParticipantRole, missing]

theorem participantPresenceDelta_view (frame : PresenceDeltaFrame) :
    (participantPresenceDelta prototype state frame).view =
      receive (rules prototype) state.view (.participantPresenceDelta frame) nowMs := by
  have shown (participants : Table Participant) :
      HashMap.get? (frame.roleChanges.foldl (changeParticipantRole prototype)
        (frame.left.foldl HashMap.remove (frame.joined.foldl
          (fun participants participant => participants.put participant.id participant)
          participants))) = present (rules prototype) participants.get? frame :=
    present_view _ (fun _ _ => get?_put ..) (changeParticipantRole_view prototype) participants
      frame
  unfold participantPresenceDelta receive
  by_cases stale : frame.sequence ≤ state.presenceSequence
  · simp [stale]
  · simp [stale, ProtocolSessionState.view, shown]

theorem withParticipant_view (name : String) (participant : Participant) :
    (withParticipant state name participant).view =
      { state.view with
        participants := assign state.view.participants name (some participant) } := by
  simp only [withParticipant, ProtocolSessionState.view, get?_put]

theorem roleGrant_view (frame : RoleGrantFrame) :
    (roleGrant prototype state frame nowMs).view =
      receive (rules prototype) state.view (.roleGrant frame) nowMs := by
  refine checked_view prototype state nowMs frame.guard ?_
  exact found_or_state_view _ rfl fun participant _ => withParticipant_view ..

theorem roleRevoke_view (frame : RoleRevokeFrame) :
    (roleRevoke prototype state frame nowMs).view =
      receive (rules prototype) state.view (.roleRevoke frame) nowMs := by
  refine checked_view prototype state nowMs frame.guard ?_
  unfold revoked revise
  cases found : findParticipant prototype state.participants frame.targetParticipantId with
  | none =>
      have missing : (rules prototype).participant state.view.participants
          frame.targetParticipantId = none := found
      simp only [missing, Option.any_none, Bool.false_eq_true, ↓reduceIte]
  | some participant =>
      have present : (rules prototype).participant state.view.participants
          frame.targetParticipantId = some participant := found
      by_cases same : participant.role = frame.role
      · simp only [present, Option.any_some, same, decide_true, ↓reduceIte, ne_eq,
          not_true_eq_false]
        exact withParticipant_view ..
      · simp only [present, Option.any_some, same, decide_false, Bool.false_eq_true, ↓reduceIte,
          ne_eq, not_false_eq_true]

theorem moderationSigned_view (frame : ModerationSignedFrame) :
    (moderationSigned prototype state frame nowMs).view =
      receive (rules prototype) state.view (.moderationSigned frame) nowMs := by
  refine checked_view prototype state nowMs frame.guard ?_
  refine found_or_state_view _ rfl fun participant _ => ?_
  cases frame.action with
  | mute | videoOff | stopShare | admitFromWaiting => exact withParticipant_view ..
  | kick | denyFromWaiting => simp only [ProtocolSessionState.view, get?_remove, moderated]

theorem permissionsSnapshot_view (name : String) (effectivePermissions : List String)
    (epoch : Int) :
    (permissionsSnapshot prototype state name effectivePermissions epoch).view =
      receive (rules prototype) state.view
        (.permissionsSnapshot name effectivePermissions epoch) nowMs := by
  unfold permissionsSnapshot receive setSnapshot findSnapshot
  cases found : (state.permissionSnapshots.get? name).or (prototype.snapshot name) with
  | none => simp [found, rules, ProtocolSessionState.view, get?_put]
  | some previous =>
      by_cases newer : previous.epoch < epoch
      · simp [found, rules, ProtocolSessionState.view, get?_put, newer, Int.not_le.mpr newer]
      · simp [found, rules, newer, Int.not_lt.mp newer]

theorem sessionPolicy_view (frame : SessionPolicyFrame) :
    (sessionPolicy prototype state frame nowMs).view =
      receive (rules prototype) state.view (.sessionPolicy frame) nowMs := by
  refine checked_view prototype state nowMs frame.guard ?_
  by_cases stale : frame.policyEpoch < state.policyEpoch
  · simp [stale]
  · simp only [stale, ↓reduceIte, enforceE2eeEpochPolicy_view prototype]
    simp [stale, setPolicy, ProtocolSessionState.view]

theorem e2eeKeyEpoch_view (frame : E2eeKeyEpochFrame) :
    (e2eeKeyEpoch state frame nowMs).view =
      receive (rules prototype) state.view (.e2eeKeyEpoch frame) nowMs := by
  simp only [e2eeKeyEpoch, receive, hasRequiredSignature_view prototype]
  cases signed (rules prototype) state.view frame.signature with
  | false => exact policyReject_view prototype state nowMs _ _
  | true => exact enforceE2eeEpochPolicy_view prototype _ nowMs

theorem reduceFrame_view (frame : ProtocolFrame) :
    (reduceFrame prototype state frame nowMs).view =
      receive (rules prototype) state.view frame nowMs := by
  cases frame with
  | handshakeAck _ resumeToken _ => rfl
  | participantPresenceDelta frame =>
      exact participantPresenceDelta_view prototype state nowMs frame
  | roleGrant frame => exact roleGrant_view prototype state nowMs frame
  | roleRevoke frame => exact roleRevoke_view prototype state nowMs frame
  | permissionsSnapshot participantId effectivePermissions epoch =>
      exact permissionsSnapshot_view prototype state nowMs participantId effectivePermissions epoch
  | moderationSigned frame => exact moderationSigned_view prototype state nowMs frame
  | sessionPolicy frame => exact sessionPolicy_view prototype state nowMs frame
  | mediaProfileNegotiation profile => rfl
  | recordingNotice recording _ => rfl
  | e2eeKeyEpoch frame => exact e2eeKeyEpoch_view prototype state nowMs frame
  | keyRotationAck ackEpoch _ _ => rfl
  | paymentPolicy required destinationAccount =>
      exact enforcePaymentSettlementPolicy_view prototype _ nowMs
  | paymentSettlement status => exact enforcePaymentSettlementPolicy_view prototype _ nowMs
  | error category code message => rfl
  | handshake _ | deviceCapability _ | ping _ | pong _ => rfl

theorem transportFailed_view (code message : String) :
    (transportFailed state code message nowMs).view =
      { fail state.view code message nowMs with handshakeComplete := false } := by
  unfold transportFailed fail
  cases active : state.fallback.active <;> simp [ProtocolSessionState.view, active]

theorem reduceSession_view (event : ProtocolEvent) :
    (reduceSession prototype state event nowMs).view =
      step (rules prototype) state.view event nowMs := by
  cases event with
  | transportDisconnected reason => exact transportFailed_view state nowMs _ reason
  | transportFailure message => exact transportFailed_view state nowMs _ message
  | frameSendFailed message =>
      unfold reduceSession step fail
      cases active : state.fallback.active <;> simp [ProtocolSessionState.view, active]
  | configUpdated config => exact enforcePaymentSettlementPolicy_view prototype _ nowMs
  | frameReceived frame => exact reduceFrame_view prototype state nowMs frame
  | connectRequested | transportConnected | manualDisconnected | fallbackActivated
  | fallbackRecovered => rfl

theorem run_view (config : MeetingConfig) (calls : List Call) :
    (run prototype config calls).view =
      follow (rules prototype) (ProtocolSessionState.initial config).view calls :=
  (List.foldl_hom ProtocolSessionState.view fun state call =>
    (reduceSession_view prototype state call.nowMs call.event).symm).symm

end Kaigi.Session.Web
