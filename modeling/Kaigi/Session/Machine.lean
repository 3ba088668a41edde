import Kaigi.Session.Protocol
import Mathlib.Logic.Function.Basic

/-!
# The session machine

What a client makes of the events of its session, in terms of what it knows of each
participant. A frame that changes roles, members or policies is rejected unless it is
signed and comes from the system, the host or a co-host. A rejection by policy is
recorded as the last error, and lifted when the payment or the key epoch that it asks
for is there. The clients are instances of one machine; `Rules` collects what they do
each in its own way.
-/

set_option autoImplicit false

namespace Kaigi.Session

open Collections

abbrev SessionView : Type := ProtocolSessionState Directory

structure Rules where
  /-- Whether a signature counts as present. -/
  signs : Option String → Bool
  /-- The participant that is found under a name. -/
  participant : Directory Participant → String → Option Participant
  /-- The snapshot that is found under a name. -/
  snapshot : Directory PermissionSnapshot → String → Option PermissionSnapshot
  /-- The fallback after a rejection with this code. -/
  fallback : MeetingConfig → FallbackState → String → Int → FallbackState
  /-- The time since the fallback was activated. -/
  rto : Option Int → Int → Option Int
  /-- The errors that are lifted when no payment is due. -/
  paymentError : SessionError → Bool
  /-- The errors that are lifted when no key epoch is due. -/
  epochError : SessionError → Bool
  /-- The phase in which the session goes on. -/
  resumed : SessionView → ConnectionPhase
  blockedMessage : String
  requiredMessage : String
  epochMessage : String

variable (rules : Rules)

/-! ## Rejection and relief -/

def reject (state : SessionView) (nowMs : Int) (code message : String) : SessionView :=
  let fallback := rules.fallback state.config state.fallback code nowMs
  { state with
    connectionPhase := if fallback.active then .fallbackActive else .error
    fallback
    lastError := some { category := .policyFailure, code, message, atMs := nowMs } }

def relieve (lifted : SessionError → Bool) (state : SessionView) : SessionView :=
  if state.lastError.any lifted then
    { state with connectionPhase := rules.resumed state, lastError := none }
  else state

/-- The payment gate is closed. -/
def paymentDue (state : SessionView) : Bool :=
  state.config.requirePaymentSettlement && state.paymentState.required &&
    (state.paymentState.settlementStatus = .pending ||
      state.paymentState.settlementStatus = .blocked)

def checkPayment (state : SessionView) (nowMs : Int) : SessionView :=
  if paymentDue state then
    if state.paymentState.settlementStatus = .blocked then
      reject rules state nowMs "payment_settlement_blocked" rules.blockedMessage
    else reject rules state nowMs "payment_settlement_required" rules.requiredMessage
  else relieve rules rules.paymentError state

def epochDue (state : SessionView) : Bool :=
  state.e2eeRequired && state.e2eeState.currentEpoch ≤ 0

def checkEpoch (state : SessionView) (nowMs : Int) : SessionView :=
  if epochDue state then reject rules state nowMs "e2ee_epoch_required" rules.epochMessage
  else relieve rules rules.epochError state

/-! ## Guarded frames -/

def signed (state : SessionView) (signature : Option String) : Bool :=
  !state.config.requireSignedModeration || rules.signs signature

def authorized (state : SessionView) (issuer : String) : Bool :=
  issuer = "system" || (rules.participant state.participants issuer).any fun participant =>
    participant.role = .host || participant.role = .coHost

/-- A frame under a signature and an authority; its name and title are those of its
rejections. -/
structure Guard where
  name : String
  title : String
  issuer : String
  signature : Option String

def passes (state : SessionView) (guard : Guard) : Bool :=
  signed rules state guard.signature && authorized rules state guard.issuer

def refuse (state : SessionView) (nowMs : Int) (guard : Guard) : SessionView :=
  if signed rules state guard.signature then
    reject rules state nowMs (guard.name ++ "_not_authorized")
      (guard.title ++ " issuer is not host/co-host")
  else
    reject rules state nowMs (guard.name ++ "_signature_missing")
      (guard.title ++ " signature is required")

def guarded (state : SessionView) (nowMs : Int) (guard : Guard) (accepted : SessionView) :
    SessionView :=
  if passes rules state guard then accepted else refuse rules state nowMs guard

def RoleGrantFrame.guard (frame : RoleGrantFrame) : Guard where
  name := "role_grant"
  title := "RoleGrant"
  issuer := frame.grantedBy
  signature := frame.signature

def RoleRevokeFrame.guard (frame : RoleRevokeFrame) : Guard where
  name := "role_revoke"
  title := "RoleRevoke"
  issuer := frame.revokedBy
  signature := frame.signature

def ModerationSignedFrame.guard (frame : ModerationSignedFrame) : Guard where
  name := "moderation"
  title := "Moderation"
  issuer := frame.issuedBy
  signature := frame.signature

def SessionPolicyFrame.guard (frame : SessionPolicyFrame) : Guard where
  name := "session_policy"
  title := "SessionPolicy"
  issuer := frame.updatedBy
  signature := frame.signature

/-! ## The participants -/

def assign {Value : Type} (directory : Directory Value) (name : String) (value : Option Value) :
    Directory Value :=
  Function.update directory name value

/-- Replace what is known under a name, if anything is. -/
def revise (participants : Directory Participant) (name : String)
    (change : Participant → Option Participant) : Directory Participant :=
  match rules.participant participants name with
  | some participant => assign participants name (change participant)
  | none => participants

def withRole (role : ParticipantRole) (participant : Participant) : Participant :=
  { participant with role }

def moderated (action : ModerationAction) (participant : Participant) : Option Participant :=
  match action with
  | .mute => some { participant with muted := true }
  | .videoOff => some { participant with videoEnabled := false }
  | .stopShare => some { participant with shareEnabled := false }
  | .admitFromWaiting => some { participant with waitingRoom := false }
  | .kick | .denyFromWaiting => none

/-- Nothing is replaced where the participant has another role. -/
def revoked (participants : Directory Participant) (frame : RoleRevokeFrame) :
    Directory Participant :=
  if (rules.participant participants frame.targetParticipantId).any
      fun participant => participant.role = frame.role then
    revise rules participants frame.targetParticipantId fun participant =>
      some (withRole .participant participant)
  else participants

def enter (participants : Directory Participant) (participant : Participant) :
    Directory Participant :=
  assign participants participant.id (some participant)

def leave (participants : Directory Participant) (name : String) : Directory Participant :=
  assign participants name none

def changeRole (participants : Directory Participant) (change : RoleChange) :
    Directory Participant :=
  revise rules participants change.participantId fun participant =>
    some (withRole change.role participant)

def present (participants : Directory Participant) (frame : PresenceDeltaFrame) :
    Directory Participant :=
  frame.roleChanges.foldl (changeRole rules) (frame.left.foldl leave
    (frame.joined.foldl enter participants))

/-! ## Steps -/

def setPolicy (state : SessionView) (frame : SessionPolicyFrame) : SessionView :=
  { state with
    roomLocked := frame.roomLock
    waitingRoomEnabled := frame.waitingRoomEnabled
    recordingNotice := frame.recordingPolicy
    guestPolicy := frame.guestPolicy
    e2eeRequired := frame.e2eeRequired
    maxParticipants := frame.maxParticipants
    policyEpoch := frame.policyEpoch }

def raiseEpoch (state : SessionView) (epoch : Int) : SessionView :=
  { state with
    e2eeState :=
      { state.e2eeState with currentEpoch := max state.e2eeState.currentEpoch epoch } }

def setPayment (state : SessionView) (required : Bool) (destination : Option String) :
    SessionView :=
  { state with
    paymentState :=
      { required, destination, settlementStatus := if required then .pending else .notRequired } }

def setSettlement (state : SessionView) (status : PaymentSettlementStatus) : SessionView :=
  { state with paymentState := { state.paymentState with settlementStatus := status } }

def setSnapshot (state : SessionView) (name : String) (snapshot : PermissionSnapshot) :
    SessionView :=
  { state with
    permissionSnapshots := assign state.permissionSnapshots name (some snapshot) }

/-- The picture that was asked for is not the one that is sent. -/
def downgraded (profile : MediaProfileState) : Bool :=
  profile.preferredProfile = .hdr && profile.negotiatedProfile = .sdr

def receive (state : SessionView) (frame : ProtocolFrame) (nowMs : Int) : SessionView :=
  match frame with
  | .handshakeAck _ resumeToken _ =>
      { state with
        handshakeComplete := true
        resumeToken := some resumeToken
        connectionPhase := if state.fallback.active then .fallbackActive else .connected
        lastError := none }
  | .participantPresenceDelta frame =>
      if frame.sequence ≤ state.presenceSequence then state
      else
        { state with
          participants := present rules state.participants frame
          presenceSequence := frame.sequence }
  | .roleGrant frame =>
      guarded rules state nowMs frame.guard
        { state with
          participants := revise rules state.participants frame.targetParticipantId
            fun participant => some (withRole frame.role participant) }
  | .roleRevoke frame =>
      guarded rules state nowMs frame.guard
        { state with participants := revoked rules state.participants frame }
  | .permissionsSnapshot name effectivePermissions epoch =>
      if (rules.snapshot state.permissionSnapshots name).all fun snapshot =>
          snapshot.epoch < epoch then
        setSnapshot state name { effectivePermissions, epoch }
      else state
  | .moderationSigned frame =>
      guarded rules state nowMs frame.guard
        { state with
          participants := revise rules state.participants frame.targetParticipantId
            (moderated frame.action) }
  | .sessionPolicy frame =>
      guarded rules state nowMs frame.guard
        (if frame.policyEpoch < state.policyEpoch then state
        else checkEpoch rules (setPolicy state frame) nowMs)
  | .mediaProfileNegotiation profile =>
      { state with
        mediaProfile := profile
        connectionPhase :=
          if downgraded profile then .degraded
          else if state.handshakeComplete && !state.fallback.active then .connected
          else state.connectionPhase }
  | .recordingNotice recording _ => { state with recordingNotice := recording }
  | .e2eeKeyEpoch frame =>
      if signed rules state frame.signature then
        checkEpoch rules (raiseEpoch state frame.epoch) nowMs
      else
        reject rules state nowMs "e2ee_signature_missing" "E2EE key epoch signature is required"
  | .keyRotationAck ackEpoch _ _ =>
      { state with
        e2eeState :=
          { state.e2eeState with lastAckEpoch := max state.e2eeState.lastAckEpoch ackEpoch } }
  | .paymentPolicy required destination =>
      checkPayment rules (setPayment state required destination) nowMs
  | .paymentSettlement status => checkPayment rules (setSettlement state status) nowMs
  | .error category code message =>
      { state with
        connectionPhase :=
          if state.fallback.active then .fallbackActive
          else if category = .policyFailure then .error
          else .degraded
        lastError := some { category, code, message, atMs := nowMs } }
  | .handshake _ | .deviceCapability _ | .ping _ | .pong _ => state

/-- A failure of the transport, which the fallback hides. -/
def fail (state : SessionView) (code message : String) (nowMs : Int) : SessionView :=
  if state.fallback.active then { state with connectionPhase := .fallbackActive }
  else
    { state with
      connectionPhase := .degraded
      lastError := some { category := .transportFailure, code, message, atMs := nowMs } }

def step (state : SessionView) (event : ProtocolEvent) (nowMs : Int) : SessionView :=
  match event with
  | .connectRequested =>
      { state with
        connectionPhase := .connecting, handshakeComplete := false, lastError := none }
  | .transportConnected => { state with connectionPhase := .connecting, lastError := none }
  | .transportDisconnected reason =>
      { fail state "transport_disconnected" reason nowMs with handshakeComplete := false }
  | .transportFailure message =>
      { fail state "transport_failure" message nowMs with handshakeComplete := false }
  | .frameSendFailed message => fail state "send_failed" message nowMs
  | .manualDisconnected =>
      { state with
        connectionPhase := .disconnected, handshakeComplete := false, lastError := none }
  | .fallbackActivated reason =>
      { state with
        connectionPhase := .fallbackActive
        fallback :=
          { state.fallback with
            active := true, reason := some reason, activatedAtMs := some nowMs }
        lastError := some
          { category := .transportFailure, code := "fallback_activated", message := reason
            atMs := nowMs } }
  | .fallbackRecovered =>
      { state with
        connectionPhase := .disconnected
        fallback :=
          { state.fallback with
            active := false
            reason := none
            recoveredAtMs := some nowMs
            lastRtoMs := rules.rto state.fallback.activatedAtMs nowMs } }
  | .configUpdated config => checkPayment rules { state with config } nowMs
  | .frameReceived frame => receive rules state frame nowMs

def follow (state : SessionView) (calls : List Call) : SessionView :=
  calls.foldl (fun state call => step rules state call.event call.nowMs) state

theorem follow_cons (state : SessionView) (call : Call) (calls : List Call) :
    follow rules state (call :: calls) =
      follow rules (step rules state call.event call.nowMs) calls :=
  rfl

theorem follow_append (state : SessionView) (first second : List Call) :
    follow rules state (first ++ second) = follow rules (follow rules state first) second :=
  List.foldl_append

/-! ## The tables as directories -/

section

variable {Value : Type} (table : Table Value) (name : String)

theorem get?_put (value : Value) :
    (table.put name value).get? = assign table.get? name (some value) := by
  funext other
  rw [HashMap.get?_put, assign, Function.update_apply]

theorem get?_remove : (table.remove name).get? = assign table.get? name none := by
  funext other
  rw [HashMap.get?_remove, assign, Function.update_apply]

theorem get?_modify (change : Value → Value) :
    (table.modify name change).get? = assign table.get? name ((table.get? name).map change) := by
  funext other
  rw [HashMap.get?_modify, assign, Function.update_apply]
  split
  · next same => rw [same]
  · rfl

end

theorem assign_self {Value : Type} (directory : Directory Value) (name : String) :
    assign directory name (directory name) = directory :=
  Function.update_eq_self name directory

theorem assign_none {Value : Type} {directory : Directory Value} {name : String}
    (absent : directory name = none) : assign directory name none = directory := by
  rw [← absent, assign_self]

/-! ## The checks of a client -/

/-- A client checks the signature, then the issuer, and goes on with what it accepts. -/
theorem guarded_view {state unsigned unauthorized accepted : ClientState} {nowMs : Int}
    (guard : Guard) {present allowed : Bool} {target : SessionView}
    (presence : present = signed rules state.view guard.signature)
    (authority : allowed = authorized rules state.view guard.issuer)
    (missing : unsigned.view = reject rules state.view nowMs (guard.name ++ "_signature_missing")
      (guard.title ++ " signature is required"))
    (denied : unauthorized.view = reject rules state.view nowMs (guard.name ++ "_not_authorized")
      (guard.title ++ " issuer is not host/co-host"))
    (same : accepted.view = target) :
    (if !present then unsigned else if !allowed then unauthorized else accepted).view =
      guarded rules state.view nowMs guard target := by
  unfold guarded passes refuse
  rw [← presence, ← authority]
  cases present <;> cases allowed <;> simp [missing, denied, same]

/-- A client replaces what it finds. -/
theorem found_view {participants : Table Participant} {name : String}
    {change : Participant → Participant} {changed : Table Participant}
    (present : ∀ participant, rules.participant participants.get? name = some participant →
      changed = participants.put name (change participant))
    (absent : rules.participant participants.get? name = none → changed = participants) :
    changed.get? = revise rules participants.get? name fun participant =>
      some (change participant) := by
  unfold revise
  cases found : rules.participant participants.get? name with
  | none => rw [absent found]
  | some participant => rw [present participant found, get?_put]

/-- A client enters, removes and changes participants one after the other. -/
theorem present_view {insert : Table Participant → Participant → Table Participant}
    {change : Table Participant → RoleChange → Table Participant}
    (inserted : ∀ participants participant,
      (insert participants participant).get? = enter participants.get? participant)
    (changed : ∀ participants roleChange,
      (change participants roleChange).get? = changeRole rules participants.get? roleChange)
    (participants : Table Participant) (frame : PresenceDeltaFrame) :
    HashMap.get? (frame.roleChanges.foldl change
        (frame.left.foldl HashMap.remove (frame.joined.foldl insert participants))) =
      present rules participants.get? frame := by
  have entered : frame.joined.foldl enter participants.get? =
      (frame.joined.foldl insert participants).get? :=
    List.foldl_hom HashMap.get? fun _ _ => (inserted ..).symm
  have stayed (participants : Table Participant) :
      frame.left.foldl leave participants.get? =
        (frame.left.foldl HashMap.remove participants).get? :=
    List.foldl_hom HashMap.get? fun _ _ => (get?_remove ..).symm
  have settled (participants : Table Participant) :
      frame.roleChanges.foldl (changeRole rules) participants.get? =
        (frame.roleChanges.foldl change participants).get? :=
    List.foldl_hom HashMap.get? fun _ _ => (changed ..).symm
  rw [present, entered, stayed, settled]

/-- A client looks for the participant that a frame is about, and goes on with what it
finds. -/
theorem found_or_state_view {state : ClientState} {found : Option Participant} {name : String}
    {change : Participant → Option Participant} {changed : Participant → ClientState}
    (lookup : rules.participant state.view.participants name = found)
    (same : ∀ participant, found = some participant →
      (changed participant).view =
        { state.view with
          participants := assign state.view.participants name (change participant) }) :
    (match found with
      | none => state
      | some participant => changed participant).view =
      { state.view with
        participants := revise rules state.view.participants name change } := by
  unfold revise
  rw [lookup]
  cases found with
  | none => rfl
  | some participant => exact same participant rfl

end Kaigi.Session
