import Kaigi.Session.Protocol

/-!
# The session runtime

The runtime of a client feeds its reducer with what the application and the transport
report. It keeps, besides the state of the session, when to reconnect, whether the user
has disconnected and whether the application is in the background. The Linux and the
Windows runtime have the entry points below in common; they differ in what `Platform`
lists, in how they handle a frame and in how they leave the fallback.
-/

set_option autoImplicit false

namespace Kaigi.Session

inductive RuntimeDirective where
  | none
  | reconnectScheduled (attempt : Nat) (dueAtMs : Int)
  | fallbackActivated (reason : String)
  deriving DecidableEq

inductive MeetingTelemetryCategory where
  | connectionLifecycle
  | fallbackLifecycle
  | policyFailure
  deriving DecidableEq

structure MeetingTelemetryEvent where
  category : MeetingTelemetryCategory
  name : String
  attributes : List (String × String)
  atMs : Int
  deriving DecidableEq

/-- The telemetry that the sink has recorded belongs to the runtime here. -/
structure SessionRuntime (Map : Type → Type) where
  state : ProtocolSessionState Map
  reconnectBackoffMs : List Int
  reconnectAttempt : Nat := 0
  reconnectDueAtMs : Option Int := none
  userInitiatedDisconnect : Bool := false
  appInBackground : Bool := false
  telemetry : List MeetingTelemetryEvent := []

structure Platform (Map : Type → Type) where
  reduce : ProtocolSessionState Map → ProtocolEvent → Int → ProtocolSessionState Map
  hasRequiredSignature : Option String → ProtocolSessionState Map → Bool
  /-- The sum of the time and the delay of a reconnect. -/
  dueAt : Int → Int → Int
  normalizeParticipantId : String → String

def ConnectionPhase.name : ConnectionPhase → String
  | .disconnected => "Disconnected"
  | .connecting => "Connecting"
  | .connected => "Connected"
  | .degraded => "Degraded"
  | .fallbackActive => "FallbackActive"
  | .error => "Error"

variable {Map : Type → Type}

/-- What `emit_state_transition_telemetry` records. -/
def stateTransitionTelemetry (previous next : ProtocolSessionState Map) (nowMs : Int) :
    List MeetingTelemetryEvent :=
  (if previous.connectionPhase = next.connectionPhase then []
    else
      [{ category := .connectionLifecycle
         name := "phase_changed"
         attributes :=
           [("from", previous.connectionPhase.name), ("to", next.connectionPhase.name)]
         atMs := nowMs }]) ++
  (if !previous.fallback.active && next.fallback.active then
      [{ category := .fallbackLifecycle
         name := "fallback_activated"
         attributes := [("reason", next.fallback.reason.getD "unknown")]
         atMs := nowMs }]
    else []) ++
  (if previous.fallback.active && !next.fallback.active then
      [{ category := .fallbackLifecycle
         name := "fallback_recovered"
         attributes := next.fallback.lastRtoMs.toList.map fun rtoMs => ("rto_ms", toString rtoMs)
         atMs := nowMs }]
    else []) ++
  (if previous.lastError = next.lastError then []
    else
      (next.lastError.filter fun error => error.category = .policyFailure).toList.map fun error =>
        { category := .policyFailure
          name := error.code
          attributes := [("code", error.code), ("message", error.message)]
          atMs := nowMs })

namespace SessionRuntime

variable (runtime : SessionRuntime Map) (platform : Platform Map)

def recordConnectionEvent (name : String) (attributes : List (String × String)) (nowMs : Int) :
    SessionRuntime Map :=
  { runtime with
    telemetry :=
      runtime.telemetry ++ [{ category := .connectionLifecycle, name, attributes, atMs := nowMs }] }

def applyEvent (event : ProtocolEvent) (nowMs : Int) : SessionRuntime Map :=
  let next := platform.reduce runtime.state event nowMs
  { runtime with
    state := next
    telemetry := runtime.telemetry ++ stateTransitionTelemetry runtime.state next nowMs }

def requestConnect (resetBackoff : Bool) (source : String) (nowMs : Int) : SessionRuntime Map :=
  if runtime.appInBackground then
    runtime.recordConnectionEvent "connect_deferred_backgrounded" [("source", source)] nowMs
  else
    let requested :=
      { runtime with
        userInitiatedDisconnect := false
        reconnectDueAtMs := none
        reconnectAttempt := if resetBackoff then 0 else runtime.reconnectAttempt }
    (requested.recordConnectionEvent "connect_requested" [("source", source)] nowMs).applyEvent
      platform .connectRequested nowMs

def scheduleReconnectOrFallback (trigger : String) (nowMs : Int) :
    RuntimeDirective × SessionRuntime Map :=
  if runtime.userInitiatedDisconnect || runtime.state.fallback.active ||
      runtime.appInBackground then
    (.none, runtime)
  else if runtime.reconnectDueAtMs.isSome then (.none, runtime)
  else
    match runtime.reconnectBackoffMs[runtime.reconnectAttempt]? with
    | none =>
        let reason := "Reconnect exhausted after " ++ toString runtime.reconnectAttempt ++
          " attempts: " ++ trigger
        -- This event goes to the reducer without any telemetry.
        (.fallbackActivated reason,
          { runtime with state := platform.reduce runtime.state (.fallbackActivated reason) nowMs })
    | some delay =>
        let attempt := runtime.reconnectAttempt + 1
        let dueAtMs := platform.dueAt nowMs (max delay 0)
        let scheduled :=
          { runtime with reconnectAttempt := attempt, reconnectDueAtMs := some dueAtMs }
        (.reconnectScheduled attempt dueAtMs,
          scheduled.recordConnectionEvent "reconnect_scheduled"
            [("attempt", toString attempt), ("due_at_ms", toString dueAtMs), ("trigger", trigger)]
            nowMs)

def resolvedParticipantId : String :=
  if !Hub.isBlank runtime.state.config.participantId then
    platform.normalizeParticipantId runtime.state.config.participantId
  else platform.normalizeParticipantId runtime.state.config.participantName

def handshakeFrames (nowMs : Int) : List ProtocolFrame :=
  let config := runtime.state.config
  let participantId := runtime.resolvedParticipantId platform
  [.handshake
      { roomId := config.roomId
        participantId
        participantName := config.participantName
        walletIdentity := config.walletIdentity
        resumeToken := runtime.state.resumeToken
        preferredProfile :=
          if config.supportsHdrCapture && config.supportsHdrRender then .hdr else .sdr
        hdrCapture := config.supportsHdrCapture
        hdrRender := config.supportsHdrRender
        sentAtMs := nowMs },
    .deviceCapability
      { participantId
        codecs := ["h264", "vp9"]
        hdrCapture := config.supportsHdrCapture
        hdrRender := config.supportsHdrRender
        maxStreams := 4
        updatedAtMs := nowMs }] ++
  if config.requirePaymentSettlement then [.paymentPolicy true (some "nexus://payment-policy")]
  else []

/-! ## Entry points -/

def connectRequested (nowMs : Int) : SessionRuntime Map :=
  runtime.requestConnect platform true "manual" nowMs

def onAppForegrounded (nowMs : Int) : SessionRuntime Map :=
  if runtime.userInitiatedDisconnect then runtime
  else
    let foregrounded :=
      { runtime with appInBackground := false }.recordConnectionEvent "app_foregrounded" [] nowMs
    let phase := runtime.state.connectionPhase
    if phase = .disconnected || phase = .degraded || phase = .error then
      foregrounded.requestConnect platform false "foreground" nowMs
    else foregrounded

def onAppBackgrounded (nowMs : Int) : SessionRuntime Map :=
  let backgrounded :=
    { runtime with appInBackground := true, reconnectDueAtMs := none }.recordConnectionEvent
      "app_backgrounded" [] nowMs
  if runtime.userInitiatedDisconnect then backgrounded
  else
    let phase := runtime.state.connectionPhase
    if phase = .connected || phase = .connecting || phase = .degraded then
      backgrounded.applyEvent platform (.transportDisconnected "app_backgrounded") nowMs
    else backgrounded

/-- A failure of the transport, after which a reconnect is scheduled or deferred. -/
def reconnectAfter (event : ProtocolEvent) (trigger : String) (nowMs : Int) :
    RuntimeDirective × SessionRuntime Map :=
  let failed := runtime.applyEvent platform event nowMs
  if failed.appInBackground then
    (.none,
      failed.recordConnectionEvent "reconnect_deferred_backgrounded" [("trigger", trigger)] nowMs)
  else failed.scheduleReconnectOrFallback platform trigger nowMs

def onConnectivityChanged (available : Bool) (nowMs : Int) : SessionRuntime Map :=
  if runtime.userInitiatedDisconnect then runtime
  else if available then
    let restored := runtime.recordConnectionEvent "network_available" [] nowMs
    if runtime.appInBackground then
      restored.recordConnectionEvent "connectivity_restore_deferred_backgrounded" [] nowMs
    else if runtime.state.connectionPhase ≠ .connected &&
        runtime.state.connectionPhase ≠ .connecting && !runtime.state.fallback.active then
      restored.requestConnect platform false "connectivity_restore" nowMs
    else restored
  else
    ((runtime.recordConnectionEvent "network_unavailable" [] nowMs).reconnectAfter platform
      (.transportFailure "network_unavailable") "network_unavailable" nowMs).2

def onAudioInterruptionBegan (nowMs : Int) : SessionRuntime Map :=
  if runtime.userInitiatedDisconnect then runtime
  else
    ((runtime.recordConnectionEvent "audio_interruption_began" [] nowMs).reconnectAfter platform
      (.transportFailure "audio_interruption") "audio_interruption" nowMs).2

def onAudioInterruptionEnded (shouldReconnect : Bool) (nowMs : Int) : SessionRuntime Map :=
  if runtime.userInitiatedDisconnect then runtime
  else
    let ended :=
      runtime.recordConnectionEvent "audio_interruption_ended"
        [("should_reconnect", if shouldReconnect then "true" else "false")] nowMs
    if !shouldReconnect || runtime.appInBackground || runtime.state.fallback.active then ended
    else if runtime.state.connectionPhase ≠ .connected &&
        runtime.state.connectionPhase ≠ .connecting then
      ended.requestConnect platform false "audio_interruption_end" nowMs
    else ended

def onAudioRouteChanged (reason : String) (nowMs : Int) : SessionRuntime Map :=
  runtime.recordConnectionEvent "audio_route_changed" [("reason", reason)] nowMs

def onTransportConnected (nowMs : Int) : List ProtocolFrame × SessionRuntime Map :=
  if runtime.appInBackground then
    let recorded :=
      { runtime with reconnectDueAtMs := none }.recordConnectionEvent
        "transport_connected_while_backgrounded" [] nowMs
    ([],
      recorded.applyEvent platform (.transportDisconnected "backgrounded_before_handshake") nowMs)
  else
    let recorded :=
      { runtime with
        userInitiatedDisconnect := false
        reconnectAttempt := 0
        reconnectDueAtMs := none }.recordConnectionEvent "transport_connected" [] nowMs
    let connected := recorded.applyEvent platform .transportConnected nowMs
    (connected.handshakeFrames platform nowMs, connected)

def onTransportDisconnected (reason : String) (nowMs : Int) :
    RuntimeDirective × SessionRuntime Map :=
  (runtime.recordConnectionEvent "transport_disconnected" [("reason", reason)] nowMs).reconnectAfter
    platform (.transportDisconnected reason) reason nowMs

def onTransportFailure (message : String) (nowMs : Int) : RuntimeDirective × SessionRuntime Map :=
  (runtime.recordConnectionEvent "transport_failure" [("message", message)] nowMs).reconnectAfter
    platform (.transportFailure message) message nowMs

def onSendFailure (message : String) (nowMs : Int) : SessionRuntime Map :=
  (runtime.recordConnectionEvent "send_failure" [("message", message)] nowMs).applyEvent platform
    (.frameSendFailed message) nowMs

def onManualDisconnect (nowMs : Int) : SessionRuntime Map :=
  ({ runtime with
    userInitiatedDisconnect := true
    reconnectDueAtMs := none }.recordConnectionEvent "manual_disconnect" [] nowMs).applyEvent
      platform .manualDisconnected nowMs

def takeReconnectIfDue (nowMs : Int) : Bool × SessionRuntime Map :=
  match runtime.reconnectDueAtMs with
  | none => (false, runtime)
  | some dueAtMs =>
      if nowMs < dueAtMs || runtime.userInitiatedDisconnect || runtime.state.fallback.active ||
          runtime.appInBackground then
        (false, runtime)
      else
        let taken :=
          { runtime with reconnectDueAtMs := none }.recordConnectionEvent "reconnect_attempt" []
            nowMs
        (true, taken.requestConnect platform false "reconnect" nowMs)

/-- The acknowledgement of a key epoch that the session has reached. -/
def acknowledge (frame : E2eeKeyEpochFrame) (participantId : String) (signatureOk : Bool)
    (nowMs : Int) : List ProtocolFrame × SessionRuntime Map :=
  if signatureOk && frame.epoch ≤ runtime.state.e2eeState.currentEpoch then
    let ack := ProtocolFrame.keyRotationAck frame.epoch participantId nowMs
    ([ack], runtime.applyEvent platform (.frameReceived ack) nowMs)
  else ([], runtime)

end SessionRuntime

/-! ## Calls -/

inductive Operation where
  | connectRequested
  | onAppForegrounded
  | onAppBackgrounded
  | onConnectivityChanged (available : Bool)
  | onAudioInterruptionBegan
  | onAudioInterruptionEnded (shouldReconnect : Bool)
  | onAudioRouteChanged (reason : String)
  | onTransportConnected
  | onTransportDisconnected (reason : String)
  | onTransportFailure (message : String)
  | onSendFailure (message : String)
  | onManualDisconnect
  | onFrame (frame : ProtocolFrame)
  | recoverFromFallback
  | takeReconnectIfDue
  deriving DecidableEq

structure RuntimeCall where
  operation : Operation
  nowMs : Int
  deriving DecidableEq

/-- What a call returns. -/
inductive Answer where
  | done
  | frames (frames : List ProtocolFrame)
  | directive (directive : RuntimeDirective)
  | taken (taken : Bool)
  deriving DecidableEq

/-- The frames that a call returns. -/
def Answer.sent : Answer → List ProtocolFrame
  | .frames list => list
  | .done | .directive _ | .taken _ => []

/-- The runtime of a client. -/
structure RuntimeClient (Map : Type → Type) where
  platform : Platform Map
  onFrame : SessionRuntime Map → ProtocolFrame → Int → List ProtocolFrame × SessionRuntime Map
  recoverFromFallback : SessionRuntime Map → Int → SessionRuntime Map

namespace RuntimeClient

variable (client : RuntimeClient Map) (runtime : SessionRuntime Map)

def perform (call : RuntimeCall) : Answer × SessionRuntime Map :=
  let platform := client.platform
  let nowMs := call.nowMs
  match call.operation with
  | .connectRequested => (.done, runtime.connectRequested platform nowMs)
  | .onAppForegrounded => (.done, runtime.onAppForegrounded platform nowMs)
  | .onAppBackgrounded => (.done, runtime.onAppBackgrounded platform nowMs)
  | .onConnectivityChanged available =>
      (.done, runtime.onConnectivityChanged platform available nowMs)
  | .onAudioInterruptionBegan => (.done, runtime.onAudioInterruptionBegan platform nowMs)
  | .onAudioInterruptionEnded shouldReconnect =>
      (.done, runtime.onAudioInterruptionEnded platform shouldReconnect nowMs)
  | .onAudioRouteChanged reason => (.done, runtime.onAudioRouteChanged reason nowMs)
  | .onTransportConnected => (runtime.onTransportConnected platform nowMs).map .frames id
  | .onTransportDisconnected reason =>
      (runtime.onTransportDisconnected platform reason nowMs).map .directive id
  | .onTransportFailure message =>
      (runtime.onTransportFailure platform message nowMs).map .directive id
  | .onSendFailure message => (.done, runtime.onSendFailure platform message nowMs)
  | .onManualDisconnect => (.done, runtime.onManualDisconnect platform nowMs)
  | .onFrame frame => (client.onFrame runtime frame nowMs).map .frames id
  | .recoverFromFallback => (.done, client.recoverFromFallback runtime nowMs)
  | .takeReconnectIfDue => (runtime.takeReconnectIfDue platform nowMs).map .taken id

def performAll (calls : List RuntimeCall) : SessionRuntime Map :=
  calls.foldl (fun runtime call => (client.perform runtime call).2) runtime

/-- What the calls return, in order. -/
def answers : SessionRuntime Map → List RuntimeCall → List Answer
  | _, [] => []
  | runtime, call :: calls =>
      (client.perform runtime call).1 :: answers (client.perform runtime call).2 calls

/-- The condition holds of every call and of the runtime that it is made on. -/
def Throughout (condition : SessionRuntime Map → RuntimeCall → Prop) :
    SessionRuntime Map → List RuntimeCall → Prop
  | _, [] => True
  | runtime, call :: calls =>
      condition runtime call ∧ Throughout condition (client.perform runtime call).2 calls

theorem performAll_append (first second : List RuntimeCall) :
    client.performAll runtime (first ++ second) =
      client.performAll (client.performAll runtime first) second :=
  List.foldl_append

end RuntimeClient

/-! ## What the runtime makes of the tables -/

/-- The runtime over the view of its state. -/
@[simps -fullyApplied] def SessionRuntime.view (runtime : SessionRuntime Table) :
    SessionRuntime Directory :=
  { runtime with state := runtime.state.view }

/-- The second platform does on views what the first does on states. -/
structure Platform.Views (platform : Platform Table) (machine : Platform Directory) : Prop where
  reduce : ∀ state event nowMs,
    (platform.reduce state event nowMs).view = machine.reduce state.view event nowMs
  hasRequiredSignature : ∀ signature state,
    platform.hasRequiredSignature signature state =
      machine.hasRequiredSignature signature state.view
  dueAt : platform.dueAt = machine.dueAt
  normalizeParticipantId : platform.normalizeParticipantId = machine.normalizeParticipantId

namespace SessionRuntime

variable {platform : Platform Table} {machine : Platform Directory}
  (views : platform.Views machine) (runtime : SessionRuntime Table)

theorem stateTransitionTelemetry_view (previous next : ClientState) (nowMs : Int) :
    stateTransitionTelemetry previous.view next.view nowMs =
      stateTransitionTelemetry previous next nowMs :=
  rfl

include views

theorem applyEvent_view (event : ProtocolEvent) (nowMs : Int) :
    (runtime.applyEvent platform event nowMs).view =
      runtime.view.applyEvent machine event nowMs := by
  simp only [applyEvent, view, ← views.reduce, stateTransitionTelemetry_view]

theorem requestConnect_view (resetBackoff : Bool) (source : String) (nowMs : Int) :
    (runtime.requestConnect platform resetBackoff source nowMs).view =
      runtime.view.requestConnect machine resetBackoff source nowMs := by
  unfold requestConnect
  rw [apply_ite view]
  exact if_congr Iff.rfl rfl (applyEvent_view views _ _ nowMs)

theorem scheduleReconnectOrFallback_view (trigger : String) (nowMs : Int) :
    (runtime.scheduleReconnectOrFallback platform trigger nowMs).map id view =
      runtime.view.scheduleReconnectOrFallback machine trigger nowMs := by
  simp only [scheduleReconnectOrFallback, view, ← views.reduce, ← views.dueAt,
    ProtocolSessionState.view_fallback]
  split
  · rfl
  · split
    · rfl
    · split <;> rfl

theorem reconnectAfter_view (event : ProtocolEvent) (trigger : String) (nowMs : Int) :
    (runtime.reconnectAfter platform event trigger nowMs).map id view =
      runtime.view.reconnectAfter machine event trigger nowMs := by
  simp only [reconnectAfter, ← applyEvent_view views]
  rw [apply_ite (Prod.map id view), scheduleReconnectOrFallback_view views]
  rfl

theorem reconnectAfter_view_snd (event : ProtocolEvent) (trigger : String) (nowMs : Int) :
    (runtime.reconnectAfter platform event trigger nowMs).2.view =
      (runtime.view.reconnectAfter machine event trigger nowMs).2 := by
  rw [← reconnectAfter_view views]
  rfl

theorem handshakeFrames_view (nowMs : Int) :
    runtime.handshakeFrames platform nowMs = runtime.view.handshakeFrames machine nowMs := by
  simp only [handshakeFrames, resolvedParticipantId, views.normalizeParticipantId]
  rfl

theorem onAppForegrounded_view (nowMs : Int) :
    (runtime.onAppForegrounded platform nowMs).view =
      runtime.view.onAppForegrounded machine nowMs := by
  simp only [onAppForegrounded, apply_ite view, requestConnect_view views]
  rfl

theorem onAppBackgrounded_view (nowMs : Int) :
    (runtime.onAppBackgrounded platform nowMs).view =
      runtime.view.onAppBackgrounded machine nowMs := by
  simp only [onAppBackgrounded, apply_ite view, applyEvent_view views]
  rfl

theorem onConnectivityChanged_view (available : Bool) (nowMs : Int) :
    (runtime.onConnectivityChanged platform available nowMs).view =
      runtime.view.onConnectivityChanged machine available nowMs := by
  unfold onConnectivityChanged
  rw [apply_ite view]
  refine if_congr Iff.rfl rfl ?_
  cases available with
  | false => exact reconnectAfter_view_snd views _ _ _ nowMs
  | true =>
      simp only [apply_ite view, requestConnect_view views]
      rfl

theorem onAudioInterruptionBegan_view (nowMs : Int) :
    (runtime.onAudioInterruptionBegan platform nowMs).view =
      runtime.view.onAudioInterruptionBegan machine nowMs := by
  unfold onAudioInterruptionBegan
  rw [apply_ite view]
  exact if_congr Iff.rfl rfl (reconnectAfter_view_snd views _ _ _ nowMs)

theorem onAudioInterruptionEnded_view (shouldReconnect : Bool) (nowMs : Int) :
    (runtime.onAudioInterruptionEnded platform shouldReconnect nowMs).view =
      runtime.view.onAudioInterruptionEnded machine shouldReconnect nowMs := by
  simp only [onAudioInterruptionEnded, apply_ite view, requestConnect_view views]
  rfl

theorem onTransportConnected_view (nowMs : Int) :
    (runtime.onTransportConnected platform nowMs).map id view =
      runtime.view.onTransportConnected machine nowMs := by
  simp only [onTransportConnected, apply_ite (Prod.map id view), handshakeFrames_view views,
    Prod.map_apply, applyEvent_view views]
  rfl

theorem onManualDisconnect_view (nowMs : Int) :
    (runtime.onManualDisconnect platform nowMs).view =
      runtime.view.onManualDisconnect machine nowMs :=
  applyEvent_view views _ _ nowMs

theorem takeReconnectIfDue_view (nowMs : Int) :
    (runtime.takeReconnectIfDue platform nowMs).map id view =
      runtime.view.takeReconnectIfDue machine nowMs := by
  unfold takeReconnectIfDue
  rw [view_reconnectDueAtMs]
  cases runtime.reconnectDueAtMs with
  | none => rfl
  | some dueAtMs =>
      simp only [apply_ite (Prod.map id view), Prod.map_apply, requestConnect_view views]
      rfl

theorem acknowledge_view (frame : E2eeKeyEpochFrame) (participantId : String)
    (signatureOk : Bool) (nowMs : Int) :
    (runtime.acknowledge platform frame participantId signatureOk nowMs).map id view =
      runtime.view.acknowledge machine frame participantId signatureOk nowMs := by
  simp only [acknowledge, apply_ite (Prod.map id view), Prod.map_apply, applyEvent_view views]
  rfl

end SessionRuntime

/-- The second client does on views what the first does on runtimes. -/
structure RuntimeClient.Views (client : RuntimeClient Table) (machine : RuntimeClient Directory) :
    Prop where
  platform : client.platform.Views machine.platform
  onFrame : ∀ runtime frame nowMs,
    (client.onFrame runtime frame nowMs).map id SessionRuntime.view =
      machine.onFrame runtime.view frame nowMs
  recoverFromFallback : ∀ runtime nowMs,
    (client.recoverFromFallback runtime nowMs).view =
      machine.recoverFromFallback runtime.view nowMs

namespace RuntimeClient

variable {client : RuntimeClient Table} {machine : RuntimeClient Directory}

theorem perform_view (views : client.Views machine) (runtime : SessionRuntime Table)
    (call : RuntimeCall) :
    (client.perform runtime call).map id SessionRuntime.view =
      machine.perform runtime.view call := by
  have platform := views.platform
  obtain ⟨operation, nowMs⟩ := call
  cases operation with
  | connectRequested =>
      exact congrArg (Prod.mk _) (runtime.requestConnect_view platform true "manual" nowMs)
  | onAppForegrounded => exact congrArg (Prod.mk _) (runtime.onAppForegrounded_view platform nowMs)
  | onAppBackgrounded => exact congrArg (Prod.mk _) (runtime.onAppBackgrounded_view platform nowMs)
  | onConnectivityChanged available =>
      exact congrArg (Prod.mk _) (runtime.onConnectivityChanged_view platform available nowMs)
  | onAudioInterruptionBegan =>
      exact congrArg (Prod.mk _) (runtime.onAudioInterruptionBegan_view platform nowMs)
  | onAudioInterruptionEnded shouldReconnect =>
      exact congrArg (Prod.mk _)
        (runtime.onAudioInterruptionEnded_view platform shouldReconnect nowMs)
  | onAudioRouteChanged reason => rfl
  | onTransportConnected =>
      exact congrArg (Prod.map Answer.frames id) (runtime.onTransportConnected_view platform nowMs)
  | onTransportDisconnected reason =>
      exact congrArg (Prod.map Answer.directive id)
        (SessionRuntime.reconnectAfter_view platform _ _ reason nowMs)
  | onTransportFailure message =>
      exact congrArg (Prod.map Answer.directive id)
        (SessionRuntime.reconnectAfter_view platform _ _ message nowMs)
  | onSendFailure message =>
      exact congrArg (Prod.mk _) (SessionRuntime.applyEvent_view platform _ _ nowMs)
  | onManualDisconnect =>
      exact congrArg (Prod.mk _) (runtime.onManualDisconnect_view platform nowMs)
  | onFrame frame => exact congrArg (Prod.map Answer.frames id) (views.onFrame runtime frame nowMs)
  | recoverFromFallback =>
      exact congrArg (Prod.mk _) (views.recoverFromFallback runtime nowMs)
  | takeReconnectIfDue =>
      exact congrArg (Prod.map Answer.taken id) (runtime.takeReconnectIfDue_view platform nowMs)

end RuntimeClient

end Kaigi.Session
