import Kaigi.Session.LinuxRuntime
import Kaigi.Session.Steps

/-!
# After a manual disconnect

A session that the user has disconnected is to stay so until the user connects again or
leaves the fallback. The events of the lifecycle, of the network and of the audio
respect this; the callbacks of the old transport do not look at what the user decided,
and a frame may still reject or acknowledge.
-/

set_option autoImplicit false

namespace Kaigi.Session

/-! ## Frames -/

/-- Disconnected, and without an error. -/
def Idle (state : SessionView) : Prop :=
  state.connectionPhase = .disconnected ∧ state.handshakeComplete = false ∧
    state.lastError = none

/-- The frame neither rejects, nor acknowledges the handshake, nor downgrades the picture. -/
def quietFrame (rules : Rules) (state : SessionView) : ProtocolFrame → Bool
  | .handshakeAck _ _ _ | .error _ _ _ => false
  | .roleGrant frame => passes rules state frame.guard
  | .roleRevoke frame => passes rules state frame.guard
  | .moderationSigned frame => passes rules state frame.guard
  | .sessionPolicy frame =>
      passes rules state frame.guard &&
        (frame.policyEpoch < state.policyEpoch ||
          !(frame.e2eeRequired && state.e2eeState.currentEpoch ≤ 0))
  | .mediaProfileNegotiation profile => !downgraded profile
  | .e2eeKeyEpoch frame =>
      signed rules state frame.signature &&
        !(state.e2eeRequired && max state.e2eeState.currentEpoch frame.epoch ≤ 0)
  | .paymentPolicy required _ => !(state.config.requirePaymentSettlement && required)
  | .paymentSettlement status =>
      !(state.config.requirePaymentSettlement && state.paymentState.required &&
        (status = .pending || status = .blocked))
  | .participantPresenceDelta _ | .permissionsSnapshot _ _ _ | .recordingNotice _ _
  | .keyRotationAck _ _ _ | .handshake _ | .deviceCapability _ | .ping _ | .pong _ => true

section

variable {rules : Rules} {state accepted : SessionView} {nowMs : Int}

/-- The session goes on as it is. -/
def Undisturbed (state next : SessionView) : Prop :=
  Idle next ∧ next.fallback = state.fallback

/-- The session is shown as another one, or has an error. -/
def Disturbed (next : SessionView) : Prop :=
  next.connectionPhase ≠ .disconnected ∨ next.lastError ≠ none

theorem reject_disturbed (rules : Rules) (state : SessionView) (nowMs : Int)
    (code message : String) : Disturbed (reject rules state nowMs code message) :=
  .inr (Option.some_ne_none _)

theorem relieve_undisturbed {next : SessionView} (undisturbed : Undisturbed state next)
    (lifted : SessionError → Bool) : Undisturbed state (relieve rules lifted next) := by
  have none : next.lastError = none := undisturbed.1.2.2
  rw [relieve, none]
  exact undisturbed

theorem checkPayment_undisturbed {next : SessionView} (undisturbed : Undisturbed state next)
    (settled : (!paymentDue next) = true) : Undisturbed state (checkPayment rules next nowMs) := by
  rw [checkPayment, if_neg (by simpa using settled)]
  exact relieve_undisturbed undisturbed _

theorem checkEpoch_undisturbed {next : SessionView} (undisturbed : Undisturbed state next)
    (known : (!epochDue next) = true) : Undisturbed state (checkEpoch rules next nowMs) := by
  rw [checkEpoch, if_neg (by simpa using known)]
  exact relieve_undisturbed undisturbed _

theorem checkPayment_disturbed (due : paymentDue state = true) :
    Disturbed (checkPayment rules state nowMs) := by
  rw [checkPayment, if_pos due]
  split <;> exact reject_disturbed rules state nowMs _ _

theorem checkEpoch_disturbed (due : epochDue state = true) :
    Disturbed (checkEpoch rules state nowMs) := by
  rw [checkEpoch, if_pos due]
  exact reject_disturbed rules state nowMs _ _

theorem paymentDue_setPayment (required : Bool) (destination : Option String) :
    paymentDue (setPayment state required destination) =
      (state.config.requirePaymentSettlement && required) := by
  cases required <;> simp [paymentDue, setPayment]

theorem guarded_undisturbed {guard : Guard} (passed : passes rules state guard = true)
    (undisturbed : Undisturbed state accepted) :
    Undisturbed state (guarded rules state nowMs guard accepted) := by
  rw [guarded, if_pos passed]
  exact undisturbed

theorem guarded_disturbed {guard : Guard} (failed : passes rules state guard = false) :
    Disturbed (guarded rules state nowMs guard accepted) := by
  rw [guarded, if_neg (Bool.not_eq_true _ ▸ failed)]
  unfold refuse
  split <;> exact reject_disturbed rules state nowMs _ _

theorem receive_undisturbed (idle : Idle state) {frame : ProtocolFrame}
    (quiet : quietFrame rules state frame = true) :
    Undisturbed state (receive rules state frame nowMs) := by
  have same : Undisturbed state state := ⟨idle, rfl⟩
  cases frame with
  | handshakeAck _ _ _ | error _ _ _ => cases quiet
  | participantPresenceDelta frame =>
      simp only [receive]
      split
      · exact same
      · exact same
  | roleGrant frame | roleRevoke frame | moderationSigned frame =>
      exact guarded_undisturbed quiet same
  | permissionsSnapshot name effectivePermissions epoch =>
      simp only [receive]
      split
      · exact same
      · exact same
  | sessionPolicy frame =>
      simp only [quietFrame, Bool.and_eq_true, Bool.or_eq_true, decide_eq_true_eq] at quiet
      obtain ⟨passed, stale | known⟩ := quiet
      · refine guarded_undisturbed passed ?_
        rw [if_pos stale]
        exact same
      · refine guarded_undisturbed passed ?_
        split
        · exact same
        · exact checkEpoch_undisturbed same known
  | mediaProfileNegotiation profile =>
      have kept : downgraded profile = false := by simpa [quietFrame] using quiet
      refine ⟨⟨?_, idle.2⟩, rfl⟩
      simp [receive, kept, idle.1, idle.2.1]
  | e2eeKeyEpoch frame =>
      simp only [quietFrame, Bool.and_eq_true] at quiet
      simp only [receive, quiet.1, ↓reduceIte]
      exact checkEpoch_undisturbed same quiet.2
  | paymentPolicy required destination =>
      refine checkPayment_undisturbed same ?_
      rw [paymentDue_setPayment]
      exact quiet
  | paymentSettlement status => exact checkPayment_undisturbed same quiet
  | recordingNotice _ _ | keyRotationAck _ _ _ | handshake _ | deviceCapability _ | ping _
  | pong _ => exact same

/-- Any other frame disturbs an idle session. -/
theorem receive_disturbed {frame : ProtocolFrame} (loud : quietFrame rules state frame = false) :
    Disturbed (receive rules state frame nowMs) := by
  cases frame with
  | handshakeAck sessionId resumeToken acceptedAtMs =>
      simp only [receive]
      refine .inl ?_
      cases state.fallback.active <;> simp
  | error category code message => exact .inr (Option.some_ne_none _)
  | roleGrant frame | roleRevoke frame | moderationSigned frame => exact guarded_disturbed loud
  | sessionPolicy frame =>
      simp only [receive]
      cases passed : passes rules state frame.guard with
      | false => exact guarded_disturbed passed
      | true =>
          simp only [quietFrame, passed, Bool.true_and, Bool.or_eq_false_iff,
            decide_eq_false_iff_not, Bool.not_eq_eq_eq_not, Bool.not_false] at loud
          rw [guarded, if_pos passed, if_neg loud.1]
          exact checkEpoch_disturbed loud.2
  | mediaProfileNegotiation profile =>
      have down : downgraded profile = true := by simpa [quietFrame] using loud
      refine .inl ?_
      simp [receive, down]
  | e2eeKeyEpoch frame =>
      simp only [receive]
      cases accepted : signed rules state frame.signature with
      | false => exact reject_disturbed rules state nowMs _ _
      | true =>
          simp only [quietFrame, accepted, Bool.true_and, Bool.not_eq_eq_eq_not,
            Bool.not_false] at loud
          exact checkEpoch_disturbed loud
  | paymentPolicy required destination =>
      refine checkPayment_disturbed ?_
      rw [paymentDue_setPayment]
      simpa [quietFrame] using loud
  | paymentSettlement status =>
      have due : (!paymentDue (setSettlement state status)) = false := loud
      exact checkPayment_disturbed (by simpa using due)
  | participantPresenceDelta _ | permissionsSnapshot _ _ _ | recordingNotice _ _
  | keyRotationAck _ _ _ | handshake _ | deviceCapability _ | ping _ | pong _ => cases loud

theorem fail_phase_ne (code message : String) :
    (fail state code message nowMs).connectionPhase ≠ .disconnected := by
  unfold fail
  split <;> intro same <;> cases same

end

/-! ## Calls -/

def Operation.resumes : Operation → Bool
  | .connectRequested | .recoverFromFallback => true
  | _ => false

def ProtocolFrame.isHandshake : ProtocolFrame → Bool
  | .handshake _ => true
  | _ => false

/-- The call leaves a disconnected session disconnected, and nothing goes on in it. -/
structure Stays (runtime : SessionRuntime Table) (call : RuntimeCall) : Prop where
  phase : (Linux.client.perform runtime call).2.state.connectionPhase = .disconnected
  lastError : (Linux.client.perform runtime call).2.state.lastError = none
  reconnect : (Linux.client.perform runtime call).2.reconnectDueAtMs = none
  fallback : (Linux.client.perform runtime call).2.state.fallback = runtime.state.fallback
  handshake : ∀ frame ∈ (Linux.client.perform runtime call).1.sent, frame.isHandshake = false

/-- The call is no callback of the transport, and its frame is a quiet one. -/
def quiet (runtime : SessionRuntime Directory) : Operation → Bool
  | .onTransportConnected | .onTransportDisconnected _ | .onTransportFailure _
  | .onSendFailure _ => false
  | .onFrame frame => quietFrame Linux.rules runtime.state frame
  | _ => true

/-- What a manual disconnect comes to. -/
def Disconnected (runtime : SessionRuntime Directory) : Prop :=
  Idle runtime.state ∧ runtime.userInitiatedDisconnect = true ∧ runtime.reconnectDueAtMs = none

variable (runtime : SessionRuntime Directory) (nowMs : Int)

theorem acknowledge_state (frame : E2eeKeyEpochFrame) (participantId : String)
    (signatureOk : Bool) :
    ∃ e2eeState telemetry,
      (runtime.acknowledge Linux.machinePlatform frame participantId signatureOk nowMs).2 =
        { runtime with state := { runtime.state with e2eeState }, telemetry } := by
  unfold SessionRuntime.acknowledge
  split
  · exact ⟨{ runtime.state.e2eeState with
      lastAckEpoch := max runtime.state.e2eeState.lastAckEpoch frame.epoch }, _, rfl⟩
  · exact ⟨_, _, rfl⟩

/-- A frame does what the reducer makes of it, but for the epochs. -/
theorem onFrame_state (frame : ProtocolFrame) :
    ∃ e2eeState telemetry, (Linux.machine.onFrame runtime frame nowMs).2 =
      { runtime with
        state := { receive Linux.rules runtime.state frame nowMs with e2eeState }, telemetry } := by
  cases frame with
  | e2eeKeyEpoch frame =>
      obtain ⟨e2eeState, telemetry, same⟩ := acknowledge_state
        (runtime.applyEvent Linux.machinePlatform (.frameReceived (.e2eeKeyEpoch frame)) nowMs)
        nowMs frame (runtime.resolvedParticipantId Linux.machinePlatform) _
      exact ⟨e2eeState, telemetry, same⟩
  | _ => exact ⟨_, _, rfl⟩

theorem onFrame_sent (frame : ProtocolFrame) :
    ∀ sent ∈ (Linux.machine.onFrame runtime frame nowMs).1, sent.isHandshake = false := by
  intro sent member
  cases frame with
  | e2eeKeyEpoch frame =>
      simp only [Linux.machine, Linux.runtimeClient, Linux.onFrame,
        SessionRuntime.acknowledge] at member
      split at member
      · rw [List.mem_singleton.mp member]
        rfl
      · cases member
  | ping sentAtMs =>
      rw [List.mem_singleton.mp member]
      rfl
  | _ => cases member

variable {runtime}

theorem perform_quiet (disconnected : Disconnected runtime) {call : RuntimeCall}
    (other : call.operation.resumes = false) (still : quiet runtime call.operation = true) :
    Disconnected (Linux.machine.perform runtime call).2 ∧
      (Linux.machine.perform runtime call).2.state.fallback = runtime.state.fallback ∧
      ∀ frame ∈ (Linux.machine.perform runtime call).1.sent, frame.isHandshake = false := by
  obtain ⟨idle, decided, free⟩ := disconnected
  obtain ⟨operation, nowMs⟩ := call
  have silent (answer : Answer) (sent : answer.sent = []) :
      ∀ frame ∈ answer.sent, frame.isHandshake = false := by
    rw [sent]
    exact List.forall_mem_nil _
  have kept (answer : Answer) (sent : answer.sent = [])
      (same : Linux.machine.perform runtime ⟨operation, nowMs⟩ = (answer, runtime)) :
      Disconnected (Linux.machine.perform runtime ⟨operation, nowMs⟩).2 ∧
        (Linux.machine.perform runtime ⟨operation, nowMs⟩).2.state.fallback =
          runtime.state.fallback ∧
        ∀ frame ∈ (Linux.machine.perform runtime ⟨operation, nowMs⟩).1.sent,
          frame.isHandshake = false := by
    rw [same]
    exact ⟨⟨idle, decided, free⟩, rfl, silent answer sent⟩
  cases operation with
  | connectRequested | recoverFromFallback => cases other
  | onTransportConnected | onTransportDisconnected _ | onTransportFailure _ | onSendFailure _ =>
      cases still
  | onAppForegrounded | onConnectivityChanged _ | onAudioInterruptionBegan
  | onAudioInterruptionEnded _ =>
      exact kept .done rfl (congrArg (Prod.mk Answer.done) (if_pos decided))
  | onAppBackgrounded =>
      have same : Linux.machine.perform runtime ⟨.onAppBackgrounded, nowMs⟩ =
          (.done, { runtime with
            appInBackground := true, reconnectDueAtMs := none }.recordConnectionEvent
              "app_backgrounded" [] nowMs) :=
        congrArg (Prod.mk Answer.done) (if_pos decided)
      rw [same]
      exact ⟨⟨idle, decided, rfl⟩, rfl, silent .done rfl⟩
  | onAudioRouteChanged reason => exact ⟨⟨idle, decided, free⟩, rfl, silent .done rfl⟩
  | onManualDisconnect => exact ⟨⟨⟨rfl, rfl, rfl⟩, rfl, rfl⟩, rfl, silent .done rfl⟩
  | takeReconnectIfDue =>
      refine kept (.taken false) rfl ?_
      simp only [RuntimeClient.perform, SessionRuntime.takeReconnectIfDue, free]
      rfl
  | onFrame frame =>
      obtain ⟨e2eeState, telemetry, same⟩ := onFrame_state runtime nowMs frame
      have undisturbed : Undisturbed runtime.state
          (receive Linux.rules runtime.state frame nowMs) := receive_undisturbed idle still
      have next : (Linux.machine.perform runtime ⟨.onFrame frame, nowMs⟩).2 =
          (Linux.machine.onFrame runtime frame nowMs).2 := rfl
      rw [next, same]
      exact ⟨⟨undisturbed.1, decided, free⟩, undisturbed.2, onFrame_sent runtime nowMs frame⟩

theorem reconnectAfter_disturbed (decided : runtime.userInitiatedDisconnect = true)
    {event : ProtocolEvent} (trigger : String)
    (failed : (step Linux.rules runtime.state event nowMs).connectionPhase ≠ .disconnected) :
    Disturbed (runtime.reconnectAfter Linux.machinePlatform event trigger nowMs).2.state := by
  unfold SessionRuntime.reconnectAfter
  dsimp only
  split
  · exact .inl failed
  · rw [SessionRuntime.scheduleReconnectOrFallback,
      if_pos (by simp [SessionRuntime.applyEvent, decided])]
    exact .inl failed

theorem perform_loud (disconnected : Disconnected runtime) {call : RuntimeCall}
    (loud : quiet runtime call.operation = false) :
    Disturbed (Linux.machine.perform runtime call).2.state := by
  obtain ⟨idle, decided, free⟩ := disconnected
  obtain ⟨operation, nowMs⟩ := call
  cases operation with
  | onTransportConnected =>
      simp only [RuntimeClient.perform, SessionRuntime.onTransportConnected]
      split
      · exact .inl (fail_phase_ne _ _)
      · refine .inl fun same => ?_
        cases same
  | onTransportDisconnected reason =>
      refine reconnectAfter_disturbed nowMs ?_ reason ?_
      · exact decided
      · exact fail_phase_ne _ _
  | onTransportFailure message =>
      refine reconnectAfter_disturbed nowMs ?_ message ?_
      · exact decided
      · exact fail_phase_ne _ _
  | onSendFailure message => exact .inl (fail_phase_ne _ _)
  | onFrame frame =>
      obtain ⟨e2eeState, telemetry, same⟩ := onFrame_state runtime nowMs frame
      have disturbed : Disturbed (receive Linux.rules runtime.state frame nowMs) :=
        receive_disturbed loud
      have next : (Linux.machine.perform runtime ⟨.onFrame frame, nowMs⟩).2 =
          (Linux.machine.onFrame runtime frame nowMs).2 := rfl
      rw [next, same]
      exact disturbed
  | connectRequested | onAppForegrounded | onAppBackgrounded | onConnectivityChanged _
  | onAudioInterruptionBegan | onAudioInterruptionEnded _ | onAudioRouteChanged _
  | onManualDisconnect | recoverFromFallback | takeReconnectIfDue => cases loud

/-! ## Runs -/

theorem stays_iff {runtime : SessionRuntime Table} (disconnected : Disconnected runtime.view)
    {call : RuntimeCall} (other : call.operation.resumes = false) :
    Stays runtime call ↔ quiet runtime.view call.operation = true := by
  have view := RuntimeClient.perform_view Linux.client_views runtime call
  have answer : (Linux.client.perform runtime call).1 =
      (Linux.machine.perform runtime.view call).1 := congrArg Prod.fst view
  have next : (Linux.client.perform runtime call).2.view =
      (Linux.machine.perform runtime.view call).2 := congrArg Prod.snd view
  constructor
  · intro stays
    by_contra loud
    have disturbed := perform_loud disconnected (Bool.not_eq_true _ ▸ loud)
    rw [← next] at disturbed
    obtain phase | lastError := disturbed
    · exact phase stays.phase
    · exact lastError stays.lastError
  · intro still
    obtain ⟨⟨idle, _, free⟩, fallback, silent⟩ := perform_quiet disconnected other still
    rw [← next] at idle free fallback
    rw [← answer] at silent
    exact ⟨idle.1, idle.2.2, free, fallback, silent⟩

theorem throughout_stays_iff {runtime : SessionRuntime Table}
    (disconnected : Disconnected runtime.view) {calls : List RuntimeCall}
    (others : ∀ call ∈ calls, call.operation.resumes = false) :
    Linux.client.Throughout Stays runtime calls ↔
      Linux.client.Throughout (fun runtime call => quiet runtime.view call.operation = true)
        runtime calls := by
  induction calls generalizing runtime with
  | nil => exact Iff.rfl
  | cons call calls ih =>
      obtain ⟨other, others⟩ := List.forall_mem_cons.mp others
      have first := stays_iff disconnected other
      refine (and_congr_right_iff.mpr ?_).trans (and_congr_left fun _ => first)
      intro stays
      have still := first.mp stays
      have next : (Linux.client.perform runtime call).2.view =
          (Linux.machine.perform runtime.view call).2 :=
        congrArg Prod.snd (RuntimeClient.perform_view Linux.client_views runtime call)
      refine ih ?_ others
      rw [next]
      exact (perform_quiet disconnected other still).1

/-- After a manual disconnect the session stays as it is through just those calls that are
quiet. -/
theorem manual_disconnect_final (config : MeetingConfig) (reconnectBackoffMs : List Int)
    (before : List RuntimeCall) (nowMs : Int) {after : List RuntimeCall}
    (others : ∀ call ∈ after, call.operation.resumes = false) :
    Disconnected (Linux.runtimeAfter config reconnectBackoffMs
        (before ++ [⟨.onManualDisconnect, nowMs⟩])).view ∧
      (Linux.client.Throughout Stays (Linux.runtimeAfter config reconnectBackoffMs
          (before ++ [⟨.onManualDisconnect, nowMs⟩])) after ↔
        Linux.client.Throughout (fun runtime call => quiet runtime.view call.operation = true)
          (Linux.runtimeAfter config reconnectBackoffMs
            (before ++ [⟨.onManualDisconnect, nowMs⟩])) after) := by
  have disconnected : Disconnected (Linux.runtimeAfter config reconnectBackoffMs
      (before ++ [⟨.onManualDisconnect, nowMs⟩])).view := by
    rw [Linux.runtimeAfter, RuntimeClient.performAll_append]
    exact ⟨⟨rfl, rfl, rfl⟩, rfl, rfl⟩
  exact ⟨disconnected, throughout_stays_iff disconnected others⟩

/-- What the application still reports, and a ping. -/
def exampleStragglers : List RuntimeCall :=
  [⟨.onAppForegrounded, 2⟩, ⟨.onConnectivityChanged false, 3⟩, ⟨.onFrame (.ping 4), 4⟩]

theorem manual_disconnect_final_example :
    Disconnected (Linux.runtimeAfter exampleConfig [1000]
        ([⟨.connectRequested, 0⟩] ++ [⟨.onManualDisconnect, 1⟩])).view ∧
      (Linux.client.Throughout Stays (Linux.runtimeAfter exampleConfig [1000]
          ([⟨.connectRequested, 0⟩] ++ [⟨.onManualDisconnect, 1⟩])) exampleStragglers ↔
        Linux.client.Throughout (fun runtime call => quiet runtime.view call.operation = true)
          (Linux.runtimeAfter exampleConfig [1000]
            ([⟨.connectRequested, 0⟩] ++ [⟨.onManualDisconnect, 1⟩])) exampleStragglers) :=
  manual_disconnect_final exampleConfig [1000] [⟨.connectRequested, 0⟩] 1 (by decide)

/-- The old transport reports its end after the user has disconnected. -/
def exampleLateCallback : List RuntimeCall :=
  [⟨.connectRequested, 1⟩, ⟨.onTransportConnected, 2⟩, ⟨.onManualDisconnect, 3⟩,
    ⟨.onTransportDisconnected "closed", 4⟩]

theorem manual_disconnect_undone :
    (Linux.runtimeAfter exampleConfig [1000] (exampleLateCallback.take 3)).state.connectionPhase =
        .disconnected ∧
      (Linux.runtimeAfter exampleConfig [1000] exampleLateCallback).state.connectionPhase =
        .degraded ∧
      (Linux.runtimeAfter exampleConfig [1000] exampleLateCallback).state.lastError.isSome =
        true :=
  ⟨rfl, rfl, rfl⟩

end Kaigi.Session
