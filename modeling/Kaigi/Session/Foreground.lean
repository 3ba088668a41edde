import Kaigi.Session.LinuxRuntime
import Kaigi.Session.WindowsRuntime

/-!
# Back to the foreground

A request to connect is deferred while the application is in the background. A return
to the foreground is not noticed where the user has disconnected, so that from then on
the requests of the user are deferred as well.
-/

set_option autoImplicit false

namespace Kaigi.Session

def Operation.isLifecycle : Operation → Bool
  | .onAppForegrounded | .onAppBackgrounded => true
  | _ => false

section

variable {Map : Type → Type} (platform : Platform Map) (runtime : SessionRuntime Map)
  (nowMs : Int)

namespace SessionRuntime

theorem requestConnect_background (resetBackoff : Bool) (source : String) :
    (runtime.requestConnect platform resetBackoff source nowMs).appInBackground =
      runtime.appInBackground := by
  unfold requestConnect
  split <;> rfl

theorem scheduleReconnectOrFallback_background (trigger : String) :
    (runtime.scheduleReconnectOrFallback platform trigger nowMs).2.appInBackground =
      runtime.appInBackground := by
  unfold scheduleReconnectOrFallback
  split
  · rfl
  · split
    · rfl
    · split <;> rfl

theorem reconnectAfter_background (event : ProtocolEvent) (trigger : String) :
    (runtime.reconnectAfter platform event trigger nowMs).2.appInBackground =
      runtime.appInBackground := by
  unfold reconnectAfter
  dsimp only
  split
  · rfl
  · exact scheduleReconnectOrFallback_background platform _ nowMs trigger

theorem acknowledge_background (frame : E2eeKeyEpochFrame) (participantId : String)
    (signatureOk : Bool) :
    (runtime.acknowledge platform frame participantId signatureOk nowMs).2.appInBackground =
      runtime.appInBackground := by
  unfold acknowledge
  split <;> rfl

theorem onAppForegrounded_background :
    (runtime.onAppForegrounded platform nowMs).appInBackground =
      (runtime.userInitiatedDisconnect && runtime.appInBackground) := by
  unfold onAppForegrounded
  cases disconnected : runtime.userInitiatedDisconnect with
  | true => rfl
  | false =>
      simp only [Bool.false_eq_true, ↓reduceIte, Bool.false_and]
      split
      · exact requestConnect_background platform _ nowMs false "foreground"
      · rfl

end SessionRuntime

end

/-- Only the calls of the lifecycle move the application between fore- and background. -/
structure RuntimeClient.KeepsBackground (client : RuntimeClient Table) : Prop where
  onFrame : ∀ runtime frame nowMs,
    (client.onFrame runtime frame nowMs).2.appInBackground = runtime.appInBackground
  recoverFromFallback : ∀ runtime nowMs,
    (client.recoverFromFallback runtime nowMs).appInBackground = runtime.appInBackground
  connects : ∀ state nowMs, client.platform.reduce state .connectRequested nowMs =
    { state with connectionPhase := .connecting, handshakeComplete := false, lastError := none }

variable {client : RuntimeClient Table} {runtime : SessionRuntime Table}

open SessionRuntime

theorem perform_background (keeps : client.KeepsBackground) {call : RuntimeCall}
    (other : call.operation.isLifecycle = false) :
    (client.perform runtime call).2.appInBackground = runtime.appInBackground := by
  obtain ⟨operation, nowMs⟩ := call
  cases operation with
  | onAppForegrounded | onAppBackgrounded => cases other
  | connectRequested => exact requestConnect_background client.platform runtime nowMs true "manual"
  | onConnectivityChanged available =>
      simp only [RuntimeClient.perform, onConnectivityChanged]
      split
      · rfl
      · split
        · split
          · rfl
          · split
            · exact requestConnect_background client.platform _ nowMs false _
            · rfl
        · exact reconnectAfter_background client.platform _ nowMs _ _
  | onAudioInterruptionBegan =>
      simp only [RuntimeClient.perform, onAudioInterruptionBegan]
      split
      · rfl
      · exact reconnectAfter_background client.platform _ nowMs _ _
  | onAudioInterruptionEnded shouldReconnect =>
      simp only [RuntimeClient.perform, onAudioInterruptionEnded]
      split
      · rfl
      · split
        · rfl
        · split
          · exact requestConnect_background client.platform _ nowMs false _
          · rfl
  | onTransportConnected =>
      simp only [RuntimeClient.perform, onTransportConnected]
      split <;> rfl
  | onTransportDisconnected _ | onTransportFailure _ =>
      exact reconnectAfter_background client.platform _ nowMs _ _
  | onFrame frame => exact keeps.onFrame runtime frame nowMs
  | recoverFromFallback => exact keeps.recoverFromFallback runtime nowMs
  | takeReconnectIfDue =>
      simp only [RuntimeClient.perform, takeReconnectIfDue]
      split
      · rfl
      · split
        · rfl
        · exact requestConnect_background client.platform _ nowMs false _
  | onAudioRouteChanged _ | onSendFailure _ | onManualDisconnect => rfl

theorem performAll_background (keeps : client.KeepsBackground) {calls : List RuntimeCall}
    (others : ∀ call ∈ calls, call.operation.isLifecycle = false) :
    (client.performAll runtime calls).appInBackground = runtime.appInBackground := by
  induction calls generalizing runtime with
  | nil => rfl
  | cons call calls ih =>
      obtain ⟨other, others⟩ := List.forall_mem_cons.mp others
      exact (ih others).trans (perform_background keeps other)

/-- The request of the user sets the phase, and is not recorded as deferred. -/
def TakesEffect (client : RuntimeClient Table) (runtime : SessionRuntime Table) (nowMs : Int) :
    Prop :=
  (client.perform runtime ⟨.connectRequested, nowMs⟩).2.state.connectionPhase = .connecting ∧
    ∀ event ∈ (client.perform runtime ⟨.connectRequested, nowMs⟩).2.telemetry.drop
      runtime.telemetry.length, event.name ≠ "connect_deferred_backgrounded"

theorem takesEffect_iff (keeps : client.KeepsBackground) (nowMs : Int) :
    TakesEffect client runtime nowMs ↔ runtime.appInBackground = false := by
  unfold TakesEffect
  simp only [RuntimeClient.perform, connectRequested, requestConnect]
  cases background : runtime.appInBackground with
  | true => simp [recordConnectionEvent]
  | false =>
      simp only [Bool.false_eq_true, ↓reduceIte, applyEvent, recordConnectionEvent, keeps.connects,
        List.append_assoc, List.drop_left]
      simp [stateTransitionTelemetry]

/-! ## The clients -/

theorem Linux.client_keepsBackground : Linux.client.KeepsBackground where
  onFrame := by
    intro runtime frame nowMs
    cases frame with
    | e2eeKeyEpoch frame => exact acknowledge_background Linux.platform _ nowMs frame _ _
    | _ => rfl
  recoverFromFallback := fun runtime nowMs =>
    requestConnect_background Linux.platform _ nowMs false "fallback_recovery"
  connects := fun _ _ => rfl

theorem Windows.client_keepsBackground : Windows.client.KeepsBackground where
  onFrame := by
    intro runtime frame nowMs
    cases frame with
    | e2eeKeyEpoch frame => exact acknowledge_background Windows.platform _ nowMs frame _ _
    | _ => rfl
  recoverFromFallback := fun _ _ => rfl
  connects := fun _ _ => rfl

/-- The last call of the lifecycle is the return to the foreground. -/
theorem takesEffect_foregrounded_iff (keeps : client.KeepsBackground) (foregroundMs nowMs : Int)
    {after : List RuntimeCall} (others : ∀ call ∈ after, call.operation.isLifecycle = false) :
    TakesEffect client (client.performAll runtime (⟨.onAppForegrounded, foregroundMs⟩ :: after))
        nowMs ↔
      ¬(runtime.userInitiatedDisconnect = true ∧ runtime.appInBackground = true) := by
  have background : (client.performAll runtime
      (⟨.onAppForegrounded, foregroundMs⟩ :: after)).appInBackground =
        (runtime.userInitiatedDisconnect && runtime.appInBackground) :=
    (performAll_background keeps others).trans
      (onAppForegrounded_background client.platform runtime foregroundMs)
  rw [takesEffect_iff keeps, background, Bool.and_eq_false_iff, not_and_or, Bool.not_eq_true,
    Bool.not_eq_true]

theorem foreground_connects (config : MeetingConfig) (reconnectBackoffMs : List Int)
    (before : List RuntimeCall) (foregroundMs nowMs : Int) {after : List RuntimeCall}
    (others : ∀ call ∈ after, call.operation.isLifecycle = false) :
    (TakesEffect Linux.client (Linux.runtimeAfter config reconnectBackoffMs
          (before ++ ⟨.onAppForegrounded, foregroundMs⟩ :: after)) nowMs ↔
        ¬((Linux.runtimeAfter config reconnectBackoffMs before).userInitiatedDisconnect = true ∧
          (Linux.runtimeAfter config reconnectBackoffMs before).appInBackground = true)) ∧
      (TakesEffect Windows.client (Windows.runtimeAfter config reconnectBackoffMs
          (before ++ ⟨.onAppForegrounded, foregroundMs⟩ :: after)) nowMs ↔
        ¬((Windows.runtimeAfter config reconnectBackoffMs before).userInitiatedDisconnect = true ∧
          (Windows.runtimeAfter config reconnectBackoffMs before).appInBackground = true)) := by
  constructor
  · rw [Linux.runtimeAfter, RuntimeClient.performAll_append]
    exact takesEffect_foregrounded_iff Linux.client_keepsBackground foregroundMs nowMs others
  · rw [Windows.runtimeAfter, RuntimeClient.performAll_append]
    exact takesEffect_foregrounded_iff Windows.client_keepsBackground foregroundMs nowMs others

/-- The transport connects after the return. -/
def exampleReturn : List RuntimeCall :=
  [⟨.onTransportConnected, 3⟩]

theorem foreground_connects_example :
    (TakesEffect Linux.client (Linux.runtimeAfter exampleConfig []
          ([⟨.onAppBackgrounded, 1⟩] ++ ⟨.onAppForegrounded, 2⟩ :: exampleReturn)) 4 ↔
        ¬((Linux.runtimeAfter exampleConfig []
            [⟨.onAppBackgrounded, 1⟩]).userInitiatedDisconnect = true ∧
          (Linux.runtimeAfter exampleConfig []
            [⟨.onAppBackgrounded, 1⟩]).appInBackground = true)) ∧
      (TakesEffect Windows.client (Windows.runtimeAfter exampleConfig []
          ([⟨.onAppBackgrounded, 1⟩] ++ ⟨.onAppForegrounded, 2⟩ :: exampleReturn)) 4 ↔
        ¬((Windows.runtimeAfter exampleConfig []
            [⟨.onAppBackgrounded, 1⟩]).userInitiatedDisconnect = true ∧
          (Windows.runtimeAfter exampleConfig []
            [⟨.onAppBackgrounded, 1⟩]).appInBackground = true)) :=
  foreground_connects exampleConfig [] [⟨.onAppBackgrounded, 1⟩] 2 4 (by decide)

/-- The user disconnects in the background, and asks to connect after the return. -/
def exampleDeadEnd : List RuntimeCall :=
  [⟨.onAppBackgrounded, 1⟩, ⟨.onManualDisconnect, 2⟩, ⟨.onAppForegrounded, 3⟩,
    ⟨.connectRequested, 4⟩]

theorem foreground_deferred :
    (Linux.runtimeAfter exampleConfig [] exampleDeadEnd).state.connectionPhase = .disconnected ∧
      (Windows.runtimeAfter exampleConfig [] exampleDeadEnd).state.connectionPhase =
        .disconnected ∧
      ¬TakesEffect Linux.client
        (Linux.runtimeAfter exampleConfig [] (exampleDeadEnd.take 3)) 4 := by
  refine ⟨rfl, rfl, ?_⟩
  rw [takesEffect_iff Linux.client_keepsBackground]
  decide

end Kaigi.Session
