import Kaigi.Session.Runtime
import Kaigi.Session.Steps

/-!
# Failures that need a reconnect

Four entry points of the runtime report that the transport is gone. Each of them takes the
next delay of the backoff list, or the fallback where the list is exhausted.
-/

set_option autoImplicit false

namespace Kaigi.Session

variable {Map : Type → Type}

/-- A failure: the event that it is, what the reconnect is put down to, and what is recorded. -/
structure Failure where
  event : ProtocolEvent
  trigger : String
  name : String
  attributes : List (String × String)

def Operation.failure? : Operation → Option Failure
  | .onConnectivityChanged false =>
      some ⟨.transportFailure "network_unavailable", "network_unavailable", "network_unavailable",
        []⟩
  | .onAudioInterruptionBegan =>
      some ⟨.transportFailure "audio_interruption", "audio_interruption",
        "audio_interruption_began", []⟩
  | .onTransportDisconnected reason =>
      some ⟨.transportDisconnected reason, reason, "transport_disconnected", [("reason", reason)]⟩
  | .onTransportFailure message =>
      some ⟨.transportFailure message, message, "transport_failure", [("message", message)]⟩
  | _ => none

/-- The runtime is to reconnect by itself. -/
structure SessionRuntime.Reconnecting (runtime : SessionRuntime Map) : Prop where
  wanted : runtime.userInitiatedDisconnect = false
  foreground : runtime.appInBackground = false
  direct : runtime.state.fallback.active = false
  vacant : runtime.reconnectDueAtMs = none

/-- Some of the failures do not count after the user has disconnected. -/
theorem RuntimeClient.perform_failure (client : RuntimeClient Map) {operation : Operation}
    {failure : Failure} (found : operation.failure? = some failure) (runtime : SessionRuntime Map)
    (nowMs : Int) :
    runtime.userInitiatedDisconnect = true ∧
        (client.perform runtime ⟨operation, nowMs⟩).2 = runtime ∨
      (client.perform runtime ⟨operation, nowMs⟩).2 =
        ((runtime.recordConnectionEvent failure.name failure.attributes nowMs).reconnectAfter
          client.platform failure.event failure.trigger nowMs).2 := by
  cases operation with
  | onTransportDisconnected _ | onTransportFailure _ =>
      cases found
      exact .inr rfl
  | onAudioInterruptionBegan =>
      cases found
      simp only [perform, SessionRuntime.onAudioInterruptionBegan]
      split
      · next disconnected => exact .inl ⟨disconnected, rfl⟩
      · exact .inr rfl
  | onConnectivityChanged available =>
      cases available with
      | true => cases found
      | false =>
          cases found
          simp only [perform, SessionRuntime.onConnectivityChanged]
          split
          · next disconnected => exact .inl ⟨disconnected, rfl⟩
          · exact .inr rfl
  | _ => cases found

/-! ## The fallback -/

/-- The event says nothing about the fallback. -/
def ProtocolEvent.leavesFallback : ProtocolEvent → Bool
  | .connectRequested | .transportConnected | .transportDisconnected _ | .transportFailure _
  | .frameSendFailed _ | .manualDisconnected | .frameReceived (.keyRotationAck _ _ _) => true
  | .fallbackActivated _ | .fallbackRecovered | .configUpdated _ | .frameReceived _ => false

/-- What the runtime relies on about the fallback. -/
structure Platform.MindsFallback (platform : Platform Map) : Prop where
  left : ∀ state event nowMs, event.leavesFallback = true →
    (platform.reduce state event nowMs).fallback.active = state.fallback.active
  activated : ∀ state reason nowMs,
    (platform.reduce state (.fallbackActivated reason) nowMs).fallback.active = true
  recovered : ∀ state nowMs,
    (platform.reduce state .fallbackRecovered nowMs).fallback.active = false

theorem step_leavesFallback (rules : Rules) (state : SessionView) (nowMs : Int)
    {event : ProtocolEvent} (leaves : event.leavesFallback = true) :
    (step rules state event nowMs).fallback.active = state.fallback.active := by
  cases event with
  | transportDisconnected _ | transportFailure _ | frameSendFailed _ =>
      simp only [step, fail]
      split <;> rfl
  | frameReceived frame =>
      cases frame with
      | keyRotationAck _ _ _ => rfl
      | _ => cases leaves
  | connectRequested | transportConnected | manualDisconnected => rfl
  | fallbackActivated _ | fallbackRecovered | configUpdated _ => cases leaves

theorem Platform.Views.mindsFallback {platform : Platform Table} {machine : Platform Directory}
    {rules : Rules} (views : platform.Views machine) (steps : machine.reduce = step rules) :
    platform.MindsFallback where
  left := by
    intro state event nowMs leaves
    have viewed := views.reduce state event nowMs
    rw [steps] at viewed
    exact (congrArg (·.fallback.active) viewed).trans
      (step_leavesFallback rules state.view nowMs leaves)
  activated := by
    intro state reason nowMs
    have viewed := views.reduce state (.fallbackActivated reason) nowMs
    rw [steps] at viewed
    exact congrArg (·.fallback.active) viewed
  recovered := by
    intro state nowMs
    have viewed := views.reduce state .fallbackRecovered nowMs
    rw [steps] at viewed
    exact congrArg (·.fallback.active) viewed

theorem Operation.failure?_leaves {operation : Operation} {failure : Failure}
    (found : operation.failure? = some failure) : failure.event.leavesFallback = true := by
  cases operation with
  | onConnectivityChanged available =>
      cases available with
      | true => cases found
      | false =>
          cases found
          rfl
  | onAudioInterruptionBegan | onTransportDisconnected _ | onTransportFailure _ =>
      cases found
      rfl
  | _ => cases found

/-! ## Reconnecting -/

/-- A failure takes the next delay of the list, or the fallback where there is none left. -/
theorem RuntimeClient.perform_fails {client : RuntimeClient Map}
    (minds : client.platform.MindsFallback) {runtime : SessionRuntime Map}
    (reconnecting : runtime.Reconnecting) {operation : Operation} {failure : Failure}
    (found : operation.failure? = some failure) (nowMs : Int) :
    let next := (client.perform runtime ⟨operation, nowMs⟩).2
    match runtime.reconnectBackoffMs[runtime.reconnectAttempt]? with
    | some delay =>
        next.reconnectDueAtMs = some (client.platform.dueAt nowMs (max delay 0)) ∧
          next.reconnectAttempt = runtime.reconnectAttempt + 1
    | none =>
        next.state.fallback.active = true ∧ next.reconnectDueAtMs = none ∧
          next.reconnectAttempt = runtime.reconnectAttempt := by
  obtain ⟨wanted, foreground, direct, vacant⟩ := reconnecting
  rcases client.perform_failure found runtime nowMs with ⟨disconnected, _⟩ | result
  · cases wanted.symm.trans disconnected
  · have off := (minds.left runtime.state failure.event nowMs
      (Operation.failure?_leaves found)).trans direct
    dsimp only
    rw [result]
    simp only [SessionRuntime.reconnectAfter, SessionRuntime.scheduleReconnectOrFallback,
      SessionRuntime.applyEvent, SessionRuntime.recordConnectionEvent, wanted, foreground, off,
      vacant]
    cases runtime.reconnectBackoffMs[runtime.reconnectAttempt]? with
    | some delay => exact ⟨rfl, rfl⟩
    | none => exact ⟨minds.activated _ _ nowMs, rfl, rfl⟩

end Kaigi.Session
