import Kaigi.Session.LinuxRuntime
import Kaigi.Session.Steps

/-!
# What a call can do to the session

Whatever a call of the runtime does to the state of the session it does through the
reducer, with events of its own time. The configuration is none of them.
-/

set_option autoImplicit false

namespace Kaigi.Session

def ProtocolEvent.isConfigUpdate : ProtocolEvent → Bool
  | .configUpdated _ => true
  | _ => false

section

variable {Map : Type → Type}

/-- The second state comes from the first by some events, none of which is a new
configuration. -/
def Fed (platform : Platform Map) (nowMs : Int) (before after : SessionRuntime Map) : Prop :=
  ∃ events : List ProtocolEvent, (∀ event ∈ events, event.isConfigUpdate = false) ∧
    after.state =
      events.foldl (fun state event => platform.reduce state event nowMs) before.state

variable {platform : Platform Map} {nowMs : Int} {first second third : SessionRuntime Map}

theorem Fed.of_state (same : second.state = first.state) : Fed platform nowMs first second :=
  ⟨[], List.forall_mem_nil _, same⟩

theorem Fed.trans (before : Fed platform nowMs first second)
    (after : Fed platform nowMs second third) : Fed platform nowMs first third := by
  obtain ⟨events, quiet, same⟩ := before
  obtain ⟨others, silent, last⟩ := after
  refine ⟨events ++ others, ?_, ?_⟩
  · intro event member
    exact (List.mem_append.mp member).elim (quiet event) (silent event)
  · rw [last, same, List.foldl_append]

namespace SessionRuntime

theorem applyEvent_fed (runtime : SessionRuntime Map) {event : ProtocolEvent}
    (quiet : event.isConfigUpdate = false) :
    Fed platform nowMs runtime (runtime.applyEvent platform event nowMs) :=
  ⟨[event], List.forall_mem_singleton.mpr quiet, rfl⟩

theorem requestConnect_fed (runtime : SessionRuntime Map) (resetBackoff : Bool)
    (source : String) :
    Fed platform nowMs runtime (runtime.requestConnect platform resetBackoff source nowMs) := by
  unfold requestConnect
  split
  · exact .of_state rfl
  · exact applyEvent_fed _ rfl

theorem scheduleReconnectOrFallback_fed (runtime : SessionRuntime Map) (trigger : String) :
    Fed platform nowMs runtime
      (runtime.scheduleReconnectOrFallback platform trigger nowMs).2 := by
  unfold scheduleReconnectOrFallback
  split
  · exact .of_state rfl
  · split
    · exact .of_state rfl
    · split
      · exact ⟨[.fallbackActivated _], List.forall_mem_singleton.mpr rfl, rfl⟩
      · exact .of_state rfl

theorem reconnectAfter_fed (runtime : SessionRuntime Map) {event : ProtocolEvent}
    (quiet : event.isConfigUpdate = false) (trigger : String) :
    Fed platform nowMs runtime (runtime.reconnectAfter platform event trigger nowMs).2 := by
  have failed : Fed platform nowMs runtime (runtime.applyEvent platform event nowMs) :=
    applyEvent_fed runtime quiet
  unfold reconnectAfter
  dsimp only
  split
  · exact failed
  · exact failed.trans (scheduleReconnectOrFallback_fed _ trigger)

theorem acknowledge_fed (runtime : SessionRuntime Map) (frame : E2eeKeyEpochFrame)
    (participantId : String) (signatureOk : Bool) :
    Fed platform nowMs runtime
      (runtime.acknowledge platform frame participantId signatureOk nowMs).2 := by
  unfold acknowledge
  split
  · exact applyEvent_fed runtime rfl
  · exact .of_state rfl

end SessionRuntime

open SessionRuntime

/-- A call of the Linux runtime. -/
theorem perform_fed (runtime : SessionRuntime Map) (call : RuntimeCall) :
    Fed platform call.nowMs runtime ((Linux.runtimeClient platform).perform runtime call).2 := by
  obtain ⟨operation, nowMs⟩ := call
  cases operation with
  | connectRequested => exact requestConnect_fed runtime true "manual"
  | onAppForegrounded =>
      simp only [RuntimeClient.perform, onAppForegrounded]
      split
      · exact .of_state rfl
      · split
        · exact requestConnect_fed _ false _
        · exact .of_state rfl
  | onAppBackgrounded =>
      simp only [RuntimeClient.perform, onAppBackgrounded]
      split
      · exact .of_state rfl
      · split
        · exact applyEvent_fed _ rfl
        · exact .of_state rfl
  | onConnectivityChanged available =>
      simp only [RuntimeClient.perform, onConnectivityChanged]
      split
      · exact .of_state rfl
      · split
        · split
          · exact .of_state rfl
          · split
            · exact requestConnect_fed _ false _
            · exact .of_state rfl
        · exact reconnectAfter_fed _ rfl _
  | onAudioInterruptionBegan =>
      simp only [RuntimeClient.perform, onAudioInterruptionBegan]
      split
      · exact .of_state rfl
      · exact reconnectAfter_fed _ rfl _
  | onAudioInterruptionEnded shouldReconnect =>
      simp only [RuntimeClient.perform, onAudioInterruptionEnded]
      split
      · exact .of_state rfl
      · split
        · exact .of_state rfl
        · split
          · exact requestConnect_fed _ false _
          · exact .of_state rfl
  | onAudioRouteChanged _ => exact .of_state rfl
  | onTransportConnected =>
      simp only [RuntimeClient.perform, onTransportConnected]
      split
      · exact applyEvent_fed _ rfl
      · exact applyEvent_fed _ rfl
  | onTransportDisconnected _ | onTransportFailure _ => exact reconnectAfter_fed _ rfl _
  | onSendFailure _ | onManualDisconnect => exact applyEvent_fed _ rfl
  | onFrame frame =>
      have received : Fed platform nowMs runtime
          (runtime.applyEvent platform (.frameReceived frame) nowMs) := applyEvent_fed runtime rfl
      cases frame with
      | e2eeKeyEpoch frame => exact received.trans (acknowledge_fed _ frame _ _)
      | _ => exact received
  | recoverFromFallback =>
      refine Fed.trans ?_ (requestConnect_fed _ false "fallback_recovery")
      exact applyEvent_fed _ rfl
  | takeReconnectIfDue =>
      simp only [RuntimeClient.perform, takeReconnectIfDue]
      split
      · exact .of_state rfl
      · split
        · exact .of_state rfl
        · exact requestConnect_fed _ false _

end

/-! ## The configuration -/

theorem step_config {rules : Rules} {state : SessionView} {event : ProtocolEvent} {nowMs : Int}
    (quiet : event.isConfigUpdate = false) :
    (step rules state event nowMs).config = state.config := by
  obtain ⟨content, update, _, _, _, marked⟩ := step_reaches rules state event nowMs
  rw [marked]
  cases update with
  | config config => cases quiet
  | _ => rfl

theorem Fed.config {nowMs : Int} {before after : SessionRuntime Directory}
    (fed : Fed Linux.machinePlatform nowMs before after) :
    after.state.config = before.state.config := by
  obtain ⟨events, quiet, same⟩ := fed
  have kept (state : SessionView) :
      (events.foldl (fun state event => step Linux.rules state event nowMs) state).config =
        state.config := by
    clear same
    induction events generalizing state with
    | nil => rfl
    | cons event events ih =>
        obtain ⟨first, quiet⟩ := List.forall_mem_cons.mp quiet
        exact (ih quiet _).trans (step_config first)
  rw [same]
  exact kept before.state

/-- No call changes the configuration. -/
theorem Linux.perform_config (runtime : SessionRuntime Directory) (call : RuntimeCall) :
    (Linux.machine.perform runtime call).2.state.config = runtime.state.config :=
  (perform_fed runtime call).config

end Kaigi.Session
