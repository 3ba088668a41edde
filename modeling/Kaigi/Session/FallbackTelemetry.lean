import Kaigi.Metering.Switch
import Kaigi.Session.Failures
import Kaigi.Session.LinuxRuntime
import Kaigi.Session.WindowsRuntime

/-!
# What the telemetry tells of the fallback

The telemetry of a runtime is to tell each activation of the fallback and each recovery.
A failure that finds the backoff list exhausted activates the fallback and says nothing.
-/

set_option autoImplicit false

namespace Kaigi.Session

open Metering (Switch switches switched)

section

variable {Map : Type → Type}

def SessionRuntime.inFallback (runtime : SessionRuntime Map) : Bool :=
  runtime.state.fallback.active

/-- The names of the events about the fallback. -/
def told (telemetry : List MeetingTelemetryEvent) : List String :=
  (telemetry.filter fun event => event.category = .fallbackLifecycle).map (·.name)

def eventName : Switch → String
  | .on => "fallback_activated"
  | .off => "fallback_recovered"

/-- The transitions of the fallback through a history of calls. -/
def transitions (client : RuntimeClient Map) : SessionRuntime Map → List RuntimeCall → List Switch
  | _, [] => []
  | runtime, call :: calls =>
      let next := (client.perform runtime call).2
      switches runtime.inFallback next.inFallback ++ transitions client next calls

/-- The telemetry tells each transition once, and these alternate. -/
def TellsFallback (client : RuntimeClient Map) (runtime : SessionRuntime Map)
    (calls : List RuntimeCall) : Prop :=
  let list := told (client.performAll runtime calls).telemetry
  list = (transitions client runtime calls).map eventName ∧ list.IsChain (· ≠ ·)

/-- The call is a failure that finds no delay left. -/
def Exhausts (runtime : SessionRuntime Map) (call : RuntimeCall) : Prop :=
  call.operation.failure?.isSome = true ∧ runtime.Reconnecting ∧
    runtime.reconnectBackoffMs.length ≤ runtime.reconnectAttempt

/-! ## What a step tells -/

@[simp] theorem told_append (first second : List MeetingTelemetryEvent) :
    told (first ++ second) = told first ++ told second := by
  simp [told]

theorem told_transition (previous next : ProtocolSessionState Map) (nowMs : Int) :
    told (stateTransitionTelemetry previous next nowMs) =
      (switches previous.fallback.active next.fallback.active).map eventName := by
  have phase : told (if previous.connectionPhase = next.connectionPhase then []
      else
        [{ category := .connectionLifecycle
           name := "phase_changed"
           attributes :=
             [("from", previous.connectionPhase.name), ("to", next.connectionPhase.name)]
           atMs := nowMs }]) = [] := by
    split <;> rfl
  have error : told (if previous.lastError = next.lastError then []
      else
        (next.lastError.filter fun error => error.category = .policyFailure).toList.map
          fun error =>
            { category := .policyFailure
              name := error.code
              attributes := [("code", error.code), ("message", error.message)]
              atMs := nowMs }) = [] := by
    split
    · rfl
    · cases next.lastError.filter fun error => error.category = .policyFailure <;> rfl
  rw [stateTransitionTelemetry, told_append, told_append, told_append, phase, error]
  cases previous.fallback.active <;> cases next.fallback.active <;> rfl

variable {before middle after : SessionRuntime Map}

/-- The telemetry tells what has happened to the fallback from `before` to `after`. -/
def Narrates (before after : SessionRuntime Map) : Prop :=
  told after.telemetry =
    told before.telemetry ++ (switches before.inFallback after.inFallback).map eventName

/-- Nothing happens to the fallback, and nothing is told. -/
structure Silent (before after : SessionRuntime Map) : Prop where
  telemetry : told after.telemetry = told before.telemetry
  fallback : after.inFallback = before.inFallback

theorem Silent.refl (runtime : SessionRuntime Map) : Silent runtime runtime :=
  ⟨rfl, rfl⟩

theorem Silent.trans (first : Silent before middle) (second : Silent middle after) :
    Silent before after :=
  ⟨second.telemetry.trans first.telemetry, second.fallback.trans first.fallback⟩

theorem Silent.narrates (silent : Silent before after) : Narrates before after := by
  rw [Narrates, silent.telemetry, silent.fallback, Metering.switches_self]
  exact (List.append_nil _).symm

theorem Silent.then (silent : Silent before middle) (narrates : Narrates middle after) :
    Narrates before after := by
  rw [Narrates, silent.telemetry, silent.fallback] at narrates
  exact narrates

theorem Narrates.then (narrates : Narrates before middle) (silent : Silent middle after) :
    Narrates before after := by
  rw [Narrates, silent.telemetry, silent.fallback]
  exact narrates

variable {platform : Platform Map} (runtime : SessionRuntime Map) (nowMs : Int)

theorem applyEvent_narrates (platform : Platform Map) (event : ProtocolEvent) :
    Narrates runtime (runtime.applyEvent platform event nowMs) := by
  unfold Narrates SessionRuntime.applyEvent
  rw [told_append, told_transition]
  rfl

theorem Silent.record (silent : Silent before after) {name : String}
    {attributes : List (String × String)} {nowMs : Int} :
    Silent before (after.recordConnectionEvent name attributes nowMs) := by
  refine ⟨?_, silent.fallback⟩
  unfold SessionRuntime.recordConnectionEvent
  rw [told_append, silent.telemetry]
  exact List.append_nil _

section

variable (minds : platform.MindsFallback)
include minds

theorem applyEvent_silent {event : ProtocolEvent} (leaves : event.leavesFallback = true) :
    Silent runtime (runtime.applyEvent platform event nowMs) := by
  have same : (runtime.applyEvent platform event nowMs).inFallback = runtime.inFallback :=
    minds.left runtime.state event nowMs leaves
  refine ⟨?_, same⟩
  have narrates := applyEvent_narrates runtime nowMs platform event
  rw [Narrates, same, Metering.switches_self] at narrates
  exact narrates.trans (List.append_nil _)

theorem requestConnect_silent (resetBackoff : Bool) (source : String) :
    Silent runtime (runtime.requestConnect platform resetBackoff source nowMs) := by
  unfold SessionRuntime.requestConnect
  split
  · refine .record ?_
    exact ⟨rfl, rfl⟩
  · refine .trans ?_ (applyEvent_silent _ nowMs minds rfl)
    refine .record ?_
    exact ⟨rfl, rfl⟩

theorem acknowledge_silent (frame : E2eeKeyEpochFrame) (participantId : String)
    (signatureOk : Bool) :
    Silent runtime (runtime.acknowledge platform frame participantId signatureOk nowMs).2 := by
  unfold SessionRuntime.acknowledge
  split
  · exact applyEvent_silent _ nowMs minds rfl
  · exact .refl runtime

theorem takeReconnectIfDue_silent :
    Silent runtime (runtime.takeReconnectIfDue platform nowMs).2 := by
  unfold SessionRuntime.takeReconnectIfDue
  split
  · exact .refl runtime
  · split
    · exact .refl runtime
    · refine .trans ?_ (requestConnect_silent _ nowMs minds false "reconnect")
      refine .record ?_
      exact ⟨rfl, rfl⟩

/-- A failure is told, unless it is the one that exhausts the list. -/
theorem reconnectAfter_silent {event : ProtocolEvent} (leaves : event.leavesFallback = true)
    (trigger : String)
    (spared : ¬ (runtime.Reconnecting ∧
      runtime.reconnectBackoffMs.length ≤ runtime.reconnectAttempt)) :
    Silent runtime (runtime.reconnectAfter platform event trigger nowMs).2 := by
  have failed : Silent runtime (runtime.applyEvent platform event nowMs) :=
    applyEvent_silent runtime nowMs minds leaves
  refine failed.trans ?_
  unfold SessionRuntime.reconnectAfter SessionRuntime.scheduleReconnectOrFallback
  dsimp only
  split
  · refine .record ?_
    exact ⟨rfl, rfl⟩
  · next foreground =>
      split
      · exact .refl _
      · next free =>
          split
          · exact .refl _
          · next vacant =>
              split
              · next exhausted =>
                  simp only [Bool.or_eq_true, not_or, Bool.not_eq_true] at free
                  obtain ⟨⟨wanted, off⟩, background⟩ := free
                  have direct : runtime.state.fallback.active = false :=
                    failed.fallback.symm.trans off
                  have vacant : runtime.reconnectDueAtMs = none :=
                    Option.not_isSome_iff_eq_none.mp vacant
                  exact absurd ⟨⟨wanted, background, direct, vacant⟩,
                    List.getElem?_eq_none_iff.mp exhausted⟩ spared
              · refine .record ?_
                exact ⟨rfl, rfl⟩

theorem reconnectAfter_exhausted {event : ProtocolEvent} (leaves : event.leavesFallback = true)
    (trigger : String) (reconnecting : runtime.Reconnecting)
    (exhausted : runtime.reconnectBackoffMs.length ≤ runtime.reconnectAttempt) :
    told (runtime.reconnectAfter platform event trigger nowMs).2.telemetry =
        told runtime.telemetry ∧
      (runtime.reconnectAfter platform event trigger nowMs).2.inFallback = true := by
  obtain ⟨wanted, foreground, direct, vacant⟩ := reconnecting
  have failed : Silent runtime (runtime.applyEvent platform event nowMs) :=
    applyEvent_silent runtime nowMs minds leaves
  have off : (platform.reduce runtime.state event nowMs).fallback.active = false :=
    failed.fallback.trans direct
  have missing : runtime.reconnectBackoffMs[runtime.reconnectAttempt]? = none :=
    List.getElem?_eq_none_iff.mpr exhausted
  obtain ⟨reason, result⟩ : ∃ reason, (runtime.reconnectAfter platform event trigger nowMs).2 =
      { runtime.applyEvent platform event nowMs with
        state := platform.reduce (platform.reduce runtime.state event nowMs)
          (.fallbackActivated reason) nowMs } := by
    refine ⟨"Reconnect exhausted after " ++ toString runtime.reconnectAttempt ++ " attempts: " ++
      trigger, ?_⟩
    unfold SessionRuntime.reconnectAfter SessionRuntime.scheduleReconnectOrFallback
      SessionRuntime.applyEvent
    simp only [wanted, foreground, off, vacant, missing]
    rfl
  rw [result]
  exact ⟨failed.telemetry, minds.activated _ reason nowMs⟩

end

/-! ## Calls -/

theorem transitions_switched (client : RuntimeClient Map) (calls : List RuntimeCall) :
    switched runtime.inFallback (transitions client runtime calls) =
      some (client.performAll runtime calls).inFallback := by
  induction calls generalizing runtime with
  | nil => exact Metering.switched_nil _
  | cons call calls ih =>
      rw [transitions, Metering.switched_switches]
      exact ih _

/-- What the two clients do in their own ways. -/
structure RuntimeClient.TellsOwn (client : RuntimeClient Map) : Prop where
  minds : client.platform.MindsFallback
  onFrame : ∀ runtime frame nowMs, Narrates runtime (client.onFrame runtime frame nowMs).2
  recoverFromFallback : ∀ runtime nowMs,
    Narrates runtime (client.recoverFromFallback runtime nowMs)

section

variable {client : RuntimeClient Map} (tells : client.TellsOwn) {call : RuntimeCall}
include tells

theorem perform_narrates (spared : ¬ Exhausts runtime call) :
    Narrates runtime (client.perform runtime call).2 := by
  obtain ⟨operation, nowMs⟩ := call
  have minds := tells.minds
  cases found : operation.failure? with
  | some failure =>
      refine Silent.narrates ?_
      rcases client.perform_failure found runtime nowMs with ⟨_, same⟩ | result
      · rw [same]
        exact .refl runtime
      · rw [result]
        refine .trans ?_ (reconnectAfter_silent _ nowMs minds
          (Operation.failure?_leaves found) _ fun exhausted => spared ⟨?_, ?_⟩)
        · refine .record ?_
          exact ⟨rfl, rfl⟩
        · exact Option.isSome_iff_exists.mpr ⟨failure, found⟩
        · obtain ⟨⟨wanted, foreground, direct, vacant⟩, exhausted⟩ := exhausted
          exact ⟨⟨wanted, foreground, direct, vacant⟩, exhausted⟩
  | none =>
      cases operation with
      | onAudioInterruptionBegan | onTransportDisconnected _ | onTransportFailure _ => cases found
      | connectRequested => exact (requestConnect_silent runtime nowMs minds true "manual").narrates
      | onAppForegrounded =>
          refine Silent.narrates ?_
          simp only [RuntimeClient.perform, SessionRuntime.onAppForegrounded]
          split
          · exact .refl runtime
          · have foregrounded : Silent runtime
                ({ runtime with appInBackground := false }.recordConnectionEvent "app_foregrounded"
                  [] nowMs) := by
              refine .record ?_
              exact ⟨rfl, rfl⟩
            split
            · exact foregrounded.trans (requestConnect_silent _ nowMs minds false "foreground")
            · exact foregrounded
      | onAppBackgrounded =>
          refine Silent.narrates ?_
          simp only [RuntimeClient.perform, SessionRuntime.onAppBackgrounded]
          have backgrounded : Silent runtime
              (SessionRuntime.recordConnectionEvent
                { runtime with appInBackground := true, reconnectDueAtMs := none }
                "app_backgrounded" [] nowMs) := by
            refine .record ?_
            exact ⟨rfl, rfl⟩
          split
          · exact backgrounded
          · split
            · exact backgrounded.trans (applyEvent_silent _ nowMs minds rfl)
            · exact backgrounded
      | onConnectivityChanged available =>
          cases available with
          | false => cases found
          | true =>
              refine Silent.narrates ?_
              simp only [RuntimeClient.perform, SessionRuntime.onConnectivityChanged, ↓reduceIte]
              have restored : Silent runtime
                  (runtime.recordConnectionEvent "network_available" [] nowMs) :=
                (Silent.refl runtime).record
              split
              · exact .refl runtime
              · split
                · exact restored.record
                · split
                  · exact restored.trans
                      (requestConnect_silent _ nowMs minds false "connectivity_restore")
                  · exact restored
      | onAudioInterruptionEnded shouldReconnect =>
          refine Silent.narrates ?_
          simp only [RuntimeClient.perform, SessionRuntime.onAudioInterruptionEnded]
          split
          · exact .refl runtime
          · split
            · exact (Silent.refl runtime).record
            · split
              · exact (Silent.refl runtime).record.trans
                  (requestConnect_silent _ nowMs minds false "audio_interruption_end")
              · exact (Silent.refl runtime).record
      | onAudioRouteChanged reason => exact (Silent.refl runtime).record.narrates
      | onTransportConnected =>
          refine Silent.narrates ?_
          simp only [RuntimeClient.perform, SessionRuntime.onTransportConnected]
          split
          · refine .trans (.record ?_) (applyEvent_silent _ nowMs minds rfl)
            exact ⟨rfl, rfl⟩
          · refine .trans (.record ?_) (applyEvent_silent _ nowMs minds rfl)
            exact ⟨rfl, rfl⟩
      | onSendFailure message =>
          exact ((Silent.refl runtime).record.trans
            (applyEvent_silent _ nowMs minds rfl)).narrates
      | onManualDisconnect =>
          refine Silent.narrates (.trans (.record ?_) (applyEvent_silent _ nowMs minds rfl))
          exact ⟨rfl, rfl⟩
      | onFrame frame => exact tells.onFrame runtime frame nowMs
      | recoverFromFallback => exact tells.recoverFromFallback runtime nowMs
      | takeReconnectIfDue => exact (takeReconnectIfDue_silent runtime nowMs minds).narrates

/-- The transition that is not told. -/
theorem perform_exhausts (exhausts : Exhausts runtime call) :
    told (client.perform runtime call).2.telemetry = told runtime.telemetry ∧
      switches runtime.inFallback (client.perform runtime call).2.inFallback = [.on] := by
  obtain ⟨operation, nowMs⟩ := call
  obtain ⟨failing, reconnecting, exhausted⟩ := exhausts
  obtain ⟨failure, found⟩ := Option.isSome_iff_exists.mp failing
  rcases client.perform_failure found runtime nowMs with ⟨disconnected, _⟩ | result
  · cases reconnecting.wanted.symm.trans disconnected
  · have recorded : Silent runtime
        (runtime.recordConnectionEvent failure.name failure.attributes nowMs) :=
      (Silent.refl runtime).record
    obtain ⟨untold, active⟩ := reconnectAfter_exhausted
      (runtime.recordConnectionEvent failure.name failure.attributes nowMs) nowMs tells.minds
      (Operation.failure?_leaves found) failure.trigger
      ⟨reconnecting.wanted, reconnecting.foreground, reconnecting.direct, reconnecting.vacant⟩
      exhausted
    rw [result, active]
    refine ⟨untold.trans recorded.telemetry, ?_⟩
    have direct : runtime.inFallback = false := reconnecting.direct
    rw [direct]
    rfl

/-! ## Runs -/

/-- Either every transition is told, or there are more of them than are told. -/
theorem performAll_tells (calls : List RuntimeCall) :
    client.Throughout (¬ Exhausts · ·) runtime calls ∧
        told (client.performAll runtime calls).telemetry =
          told runtime.telemetry ++ (transitions client runtime calls).map eventName ∨
      ¬ client.Throughout (¬ Exhausts · ·) runtime calls ∧
        (told (client.performAll runtime calls).telemetry).length <
          (told runtime.telemetry).length + (transitions client runtime calls).length := by
  induction calls generalizing runtime with
  | nil => exact .inl ⟨trivial, (List.append_nil _).symm⟩
  | cons call calls ih =>
      have later := ih (client.perform runtime call).2
      have last : client.performAll runtime (call :: calls) =
          client.performAll (client.perform runtime call).2 calls :=
        rfl
      rw [RuntimeClient.Throughout, transitions, List.map_append, List.length_append, last]
      by_cases exhausts : Exhausts runtime call
      · obtain ⟨untold, untoldSwitch⟩ := perform_exhausts runtime tells exhausts
        refine .inr ⟨fun spared => spared.1 exhausts, ?_⟩
        rw [untoldSwitch]
        rcases later with ⟨_, all⟩ | ⟨_, fewer⟩
        · have lengths := congrArg List.length all
          rw [List.length_append, List.length_map, untold] at lengths
          rw [lengths, List.length_singleton]
          omega
        · rw [untold] at fewer
          rw [List.length_singleton]
          omega
      · have narrates := perform_narrates runtime tells exhausts
        rcases later with ⟨spared, all⟩ | ⟨unspared, fewer⟩
        · refine .inl ⟨⟨exhausts, spared⟩, ?_⟩
          rw [← List.append_assoc, ← narrates]
          exact all
        · refine .inr ⟨fun spared => unspared spared.2, ?_⟩
          rw [narrates, List.length_append, List.length_map] at fewer
          rw [← Nat.add_assoc]
          exact fewer

theorem tellsFallback_iff (calls : List RuntimeCall) (fresh : told runtime.telemetry = []) :
    TellsFallback client runtime calls ↔ client.Throughout (¬ Exhausts · ·) runtime calls := by
  rcases performAll_tells runtime tells calls with ⟨spared, all⟩ | ⟨unspared, fewer⟩
  · rw [fresh, List.nil_append] at all
    refine ⟨fun _ => spared, fun _ => ⟨all, ?_⟩⟩
    rw [all]
    have alternates := Metering.switched_alternates (transitions_switched runtime client calls)
    refine List.isChain_map_of_isChain _ ?_ alternates
    intro first second differ
    cases first <;> cases second <;> first | exact absurd rfl differ | decide
  · refine ⟨fun ⟨all, _⟩ => ?_, fun spared => absurd spared unspared⟩
    rw [all, fresh, List.length_map] at fewer
    exact absurd fewer (by simp)

end

end

theorem Linux.client_tellsOwn : Linux.client.TellsOwn where
  minds := Linux.platform_views.mindsFallback rfl
  onFrame := by
    intro runtime frame nowMs
    have minds : Linux.platform.MindsFallback := Linux.platform_views.mindsFallback rfl
    have received := applyEvent_narrates runtime nowMs Linux.platform (.frameReceived frame)
    cases frame with
    | e2eeKeyEpoch key => exact received.then (acknowledge_silent _ nowMs minds key _ _)
    | _ => exact received
  recoverFromFallback := by
    intro runtime nowMs
    have minds : Linux.platform.MindsFallback := Linux.platform_views.mindsFallback rfl
    refine Narrates.then ?_ (requestConnect_silent _ nowMs minds false "fallback_recovery")
    refine Silent.then (.record ?_) (applyEvent_narrates _ nowMs _ .fallbackRecovered)
    exact ⟨rfl, rfl⟩

theorem Windows.client_tellsOwn : Windows.client.TellsOwn where
  minds := Windows.platform_views.mindsFallback rfl
  onFrame := by
    intro runtime frame nowMs
    have minds : Windows.platform.MindsFallback := Windows.platform_views.mindsFallback rfl
    have received := applyEvent_narrates runtime nowMs Windows.platform
      (.frameReceived frame)
    cases frame with
    | e2eeKeyEpoch key => exact received.then (acknowledge_silent _ nowMs minds key _ _)
    | _ => exact received
  recoverFromFallback := by
    intro runtime nowMs
    have minds : Windows.platform.MindsFallback := Windows.platform_views.mindsFallback rfl
    refine Narrates.then ?_ (applyEvent_silent _ nowMs minds rfl)
    refine Silent.then (.record ?_) (applyEvent_narrates _ nowMs _ .fallbackRecovered)
    exact ⟨rfl, rfl⟩

/-- The telemetry of a runtime tells what happens to the fallback exactly if no failure finds
the backoff list exhausted. -/
theorem fallbackTelemetry_iff (config : MeetingConfig) (delays : List Int)
    (calls : List RuntimeCall) :
    (TellsFallback Linux.client (Linux.withBackoff config delays) calls ↔
        Linux.client.Throughout (¬ Exhausts · ·) (Linux.withBackoff config delays) calls) ∧
      (TellsFallback Windows.client (Windows.withBackoff config delays) calls ↔
        Windows.client.Throughout (¬ Exhausts · ·) (Windows.withBackoff config delays) calls) :=
  ⟨tellsFallback_iff _ Linux.client_tellsOwn calls rfl,
    tellsFallback_iff _ Windows.client_tellsOwn calls rfl⟩

/-- Without any delay the first failure activates the fallback untold. -/
theorem fallbackTelemetry_untold :
    ¬ (∀ config delays calls, TellsFallback Linux.client (Linux.withBackoff config delays) calls) ∧
      ¬ ∀ config delays calls,
        TellsFallback Windows.client (Windows.withBackoff config delays) calls := by
  constructor
  · intro claimed
    have wrong := (claimed exampleConfig [] [⟨.onTransportFailure "socket_closed", 10⟩]).1
    exact absurd (congrArg List.length wrong) (by decide)
  · intro claimed
    have wrong := (claimed exampleConfig [] [⟨.onTransportFailure "socket_closed", 10⟩]).1
    exact absurd (congrArg List.length wrong) (by decide)

end Kaigi.Session
