import Kaigi.Pacing.Backoff
import Kaigi.Session.Failures
import Kaigi.Session.LinuxRuntime

/-!
# Reconnecting with a backoff

The Linux runtime paces its reconnects: each one waits for the next delay of the backoff
list, none is pending in the background or after the user has disconnected, and where the
list is exhausted the fallback takes over.
-/

set_option autoImplicit false

namespace Kaigi.Session

open Pacing

section

variable {Map : Type → Type}

def SessionRuntime.pacer (runtime : SessionRuntime Map) : Pacer Int where
  attempt := runtime.reconnectAttempt
  due := runtime.reconnectDueAtMs

/-- A delay from the time `nowMs` on. -/
def dueAfter (nowMs delayMs : Int) : Int :=
  Linux.saturatingAdd nowMs (max delayMs 0)

/-- Nothing is pending in the background or after the user has disconnected. -/
structure SessionRuntime.Quiet (runtime : SessionRuntime Map) : Prop where
  background : runtime.appInBackground = true → runtime.reconnectDueAtMs = none
  disconnected : runtime.userInitiatedDisconnect = true → runtime.reconnectDueAtMs = none

/-- The calls that start the backoff list again. -/
def resetsBackoff (runtime : SessionRuntime Map) (call : RuntimeCall) : Bool :=
  match call.operation with
  | .connectRequested | .onTransportConnected => !runtime.appInBackground
  | .recoverFromFallback => true
  | _ => false

/-- What a call shows of the reconnects: that it resets them, that a reconnect became due
and was taken, or that one was scheduled. -/
def beat (client : RuntimeClient Map) (runtime : SessionRuntime Map) (call : RuntimeCall) :
    Option (Beat Int) :=
  let (answer, next) := client.perform runtime call
  if resetsBackoff runtime call then some .reset
  else if answer = .taken true then some (.fired call.nowMs)
  else if next.reconnectDueAtMs = runtime.reconnectDueAtMs then none
  else next.reconnectDueAtMs.map fun dueAtMs => .scheduled call.nowMs dueAtMs

/-- The beats of a history of calls. -/
def beats (client : RuntimeClient Map) : SessionRuntime Map → List RuntimeCall → List (Beat Int)
  | _, [] => []
  | runtime, call :: calls =>
      (beat client runtime call).toList ++ beats client (client.perform runtime call).2 calls

/-! ## One call -/

/-- What happens to the reconnects from `before` to `after`. -/
structure Reconnects (before : SessionRuntime Map) (beat : Option (Beat Int))
    (after : SessionRuntime Map) : Prop where
  backoff : after.reconnectBackoffMs = before.reconnectBackoffMs
  step : PacerStep before.reconnectBackoffMs dueAfter before.pacer beat after.pacer
  quiet : before.Quiet → after.Quiet

variable {before after : SessionRuntime Map} {nowMs : Int}

/-- The second runtime paces its reconnects as the first one does, and has no more reason
to keep quiet. -/
structure SamePace (before after : SessionRuntime Map) : Prop where
  backoff : after.reconnectBackoffMs = before.reconnectBackoffMs
  pacer : after.pacer = before.pacer
  background : after.appInBackground = true → before.appInBackground = true
  disconnected : after.userInitiatedDisconnect = true → before.userInitiatedDisconnect = true

theorem SamePace.quiet (same : SamePace before after) (quiet : before.Quiet) : after.Quiet := by
  have due : after.reconnectDueAtMs = before.reconnectDueAtMs := congrArg Pacer.due same.pacer
  refine ⟨fun background => ?_, fun disconnected => ?_⟩
  · rw [due]
    exact quiet.background (same.background background)
  · rw [due]
    exact quiet.disconnected (same.disconnected disconnected)

theorem Reconnects.kept (same : SamePace before after) : Reconnects before none after where
  backoff := same.backoff
  step := by
    rw [same.pacer]
    exact .idle rfl (.inl rfl)
  quiet := same.quiet

/-- What is recorded or applied before does not matter. -/
theorem Reconnects.of_same {first : SessionRuntime Map} {beat : Option (Beat Int)}
    (same : SamePace first before) (reconnects : Reconnects before beat after) :
    Reconnects first beat after where
  backoff := reconnects.backoff.trans same.backoff
  step := by
    rw [← same.backoff, ← same.pacer]
    exact reconnects.step
  quiet := reconnects.quiet ∘ same.quiet

theorem Reconnects.cleared (backoff : after.reconnectBackoffMs = before.reconnectBackoffMs)
    (attempt : after.reconnectAttempt = before.reconnectAttempt)
    (due : after.reconnectDueAtMs = none) : Reconnects before none after where
  backoff := backoff
  step := .idle attempt (.inr due)
  quiet := fun _ => ⟨fun _ => due, fun _ => due⟩

theorem Reconnects.reset (backoff : after.reconnectBackoffMs = before.reconnectBackoffMs)
    (attempt : after.reconnectAttempt = 0) (due : after.reconnectDueAtMs = none) :
    Reconnects before (some .reset) after where
  backoff := backoff
  step := .reset attempt due
  quiet := fun _ => ⟨fun _ => due, fun _ => due⟩

/-- Only the call that asks for a due reconnect can take one. -/
theorem RuntimeClient.perform_notTaken (client : RuntimeClient Map) (runtime : SessionRuntime Map)
    {operation : Operation} (other : operation ≠ .takeReconnectIfDue) (nowMs : Int) :
    (client.perform runtime ⟨operation, nowMs⟩).1 ≠ .taken true := by
  cases operation with
  | takeReconnectIfDue => exact absurd rfl other
  | _ => simp [RuntimeClient.perform]

/-- A call that neither resets nor takes a reconnect has the beat of its pacer. -/
theorem beat_of_quiet {client : RuntimeClient Map} {runtime : SessionRuntime Map}
    {call : RuntimeCall} {found : Option (Beat Int)} (resets : resetsBackoff runtime call = false)
    (notTaken : (client.perform runtime call).1 ≠ .taken true)
    (reconnects : Reconnects runtime found (client.perform runtime call).2)
    (other : found = none ∨ ∃ dueAtMs, found = some (.scheduled call.nowMs dueAtMs)) :
    Reconnects runtime (beat client runtime call) (client.perform runtime call).2 := by
  suffices same : beat client runtime call = found by
    rw [same]
    exact reconnects
  unfold beat
  dsimp only
  rw [if_neg (by simp [resets]), if_neg notTaken]
  obtain ⟨_, step, _⟩ := reconnects
  rcases other with rfl | ⟨dueAtMs, rfl⟩
  · cases step with
    | idle _ dues =>
        have dues : (client.perform runtime call).2.reconnectDueAtMs = runtime.reconnectDueAtMs ∨
            (client.perform runtime call).2.reconnectDueAtMs = none := dues
        rcases dues with same | cleared
        · rw [if_pos same]
        · rw [cleared]
          exact ite_self none
  · cases step with
    | scheduled vacant _ _ due =>
        have vacant : runtime.reconnectDueAtMs = none := vacant
        have due : (client.perform runtime call).2.reconnectDueAtMs = some _ := due
        rw [vacant, due, if_neg (Option.some_ne_none _)]
        rfl

end

open SessionRuntime

section

variable (runtime : SessionRuntime Table) (nowMs : Int)

theorem requestConnect_reconnects {first : SessionRuntime Table} (same : SamePace first runtime)
    (source : String) :
    Reconnects first none (runtime.requestConnect Linux.client.platform false source nowMs) := by
  refine .of_same same ?_
  unfold requestConnect
  split
  · exact .kept ⟨rfl, rfl, id, id⟩
  · exact .cleared rfl rfl rfl

/-- Whatever fails, a reconnect is scheduled at most. -/
theorem reconnectAfter_reconnects (event : ProtocolEvent) (trigger : String) :
    ∃ found, (found = none ∨ ∃ dueAtMs, found = some (.scheduled nowMs dueAtMs)) ∧
      Reconnects runtime found
        (runtime.reconnectAfter Linux.platform event trigger nowMs).2 := by
  unfold reconnectAfter scheduleReconnectOrFallback
  dsimp only
  split
  · exact ⟨none, .inl rfl, .kept ⟨rfl, rfl, id, id⟩⟩
  · next foreground =>
      split
      · exact ⟨none, .inl rfl, .kept ⟨rfl, rfl, id, id⟩⟩
      · next free =>
          split
          · exact ⟨none, .inl rfl, .kept ⟨rfl, rfl, id, id⟩⟩
          · next vacant =>
              split
              · exact ⟨none, .inl rfl, .kept ⟨rfl, rfl, id, id⟩⟩
              · next delay found =>
                  refine ⟨some (.scheduled nowMs (dueAfter nowMs delay)), .inr ⟨_, rfl⟩, rfl,
                    ?_, ?_⟩
                  · have vacant : runtime.reconnectDueAtMs = none :=
                      Option.not_isSome_iff_eq_none.mp vacant
                    exact .scheduled vacant found rfl rfl
                  · simp only [Bool.or_eq_true, not_or] at free
                    intro _
                    exact ⟨fun background => absurd background foreground,
                      fun disconnected => absurd disconnected free.1.1⟩

/-- What is taken is due, and nothing else than that changes. -/
theorem take_reconnects :
    (runtime.takeReconnectIfDue Linux.client.platform nowMs).1 = false ∧
        Reconnects runtime none (runtime.takeReconnectIfDue Linux.client.platform nowMs).2 ∨
      (runtime.takeReconnectIfDue Linux.client.platform nowMs).1 = true ∧
        Reconnects runtime (some (.fired nowMs))
          (runtime.takeReconnectIfDue Linux.client.platform nowMs).2 := by
  unfold takeReconnectIfDue
  split
  · exact .inl ⟨rfl, .kept ⟨rfl, rfl, id, id⟩⟩
  · next dueAtMs pending =>
      split
      · exact .inl ⟨rfl, .kept ⟨rfl, rfl, id, id⟩⟩
      · next reached =>
          simp only [Bool.or_eq_true, decide_eq_true_eq, not_or, Int.not_lt] at reached
          obtain ⟨⟨⟨reached, _⟩, _⟩, foreground⟩ := reached
          refine .inr ⟨rfl, ?_⟩
          simp only [requestConnect, recordConnectionEvent, foreground]
          exact ⟨rfl, .fired pending reached rfl rfl, fun _ => ⟨fun _ => rfl, fun _ => rfl⟩⟩

theorem acknowledge_reconnects (frame : E2eeKeyEpochFrame) (participantId : String)
    (signatureOk : Bool) :
    SamePace runtime
      (runtime.acknowledge Linux.platform frame participantId signatureOk nowMs).2 := by
  unfold acknowledge
  split <;> exact ⟨rfl, rfl, id, id⟩

end

/-- What a call of the Linux runtime does to its reconnects. -/
theorem Linux.perform_reconnects (runtime : SessionRuntime Table) (call : RuntimeCall) :
    Reconnects runtime (beat Linux.client runtime call) (Linux.client.perform runtime call).2 := by
  obtain ⟨operation, nowMs⟩ := call
  have kept : resetsBackoff runtime ⟨operation, nowMs⟩ = false →
      operation ≠ .takeReconnectIfDue →
      Reconnects runtime none (Linux.client.perform runtime ⟨operation, nowMs⟩).2 →
      Reconnects runtime (beat Linux.client runtime ⟨operation, nowMs⟩)
        (Linux.client.perform runtime ⟨operation, nowMs⟩).2 := by
    intro resets other reconnects
    have notTaken := Linux.client.perform_notTaken runtime other nowMs
    exact beat_of_quiet resets notTaken reconnects (.inl rfl)
  have reset : resetsBackoff runtime ⟨operation, nowMs⟩ = true →
      Reconnects runtime (some .reset) (Linux.client.perform runtime ⟨operation, nowMs⟩).2 →
      Reconnects runtime (beat Linux.client runtime ⟨operation, nowMs⟩)
        (Linux.client.perform runtime ⟨operation, nowMs⟩).2 := by
    intro resets reconnects
    unfold beat
    dsimp only
    rw [if_pos resets]
    exact reconnects
  have failed : ∀ failure, operation.failure? = some failure →
      resetsBackoff runtime ⟨operation, nowMs⟩ = false →
      operation ≠ .takeReconnectIfDue →
      Reconnects runtime (beat Linux.client runtime ⟨operation, nowMs⟩)
        (Linux.client.perform runtime ⟨operation, nowMs⟩).2 := by
    intro failure found resets elsewhere
    rcases Linux.client.perform_failure found runtime nowMs with ⟨_, same⟩ | result
    · refine kept resets elsewhere ?_
      rw [same]
      exact .kept ⟨rfl, rfl, id, id⟩
    · obtain ⟨found, other, reconnects⟩ := reconnectAfter_reconnects
        (runtime.recordConnectionEvent failure.name failure.attributes nowMs) nowMs failure.event
        failure.trigger
      have recorded : SamePace runtime
          (runtime.recordConnectionEvent failure.name failure.attributes nowMs) :=
        ⟨rfl, rfl, id, id⟩
      have notTaken := Linux.client.perform_notTaken runtime elsewhere nowMs
      refine beat_of_quiet resets notTaken ?_ other
      rw [result]
      exact .of_same recorded reconnects
  cases operation with
  | connectRequested =>
      cases background : runtime.appInBackground with
      | true =>
          refine kept (by simp [resetsBackoff, background]) (by simp) ?_
          simp only [RuntimeClient.perform, connectRequested, requestConnect, background]
          exact .kept ⟨rfl, rfl, id, id⟩
      | false =>
          refine reset (by simp [resetsBackoff, background]) ?_
          simp only [RuntimeClient.perform, connectRequested, requestConnect, background]
          exact .reset rfl rfl rfl
  | onAppForegrounded =>
      refine kept rfl (by simp) ?_
      simp only [RuntimeClient.perform, onAppForegrounded]
      split
      · exact .kept ⟨rfl, rfl, id, id⟩
      · split
        · refine requestConnect_reconnects _ nowMs ?_ "foreground"
          exact ⟨rfl, rfl, Bool.noConfusion, id⟩
        · exact .kept ⟨rfl, rfl, Bool.noConfusion, id⟩
  | onAppBackgrounded =>
      refine kept rfl (by simp) ?_
      simp only [RuntimeClient.perform, onAppBackgrounded]
      split
      · exact .cleared rfl rfl rfl
      · split <;> exact .cleared rfl rfl rfl
  | onConnectivityChanged available =>
      cases available with
      | false => exact failed _ rfl rfl (by simp)
      | true =>
          refine kept rfl (by simp) ?_
          simp only [RuntimeClient.perform, onConnectivityChanged, ↓reduceIte]
          split
          · exact .kept ⟨rfl, rfl, id, id⟩
          · split
            · exact .kept ⟨rfl, rfl, id, id⟩
            · split
              · refine requestConnect_reconnects _ nowMs ?_ "connectivity_restore"
                exact ⟨rfl, rfl, id, id⟩
              · exact .kept ⟨rfl, rfl, id, id⟩
  | onAudioInterruptionBegan => exact failed _ rfl rfl (by simp)
  | onAudioInterruptionEnded shouldReconnect =>
      refine kept rfl (by simp) ?_
      simp only [RuntimeClient.perform, onAudioInterruptionEnded]
      split
      · exact .kept ⟨rfl, rfl, id, id⟩
      · split
        · exact .kept ⟨rfl, rfl, id, id⟩
        · split
          · refine requestConnect_reconnects _ nowMs ?_ "audio_interruption_end"
            exact ⟨rfl, rfl, id, id⟩
          · exact .kept ⟨rfl, rfl, id, id⟩
  | onAudioRouteChanged reason => exact kept rfl (by simp) (.kept ⟨rfl, rfl, id, id⟩)
  | onTransportConnected =>
      cases background : runtime.appInBackground with
      | true =>
          refine kept (by simp [resetsBackoff, background]) (by simp) ?_
          simp only [RuntimeClient.perform, onTransportConnected, background]
          exact .cleared rfl rfl rfl
      | false =>
          refine reset (by simp [resetsBackoff, background]) ?_
          simp only [RuntimeClient.perform, onTransportConnected, background]
          exact .reset rfl rfl rfl
  | onTransportDisconnected reason => exact failed _ rfl rfl (by simp)
  | onTransportFailure message => exact failed _ rfl rfl (by simp)
  | onSendFailure message => exact kept rfl (by simp) (.kept ⟨rfl, rfl, id, id⟩)
  | onManualDisconnect => exact kept rfl (by simp) (.cleared rfl rfl rfl)
  | onFrame frame =>
      refine kept rfl (by simp) ?_
      cases frame with
      | e2eeKeyEpoch key =>
          have received : SamePace runtime
              (runtime.applyEvent Linux.platform (.frameReceived (.e2eeKeyEpoch key)) nowMs) :=
            ⟨rfl, rfl, id, id⟩
          exact .of_same received (.kept (acknowledge_reconnects _ nowMs key _ _))
      | _ => exact .kept ⟨rfl, rfl, id, id⟩
  | recoverFromFallback =>
      refine reset rfl ?_
      simp only [RuntimeClient.perform, Linux.client, Linux.runtimeClient,
        Linux.recoverFromFallback, requestConnect]
      split <;> exact .reset rfl rfl rfl
  | takeReconnectIfDue =>
      rcases take_reconnects runtime nowMs with ⟨left, reconnects⟩ | ⟨taken, reconnects⟩
      · refine beat_of_quiet rfl ?_ reconnects (.inl rfl)
        change Answer.taken (runtime.takeReconnectIfDue Linux.client.platform nowMs).1 ≠ .taken true
        simp [left]
      · have answer : (Linux.client.perform runtime ⟨.takeReconnectIfDue, nowMs⟩).1 = .taken true :=
          congrArg Answer.taken taken
        unfold beat
        dsimp only
        rw [if_neg (by simp [resetsBackoff]), if_pos answer]
        exact reconnects

theorem Linux.perform_resets {runtime : SessionRuntime Table} {call : RuntimeCall}
    (resets : resetsBackoff runtime call = true) :
    (Linux.client.perform runtime call).2.pacer = ⟨0, none⟩ := by
  have shown : beat Linux.client runtime call = some .reset := if_pos resets
  have step := (Linux.perform_reconnects runtime call).step
  rw [shown] at step
  cases step with
  | reset attempt due => rw [← attempt, ← due]

/-! ## Runs -/

namespace Linux

variable (runtime : SessionRuntime Table) (calls : List RuntimeCall)

theorem performAll_backoff :
    (client.performAll runtime calls).reconnectBackoffMs = runtime.reconnectBackoffMs := by
  induction calls generalizing runtime with
  | nil => rfl
  | cons call calls ih => exact (ih _).trans (perform_reconnects runtime call).backoff

theorem performAll_quiet (quiet : runtime.Quiet) : (client.performAll runtime calls).Quiet := by
  induction calls generalizing runtime with
  | nil => exact quiet
  | cons call calls ih => exact ih _ ((perform_reconnects runtime call).quiet quiet)

/-- The calls of a history pace the reconnects. -/
theorem performAll_paces :
    Paces runtime.reconnectBackoffMs dueAfter runtime.pacer (beats client runtime calls)
      (client.performAll runtime calls).pacer := by
  induction calls generalizing runtime with
  | nil => exact .refl
  | cons call calls ih =>
      have reconnects := perform_reconnects runtime call
      refine .step reconnects.step ?_
      rw [← reconnects.backoff]
      exact ih _

end Linux

/-- How a runtime with a list of delays reconnects, after any calls and through any more. -/
structure BacksOff (config : MeetingConfig) (delays : List Int) : Prop where
  bounded : ∀ calls, (Linux.runtimeAfter config delays calls).reconnectAttempt ≤ delays.length
  quiet : ∀ calls, (Linux.runtimeAfter config delays calls).Quiet
  resets : ∀ calls call, resetsBackoff (Linux.runtimeAfter config delays calls) call = true →
    (Linux.runtimeAfter config delays (calls ++ [call])).pacer = ⟨0, none⟩
  /-- Without a reset the delays are used in order, each of them once. -/
  inOrder : ∀ calls more,
    let runtime := Linux.runtimeAfter config delays calls
    let rounds := (beats Linux.client runtime more).filterMap Beat.round?
    (∀ beat ∈ beats Linux.client runtime more, beat.isReset = false) →
      rounds = List.zipWith (fun nowMs delay => (nowMs, dueAfter nowMs delay))
          (rounds.map Prod.fst) (delays.drop runtime.reconnectAttempt) ∧
        (Linux.runtimeAfter config delays (calls ++ more)).reconnectAttempt =
          runtime.reconnectAttempt + rounds.length
  /-- What is taken is the last that was scheduled, and it is due. -/
  fires : ∀ calls earlier later nowMs,
    beats Linux.client (Linux.withBackoff config delays) calls =
        earlier ++ .fired nowMs :: later →
      ∃ front scheduledAt dueAtMs,
        earlier = front ++ [.scheduled scheduledAt dueAtMs] ∧ dueAtMs ≤ nowMs
  /-- A failure takes the next delay, or the fallback where none is left. -/
  fails : ∀ calls operation failure nowMs, operation.failure? = some failure →
    let runtime := Linux.runtimeAfter config delays calls
    let next := Linux.runtimeAfter config delays (calls ++ [⟨operation, nowMs⟩])
    runtime.Reconnecting →
      match delays[runtime.reconnectAttempt]? with
      | some delay =>
          next.reconnectDueAtMs = some (dueAfter nowMs delay) ∧
            next.reconnectAttempt = runtime.reconnectAttempt + 1
      | none =>
          next.state.fallback.active = true ∧ next.reconnectDueAtMs = none ∧
            next.reconnectAttempt = runtime.reconnectAttempt

theorem reconnects_backOff (config : MeetingConfig) (delays : List Int) :
    BacksOff config delays where
  bounded := fun calls =>
    (Linux.performAll_paces (Linux.withBackoff config delays) calls).bounded (Nat.zero_le _)
  quiet := fun calls => Linux.performAll_quiet _ calls ⟨fun _ => rfl, fun _ => rfl⟩
  resets := by
    intro calls call resets
    rw [Linux.runtimeAfter, RuntimeClient.performAll_append]
    exact Linux.perform_resets resets
  inOrder := by
    intro calls more runtime rounds noReset
    have backoff : runtime.reconnectBackoffMs = delays := Linux.performAll_backoff _ calls
    have paces := Linux.performAll_paces runtime more
    rw [backoff] at paces
    have ordered := paces.inOrder noReset
    rw [Linux.runtimeAfter, RuntimeClient.performAll_append]
    exact ordered
  fires := by
    intro calls earlier later nowMs split
    rcases (Linux.performAll_paces _ calls).fires split with scheduled | ⟨_, due, pending, _⟩
    · exact scheduled
    · cases pending
  fails := by
    intro calls operation failure nowMs found runtime next reconnecting
    have backoff : runtime.reconnectBackoffMs = delays := Linux.performAll_backoff _ calls
    have minds : Linux.client.platform.MindsFallback := Linux.platform_views.mindsFallback rfl
    have fails := RuntimeClient.perform_fails minds reconnecting found nowMs
    rw [backoff] at fails
    have last : next = (Linux.client.perform runtime ⟨operation, nowMs⟩).2 :=
      Linux.client.performAll_append _ calls _
    rw [last]
    exact fails

end Kaigi.Session
