import Kaigi.Client.Hex
import Kaigi.Session.LinuxRuntime
import Kaigi.Session.Steps
import Kaigi.Session.WindowsRuntime
import Mathlib.Data.List.Basic
import Mathlib.Data.List.Induction
import Mathlib.Data.List.TakeWhile

/-!
# Agreement of the Linux and Windows runtimes

The runtimes answer alike and stay in corresponding states as long as three differences
do not show: a recovery from the fallback connects at once on Windows, also in the
background; the time of a reconnect wraps around there; and the dotted capital I is kept
out of the participant id instead of becoming an i.
-/

set_option autoImplicit false

namespace Kaigi.Session

/-! ## The runtime without its telemetry -/

section

variable {Map : Type → Type}

def SessionRuntime.untold (runtime : SessionRuntime Map) : SessionRuntime Map :=
  { runtime with telemetry := [] }

/-- A result without the telemetry. -/
def untoldResult {Result : Type} (result : Result × SessionRuntime Map) :
    Result × SessionRuntime Map :=
  result.map id SessionRuntime.untold

open SessionRuntime

variable (platform : Platform Map) {first second : SessionRuntime Map}

theorem untold_eq (same : first.untold = second.untold) :
    ∃ telemetry, second = { first with telemetry } := by
  refine ⟨second.telemetry, ?_⟩
  have restored := congrArg
    (fun runtime => ({ runtime with telemetry := second.telemetry } : SessionRuntime Map)) same
  exact restored.symm

theorem requestConnect_untold (same : first.untold = second.untold) (resetBackoff : Bool)
    (source : String) (nowMs : Int) :
    (first.requestConnect platform resetBackoff source nowMs).untold =
      (second.requestConnect platform resetBackoff source nowMs).untold := by
  obtain ⟨telemetry, rfl⟩ := untold_eq same
  simp only [requestConnect, apply_ite untold]
  rfl

theorem reconnectAfter_untold (same : first.untold = second.untold) (event : ProtocolEvent)
    (trigger : String) (nowMs : Int) :
    untoldResult (first.reconnectAfter platform event trigger nowMs) =
      untoldResult (second.reconnectAfter platform event trigger nowMs) := by
  obtain ⟨telemetry, rfl⟩ := untold_eq same
  simp only [reconnectAfter, scheduleReconnectOrFallback, apply_ite untoldResult]
  refine if_congr Iff.rfl rfl (if_congr Iff.rfl rfl (if_congr Iff.rfl rfl ?_))
  dsimp only [applyEvent, untold]
  split <;> rfl

theorem acknowledge_untold (same : first.untold = second.untold) (frame : E2eeKeyEpochFrame)
    (participantId : String) (signatureOk : Bool) (nowMs : Int) :
    untoldResult (first.acknowledge platform frame participantId signatureOk nowMs) =
      untoldResult (second.acknowledge platform frame participantId signatureOk nowMs) := by
  obtain ⟨telemetry, rfl⟩ := untold_eq same
  simp only [acknowledge, apply_ite untoldResult]
  rfl

/-- No part of the client looks at the telemetry. -/
structure RuntimeClient.Untold (client : RuntimeClient Map) : Prop where
  onFrame : ∀ first second frame nowMs, first.untold = second.untold →
    untoldResult (client.onFrame first frame nowMs) =
      untoldResult (client.onFrame second frame nowMs)
  recoverFromFallback : ∀ first second nowMs, first.untold = second.untold →
    (client.recoverFromFallback first nowMs).untold =
      (client.recoverFromFallback second nowMs).untold

theorem Windows.runtimeClient_untold : (Windows.runtimeClient platform).Untold where
  onFrame := by
    intro first second frame nowMs same
    obtain ⟨telemetry, rfl⟩ := untold_eq same
    cases frame with
    | e2eeKeyEpoch frame => exact acknowledge_untold platform (by rfl) frame _ _ nowMs
    | _ => rfl
  recoverFromFallback := by
    intro first second nowMs same
    obtain ⟨telemetry, rfl⟩ := untold_eq same
    rfl

theorem perform_untold {client : RuntimeClient Map} (untold : client.Untold)
    (same : first.untold = second.untold) (call : RuntimeCall) :
    untoldResult (client.perform first call) = untoldResult (client.perform second call) := by
  obtain ⟨operation, nowMs⟩ := call
  cases operation with
  | onFrame frame =>
      exact congrArg (Prod.map Answer.frames id) (untold.onFrame first second frame nowMs same)
  | recoverFromFallback =>
      exact congrArg (Prod.mk Answer.done) (untold.recoverFromFallback first second nowMs same)
  | connectRequested =>
      exact congrArg (Prod.mk Answer.done) (requestConnect_untold client.platform same _ _ nowMs)
  | _ => ?_
  all_goals obtain ⟨telemetry, rfl⟩ := untold_eq same
  case onAppForegrounded =>
    refine congrArg (Prod.mk Answer.done) ?_
    simp only [onAppForegrounded, apply_ite SessionRuntime.untold]
    refine if_congr Iff.rfl rfl (if_congr Iff.rfl ?_ rfl)
    exact requestConnect_untold client.platform (by rfl) _ _ nowMs
  case onAppBackgrounded =>
    refine congrArg (Prod.mk Answer.done) ?_
    simp only [onAppBackgrounded, apply_ite SessionRuntime.untold]
    rfl
  case onConnectivityChanged available =>
    refine congrArg (Prod.mk Answer.done) ?_
    simp only [onConnectivityChanged, apply_ite SessionRuntime.untold]
    refine if_congr Iff.rfl rfl (if_congr Iff.rfl ?_ ?_)
    · refine if_congr Iff.rfl rfl (if_congr Iff.rfl ?_ rfl)
      exact requestConnect_untold client.platform (by rfl) _ _ nowMs
    · exact congrArg Prod.snd (reconnectAfter_untold client.platform (by rfl) _ _ nowMs)
  case onAudioInterruptionBegan =>
    refine congrArg (Prod.mk Answer.done) ?_
    simp only [onAudioInterruptionBegan, apply_ite SessionRuntime.untold]
    refine if_congr Iff.rfl rfl ?_
    exact congrArg Prod.snd (reconnectAfter_untold client.platform (by rfl) _ _ nowMs)
  case onAudioInterruptionEnded shouldReconnect =>
    refine congrArg (Prod.mk Answer.done) ?_
    simp only [onAudioInterruptionEnded, apply_ite SessionRuntime.untold]
    refine if_congr Iff.rfl rfl (if_congr Iff.rfl rfl (if_congr Iff.rfl ?_ rfl))
    exact requestConnect_untold client.platform (by rfl) _ _ nowMs
  case onTransportConnected =>
    refine congrArg (Prod.map Answer.frames id)
      (?_ : untoldResult (first.onTransportConnected client.platform nowMs) =
        untoldResult (onTransportConnected { first with telemetry } client.platform nowMs))
    simp only [onTransportConnected, apply_ite untoldResult]
    rfl
  case onTransportDisconnected reason | onTransportFailure reason =>
    exact congrArg (Prod.map Answer.directive id)
      (reconnectAfter_untold client.platform (by rfl) _ _ nowMs)
  case takeReconnectIfDue =>
    obtain ⟨state, backoff, attempt, due, disconnected, background, told⟩ := first
    cases due with
    | none => rfl
    | some dueAtMs =>
        simp only [RuntimeClient.perform, takeReconnectIfDue, apply_ite (Prod.map Answer.taken id),
          apply_ite untoldResult]
        refine if_congr Iff.rfl rfl ?_
        exact congrArg (Prod.mk _) (requestConnect_untold client.platform (by rfl) _ _ nowMs)
  all_goals rfl

end

/-! ## Where the differences do not show -/

def Operation.mayReconnect : Operation → Bool
  | .onTransportDisconnected _ | .onTransportFailure _ | .onConnectivityChanged false
  | .onAudioInterruptionBegan => true
  | _ => false

/-- A failure of the transport has a reconnect scheduled. -/
def schedules (runtime : SessionRuntime Directory) : Bool :=
  !runtime.userInitiatedDisconnect && !runtime.state.fallback.active &&
    !runtime.appInBackground && runtime.reconnectDueAtMs.isNone

/-- The participant id is in the frames that the call returns. -/
def identifies (runtime : SessionRuntime Directory) : Operation → Bool
  | .onTransportConnected => !runtime.appInBackground
  | .onFrame (.e2eeKeyEpoch frame) => signed Linux.rules runtime.state frame.signature
  | _ => false

/-- The text that the participant id is made of. -/
def identity (config : MeetingConfig) : String :=
  if !Hub.isBlank config.participantId then config.participantId else config.participantName

structure Compatible (runtime : SessionRuntime Directory) (call : RuntimeCall) : Prop where
  recovery : call.operation = .recoverFromFallback → runtime.appInBackground = false
  /-- The time of a reconnect fits into 64 bits. -/
  due : call.operation.mayReconnect = true → schedules runtime = true →
    ∀ delay ∈ runtime.reconnectBackoffMs[runtime.reconnectAttempt]?,
      IsI64 (call.nowMs + max delay 0)
  identity : identifies runtime call.operation = true →
    ∀ character ∈ (identity runtime.state.config).toList, character.toNat ≠ 0x130

theorem saturatingAdd_eq {nowMs delayMs : Int} (range : IsI64 (nowMs + delayMs)) :
    Windows.wrappingAdd nowMs delayMs = Linux.saturatingAdd nowMs delayMs := by
  obtain ⟨low, high⟩ := range
  unfold Windows.wrappingAdd Linux.saturatingAdd
  rw [Int.bmod_eq_of_le (by omega) (by omega)]
  omega

theorem normalizedCharacter_lower {character : Char} (lower : character.isUpper = false) :
    Windows.normalizedCharacter character = Linux.normalizedCharacter character := by
  have same : (('a' ≤ character && character ≤ 'z') || ('0' ≤ character && character ≤ '9')) =
      character.isAlphanum := by
    have parted : character.isAlphanum =
        ((character.isUpper || character.isLower) || character.isDigit) := rfl
    rw [parted, lower, Bool.false_or]
    rfl
  unfold Windows.normalizedCharacter Linux.normalizedCharacter
  rw [same]

theorem toLowercase_eq {character : Char} (undotted : character.toNat ≠ 0x130) :
    Linux.toLowercase character = [Windows.toLowerInvariant character] := by
  unfold Linux.toLowercase Windows.toLowerInvariant
  rw [if_neg undotted]
  split <;> rfl

theorem toLowerInvariant_lower (character : Char) :
    (Windows.toLowerInvariant character).isUpper = false := by
  unfold Windows.toLowerInvariant
  split
  · rfl
  · unfold Char.isUpper Char.toLower
    split <;> grind [UInt32.toNat_add, Char.toNat_val]

theorem trim_eq_nil_iff (value : String) : Client.trim value = [] ↔ Hub.isBlank value = true := by
  unfold Client.trim Hub.isBlank
  rw [List.reverse_eq_nil_iff, List.dropWhile_eq_nil_iff, List.all_eq_true]
  constructor
  · intro blank character member
    have parted : value.toList.takeWhile Hub.isWhitespace ++
        value.toList.dropWhile Hub.isWhitespace = value.toList := List.takeWhile_append_dropWhile
    rw [← parted] at member
    obtain head | tail := List.mem_append.mp member
    · exact List.mem_takeWhile_imp head
    · exact blank character (List.mem_reverse.mpr tail)
  · intro blank character member
    exact blank character ((List.dropWhile_suffix _).subset (List.mem_reverse.mp member))

theorem normalizeParticipantId_eq {raw : String}
    (undotted : ∀ character ∈ raw.toList, character.toNat ≠ 0x130) :
    Windows.normalizeParticipantId raw = Linux.normalizeParticipantId raw := by
  have letters (base : List Char) (plain : ∀ character ∈ base, character.toNat ≠ 0x130) :
      (base.map Windows.toLowerInvariant).filterMap Windows.normalizedCharacter =
        (base.flatMap Linux.toLowercase).filterMap Linux.normalizedCharacter := by
    have lowered : base.flatMap Linux.toLowercase = base.map Windows.toLowerInvariant := by
      rw [List.map_eq_flatMap]
      exact List.flatMap_congr fun character member => toLowercase_eq (plain character member)
    rw [lowered]
    refine List.filterMap_congr fun character member => ?_
    obtain ⟨letter, _, rfl⟩ := List.mem_map.mp member
    exact normalizedCharacter_lower (toLowerInvariant_lower letter)
  have trimmed : ∀ character ∈ Client.trim raw, character.toNat ≠ 0x130 :=
    fun character member => undotted character (Client.mem_of_mem_trim member)
  unfold Windows.normalizeParticipantId Linux.normalizeParticipantId
  cases blank : Hub.isBlank raw with
  | true =>
      have empty : Client.trim raw = [] := (trim_eq_nil_iff raw).mpr blank
      rw [empty]
      decide
  | false =>
      have nonempty : (Client.trim raw).isEmpty = false := by
        rw [List.isEmpty_eq_false_iff]
        intro empty
        rw [(trim_eq_nil_iff raw).mp empty] at blank
        cases blank
      simp only [nonempty, Bool.false_eq_true, ↓reduceIte, letters _ trimmed]

/-! ## One call -/

variable {runtime : SessionRuntime Directory} {nowMs : Int}

theorem scheduleReconnectOrFallback_agree
    (due : schedules runtime = true →
      ∀ delay ∈ runtime.reconnectBackoffMs[runtime.reconnectAttempt]?,
        IsI64 (nowMs + max delay 0))
    (trigger : String) :
    runtime.scheduleReconnectOrFallback Windows.machinePlatform trigger nowMs =
      runtime.scheduleReconnectOrFallback Linux.machinePlatform trigger nowMs := by
  unfold SessionRuntime.scheduleReconnectOrFallback
  split
  · rfl
  · next ready =>
      split
      · rfl
      · next free =>
          cases next : runtime.reconnectBackoffMs[runtime.reconnectAttempt]? with
          | none => rfl
          | some delay =>
              have scheduled : schedules runtime = true := by
                simp only [Bool.or_eq_true, not_or, Bool.not_eq_true] at ready free
                simpa [schedules, ready] using free
              have same : Windows.machinePlatform.dueAt nowMs (max delay 0) =
                  Linux.machinePlatform.dueAt nowMs (max delay 0) :=
                saturatingAdd_eq (due scheduled delay next)
              simp only [same]

/-- A failure of the transport leaves the fallback as it is. -/
theorem reconnectAfter_agree {event : ProtocolEvent}
    (kept : (step Linux.rules runtime.state event nowMs).fallback = runtime.state.fallback)
    (due : schedules runtime = true →
      ∀ delay ∈ runtime.reconnectBackoffMs[runtime.reconnectAttempt]?,
        IsI64 (nowMs + max delay 0))
    (trigger : String) :
    runtime.reconnectAfter Windows.machinePlatform event trigger nowMs =
      runtime.reconnectAfter Linux.machinePlatform event trigger nowMs := by
  have scheduled : schedules (runtime.applyEvent Linux.machinePlatform event nowMs) =
      schedules runtime := by
    simp only [schedules, SessionRuntime.applyEvent, Linux.machinePlatform, kept]
  unfold SessionRuntime.reconnectAfter
  refine if_congr Iff.rfl rfl ?_
  refine scheduleReconnectOrFallback_agree ?_ trigger
  intro ready
  exact due (scheduled.symm.trans ready)

theorem resolvedParticipantId_agree
    (undotted : ∀ character ∈ (identity runtime.state.config).toList, character.toNat ≠ 0x130) :
    runtime.resolvedParticipantId Windows.machinePlatform =
      runtime.resolvedParticipantId Linux.machinePlatform := by
  have same := normalizeParticipantId_eq undotted
  unfold SessionRuntime.resolvedParticipantId
  unfold identity at same
  cases blank : Hub.isBlank runtime.state.config.participantId with
  | true => simpa [blank, Windows.machinePlatform, Linux.machinePlatform] using same
  | false => simpa [blank, Windows.machinePlatform, Linux.machinePlatform] using same

theorem handshakeFrames_agree
    (undotted : ∀ character ∈ (identity runtime.state.config).toList, character.toNat ≠ 0x130) :
    runtime.handshakeFrames Windows.machinePlatform nowMs =
      runtime.handshakeFrames Linux.machinePlatform nowMs := by
  unfold SessionRuntime.handshakeFrames
  rw [resolvedParticipantId_agree undotted]

theorem onTransportConnected_agree
    (undotted : identifies runtime .onTransportConnected = true →
      ∀ character ∈ (identity runtime.state.config).toList, character.toNat ≠ 0x130) :
    runtime.onTransportConnected Windows.machinePlatform nowMs =
      runtime.onTransportConnected Linux.machinePlatform nowMs := by
  unfold SessionRuntime.onTransportConnected
  cases background : runtime.appInBackground with
  | true =>
      rw [if_pos rfl, if_pos rfl]
      rfl
  | false =>
      refine congrArg₂ Prod.mk ?_ rfl
      refine handshakeFrames_agree ?_
      exact undotted (by simp [identifies, background])

/-- In the foreground, the request to connect is not deferred. -/
theorem recoverFromFallback_agree (foreground : runtime.appInBackground = false) :
    (Windows.recoverFromFallback Windows.machinePlatform runtime nowMs).untold =
      (Linux.recoverFromFallback Linux.machinePlatform runtime nowMs).untold := by
  unfold Linux.recoverFromFallback SessionRuntime.requestConnect
  dsimp only
  rw [if_neg]
  · rfl
  · simp [SessionRuntime.applyEvent, SessionRuntime.recordConnectionEvent, foreground]

theorem onFrame_agree {frame : ProtocolFrame}
    (undotted : identifies runtime (.onFrame frame) = true →
      ∀ character ∈ (identity runtime.state.config).toList, character.toNat ≠ 0x130) :
    Windows.machine.onFrame runtime frame nowMs = Linux.machine.onFrame runtime frame nowMs := by
  cases frame with
  | e2eeKeyEpoch frame =>
      let received :=
        runtime.applyEvent Linux.machinePlatform (.frameReceived (.e2eeKeyEpoch frame)) nowMs
      have config : received.state.config = runtime.state.config := by
        obtain ⟨content, update, _, _, _, marked⟩ :=
          step_reaches Linux.rules runtime.state (.frameReceived (.e2eeKeyEpoch frame)) nowMs
        change (step Linux.rules _ _ _).config = _
        rw [marked]
        cases update <;> rfl
      have windows : Windows.machine.onFrame runtime (.e2eeKeyEpoch frame) nowMs =
          received.acknowledge Linux.machinePlatform frame
            (runtime.resolvedParticipantId Windows.machinePlatform)
            (signed Linux.rules runtime.state frame.signature) nowMs := rfl
      have linux : Linux.machine.onFrame runtime (.e2eeKeyEpoch frame) nowMs =
          received.acknowledge Linux.machinePlatform frame
            (runtime.resolvedParticipantId Linux.machinePlatform)
            (signed Linux.rules received.state frame.signature) nowMs := rfl
      have same : signed Linux.rules received.state frame.signature =
          signed Linux.rules runtime.state frame.signature := by
        unfold signed
        rw [config]
      rw [windows, linux, same]
      cases accepted : signed Linux.rules runtime.state frame.signature with
      | false =>
          simp only [SessionRuntime.acknowledge, Bool.false_and, Bool.false_eq_true, ↓reduceIte]
      | true => rw [resolvedParticipantId_agree (undotted accepted)]
  | _ => rfl

/-- From the same state, a compatible call has the same effect but for the telemetry. -/
theorem perform_agree {call : RuntimeCall} (compatible : Compatible runtime call) :
    untoldResult (Windows.machine.perform runtime call) =
      untoldResult (Linux.machine.perform runtime call) := by
  obtain ⟨operation, nowMs⟩ := call
  obtain ⟨recovery, due, undotted⟩ := compatible
  have failed {event : ProtocolEvent} {name trigger : String}
      {attributes : List (String × String)} (transport : operation.mayReconnect = true)
      (kept : (step Linux.rules runtime.state event nowMs).fallback = runtime.state.fallback) :
      (runtime.recordConnectionEvent name attributes nowMs).reconnectAfter
          Windows.machinePlatform event trigger nowMs =
        (runtime.recordConnectionEvent name attributes nowMs).reconnectAfter
          Linux.machinePlatform event trigger nowMs := by
    refine reconnectAfter_agree ?_ ?_ trigger
    · exact kept
    · exact due transport
  have kept (message : String) :
      (step Linux.rules runtime.state (.transportFailure message) nowMs).fallback =
        runtime.state.fallback := by
    simp only [step, fail]
    split <;> rfl
  cases operation with
  | onConnectivityChanged available =>
      cases available with
      | true => rfl
      | false =>
          refine congrArg (Prod.mk Answer.done) (congrArg SessionRuntime.untold ?_)
          exact if_congr Iff.rfl rfl (congrArg Prod.snd (failed rfl (kept _)))
  | onAudioInterruptionBegan =>
      refine congrArg (Prod.mk Answer.done) (congrArg SessionRuntime.untold ?_)
      exact if_congr Iff.rfl rfl (congrArg Prod.snd (failed rfl (kept _)))
  | onTransportFailure message =>
      exact congrArg (untoldResult ∘ Prod.map Answer.directive id) (failed rfl (kept message))
  | onTransportDisconnected reason =>
      refine congrArg (untoldResult ∘ Prod.map Answer.directive id) (failed rfl ?_)
      simp only [step, fail]
      split <;> rfl
  | onTransportConnected =>
      exact congrArg (untoldResult ∘ Prod.map Answer.frames id)
        (onTransportConnected_agree undotted)
  | onFrame frame =>
      exact congrArg (untoldResult ∘ Prod.map Answer.frames id) (onFrame_agree undotted)
  | recoverFromFallback =>
      exact congrArg (Prod.mk Answer.done) (recoverFromFallback_agree (recovery rfl))
  | connectRequested | onAppForegrounded | onAppBackgrounded | onAudioInterruptionEnded _
  | onAudioRouteChanged _ | onSendFailure _ | onManualDisconnect | takeReconnectIfDue => rfl

/-! ## Runs -/

structure Corresponds (windows linux : SessionRuntime Table) : Prop where
  state : windows.state.view = linux.state.view
  reconnectBackoffMs : windows.reconnectBackoffMs = linux.reconnectBackoffMs
  reconnectAttempt : windows.reconnectAttempt = linux.reconnectAttempt
  reconnectDueAtMs : windows.reconnectDueAtMs = linux.reconnectDueAtMs
  userInitiatedDisconnect : windows.userInitiatedDisconnect = linux.userInitiatedDisconnect
  appInBackground : windows.appInBackground = linux.appInBackground

theorem Corresponds.untold {windows linux : SessionRuntime Table}
    (corresponds : Corresponds windows linux) : windows.view.untold = linux.view.untold := by
  obtain ⟨state, backoff, attempt, due, disconnected, background⟩ := corresponds
  simp only [SessionRuntime.view, SessionRuntime.untold, state, backoff, attempt, due, disconnected,
    background]

theorem Corresponds.of_untold {windows linux : SessionRuntime Table}
    (same : windows.view.untold = linux.view.untold) : Corresponds windows linux where
  state := congrArg (fun runtime => runtime.state) same
  reconnectBackoffMs := congrArg (fun runtime => runtime.reconnectBackoffMs) same
  reconnectAttempt := congrArg (fun runtime => runtime.reconnectAttempt) same
  reconnectDueAtMs := congrArg (fun runtime => runtime.reconnectDueAtMs) same
  userInitiatedDisconnect := congrArg (fun runtime => runtime.userInitiatedDisconnect) same
  appInBackground := congrArg (fun runtime => runtime.appInBackground) same

theorem Corresponds.perform {windows linux : SessionRuntime Table}
    (corresponds : Corresponds windows linux) {call : RuntimeCall}
    (compatible : Compatible linux.view call) :
    (Windows.client.perform windows call).1 = (Linux.client.perform linux call).1 ∧
      Corresponds (Windows.client.perform windows call).2 (Linux.client.perform linux call).2 := by
  have same :=
    perform_untold (Windows.runtimeClient_untold Windows.machinePlatform) corresponds.untold call
  have agreed : untoldResult (Windows.machine.perform windows.view call) =
      untoldResult (Linux.machine.perform linux.view call) := same.trans (perform_agree compatible)
  have windowsView := RuntimeClient.perform_view Windows.client_views windows call
  have linuxView := RuntimeClient.perform_view Linux.client_views linux call
  rw [← windowsView, ← linuxView] at agreed
  have answer := congrArg Prod.fst agreed
  have next := congrArg Prod.snd agreed
  exact ⟨answer, .of_untold next⟩

theorem Corresponds.answers {windows linux : SessionRuntime Table}
    (corresponds : Corresponds windows linux) {calls : List RuntimeCall}
    (compatible : Linux.client.Throughout
      (fun runtime call => Compatible runtime.view call) linux calls) :
    Windows.client.answers windows calls = Linux.client.answers linux calls ∧
      Corresponds (Windows.client.performAll windows calls)
        (Linux.client.performAll linux calls) := by
  induction calls generalizing windows linux with
  | nil => exact ⟨rfl, corresponds⟩
  | cons call calls ih =>
      obtain ⟨first, rest⟩ := compatible
      obtain ⟨answer, next⟩ := corresponds.perform first
      obtain ⟨answers, last⟩ := ih next rest
      exact ⟨congrArg₂ List.cons answer answers, last⟩

theorem runtimes_agree (config : MeetingConfig) (reconnectBackoffMs : List Int)
    {calls : List RuntimeCall}
    (compatible : Linux.client.Throughout (fun runtime call => Compatible runtime.view call)
      (Linux.withBackoff config reconnectBackoffMs) calls) :
    Windows.client.answers (Windows.withBackoff config reconnectBackoffMs) calls =
        Linux.client.answers (Linux.withBackoff config reconnectBackoffMs) calls ∧
      Corresponds (Windows.runtimeAfter config reconnectBackoffMs calls)
        (Linux.runtimeAfter config reconnectBackoffMs calls) :=
  Corresponds.answers ⟨rfl, rfl, rfl, rfl, rfl, rfl⟩ compatible

theorem compatible_iff {runtime : SessionRuntime Directory} {call : RuntimeCall} :
    Compatible runtime call ↔
      (call.operation = .recoverFromFallback → runtime.appInBackground = false) ∧
        (call.operation.mayReconnect = true → schedules runtime = true →
          ∀ delay ∈ runtime.reconnectBackoffMs[runtime.reconnectAttempt]?,
            IsI64 (call.nowMs + max delay 0)) ∧
        (identifies runtime call.operation = true →
          ((identity runtime.state.config).toList.all fun character =>
            character.toNat ≠ 0x130) = true) := by
  simp only [List.all_eq_true, decide_eq_true_eq]
  constructor
  · intro compatible
    exact ⟨compatible.1, compatible.2, compatible.3⟩
  · intro all
    exact ⟨all.1, all.2.1, all.2.2⟩

instance (runtime : SessionRuntime Directory) (call : RuntimeCall) :
    Decidable (Compatible runtime call) :=
  decidable_of_iff' _ compatible_iff

/-- The transport is lost and the reconnect falls due. -/
def exampleReconnect : List RuntimeCall :=
  [⟨.connectRequested, 1⟩, ⟨.onTransportConnected, 2⟩, ⟨.onTransportFailure "lost", 3⟩,
    ⟨.takeReconnectIfDue, 1003⟩]

theorem runtimes_agree_example :
    Windows.client.answers (Windows.withBackoff exampleConfig [1000]) exampleReconnect =
        Linux.client.answers (Linux.withBackoff exampleConfig [1000]) exampleReconnect ∧
      Corresponds (Windows.runtimeAfter exampleConfig [1000] exampleReconnect)
        (Linux.runtimeAfter exampleConfig [1000] exampleReconnect) :=
  runtimes_agree exampleConfig [1000]
    ⟨by decide, by decide, by decide, by decide, trivial⟩

/-- The user leaves the fallback while the application is in the background. -/
def exampleRecovery : List RuntimeCall :=
  [⟨.onAppBackgrounded, 1⟩, ⟨.recoverFromFallback, 2⟩]

theorem runtimes_differ :
    (Windows.runtimeAfter exampleConfig [1000] exampleRecovery).state.connectionPhase =
        .connecting ∧
      (Linux.runtimeAfter exampleConfig [1000] exampleRecovery).state.connectionPhase =
        .disconnected ∧
      ¬Corresponds (Windows.runtimeAfter exampleConfig [1000] exampleRecovery)
        (Linux.runtimeAfter exampleConfig [1000] exampleRecovery) := by
  refine ⟨rfl, rfl, fun corresponds => ?_⟩
  have phases := congrArg ProtocolSessionState.connectionPhase corresponds.state
  cases phases

end Kaigi.Session
