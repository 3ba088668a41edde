import Kaigi.Client.AnonymousPeers
import Kaigi.Session.Linux
import Kaigi.Session.Runtime

/-!
# The session runtime of the Linux client
-/

set_option autoImplicit false

namespace Kaigi.Session.Linux

/-- `char::to_lowercase`; the letters outside ASCII that stay outside keep their case here,
since `normalizedCharacter` leaves them out in either. -/
def toLowercase (character : Char) : List Char :=
  if character.toNat = 0x130 then ['i', Char.ofNat 0x307]
  else if character.toNat = 0x212A then ['k']
  else [character.toLower]

def normalizedCharacter (character : Char) : Option Char :=
  if character.isAlphanum || character = '-' || character = '_' then some character
  else if Hub.isWhitespace character then some '-'
  else none

def normalizeParticipantId (raw : String) : String :=
  let source := Client.trim raw
  let base := if source.isEmpty then "participant".toList else source
  let normalized := (base.flatMap toLowercase).filterMap normalizedCharacter
  if normalized.isEmpty then "participant" else String.ofList normalized

/-- `i64::saturating_add`. -/
def saturatingAdd (nowMs delayMs : Int) : Int :=
  max (-0x8000000000000000) (min (nowMs + delayMs) 0x7FFFFFFFFFFFFFFF)

def platform : Platform Table where
  reduce := reduce
  hasRequiredSignature := hasRequiredSignature
  dueAt := saturatingAdd
  normalizeParticipantId := normalizeParticipantId

section

variable {Map : Type → Type} (platform : Platform Map)

def onFrame (runtime : SessionRuntime Map) (frame : ProtocolFrame) (nowMs : Int) :
    List ProtocolFrame × SessionRuntime Map :=
  let participantId := runtime.resolvedParticipantId platform
  let received := runtime.applyEvent platform (.frameReceived frame) nowMs
  match frame with
  | .ping _ => ([.pong nowMs], received)
  | .e2eeKeyEpoch frame =>
      let signatureOk := platform.hasRequiredSignature frame.signature received.state
      received.acknowledge platform frame participantId signatureOk nowMs
  | _ => ([], received)

def recoverFromFallback (runtime : SessionRuntime Map) (nowMs : Int) : SessionRuntime Map :=
  let requested :=
    { runtime with
      userInitiatedDisconnect := false
      reconnectAttempt := 0
      reconnectDueAtMs := none }.recordConnectionEvent "fallback_recovery_requested" [] nowMs
  (requested.applyEvent platform .fallbackRecovered nowMs).requestConnect platform false
    "fallback_recovery" nowMs

def runtimeClient : RuntimeClient Map where
  platform := platform
  onFrame := onFrame platform
  recoverFromFallback := recoverFromFallback platform

end

def client : RuntimeClient Table :=
  runtimeClient platform

/-- `SessionRuntime::with_backoff`. -/
def withBackoff (config : MeetingConfig) (reconnectBackoffMs : List Int) :
    SessionRuntime Table where
  state := ProtocolSessionState.initial config
  reconnectBackoffMs := reconnectBackoffMs

/-- The runtime after a history of calls. -/
def runtimeAfter (config : MeetingConfig) (reconnectBackoffMs : List Int)
    (calls : List RuntimeCall) : SessionRuntime Table :=
  client.performAll (withBackoff config reconnectBackoffMs) calls

/-! ## The runtime over the machine -/

def machinePlatform : Platform Directory where
  reduce := step rules
  hasRequiredSignature := fun signature state => signed rules state signature
  dueAt := saturatingAdd
  normalizeParticipantId := normalizeParticipantId

def machine : RuntimeClient Directory :=
  runtimeClient machinePlatform

theorem platform_views : platform.Views machinePlatform where
  reduce := fun state event nowMs => reduce_view state nowMs event
  hasRequiredSignature := fun signature state => hasRequiredSignature_view state signature
  dueAt := rfl
  normalizeParticipantId := rfl

theorem client_views : client.Views machine where
  platform := platform_views
  onFrame := by
    intro runtime frame nowMs
    have received := runtime.applyEvent_view platform_views (.frameReceived frame) nowMs
    cases frame with
    | ping sentAtMs => exact congrArg (Prod.mk [ProtocolFrame.pong nowMs]) received
    | e2eeKeyEpoch frame =>
        refine (SessionRuntime.acknowledge_view platform_views ..).trans ?_
        rw [platform_views.hasRequiredSignature, ← SessionRuntime.view_state, received]
        rfl
    | _ => exact congrArg (Prod.mk []) received
  recoverFromFallback := by
    intro runtime nowMs
    refine (SessionRuntime.requestConnect_view platform_views ..).trans ?_
    rw [SessionRuntime.applyEvent_view platform_views]
    rfl

end Kaigi.Session.Linux
