import Kaigi.Client.AnonymousPeers
import Kaigi.Session.Runtime
import Kaigi.Session.Windows

/-!
# The session runtime of the Windows client
-/

set_option autoImplicit false

namespace Kaigi.Session.Windows

/-- `ToLowerInvariant`, with the same omission as for the Linux client. -/
def toLowerInvariant (character : Char) : Char :=
  if character.toNat = 0x212A then 'k' else character.toLower

def normalizedCharacter (character : Char) : Option Char :=
  if ('a' ≤ character && character ≤ 'z') || ('0' ≤ character && character ≤ '9') ||
      character = '-' || character = '_' then
    some character
  else if Hub.isWhitespace character then some '-'
  else none

def normalizeParticipantId (raw : String) : String :=
  let source := if Hub.isBlank raw then "participant".toList else Client.trim raw
  let normalized := (source.map toLowerInvariant).filterMap normalizedCharacter
  if normalized.isEmpty then "participant" else String.ofList normalized

/-- The sum of two `long` values, which wraps around. -/
def wrappingAdd (nowMs delayMs : Int) : Int :=
  (nowMs + delayMs).bmod 0x10000000000000000

def platform : Platform Table where
  reduce := reduce
  hasRequiredSignature := hasRequiredSignature
  dueAt := wrappingAdd
  normalizeParticipantId := normalizeParticipantId

section

variable {Map : Type → Type} (platform : Platform Map)

def onFrame (runtime : SessionRuntime Map) (frame : ProtocolFrame) (nowMs : Int) :
    List ProtocolFrame × SessionRuntime Map :=
  let participantId := runtime.resolvedParticipantId platform
  let received := runtime.applyEvent platform (.frameReceived frame) nowMs
  match frame with
  | .ping _ => ([.pong nowMs], received)
  | .e2eeKeyEpoch frame =>
      let signatureValid := platform.hasRequiredSignature frame.signature runtime.state
      received.acknowledge platform frame participantId signatureValid nowMs
  | _ => ([], received)

def recoverFromFallback (runtime : SessionRuntime Map) (nowMs : Int) : SessionRuntime Map :=
  let requested :=
    { runtime with
      userInitiatedDisconnect := false
      reconnectAttempt := 0
      reconnectDueAtMs := none }.recordConnectionEvent "fallback_recovery_requested" [] nowMs
  (requested.applyEvent platform .fallbackRecovered nowMs).applyEvent platform .connectRequested
    nowMs

def runtimeClient : RuntimeClient Map where
  platform := platform
  onFrame := onFrame platform
  recoverFromFallback := recoverFromFallback platform

end

def client : RuntimeClient Table :=
  runtimeClient platform

def withBackoff (config : MeetingConfig) (reconnectBackoffMs : List Int) :
    SessionRuntime Table where
  state := ProtocolSessionState.initial config
  reconnectBackoffMs := reconnectBackoffMs

/-- The runtime after a history of calls. -/
def runtimeAfter (config : MeetingConfig) (reconnectBackoffMs : List Int)
    (calls : List RuntimeCall) : SessionRuntime Table :=
  client.performAll (withBackoff config reconnectBackoffMs) calls

/-! ## The runtime over the machine -/

def machinePlatform : Platform Directory where
  reduce := step Linux.rules
  hasRequiredSignature := fun signature state => signed Linux.rules state signature
  dueAt := wrappingAdd
  normalizeParticipantId := normalizeParticipantId

def machine : RuntimeClient Directory :=
  runtimeClient machinePlatform

theorem platform_views : platform.Views machinePlatform where
  reduce := fun state event nowMs => reduce_view state nowMs event
  hasRequiredSignature := fun signature state => hasRequiredSignature_view state signature
  dueAt := rfl
  normalizeParticipantId := rfl

theorem client_views : client.Views machine where
  platform := platform_views
  onFrame := by
    intro runtime frame nowMs
    have received := runtime.applyEvent_view platform_views (.frameReceived frame) nowMs
    cases frame with
    | ping sentAtMs => exact congrArg (Prod.mk [ProtocolFrame.pong nowMs]) received
    | e2eeKeyEpoch frame =>
        refine (SessionRuntime.acknowledge_view platform_views ..).trans ?_
        rw [platform_views.hasRequiredSignature, received]
        rfl
    | _ => exact congrArg (Prod.mk []) received
  recoverFromFallback := by
    intro runtime nowMs
    refine (SessionRuntime.applyEvent_view platform_views ..).trans ?_
    rw [SessionRuntime.applyEvent_view platform_views]
    rfl

end Kaigi.Session.Windows
