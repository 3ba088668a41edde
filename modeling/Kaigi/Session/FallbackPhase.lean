import Kaigi.Session.Android
import Kaigi.Session.Steps
import Kaigi.Session.Web
import Kaigi.Session.Windows

/-!
# The fallback phase

While the fallback is active a session stays in its phase, until the user connects or
disconnects, the transport connects or the fallback is recovered. The negotiation of a
media profile is the exception: where HDR was asked for and SDR is sent, every client
shows the session as degraded.
-/

set_option autoImplicit false

namespace Kaigi.Session

/-- The events that take a session out of the fallback phase. -/
def ProtocolEvent.leaves : ProtocolEvent → Bool
  | .connectRequested | .transportConnected | .manualDisconnected | .fallbackRecovered => true
  | _ => false

def ProtocolEvent.downgrades : ProtocolEvent → Bool
  | .frameReceived (.mediaProfileNegotiation profile) => downgraded profile
  | _ => false

/-- The fallback is active, and the session shows it. -/
def Held {Map : Type → Type} (state : ProtocolSessionState Map) : Prop :=
  state.fallback.active = true ∧ state.connectionPhase = .fallbackActive

/-- Neither a rejection nor its relief ends the fallback. -/
structure Steadfast (rules : Rules) : Prop where
  fallback : ∀ config fallback code nowMs, fallback.active = true →
    (rules.fallback config fallback code nowMs).active = true
  resumed : ∀ state, state.fallback.active = true → rules.resumed state = .fallbackActive

variable {rules : Rules} {state accepted : SessionView} {nowMs : Int}

theorem Steadfast.reject_held (steadfast : Steadfast rules) (active : state.fallback.active = true)
    (code message : String) : Held (reject rules state nowMs code message) := by
  have stays := steadfast.fallback state.config state.fallback code nowMs active
  exact ⟨stays, if_pos stays⟩

theorem Steadfast.relieve_held (steadfast : Steadfast rules) (held : Held state)
    (lifted : SessionError → Bool) : Held (relieve rules lifted state) := by
  unfold relieve
  split
  · exact ⟨held.1, steadfast.resumed state held.1⟩
  · exact held

theorem Steadfast.checkPayment_held (steadfast : Steadfast rules) (held : Held state) :
    Held (checkPayment rules state nowMs) := by
  unfold checkPayment
  split
  · split <;> exact steadfast.reject_held held.1 ..
  · exact steadfast.relieve_held held _

theorem Steadfast.checkEpoch_held (steadfast : Steadfast rules) (held : Held state) :
    Held (checkEpoch rules state nowMs) := by
  unfold checkEpoch
  split
  · exact steadfast.reject_held held.1 ..
  · exact steadfast.relieve_held held _

theorem Steadfast.guarded_held (steadfast : Steadfast rules) {guard : Guard}
    (active : state.fallback.active = true) (held : Held accepted) :
    Held (guarded rules state nowMs guard accepted) := by
  unfold guarded refuse
  split
  · exact held
  · split <;> exact steadfast.reject_held active ..

theorem Steadfast.receive_held (steadfast : Steadfast rules) (held : Held state)
    {frame : ProtocolFrame} (kept : (ProtocolEvent.frameReceived frame).downgrades = false) :
    Held (receive rules state frame nowMs) := by
  have active := held.1
  cases frame with
  | handshakeAck _ _ _ => exact ⟨active, if_pos active⟩
  | participantPresenceDelta frame =>
      simp only [receive]
      split <;> exact held
  | roleGrant frame => exact steadfast.guarded_held active held
  | roleRevoke frame => exact steadfast.guarded_held active held
  | permissionsSnapshot name effectivePermissions epoch =>
      simp only [receive]
      split <;> exact held
  | moderationSigned frame => exact steadfast.guarded_held active held
  | sessionPolicy frame =>
      refine steadfast.guarded_held active ?_
      split
      · exact held
      · exact steadfast.checkEpoch_held held
  | mediaProfileNegotiation profile =>
      have same : downgraded profile = false := kept
      refine ⟨active, ?_⟩
      simp only [receive, same, active]
      simpa using held.2
  | e2eeKeyEpoch frame =>
      simp only [receive]
      split
      · exact steadfast.checkEpoch_held held
      · exact steadfast.reject_held active ..
  | paymentPolicy required destination => exact steadfast.checkPayment_held held
  | paymentSettlement status => exact steadfast.checkPayment_held held
  | error category code message => exact ⟨active, if_pos active⟩
  | recordingNotice _ _ | keyRotationAck _ _ _ | handshake _ | deviceCapability _ | ping _
  | pong _ => exact held

theorem fail_held (active : state.fallback.active = true) (code message : String) :
    Held (fail state code message nowMs) := by
  unfold fail
  rw [if_pos active]
  exact ⟨active, rfl⟩

theorem Steadfast.step_held (steadfast : Steadfast rules) (held : Held state)
    {event : ProtocolEvent}
    (stays : event.leaves = false) (kept : event.downgrades = false) :
    Held (step rules state event nowMs) := by
  cases event with
  | connectRequested | transportConnected | manualDisconnected | fallbackRecovered => cases stays
  | transportDisconnected reason => exact fail_held held.1 _ reason
  | transportFailure message => exact fail_held held.1 _ message
  | frameSendFailed message => exact fail_held held.1 _ message
  | fallbackActivated reason => exact ⟨rfl, rfl⟩
  | configUpdated config => exact steadfast.checkPayment_held held
  | frameReceived frame => exact steadfast.receive_held held kept

/-- Only the recovery ends the fallback. -/
theorem Steadfast.step_active (steadfast : Steadfast rules)
    (active : state.fallback.active = true) {event : ProtocolEvent}
    (kept : event ≠ .fallbackRecovered) :
    (step rules state event nowMs).fallback.active = true := by
  by_cases activated : ∃ reason, event = .fallbackActivated reason
  · obtain ⟨reason, rfl⟩ := activated
    rfl
  · obtain same | ⟨config, code, same⟩ :=
      step_fallback (fun reason same => activated ⟨reason, same⟩) kept
    · rw [same]
      exact active
    · rw [same]
      exact steadfast.fallback config _ code nowMs active

theorem step_downgraded {event : ProtocolEvent} (downgrades : event.downgrades = true) :
    (step rules state event nowMs).connectionPhase = .degraded := by
  cases event with
  | frameReceived frame =>
      cases frame with
      | mediaProfileNegotiation profile => exact if_pos downgrades
      | _ => cases downgrades
  | _ => cases downgrades

theorem Steadfast.follow_held (steadfast : Steadfast rules) {calls : List Call} (held : Held state)
    (stays : ∀ call ∈ calls, call.event.leaves = false)
    (kept : ∀ call ∈ calls, call.event.downgrades = false) : Held (follow rules state calls) := by
  induction calls generalizing state with
  | nil => exact held
  | cons call calls ih =>
      obtain ⟨stay, stays⟩ := List.forall_mem_cons.mp stays
      obtain ⟨keep, kept⟩ := List.forall_mem_cons.mp kept
      exact ih (steadfast.step_held held stay keep) stays kept

theorem Steadfast.follow_active (steadfast : Steadfast rules) {calls : List Call}
    (active : state.fallback.active = true)
    (kept : ∀ call ∈ calls, call.event ≠ .fallbackRecovered) :
    (follow rules state calls).fallback.active = true := by
  induction calls generalizing state with
  | nil => exact active
  | cons call calls ih =>
      obtain ⟨keep, kept⟩ := List.forall_mem_cons.mp kept
      exact ih (steadfast.step_active active keep) kept

/-! ## The clients -/

theorem Linux.steadfast : Steadfast Linux.rules where
  fallback := by
    intro config fallback code nowMs active
    simp [Linux.rules, active]
  resumed := fun _ active => if_pos active

theorem Web.steadfast (prototype : Web.ObjectPrototype) : Steadfast (Web.rules prototype) where
  fallback := Linux.steadfast.fallback
  resumed := Linux.steadfast.resumed

theorem Android.steadfast : Steadfast Android.rules where
  fallback := fun _ _ _ _ active => active
  resumed := fun _ active => if_pos active

/-- The fallback in the runs of a client. -/
structure Sticky (run : List Call → ClientState) : Prop where
  /-- The phase stays where no negotiation downgrades the picture. -/
  phase : ∀ before after, Held (run before) →
    (∀ call ∈ after, call.event.leaves = false) →
    (∀ call ∈ after, call.event.downgrades = false) → Held (run (before ++ after))
  /-- Such a negotiation is all that changes it. -/
  phase_iff : ∀ before call, Held (run before) → call.event.leaves = false →
    ((run (before ++ [call])).connectionPhase = .fallbackActive ↔ call.event.downgrades = false)
  /-- Only the recovery ends the fallback. -/
  active : ∀ before after, (run before).fallback.active = true →
    (∀ call ∈ after, call.event ≠ .fallbackRecovered) →
    (run (before ++ after)).fallback.active = true

theorem Steadfast.sticky (steadfast : Steadfast rules) {initial : SessionView}
    {run : List Call → ClientState}
    (view : ∀ calls, (run calls).view = follow rules initial calls) : Sticky run := by
  have held (calls : List Call) : Held (run calls) ↔ Held (follow rules initial calls) := by
    rw [← view]
    exact Iff.rfl
  constructor
  · intro before after shown stays kept
    rw [held, follow_append]
    exact steadfast.follow_held ((held before).mp shown) stays kept
  · intro before call shown stays
    have next : (run (before ++ [call])).view =
        step rules (follow rules initial before) call.event call.nowMs := by
      rw [view, follow_append]
      rfl
    have phase := congrArg ProtocolSessionState.connectionPhase next
    rw [ProtocolSessionState.view_connectionPhase] at phase
    rw [phase]
    constructor
    · intro same
      cases downgrades : call.event.downgrades with
      | false => rfl
      | true => exact absurd ((step_downgraded downgrades).symm.trans same) (by decide)
    · intro kept
      exact (steadfast.step_held ((held before).mp shown) stays kept).2
  · intro before after active kept
    have start : (follow rules initial before).fallback.active = true := by
      rw [← view]
      exact active
    have last := steadfast.follow_active start kept
    rw [← follow_append, ← view] at last
    exact last

theorem fallback_sticky (config : MeetingConfig) (prototype : Web.ObjectPrototype) :
    Sticky (Linux.run config) ∧ Sticky (Windows.run config) ∧ Sticky (Web.run prototype config) ∧
      Sticky (Android.run config) :=
  ⟨Linux.steadfast.sticky (Linux.run_view config),
    Linux.steadfast.sticky (Windows.run_view config),
    (Web.steadfast prototype).sticky (Web.run_view prototype config),
    Android.steadfast.sticky (Android.run_view config)⟩

/-- HDR is asked for and SDR is sent. -/
def exampleDowngrade : Call :=
  ⟨.frameReceived (.mediaProfileNegotiation { preferredProfile := .hdr }), 2⟩

theorem fallback_left :
    Held (Linux.run exampleConfig [⟨.fallbackActivated "no transport", 1⟩]) ∧
      (Linux.run exampleConfig
        [⟨.fallbackActivated "no transport", 1⟩, exampleDowngrade]).fallback.active = true ∧
      (Linux.run exampleConfig
        [⟨.fallbackActivated "no transport", 1⟩, exampleDowngrade]).connectionPhase = .degraded :=
  ⟨⟨rfl, rfl⟩, rfl, rfl⟩

end Kaigi.Session
