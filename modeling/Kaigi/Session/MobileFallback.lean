import Kaigi.Session.Android
import Kaigi.Session.Apple
import Kaigi.Session.Failures
import Kaigi.Session.RuntimeSteps

/-!
# How the mobile clients fall back

The reducers of the mobile clients do not turn the fallback on when they reject by policy;
the owner of the session does, when it finds a policy failure whose time is not the time
of the last error. A rejection in the same millisecond as the error before is not noticed.
-/

set_option autoImplicit false

namespace Kaigi.Session

/-! ## What a reducer writes over the last error -/

/-- The last error after a step, in terms of the one before: either it is a new one whatever
was there, or nothing new is written. -/
inductive Overwrites (nowMs : Int) (after : Option SessionError → Option SessionError) : Prop where
  | written {error : SessionError} : error.atMs = nowMs → (∀ last, after last = some error) →
      Overwrites nowMs after
  | left : (∀ last, after last = last ∨ after last = none) → Overwrites nowMs after

theorem Overwrites.cleared {nowMs : Int} {after : Option SessionError → Option SessionError}
    (none : ∀ last, after last = none) : Overwrites nowMs after :=
  .left fun last => .inr (none last)

theorem Overwrites.kept {nowMs : Int} {after : Option SessionError → Option SessionError}
    (same : ∀ last, after last = last) : Overwrites nowMs after :=
  .left fun last => .inl (same last)

/-- The state with another last error. -/
abbrev ProtocolSessionState.withError {Map : Type → Type} (state : ProtocolSessionState Map)
    (last : Option SessionError) : ProtocolSessionState Map :=
  { state with lastError := last }

section

variable (rules : Rules) (state : SessionView) (nowMs : Int)

/-- What a step of the machine does to the last error. -/
def Marks (step : SessionView → SessionView) : Prop :=
  Overwrites nowMs fun last => (step (state.withError last)).lastError

theorem reject_marks (code message : String) :
    Marks state nowMs (reject rules · nowMs code message) :=
  .written rfl fun _ => rfl

theorem relieve_marks (lifted : SessionError → Bool) :
    Marks state nowMs (relieve rules lifted) := by
  refine .left fun last => ?_
  unfold relieve
  split
  · exact .inr rfl
  · exact .inl rfl

theorem checkPayment_marks : Marks state nowMs (checkPayment rules · nowMs) := by
  unfold Marks checkPayment
  cases due : paymentDue state with
  | true =>
      have due (last : Option SessionError) : paymentDue (state.withError last) = true := due
      simp only [due, ↓reduceIte]
      by_cases blocked : state.paymentState.settlementStatus = .blocked
      · simp only [blocked, ↓reduceIte]
        exact reject_marks rules state nowMs _ _
      · simp only [blocked, ↓reduceIte]
        exact reject_marks rules state nowMs _ _
  | false =>
      have due (last : Option SessionError) : paymentDue (state.withError last) = false := due
      simp only [due, Bool.false_eq_true, ↓reduceIte]
      exact relieve_marks rules state nowMs _

theorem checkEpoch_marks : Marks state nowMs (checkEpoch rules · nowMs) := by
  unfold Marks checkEpoch
  cases due : epochDue state with
  | true =>
      have due (last : Option SessionError) : epochDue (state.withError last) = true := due
      simp only [due, ↓reduceIte]
      exact reject_marks rules state nowMs _ _
  | false =>
      have due (last : Option SessionError) : epochDue (state.withError last) = false := due
      simp only [due, Bool.false_eq_true, ↓reduceIte]
      exact relieve_marks rules state nowMs _

theorem guarded_marks (guard : Guard) {accepted : SessionView → SessionView}
    (marks : Marks state nowMs accepted) :
    Marks state nowMs fun state => guarded rules state nowMs guard (accepted state) := by
  unfold Marks guarded refuse
  cases allowed : passes rules state guard with
  | true =>
      have allowed (last : Option SessionError) :
          passes rules (state.withError last) guard = true := allowed
      simp only [allowed, ↓reduceIte]
      exact marks
  | false =>
      have allowed (last : Option SessionError) :
          passes rules (state.withError last) guard = false := allowed
      simp only [allowed, Bool.false_eq_true, ↓reduceIte]
      cases given : signed rules state guard.signature with
      | true =>
          have given (last : Option SessionError) :
              signed rules (state.withError last) guard.signature = true := given
          simp only [given, ↓reduceIte]
          exact reject_marks rules state nowMs _ _
      | false =>
          have given (last : Option SessionError) :
              signed rules (state.withError last) guard.signature = false := given
          simp only [given, Bool.false_eq_true, ↓reduceIte]
          exact reject_marks rules state nowMs _ _

theorem fail_marks (code message : String) :
    Marks state nowMs (fail · code message nowMs) := by
  cases active : state.fallback.active with
  | true =>
      refine .kept fun last => ?_
      have hidden : fail (state.withError last) code message nowMs =
          { state.withError last with connectionPhase := .fallbackActive } := if_pos active
      exact congrArg (·.lastError) hidden
  | false =>
      have shown (last : Option SessionError) : fail (state.withError last) code message nowMs =
          { state with
            connectionPhase := .degraded
            lastError := some { category := .transportFailure, code, message, atMs := nowMs } } :=
        if_neg (by simp [active])
      exact .written rfl fun last => congrArg (·.lastError) (shown last)

theorem receive_marks (frame : ProtocolFrame) :
    Marks state nowMs (receive rules · frame nowMs) := by
  cases frame with
  | handshakeAck _ _ _ => exact .cleared fun _ => rfl
  | participantPresenceDelta frame =>
      refine .kept fun last => ?_
      simp only [receive]
      split <;> rfl
  | roleGrant frame => exact guarded_marks rules state nowMs frame.guard (.kept fun _ => rfl)
  | roleRevoke frame => exact guarded_marks rules state nowMs frame.guard (.kept fun _ => rfl)
  | permissionsSnapshot name effectivePermissions epoch =>
      refine .kept fun last => ?_
      simp only [receive]
      split <;> rfl
  | moderationSigned frame => exact guarded_marks rules state nowMs frame.guard (.kept fun _ => rfl)
  | sessionPolicy frame =>
      refine guarded_marks rules state nowMs frame.guard ?_
      unfold Marks
      by_cases stale : frame.policyEpoch < state.policyEpoch
      · simp only [stale, ↓reduceIte]
        exact .kept fun _ => rfl
      · simp only [stale, ↓reduceIte]
        exact checkEpoch_marks rules (setPolicy state frame) nowMs
  | mediaProfileNegotiation _ | recordingNotice _ _ | keyRotationAck _ _ _ | handshake _
  | deviceCapability _ | ping _ | pong _ => exact .kept fun _ => rfl
  | e2eeKeyEpoch frame =>
      unfold Marks receive
      cases given : signed rules state frame.signature with
      | true =>
          have given (last : Option SessionError) :
              signed rules (state.withError last) frame.signature = true := given
          simp only [given, ↓reduceIte]
          exact checkEpoch_marks rules (raiseEpoch state frame.epoch) nowMs
      | false =>
          have given (last : Option SessionError) :
              signed rules (state.withError last) frame.signature = false := given
          simp only [given, Bool.false_eq_true, ↓reduceIte]
          exact reject_marks rules state nowMs _ _
  | paymentPolicy required destination =>
      exact checkPayment_marks rules (setPayment state required destination) nowMs
  | paymentSettlement status => exact checkPayment_marks rules (setSettlement state status) nowMs
  | error _ _ _ => exact .written rfl fun _ => rfl

theorem step_marks (event : ProtocolEvent) : Marks state nowMs (step rules · event nowMs) := by
  cases event with
  | connectRequested | transportConnected | manualDisconnected => exact .cleared fun _ => rfl
  | transportDisconnected _ | transportFailure _ | frameSendFailed _ =>
      exact fail_marks state nowMs _ _
  | fallbackActivated _ => exact .written rfl fun _ => rfl
  | fallbackRecovered => exact .kept fun _ => rfl
  | configUpdated config => exact checkPayment_marks rules { state with config } nowMs
  | frameReceived frame => exact receive_marks rules state nowMs frame

end

/-! ## The mobile clients -/

/-- A mobile client: its reducer, and the events that it feeds to it by itself. -/
structure MobileClient where
  Event : Type
  reduce : ClientState → Event → Int → ClientState
  event? : Event → Option ProtocolEvent
  fallbackActivated : String → Event
  /-- What the transport reports while it is being closed. -/
  closed : Option Event

/-- An event to apply. The clock is read again for the fallback that it may activate, and
for the report of the transport, which stays out where there is no socket. -/
structure ApplyCall (Event : Type) where
  event : Event
  nowMs : Int
  activatedAtMs : Int
  closedAtMs : Option Int

def shouldTriggerFallbackFromPolicyFailure (previous current : ClientState) : Bool :=
  if !current.config.preferWebFallbackOnPolicyFailure then false
  else if current.fallback.active then false
  else
    match current.lastError with
    | none => false
    | some error =>
        if error.category ≠ .policyFailure then false
        else previous.lastError.map (·.atMs) ≠ some error.atMs

namespace MobileClient

variable (client : MobileClient) (session : ClientState)

/-- Neither event is a policy failure: it is applied without a fallback of its own. -/
def activateFallback (reason : String) (call : ApplyCall client.Event) : ClientState :=
  if session.fallback.active then session
  else
    let activated := client.reduce session (client.fallbackActivated reason) call.activatedAtMs
    match client.closed, call.closedAtMs with
    | some event, some nowMs => client.reduce activated event nowMs
    | _, _ => activated

/-- What `apply` does to the session; the rest that it writes mirrors the session. -/
def apply (call : ApplyCall client.Event) : ClientState :=
  let next := client.reduce session call.event call.nowMs
  if shouldTriggerFallbackFromPolicyFailure session next then
    client.activateFallback next ((next.lastError.map (·.message)).getD "policy_failure") call
  else next

def applyAll (calls : List (ApplyCall client.Event)) : ClientState :=
  calls.foldl client.apply session

/-- Whatever the last error was, the event puts a policy failure in its place. -/
def Rejects (event : client.Event) (nowMs : Int) : Prop :=
  ∃ error : SessionError, error.category = .policyFailure ∧
    ∀ last, (client.reduce (session.withError last) event nowMs).lastError = some error

/-- The preference that the event leaves. -/
def preferredAfter (event : client.Event) : Bool :=
  match client.event? event with
  | some (.configUpdated config) => config.preferWebFallbackOnPolicyFailure
  | _ => session.config.preferWebFallbackOnPolicyFailure

/-- A rejection is noticed by its time. -/
def Notices (event : client.Event) (nowMs : Int) : Prop :=
  client.preferredAfter session event = true ∧ session.lastError.map (·.atMs) ≠ some nowMs

/-- The reducer is the machine under the rules, but for what a recovery tells of its time. -/
structure Follows (rules : Rules) : Prop where
  steps : ∀ state event nowMs, client.event? event ≠ some .fallbackRecovered →
    (client.reduce state event nowMs).view =
      (client.event? event).elim state.view fun event => step rules state.view event nowMs
  recovers : ∀ state event nowMs, client.event? event = some .fallbackRecovered →
    (client.reduce state event nowMs).lastError = state.lastError
  keeps : ∀ config fallback code nowMs, rules.fallback config fallback code nowMs = fallback
  activates : ∀ reason,
    client.event? (client.fallbackActivated reason) = some (.fallbackActivated reason)
  closes : ∀ event ∈ client.closed, ∃ reason,
    client.event? event = some (.transportDisconnected reason)

/-! ## What a rejection leaves -/

section

variable {client : MobileClient} {rules : Rules} (follows : client.Follows rules)
  {session : ClientState} {event : client.Event} {nowMs : Int}
include follows

theorem Follows.overwrites (session : ClientState) (event : client.Event) (nowMs : Int) :
    Overwrites nowMs fun last =>
      (client.reduce (session.withError last) event nowMs).lastError := by
  by_cases recovered : client.event? event = some .fallbackRecovered
  · exact .kept fun last => follows.recovers (session.withError last) event nowMs recovered
  · have viewed (last : Option SessionError) :=
      congrArg (·.lastError) (follows.steps (session.withError last) event nowMs recovered)
    cases meant : client.event? event with
    | none =>
        refine .kept fun last => (viewed last).trans ?_
        rw [meant]
        rfl
    | some meaning =>
        simp only [meant, Option.elim_some] at viewed
        cases step_marks rules session.view nowMs meaning with
        | written stamped error =>
            exact .written stamped fun last => (viewed last).trans (error last)
        | left left =>
            refine .left fun last => (left last).imp ?_ ?_
            · exact (viewed last).trans
            · exact (viewed last).trans

/-- A rejection bears the time of the event. -/
theorem Follows.stamped (rejects : client.Rejects session event nowMs) :
    ∃ error : SessionError, error.category = .policyFailure ∧ error.atMs = nowMs ∧
      (client.reduce session event nowMs).lastError = some error := by
  obtain ⟨error, policy, replaces⟩ := rejects
  cases follows.overwrites session event nowMs with
  | written stamped error =>
      cases (replaces none).symm.trans (error none)
      exact ⟨_, policy, stamped, replaces session.lastError⟩
  | left left =>
      have nothing : (client.reduce (session.withError none) event nowMs).lastError = none :=
        (left none).elim id id
      cases (replaces none).symm.trans nothing

theorem Follows.notRecovered (rejects : client.Rejects session event nowMs) :
    client.event? event ≠ some .fallbackRecovered := by
  intro recovered
  obtain ⟨error, _, replaces⟩ := rejects
  have kept := follows.recovers (session.withError none) event nowMs recovered
  cases (replaces none).symm.trans kept

theorem Follows.rejected_fallback (rejects : client.Rejects session event nowMs) :
    (client.reduce session event nowMs).fallback = session.fallback := by
  have notRecovered := follows.notRecovered rejects
  have viewed := follows.steps session event nowMs notRecovered
  obtain ⟨error, policy, _, found⟩ := follows.stamped rejects
  refine (congrArg (·.fallback) viewed).trans ?_
  cases meant : client.event? event with
  | none => rfl
  | some meaning =>
      rw [meant] at viewed notRecovered
      have notActivated : ∀ reason, meaning ≠ .fallbackActivated reason := by
        rintro reason rfl
        have transport := (congrArg (·.lastError) viewed).symm.trans found
        cases transport
        cases policy
      have falls : FallsBack rules nowMs session.fallback
          (step rules session.view meaning nowMs).fallback :=
        step_fallback notActivated fun recovered => notRecovered (congrArg some recovered)
      rcases falls with kept | ⟨config, code, fallen⟩
      · exact kept
      · exact fallen.trans (follows.keeps ..)

theorem Follows.preferred (rejects : client.Rejects session event nowMs) :
    (client.reduce session event nowMs).config.preferWebFallbackOnPolicyFailure =
      client.preferredAfter session event := by
  have viewed := follows.steps session event nowMs (follows.notRecovered rejects)
  refine (congrArg (·.config.preferWebFallbackOnPolicyFailure) viewed).trans ?_
  unfold preferredAfter
  cases client.event? event with
  | none => rfl
  | some meaning =>
      rw [Option.elim_some]
      cases meaning with
      | configUpdated config =>
          obtain ⟨_, _, _, marked⟩ :=
            checkPayment_marked rules { session.view with config } nowMs
          exact congrArg (·.config.preferWebFallbackOnPolicyFailure) marked
      | _ =>
          refine congrArg MeetingConfig.preferWebFallbackOnPolicyFailure (step_config ?_)
          rfl

theorem Follows.activated (session : ClientState) (reason : String)
    (call : ApplyCall client.Event) :
    (client.activateFallback session reason call).fallback.active = true := by
  unfold activateFallback
  split
  · next active => exact active
  · have activates := follows.activates reason
    have active : (client.reduce session (client.fallbackActivated reason)
        call.activatedAtMs).fallback.active = true := by
      have viewed := follows.steps session (client.fallbackActivated reason) call.activatedAtMs
        (by rw [activates]; exact nofun)
      rw [activates] at viewed
      exact congrArg (·.fallback.active) viewed
    dsimp only
    split
    · next event nowMs closed _ =>
        obtain ⟨why, meant⟩ := follows.closes event closed
        have viewed := follows.steps (client.reduce session (client.fallbackActivated reason)
          call.activatedAtMs) event nowMs (by rw [meant]; exact nofun)
        rw [meant] at viewed
        have kept : (step rules (client.reduce session (client.fallbackActivated reason)
              call.activatedAtMs).view (.transportDisconnected why) nowMs).fallback.active = _ :=
          step_leavesFallback rules _ nowMs rfl
        exact (congrArg (·.fallback.active) viewed).trans (kept.trans active)
    · exact active

/-- The fallback is active after a rejection exactly if the rejection is noticed. -/
theorem Follows.apply_iff {call : ApplyCall client.Event}
    (inactive : session.fallback.active = false)
    (rejects : client.Rejects session call.event call.nowMs) :
    (client.apply session call).fallback.active = true ↔
      client.Notices session call.event call.nowMs := by
  obtain ⟨error, policy, stamped, found⟩ := follows.stamped rejects
  have still : (client.reduce session call.event call.nowMs).fallback.active = false :=
    (congrArg (·.active) (follows.rejected_fallback rejects)).trans inactive
  have preferred := follows.preferred rejects
  have triggers : shouldTriggerFallbackFromPolicyFailure session
        (client.reduce session call.event call.nowMs) = true ↔
      client.Notices session call.event call.nowMs := by
    unfold shouldTriggerFallbackFromPolicyFailure Notices
    rw [preferred, still, found]
    cases client.preferredAfter session call.event <;> simp [policy, stamped]
  unfold apply
  dsimp only
  split
  · next noticed =>
      exact iff_of_true (follows.activated _ _ call) (triggers.mp noticed)
  · next unnoticed =>
      refine iff_of_false ?_ (unnoticed ∘ triggers.mpr)
      rw [still]
      exact Bool.false_ne_true

end

end MobileClient

/-! ## Android and Apple -/

/-- The Android transport reports its end at once. -/
def Android.mobile : MobileClient where
  Event := ProtocolEvent
  reduce := Android.reduce
  event? := some
  fallbackActivated := .fallbackActivated
  closed := some (.transportDisconnected "fallback_activated")

/-- The Apple client takes the reports of its transport as tasks of their own. -/
def Apple.mobile : MobileClient where
  Event := Apple.MeetingSessionEvent
  reduce := Apple.reduce
  event? := Apple.MeetingSessionEvent.event?
  fallbackActivated := .fallbackActivated
  closed := none

theorem Android.mobile_follows : Android.mobile.Follows Android.rules where
  steps := fun state event nowMs _ => Android.reduce_view state nowMs event
  recovers := by
    intro state event nowMs recovered
    cases recovered
    rfl
  keeps := fun _ _ _ _ => rfl
  activates := fun _ => rfl
  closes := by
    intro event closed
    cases closed
    exact ⟨_, rfl⟩

theorem Apple.mobile_follows : Apple.mobile.Follows Apple.rules where
  steps := by
    intro state event nowMs notRecovered
    refine Apple.reduce_view state nowMs ?_
    rintro rfl
    exact notRecovered rfl
  recovers := by
    intro state event nowMs recovered
    cases event with
    | fallbackRecovered => rfl
    | frameReceived frame => cases frame <;> cases recovered
    | _ => cases recovered
  keeps := fun _ _ _ _ => rfl
  activates := fun _ => rfl
  closes := fun event closed => by cases closed

inductive MobilePlatform where
  | android
  | apple

def MobilePlatform.client : MobilePlatform → MobileClient
  | .android => Android.mobile
  | .apple => Apple.mobile

/-- Wherever a run gets and the reducer rejects, the fallback is active after `apply` exactly
if the rejection is noticed. -/
theorem mobile_fallsBack (platform : MobilePlatform) (session : ClientState)
    (before : List (ApplyCall platform.client.Event)) (call : ApplyCall platform.client.Event)
    (inactive : (platform.client.applyAll session before).fallback.active = false)
    (rejects : platform.client.Rejects (platform.client.applyAll session before) call.event
      call.nowMs) :
    (platform.client.apply (platform.client.applyAll session before) call).fallback.active = true ↔
      platform.client.Notices (platform.client.applyAll session before) call.event call.nowMs := by
  cases platform with
  | android => exact Android.mobile_follows.apply_iff inactive rejects
  | apple => exact Apple.mobile_follows.apply_iff inactive rejects

def exampleUnsigned : E2eeKeyEpochFrame where
  epoch := 1
  issuedBy := "bob"
  signature := none
  sentAtMs := 100

/-- An unsigned key epoch a millisecond after a failed send. -/
theorem mobile_fallsBack_example :
    (Android.mobile.apply (Android.mobile.applyAll (.initial exampleConfig)
        [⟨.frameSendFailed "socket unavailable", 100, 100, none⟩])
      ⟨.frameReceived (.e2eeKeyEpoch exampleUnsigned), 101, 101, none⟩).fallback.active = true :=
  (mobile_fallsBack .android (.initial exampleConfig)
    [⟨.frameSendFailed "socket unavailable", 100, 100, none⟩]
    ⟨.frameReceived (.e2eeKeyEpoch exampleUnsigned), 101, 101, none⟩ rfl
    ⟨_, rfl, fun _ => rfl⟩).mpr ⟨rfl, by decide⟩

/-! ## A rejection that is not noticed -/

/-- The readings of the clock, in their order. -/
def ApplyCall.readings {Event : Type} (call : ApplyCall Event) : List Int :=
  call.nowMs :: call.activatedAtMs :: call.closedAtMs.toList

/-- While the clock does not go back, every rejection activates the fallback. -/
def FallsBackOnPolicy (client : MobileClient) : Prop :=
  ∀ (config : MeetingConfig) (before : List (ApplyCall client.Event))
    (call : ApplyCall client.Event),
    ((before ++ [call]).flatMap ApplyCall.readings).Pairwise (· ≤ ·) →
      let reached := client.applyAll (.initial config) before
      reached.config.preferWebFallbackOnPolicyFailure = true →
        reached.fallback.active = false → client.Rejects reached call.event call.nowMs →
          (client.apply reached call).fallback.active = true

/-- An unsigned key epoch in the millisecond of a failed send. -/
theorem mobile_unnoticed :
    ¬ FallsBackOnPolicy Android.mobile ∧ ¬ FallsBackOnPolicy Apple.mobile := by
  constructor
  · intro claimed
    have wrong := claimed exampleConfig [⟨.frameSendFailed "socket unavailable", 100, 100, none⟩]
      ⟨.frameReceived (.e2eeKeyEpoch exampleUnsigned), 100, 100, none⟩ (by decide) rfl rfl
      ⟨_, rfl, fun _ => rfl⟩
    cases wrong
  · intro claimed
    have wrong := claimed exampleConfig [⟨.frameSendFailed "socket unavailable", 100, 100, none⟩]
      ⟨.frameReceived (some (.e2eeKeyEpoch exampleUnsigned)), 100, 100, none⟩ (by decide) rfl rfl
      ⟨_, rfl, fun _ => rfl⟩
    cases wrong

end Kaigi.Session
