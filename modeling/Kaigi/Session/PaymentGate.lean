import Kaigi.Session.Steps
import Kaigi.Session.Web
import Kaigi.Session.Windows
import Mathlib.Data.List.Induction

/-!
# The payment gate

A session that owes a payment is not to be connected. The gate closes with a rejection
by policy; a handshake, the negotiation of a media profile and the relief of an E2EE
error compute the phase without it.
-/

set_option autoImplicit false

namespace Kaigi.Session

variable {rules : Rules} {state : SessionView} {nowMs : Int} {event : ProtocolEvent}

/-- The phase is computed from the handshake and the fallback alone. -/
def Resumes (rules : Rules) : Prop :=
  ∀ state, rules.resumed state =
    if state.fallback.active then .fallbackActive
    else if state.handshakeComplete then .connected
    else .connecting

/-- With these requirements, the relief of an E2EE error resumes a connected session. -/
def relieves (rules : Rules) (state : SessionView) (e2eeRequired : Bool) (epoch : Int) : Bool :=
  !(e2eeRequired && epoch ≤ 0) && state.lastError.any rules.epochError &&
    state.handshakeComplete && !state.fallback.active

/-- The event makes the session a connected one, whatever it owes. -/
def reopens (rules : Rules) (state : SessionView) (event : ProtocolEvent) : Bool :=
  match event with
  | .frameReceived (.handshakeAck _ _ _) => !state.fallback.active
  | .frameReceived (.mediaProfileNegotiation profile) =>
      !downgraded profile && state.handshakeComplete && !state.fallback.active
  | .frameReceived (.sessionPolicy frame) =>
      passes rules state frame.guard && state.policyEpoch ≤ frame.policyEpoch &&
        relieves rules state frame.e2eeRequired state.e2eeState.currentEpoch
  | .frameReceived (.e2eeKeyEpoch frame) =>
      signed rules state frame.signature &&
        relieves rules state state.e2eeRequired (max state.e2eeState.currentEpoch frame.epoch)
  | _ => false

/-- A session that owes a payment is not connected. -/
def Gated (state : SessionView) : Prop :=
  paymentDue state = true → state.connectionPhase ≠ .connected

theorem reject_phase (rules : Rules) (state : SessionView) (nowMs : Int) (code message : String) :
    (reject rules state nowMs code message).connectionPhase ≠ .connected := by
  unfold reject
  dsimp only
  split <;> intro same <;> cases same

theorem checkPayment_gated : Gated (checkPayment rules state nowMs) := by
  intro due
  obtain ⟨_, _, _, marked⟩ := checkPayment_marked rules state nowMs
  have owed : paymentDue state = true := by
    rw [marked] at due
    exact due
  unfold checkPayment
  rw [if_pos owed]
  split <;> exact reject_phase rules state nowMs _ _

theorem fail_phase {code message : String} :
    (fail state code message nowMs).connectionPhase ≠ .connected := by
  unfold fail
  split <;> intro same <;> cases same

/-- After the check of the key epoch, a session is connected where the relief of an error
resumes it. -/
theorem checkEpoch_connected {next : SessionView} (resumes : Resumes rules)
    (phase : next.connectionPhase = state.connectionPhase)
    (lastError : next.lastError = state.lastError)
    (handshake : next.handshakeComplete = state.handshakeComplete)
    (fallback : next.fallback = state.fallback) (shut : state.connectionPhase ≠ .connected) :
    (checkEpoch rules next nowMs).connectionPhase = .connected ↔
      relieves rules state next.e2eeRequired next.e2eeState.currentEpoch = true := by
  have resumed := resumes next
  unfold checkEpoch relieves relieve
  rw [← epochDue]
  cases due : epochDue next with
  | true => simpa using reject_phase rules next nowMs _ _
  | false =>
      cases lifted : state.lastError.any rules.epochError with
      | false => simpa [lastError, lifted, phase] using shut
      | true =>
          cases active : state.fallback.active <;> cases shaken : state.handshakeComplete <;>
            simp [lastError, lifted, resumed, handshake, fallback, active, shaken]

theorem guarded_connected {guard : Guard} {accepted : SessionView} :
    (guarded rules state nowMs guard accepted).connectionPhase = .connected ↔
      passes rules state guard = true ∧ accepted.connectionPhase = .connected := by
  unfold guarded
  cases passed : passes rules state guard with
  | true => simp
  | false =>
      have refused : (refuse rules state nowMs guard).connectionPhase ≠ .connected := by
        unfold refuse
        split <;> exact reject_phase rules state nowMs _ _
      simp [refused]

/-- A frame that is not about the payment, while the session is not connected. -/
theorem receive_connected (resumes : Resumes rules) (shut : state.connectionPhase ≠ .connected)
    {frame : ProtocolFrame}
    (notPolicy : ∀ required destination, frame ≠ .paymentPolicy required destination)
    (notSettlement : ∀ status, frame ≠ .paymentSettlement status) :
    (receive rules state frame nowMs).connectionPhase = .connected ↔
      reopens rules state (.frameReceived frame) = true := by
  cases frame with
  | paymentPolicy required destination => exact absurd rfl (notPolicy required destination)
  | paymentSettlement status => exact absurd rfl (notSettlement status)
  | handshakeAck _ _ _ =>
      simp only [receive, reopens]
      cases state.fallback.active <;> simp
  | participantPresenceDelta frame =>
      simp only [receive, reopens]
      split <;> simp [shut]
  | roleGrant frame => simp [receive, reopens, guarded_connected, shut]
  | roleRevoke frame => simp [receive, reopens, guarded_connected, shut]
  | permissionsSnapshot name effectivePermissions epoch =>
      simp only [receive, reopens, setSnapshot]
      split <;> simp [shut]
  | moderationSigned frame => simp [receive, reopens, guarded_connected, shut]
  | sessionPolicy frame =>
      have relieved :
          (checkEpoch rules (setPolicy state frame) nowMs).connectionPhase = .connected ↔
          relieves rules state frame.e2eeRequired state.e2eeState.currentEpoch = true :=
        checkEpoch_connected resumes rfl rfl rfl rfl shut
      simp only [receive, reopens, guarded_connected]
      by_cases stale : frame.policyEpoch < state.policyEpoch
      · simp [stale, shut, Int.not_le.mpr stale]
      · simp [stale, relieved, Int.not_lt.mp stale]
  | mediaProfileNegotiation profile =>
      simp only [receive, reopens]
      cases downgraded profile <;> cases state.handshakeComplete <;>
        cases state.fallback.active <;> simp [shut]
  | e2eeKeyEpoch frame =>
      have relieved :
          (checkEpoch rules (raiseEpoch state frame.epoch) nowMs).connectionPhase = .connected ↔
            relieves rules state state.e2eeRequired
              (max state.e2eeState.currentEpoch frame.epoch) = true :=
        checkEpoch_connected resumes rfl rfl rfl rfl shut
      simp only [receive, reopens]
      cases signed rules state frame.signature with
      | true => simp [relieved]
      | false => simpa using reject_phase rules state nowMs _ _
  | error category code message =>
      simp only [receive, reopens]
      cases state.fallback.active <;> cases category <;> simp
  | recordingNotice _ _ | keyRotationAck _ _ _ | handshake _ | deviceCapability _ | ping _
  | pong _ => simp [receive, reopens, shut]

/-- The step neither makes nor settles a debt, unless it is about the payment. -/
theorem step_paymentDue
    (notConfig : ∀ config, event ≠ .configUpdated config)
    (notPolicy : ∀ required destination,
      event ≠ .frameReceived (.paymentPolicy required destination))
    (notSettlement : ∀ status, event ≠ .frameReceived (.paymentSettlement status)) :
    paymentDue (step rules state event nowMs) = paymentDue state := by
  obtain ⟨content, update, _, _, _, marked⟩ := step_reaches rules state event nowMs
  rw [marked]
  cases update with
  | config config => exact absurd rfl (notConfig config)
  | payment required destination => exact absurd rfl (notPolicy required destination)
  | settlement status => exact absurd rfl (notSettlement status)
  | quiet | presence | grant | revoke | moderation | snapshot | policy | epoch
  | acknowledgement => rfl

/-- An event that is not about the payment, while the session is not connected. -/
theorem step_connected (resumes : Resumes rules) (shut : state.connectionPhase ≠ .connected)
    (notConfig : ∀ config, event ≠ .configUpdated config)
    (notPolicy : ∀ required destination,
      event ≠ .frameReceived (.paymentPolicy required destination))
    (notSettlement : ∀ status, event ≠ .frameReceived (.paymentSettlement status)) :
    (step rules state event nowMs).connectionPhase = .connected ↔
      reopens rules state event = true := by
  cases event with
  | configUpdated config => exact absurd rfl (notConfig config)
  | frameReceived frame =>
      exact receive_connected resumes shut
        (fun required destination same => notPolicy required destination (congrArg _ same))
        (fun status same => notSettlement status (congrArg _ same))
  | transportDisconnected reason | transportFailure message | frameSendFailed message =>
      simpa [step, reopens] using fail_phase
  | connectRequested | transportConnected | manualDisconnected | fallbackActivated _
  | fallbackRecovered => simp [step, reopens]

/-- One step from a state that respects the gate. -/
theorem step_gated (resumes : Resumes rules) (gated : Gated state) :
    Gated (step rules state event nowMs) ↔
      ¬(paymentDue state = true ∧ reopens rules state event = true) := by
  by_cases config : ∃ config, event = .configUpdated config
  · obtain ⟨config, rfl⟩ := config
    exact iff_of_true checkPayment_gated (by simp [reopens])
  by_cases policy : ∃ required destination,
      event = .frameReceived (.paymentPolicy required destination)
  · obtain ⟨required, destination, rfl⟩ := policy
    exact iff_of_true checkPayment_gated (by simp [reopens])
  by_cases settlement : ∃ status, event = .frameReceived (.paymentSettlement status)
  · obtain ⟨status, rfl⟩ := settlement
    exact iff_of_true checkPayment_gated (by simp [reopens])
  · have notConfig : ∀ value, event ≠ .configUpdated value :=
      fun value same => config ⟨value, same⟩
    have notPolicy : ∀ required destination,
        event ≠ .frameReceived (.paymentPolicy required destination) :=
      fun required destination same => policy ⟨required, destination, same⟩
    have notSettlement : ∀ status, event ≠ .frameReceived (.paymentSettlement status) :=
      fun status same => settlement ⟨status, same⟩
    unfold Gated
    rw [step_paymentDue notConfig notPolicy notSettlement, not_and]
    refine forall_congr' fun due => not_congr ?_
    exact step_connected resumes (gated due) notConfig notPolicy notSettlement

/-! ## The clients -/

/-- The payment gate in the runs of a client that follows the rules. -/
structure GateKept (rules : Rules) (run : List Call → ClientState) : Prop where
  /-- It holds in the runs in which no event reopens the session while a payment is due. -/
  runs : ∀ calls,
    (∀ before call after, calls = before ++ call :: after →
      ¬(paymentDue (run before).view = true ∧ reopens rules (run before).view call.event = true)) →
    Gated (run calls).view
  /-- Such an event is all that breaks it. -/
  steps : ∀ before call, Gated (run before).view →
    (Gated (run (before ++ [call])).view ↔
      ¬(paymentDue (run before).view = true ∧ reopens rules (run before).view call.event = true))

theorem gateKept {initial : SessionView} {run : List Call → ClientState}
    (resumes : Resumes rules) (start : Gated initial)
    (view : ∀ calls, (run calls).view = follow rules initial calls) : GateKept rules run := by
  have next (before : List Call) (call : Call) : (run (before ++ [call])).view =
      step rules (run before).view call.event call.nowMs := by
    rw [view, view, follow_append]
    rfl
  constructor
  · intro calls kept
    induction calls using List.reverseRecOn with
    | nil =>
        rw [view]
        exact start
    | append_singleton before call ih =>
        rw [next, step_gated resumes]
        · exact kept before call [] rfl
        · refine ih fun first other after same => kept first other (after ++ [call]) ?_
          rw [same, List.append_assoc, List.cons_append]
  · intro before call gated
    rw [next]
    exact step_gated resumes gated

theorem initial_gated (config : MeetingConfig) :
    Gated (ProtocolSessionState.initial config).view := by
  intro _ connected
  cases connected

theorem payment_gate (config : MeetingConfig) (prototype : Web.ObjectPrototype) :
    GateKept Linux.rules (Linux.run config) ∧ GateKept Linux.rules (Windows.run config) ∧
      GateKept (Web.rules prototype) (Web.run prototype config) :=
  ⟨gateKept (fun _ => rfl) (initial_gated config) (Linux.run_view config),
    gateKept (fun _ => rfl) (initial_gated config) (Windows.run_view config),
    gateKept (fun _ => rfl) (initial_gated config) (Web.run_view prototype config)⟩

/-- The payment is asked for before the handshake is acknowledged. -/
def examplePayment : List Call :=
  [⟨.configUpdated
      { exampleConfig with
        requirePaymentSettlement := true, preferWebFallbackOnPolicyFailure := false }, 1⟩,
    ⟨.connectRequested, 2⟩, ⟨.transportConnected, 3⟩,
    ⟨.frameReceived (.paymentPolicy true none), 4⟩,
    ⟨.frameReceived (.handshakeAck "session" "resume" 5), 5⟩]

theorem payment_gate_passed :
    paymentDue (Linux.run exampleConfig examplePayment).view = true ∧
      (Linux.run exampleConfig examplePayment).connectionPhase = .connected := by
  decide

end Kaigi.Session
