import Kaigi.Session.Android
import Kaigi.Session.Linux
import Kaigi.Session.Steps

/-!
# Agreement of the Android and Linux clients

Without the fallback on policy failures, the two clients differ in what they take for a
blank signature, in the errors that they lift, in the phase in which a session goes on
after that, and in the wording of their errors.
-/

set_option autoImplicit false

namespace Kaigi.Session

/-- An error without its wording. -/
def SessionError.unworded (error : SessionError) : SessionError :=
  { error with message := "" }

/-- The states are the same but for the wording of the last error. -/
structure Alike (android linux : SessionView) : Prop where
  content : android = { linux with lastError := android.lastError }
  error : android.lastError.map SessionError.unworded =
    linux.lastError.map SessionError.unworded

/-- A session in the error phase shows an error. -/
def Explained (state : SessionView) : Prop :=
  state.connectionPhase = .error → state.lastError.isSome = true

/-! ## Where the clients part -/

def signsAlike (state : SessionView) (signature : Option String) : Bool :=
  signed Android.rules state signature = signed Linux.rules state signature

/-- Without its error, the session goes on in one phase. -/
def resumesAlike (state : SessionView) : Bool :=
  state.fallback.active ||
    (if state.handshakeComplete then
      state.connectionPhase = .error || state.connectionPhase = .connected
    else state.connectionPhase = .connecting)

/-- The Linux client lifts nothing, or the Android client lifts it too. -/
def liftsAlike (state : SessionView) (android linux : SessionError → Bool) : Bool :=
  !state.lastError.any linux || (state.lastError.any android && resumesAlike state)

def paysAlike (state : SessionView) : Bool :=
  liftsAlike state Android.rules.paymentError Linux.rules.paymentError

def keysAlike (state : SessionView) : Bool :=
  liftsAlike state Android.rules.epochError Linux.rules.epochError

/-- The clients make the same of the event. -/
def agreeable (state : SessionView) (event : ProtocolEvent) : Bool :=
  match event with
  | .configUpdated config => paymentDue { state with config } || paysAlike state
  | .frameReceived (.paymentPolicy required destination) =>
      paymentDue (setPayment state required destination) || paysAlike state
  | .frameReceived (.paymentSettlement status) =>
      paymentDue (setSettlement state status) || paysAlike state
  | .frameReceived (.roleGrant frame) => signsAlike state frame.signature
  | .frameReceived (.roleRevoke frame) => signsAlike state frame.signature
  | .frameReceived (.moderationSigned frame) => signsAlike state frame.signature
  | .frameReceived (.sessionPolicy frame) =>
      signsAlike state frame.signature &&
        (!passes Linux.rules state frame.guard || frame.policyEpoch < state.policyEpoch ||
          epochDue (setPolicy state frame) || keysAlike state)
  | .frameReceived (.e2eeKeyEpoch frame) =>
      signsAlike state frame.signature &&
        (!signed Linux.rules state frame.signature || epochDue (raiseEpoch state frame.epoch) ||
          keysAlike state)
  | _ => true

/-! ## One step -/

/-- An active fallback has its reason and its time. -/
def Founded (fallback : FallbackState) : Prop :=
  fallback.active = true → fallback.reason.isSome = true ∧ fallback.activatedAtMs.isSome = true

theorem fallback_kept {config : MeetingConfig} {fallback : FallbackState} {code : String}
    {nowMs : Int} (off : config.preferWebFallbackOnPolicyFailure = false)
    (founded : Founded fallback) :
    Linux.rules.fallback config fallback code nowMs = fallback := by
  obtain ⟨active, reason, activatedAtMs, recoveredAtMs, lastRtoMs⟩ := fallback
  cases active with
  | false => simp [Linux.rules, off]
  | true =>
      obtain ⟨hasReason, hasTime⟩ := founded rfl
      obtain ⟨text, rfl⟩ := Option.isSome_iff_exists.mp hasReason
      obtain ⟨reading, rfl⟩ := Option.isSome_iff_exists.mp hasTime
      simp [Linux.rules]

theorem any_unworded {lifted : SessionError → Bool} {first second : Option SessionError}
    (wordless : ∀ error : SessionError, lifted error.unworded = lifted error)
    (same : first.map SessionError.unworded = second.map SessionError.unworded) :
    first.any lifted = second.any lifted := by
  have unworded (error : Option SessionError) :
      (error.map SessionError.unworded).any lifted = error.any lifted := by
    cases error with
    | none => rfl
    | some error => exact wordless error
  rw [← unworded first, same, unworded]

section

variable {android linux : SessionView} {nowMs : Int}

theorem Alike.exists_last (alike : Alike android linux) :
    ∃ last, android = { linux with lastError := last } ∧
      last.map SessionError.unworded = linux.lastError.map SessionError.unworded :=
  ⟨android.lastError, alike.content, alike.error⟩

theorem reject_alike (alike : Alike android linux)
    (off : linux.config.preferWebFallbackOnPolicyFailure = false)
    (founded : Founded linux.fallback) (code first second : String) :
    Alike (reject Android.rules android nowMs code first)
      (reject Linux.rules linux nowMs code second) := by
  obtain ⟨last, rfl, _⟩ := alike.exists_last
  have kept : Linux.rules.fallback linux.config linux.fallback code nowMs = linux.fallback :=
    fallback_kept off founded
  unfold reject
  rw [kept]
  exact ⟨rfl, rfl⟩

theorem resumed_alike {last : Option SessionError} (resumes : resumesAlike linux = true) :
    Android.rules.resumed { linux with lastError := last } = Linux.rules.resumed linux := by
  unfold resumesAlike at resumes
  simp only [Android.rules, Linux.rules]
  cases active : linux.fallback.active <;> cases shaken : linux.handshakeComplete <;>
    cases phase : linux.connectionPhase <;> simp_all

theorem relieve_alike {first second : SessionError → Bool} (alike : Alike android linux)
    (wordless : ∀ error : SessionError, first error.unworded = first error)
    (fewer : ∀ error, first error = true → second error = true)
    (lifts : liftsAlike linux first second = true) :
    Alike (relieve Android.rules first android) (relieve Linux.rules second linux) := by
  obtain ⟨last, rfl, same⟩ := alike.exists_last
  unfold relieve
  dsimp only
  rw [any_unworded wordless same]
  cases lifted : linux.lastError.any second with
  | false =>
      have kept : linux.lastError.any first = false := by
        cases found : linux.lastError with
        | none => rfl
        | some error =>
            rw [found] at lifted
            exact Bool.eq_false_iff.mpr fun yes => Bool.eq_false_iff.mp lifted (fewer error yes)
      rw [kept]
      exact ⟨rfl, same⟩
  | true =>
      rw [liftsAlike, lifted] at lifts
      obtain ⟨also, resumes⟩ := Bool.and_eq_true_iff.mp lifts
      rw [also, if_pos rfl, if_pos rfl, resumed_alike resumes]
      exact ⟨rfl, rfl⟩

theorem paymentError_linux {error : SessionError}
    (lifted : Android.rules.paymentError error = true) :
    Linux.rules.paymentError error = true := by
  simp only [Android.rules, Bool.and_eq_true, Bool.or_eq_true, decide_eq_true_eq] at lifted
  obtain ⟨category, code⟩ := lifted
  have settlement : startsWith error.code "payment_settlement_" = true := by
    obtain same | same := code <;> rw [same] <;> decide
  simp [Linux.rules, Linux.isPaymentPolicyError, category, settlement]

theorem epochError_linux {error : SessionError} (lifted : Android.rules.epochError error = true) :
    Linux.rules.epochError error = true := by
  simp only [Android.rules, Bool.and_eq_true, decide_eq_true_eq] at lifted
  obtain ⟨category, code⟩ := lifted
  have prefixed : startsWith error.code "e2ee_" = true := by
    rw [code]
    decide
  simp [Linux.rules, Linux.isE2eePolicyError, category, prefixed]

theorem checkPayment_alike (alike : Alike android linux)
    (off : linux.config.preferWebFallbackOnPolicyFailure = false)
    (founded : Founded linux.fallback) (pays : (paymentDue linux || paysAlike linux) = true) :
    Alike (checkPayment Android.rules android nowMs) (checkPayment Linux.rules linux nowMs) := by
  have due : paymentDue android = paymentDue linux := by
    rw [alike.content]
    rfl
  have status : android.paymentState.settlementStatus = linux.paymentState.settlementStatus := by
    rw [alike.content]
  unfold checkPayment
  rw [due, status]
  cases owed : paymentDue linux with
  | true =>
      rw [if_pos rfl, if_pos rfl]
      split <;> exact reject_alike alike off founded ..
  | false =>
      rw [owed] at pays
      exact relieve_alike alike (fun _ => rfl) (fun _ => paymentError_linux) pays

theorem checkEpoch_alike (alike : Alike android linux)
    (off : linux.config.preferWebFallbackOnPolicyFailure = false)
    (founded : Founded linux.fallback) (keys : (epochDue linux || keysAlike linux) = true) :
    Alike (checkEpoch Android.rules android nowMs) (checkEpoch Linux.rules linux nowMs) := by
  have due : epochDue android = epochDue linux := by
    rw [alike.content]
    rfl
  unfold checkEpoch
  rw [due]
  cases required : epochDue linux with
  | true => exact reject_alike alike off founded ..
  | false =>
      rw [required] at keys
      exact relieve_alike alike (fun _ => rfl) (fun _ => epochError_linux) keys

theorem signed_alike {signature : Option String} (alike : Alike android linux)
    (signs : signsAlike linux signature = true) :
    signed Android.rules android signature = signed Linux.rules linux signature := by
  rw [← of_decide_eq_true signs, alike.content]
  rfl

theorem guarded_alike {guard : Guard} {first second : SessionView} (alike : Alike android linux)
    (off : linux.config.preferWebFallbackOnPolicyFailure = false)
    (founded : Founded linux.fallback) (signs : signsAlike linux guard.signature = true)
    (accepted : passes Linux.rules linux guard = true → Alike first second) :
    Alike (guarded Android.rules android nowMs guard first)
      (guarded Linux.rules linux nowMs guard second) := by
  have signature := signed_alike alike signs
  have authority : authorized Android.rules android guard.issuer =
      authorized Linux.rules linux guard.issuer := by
    rw [alike.content]
    rfl
  have same : passes Android.rules android guard = passes Linux.rules linux guard := by
    rw [passes, signature, authority]
    rfl
  unfold guarded
  rw [same]
  cases passed : passes Linux.rules linux guard with
  | true => exact accepted passed
  | false =>
      unfold refuse
      rw [signature]
      simp only [Bool.false_eq_true, if_false]
      split <;> exact reject_alike alike off founded ..

theorem receive_alike {frame : ProtocolFrame} (alike : Alike android linux)
    (off : linux.config.preferWebFallbackOnPolicyFailure = false)
    (founded : Founded linux.fallback)
    (agrees : agreeable linux (.frameReceived frame) = true) :
    Alike (receive Android.rules android frame nowMs) (receive Linux.rules linux frame nowMs) := by
  obtain ⟨last, rfl, same⟩ := alike.exists_last
  cases frame with
  | handshakeAck _ _ _ => exact ⟨rfl, rfl⟩
  | participantPresenceDelta frame =>
      simp only [receive]
      split <;> exact ⟨rfl, same⟩
  | roleGrant frame => exact guarded_alike alike off founded agrees fun _ => ⟨rfl, same⟩
  | roleRevoke frame => exact guarded_alike alike off founded agrees fun _ => ⟨rfl, same⟩
  | moderationSigned frame => exact guarded_alike alike off founded agrees fun _ => ⟨rfl, same⟩
  | permissionsSnapshot name effectivePermissions epoch =>
      have set (snapshot : PermissionSnapshot) :
          Alike (setSnapshot { linux with lastError := last } name snapshot)
            (setSnapshot linux name snapshot) := ⟨rfl, same⟩
      simp only [receive, Android.rules, Linux.rules]
      by_cases newer : ((linux.permissionSnapshots name).all fun snapshot =>
          snapshot.epoch < epoch) = true
      · simpa only [newer, if_true] using set { effectivePermissions, epoch }
      · simpa only [newer, Bool.false_eq_true, if_false] using alike
  | sessionPolicy frame =>
      obtain ⟨signs, keys⟩ := Bool.and_eq_true_iff.mp agrees
      refine guarded_alike alike off founded signs fun passed => ?_
      rw [passed] at keys
      by_cases stale : frame.policyEpoch < linux.policyEpoch
      · simp only [stale, if_true]
        exact ⟨rfl, same⟩
      · simp only [stale, if_false]
        have set : Alike (setPolicy { linux with lastError := last } frame)
            (setPolicy linux frame) := ⟨rfl, same⟩
        have unchanged : keysAlike (setPolicy linux frame) = keysAlike linux := rfl
        refine checkEpoch_alike set off founded ?_
        rw [unchanged]
        simpa [stale] using keys
  | mediaProfileNegotiation profile => exact ⟨rfl, same⟩
  | recordingNotice _ _ => exact ⟨rfl, same⟩
  | e2eeKeyEpoch frame =>
      obtain ⟨signs, keys⟩ := Bool.and_eq_true_iff.mp agrees
      simp only [receive]
      rw [signed_alike alike signs]
      cases accepted : signed Linux.rules linux frame.signature with
      | true =>
          have raised : Alike (raiseEpoch { linux with lastError := last } frame.epoch)
              (raiseEpoch linux frame.epoch) := ⟨rfl, same⟩
          have unchanged : keysAlike (raiseEpoch linux frame.epoch) = keysAlike linux := rfl
          rw [if_pos rfl, if_pos rfl]
          refine checkEpoch_alike raised off founded ?_
          rw [unchanged]
          simpa [accepted] using keys
      | false => exact reject_alike alike off founded ..
  | keyRotationAck _ _ _ => exact ⟨rfl, same⟩
  | paymentPolicy required destination =>
      have set : Alike (setPayment { linux with lastError := last } required destination)
          (setPayment linux required destination) := ⟨rfl, same⟩
      exact checkPayment_alike set off founded agrees
  | paymentSettlement status =>
      have set : Alike (setSettlement { linux with lastError := last } status)
          (setSettlement linux status) := ⟨rfl, same⟩
      exact checkPayment_alike set off founded agrees
  | error category code message => exact ⟨rfl, rfl⟩
  | handshake _ | deviceCapability _ | ping _ | pong _ => exact ⟨rfl, same⟩

theorem fail_alike (alike : Alike android linux) (code message : String) :
    Alike (fail android code message nowMs) (fail linux code message nowMs) := by
  obtain ⟨last, rfl, same⟩ := alike.exists_last
  unfold fail
  dsimp only
  split
  · exact ⟨rfl, same⟩
  · exact ⟨rfl, rfl⟩

theorem disconnected_alike (alike : Alike android linux) :
    Alike { android with handshakeComplete := false }
      { linux with handshakeComplete := false } := by
  obtain ⟨last, rfl, same⟩ := alike.exists_last
  exact ⟨rfl, same⟩

/-- The event leaves the fallback on policy failures off. -/
def ProtocolEvent.staysOff : ProtocolEvent → Bool
  | .configUpdated config => !config.preferWebFallbackOnPolicyFailure
  | _ => true

theorem step_alike {event : ProtocolEvent} (alike : Alike android linux)
    (off : linux.config.preferWebFallbackOnPolicyFailure = false)
    (staysOff : event.staysOff = true) (founded : Founded linux.fallback)
    (agrees : agreeable linux event = true) :
    Alike (step Android.rules android event nowMs) (step Linux.rules linux event nowMs) := by
  obtain ⟨last, rfl, same⟩ := alike.exists_last
  cases event with
  | connectRequested | transportConnected | manualDisconnected | fallbackActivated _ =>
      exact ⟨rfl, rfl⟩
  | fallbackRecovered => exact ⟨rfl, same⟩
  | transportDisconnected reason => exact disconnected_alike (fail_alike alike _ reason)
  | transportFailure message => exact disconnected_alike (fail_alike alike _ message)
  | frameSendFailed message => exact fail_alike alike _ message
  | configUpdated config =>
      have set : Alike { ({ linux with lastError := last } : SessionView) with config }
          { linux with config } := ⟨rfl, same⟩
      have stays : config.preferWebFallbackOnPolicyFailure = false := by
        simpa [ProtocolEvent.staysOff] using staysOff
      exact checkPayment_alike set stays founded agrees
  | frameReceived frame => exact receive_alike alike off founded agrees

end

/-! ## What the Linux client keeps -/

section

variable {state : SessionView} {nowMs : Int} {event : ProtocolEvent}

theorem founded_of_fallsBack {before after : FallbackState} (founded : Founded before)
    (moved : FallsBack Linux.rules nowMs before after) : Founded after := by
  obtain rfl | ⟨config, code, rfl⟩ := moved
  · exact founded
  · simp only [Linux.rules]
    split
    · exact fun _ => ⟨rfl, rfl⟩
    · exact founded

theorem step_founded (founded : Founded state.fallback) :
    Founded (step Linux.rules state event nowMs).fallback := by
  by_cases recovered : event = .fallbackRecovered
  · subst recovered
    intro active
    cases active
  by_cases activated : ∃ reason, event = .fallbackActivated reason
  · obtain ⟨reason, rfl⟩ := activated
    exact fun _ => ⟨rfl, rfl⟩
  · exact founded_of_fallsBack founded
      (step_fallback (fun reason same => activated ⟨reason, same⟩) recovered)

theorem step_off (off : state.config.preferWebFallbackOnPolicyFailure = false)
    (staysOff : event.staysOff = true) :
    (step Linux.rules state event nowMs).config.preferWebFallbackOnPolicyFailure = false := by
  obtain ⟨content, update, _, _, _, marked⟩ := step_reaches Linux.rules state event nowMs
  rw [marked]
  cases update with
  | config config => simpa [ProtocolEvent.staysOff] using staysOff
  | quiet | presence | grant | revoke | moderation | snapshot | policy | epoch | acknowledgement
  | payment | settlement => exact off

theorem relieve_explained {lifted : SessionError → Bool} (explained : Explained state) :
    Explained (relieve Linux.rules lifted state) := by
  unfold relieve
  split
  · intro phase
    simp only [Linux.rules] at phase
    split at phase
    · cases phase
    · split at phase <;> cases phase
  · exact explained

theorem checkPayment_explained (explained : Explained state) :
    Explained (checkPayment Linux.rules state nowMs) := by
  unfold checkPayment
  split
  · split <;> exact fun _ => rfl
  · exact relieve_explained explained

theorem checkEpoch_explained (explained : Explained state) :
    Explained (checkEpoch Linux.rules state nowMs) := by
  unfold checkEpoch
  split
  · exact fun _ => rfl
  · exact relieve_explained explained

theorem guarded_explained {guard : Guard} {accepted : SessionView}
    (explained : Explained accepted) :
    Explained (guarded Linux.rules state nowMs guard accepted) := by
  unfold guarded refuse
  split
  · exact explained
  · split <;> exact fun _ => rfl

theorem receive_explained {frame : ProtocolFrame} (explained : Explained state) :
    Explained (receive Linux.rules state frame nowMs) := by
  cases frame with
  | handshakeAck _ _ _ =>
      intro phase
      simp only [receive] at phase
      split at phase <;> cases phase
  | participantPresenceDelta frame =>
      simp only [receive]
      split <;> exact explained
  | roleGrant frame => exact guarded_explained explained
  | roleRevoke frame => exact guarded_explained explained
  | moderationSigned frame => exact guarded_explained explained
  | permissionsSnapshot name effectivePermissions epoch =>
      simp only [receive]
      split <;> exact explained
  | sessionPolicy frame =>
      refine guarded_explained ?_
      split
      · exact explained
      · exact checkEpoch_explained explained
  | mediaProfileNegotiation profile =>
      intro phase
      simp only [receive] at phase ⊢
      split at phase
      · cases phase
      · split at phase
        · cases phase
        · exact explained phase
  | e2eeKeyEpoch frame =>
      simp only [receive]
      split
      · exact checkEpoch_explained explained
      · exact fun _ => rfl
  | paymentPolicy required destination => exact checkPayment_explained explained
  | paymentSettlement status => exact checkPayment_explained explained
  | error category code message => exact fun _ => rfl
  | recordingNotice _ _ | keyRotationAck _ _ _ | handshake _ | deviceCapability _ | ping _
  | pong _ => exact explained

theorem fail_phase_ne_error {code message : String} :
    (fail state code message nowMs).connectionPhase ≠ .error := by
  unfold fail
  split <;> intro phase <;> cases phase

/-- Whatever happens, the Linux client shows why a session is in the error phase. -/
theorem step_explained (explained : Explained state) :
    Explained (step Linux.rules state event nowMs) := by
  cases event with
  | connectRequested | transportConnected | manualDisconnected | fallbackActivated _
  | fallbackRecovered =>
      intro phase
      cases phase
  | transportDisconnected reason | transportFailure message | frameSendFailed message =>
      exact fun phase => absurd phase fail_phase_ne_error
  | configUpdated config => exact checkPayment_explained explained
  | frameReceived frame => exact receive_explained explained

end

/-! ## Runs -/

/-- The condition holds of each event in the state in which it comes. -/
def Throughout (rules : Rules) (condition : SessionView → ProtocolEvent → Prop) :
    SessionView → List Call → Prop
  | _, [] => True
  | state, call :: calls =>
      condition state call.event ∧
        Throughout rules condition (step rules state call.event call.nowMs) calls

theorem follow_explained {state : SessionView} {calls : List Call} (explained : Explained state) :
    Explained (follow Linux.rules state calls) := by
  induction calls generalizing state with
  | nil => exact explained
  | cons call calls ih => exact ih (step_explained explained)

theorem follow_alike {android linux : SessionView} {calls : List Call}
    (alike : Alike android linux) (off : linux.config.preferWebFallbackOnPolicyFailure = false)
    (staysOff : ∀ call ∈ calls, call.event.staysOff = true) (founded : Founded linux.fallback)
    (agrees : Throughout Linux.rules
      (fun state event => agreeable state event = true) linux calls) :
    Alike (follow Android.rules android calls) (follow Linux.rules linux calls) := by
  induction calls generalizing android linux with
  | nil => exact alike
  | cons call calls ih =>
      obtain ⟨stays, rest⟩ := List.forall_mem_cons.mp staysOff
      obtain ⟨first, later⟩ := agrees
      exact ih (step_alike alike off stays founded first) (step_off off stays) rest
        (step_founded founded) later

theorem Alike.explained {android linux : SessionView} (alike : Alike android linux)
    (explained : Explained linux) : Explained android := by
  obtain ⟨last, rfl, same⟩ := alike.exists_last
  intro phase
  have shown := explained phase
  have kept : last.isSome = linux.lastError.isSome := by
    simpa only [Option.isSome_map] using congrArg Option.isSome same
  rw [kept]
  exact shown

/-- After the same calls the clients are in the same state, and show the same error. -/
theorem android_agrees (config : MeetingConfig) {calls : List Call}
    (off : config.preferWebFallbackOnPolicyFailure = false)
    (staysOff : ∀ call ∈ calls, call.event.staysOff = true)
    (agrees : Throughout Linux.rules (fun state event => agreeable state event = true)
      (ProtocolSessionState.initial config).view calls) :
    Alike (Android.run config calls).view (Linux.run config calls).view ∧
      Explained (Android.run config calls).view ∧ Explained (Linux.run config calls).view := by
  have founded : Founded (ProtocolSessionState.initial config).view.fallback := by
    intro active
    cases active
  have explained : Explained (ProtocolSessionState.initial config).view := by
    intro phase
    cases phase
  have alike := follow_alike ⟨rfl, rfl⟩ off staysOff founded agrees
  have shown : Explained (follow Linux.rules (ProtocolSessionState.initial config).view calls) :=
    follow_explained explained
  rw [Android.run_view, Linux.run_view]
  exact ⟨alike, alike.explained shown, shown⟩

/-- Payments are enforced, without the fallback on policy failures. -/
def exampleStrict : MeetingConfig :=
  { exampleConfig with
    requirePaymentSettlement := true, preferWebFallbackOnPolicyFailure := false }

/-- The payment is asked for and settled. -/
def exampleSettlement : List Call :=
  [⟨.frameReceived (.paymentPolicy true none), 3⟩,
    ⟨.frameReceived (.paymentSettlement .settled), 4⟩]

theorem android_agrees_example :
    Alike (Android.run exampleStrict
          (⟨.frameReceived (.handshakeAck "session" "resume" 2), 2⟩ :: exampleSettlement)).view
        (Linux.run exampleStrict
          (⟨.frameReceived (.handshakeAck "session" "resume" 2), 2⟩ :: exampleSettlement)).view ∧
      Explained (Android.run exampleStrict
          (⟨.frameReceived (.handshakeAck "session" "resume" 2), 2⟩ :: exampleSettlement)).view ∧
      Explained (Linux.run exampleStrict
          (⟨.frameReceived (.handshakeAck "session" "resume" 2), 2⟩ :: exampleSettlement)).view :=
  android_agrees exampleStrict rfl (by decide) ⟨rfl, rfl, rfl, trivial⟩

/-- Before the handshake, the Android client stays in the error phase without an error. -/
theorem android_unexplained :
    (Android.run exampleStrict exampleSettlement).connectionPhase = .error ∧
      (Android.run exampleStrict exampleSettlement).lastError = none ∧
      (Linux.run exampleStrict exampleSettlement).connectionPhase = .connecting ∧
      ¬Alike (Android.run exampleStrict exampleSettlement).view
        (Linux.run exampleStrict exampleSettlement).view := by
  refine ⟨rfl, rfl, rfl, fun alike => ?_⟩
  have phases := congrArg ProtocolSessionState.connectionPhase alike.content
  cases phases

end Kaigi.Session
