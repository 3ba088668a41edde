import Kaigi.Session.Steps
import Kaigi.Session.Windows
import Kaigi.Session.Web

/-!
# Agreement of the Linux, Windows and Web clients

The Windows client follows the rules of the Linux client. The Web client looks for other
characters around a signature, finds inherited properties in its tables and takes a
reading of the clock of 0 for none; on the calls below none of this shows.
-/

set_option autoImplicit false

namespace Kaigi.Session

open Web (ObjectPrototype prototypeNames)

def ProtocolFrame.signature : ProtocolFrame → Option String
  | .roleGrant frame => frame.signature
  | .roleRevoke frame => frame.signature
  | .moderationSigned frame => frame.signature
  | .sessionPolicy frame => frame.signature
  | .e2eeKeyEpoch frame => frame.signature
  | _ => none

/-- The names under which the reducers look something up or enter it. -/
def ProtocolFrame.names : ProtocolFrame → List String
  | .participantPresenceDelta frame =>
      frame.joined.map Participant.id ++ frame.left ++
        frame.roleChanges.map RoleChange.participantId
  | .roleGrant frame => [frame.targetParticipantId, frame.grantedBy]
  | .roleRevoke frame => [frame.targetParticipantId, frame.revokedBy]
  | .permissionsSnapshot participantId _ _ => [participantId]
  | .moderationSigned frame => [frame.targetParticipantId, frame.issuedBy]
  | .sessionPolicy frame => [frame.updatedBy]
  | _ => []

structure ProtocolFrame.Plain (frame : ProtocolFrame) : Prop where
  ascii : ∀ signature ∈ frame.signature, Hub.isAscii signature = true
  named : ∀ name ∈ frame.names, name ∉ prototypeNames

def ProtocolEvent.frame? : ProtocolEvent → Option ProtocolFrame
  | .frameReceived frame => some frame
  | _ => none

structure Call.Admissible (call : Call) : Prop where
  clock : 1 ≤ call.nowMs
  plain : ∀ frame ∈ call.event.frame?, frame.Plain

instance (frame : ProtocolFrame) : Decidable frame.Plain :=
  decidable_of_iff
    ((∀ signature ∈ frame.signature, Hub.isAscii signature = true) ∧
      ∀ name ∈ frame.names, name ∉ prototypeNames)
    ⟨fun both => ⟨both.1, both.2⟩, fun plain => ⟨plain.ascii, plain.named⟩⟩

instance (call : Call) : Decidable call.Admissible :=
  decidable_of_iff (1 ≤ call.nowMs ∧ ∀ frame ∈ call.event.frame?, frame.Plain)
    ⟨fun both => ⟨both.1, both.2⟩, fun admissible => ⟨admissible.clock, admissible.plain⟩⟩

variable (prototype : ObjectPrototype) {state : SessionView} {nowMs : Int}

/-! ## Where the rules of the Web client are those of the Linux client -/

theorem isTrimmed_ascii {character : Char} (ascii : character.toNat < 128) :
    Web.isTrimmed character = Hub.isWhitespace character := by
  unfold Web.isTrimmed Hub.isWhitespace
  rw [Bool.eq_iff_iff]
  simp only [Bool.or_eq_true, Bool.and_eq_true, decide_eq_true_eq, beq_iff_eq]
  omega

theorem signed_web {signature : Option String}
    (ascii : ∀ value ∈ signature, Hub.isAscii value = true) :
    signed (Web.rules prototype) state signature = signed Linux.rules state signature := by
  cases signature with
  | none => rfl
  | some value =>
      have letters := List.all_eq_true.mp (ascii value rfl)
      have same : value.toList.all Web.isTrimmed = Hub.isBlank value := by
        rw [Hub.isBlank, Bool.eq_iff_iff, List.all_eq_true, List.all_eq_true]
        refine forall₂_congr fun character member => ?_
        rw [isTrimmed_ascii (of_decide_eq_true (letters character member))]
      simp [signed, Web.rules, Linux.rules, same]

theorem participant_web {participants : Directory Participant} {name : String}
    (plain : name ∉ prototypeNames) :
    (Web.rules prototype).participant participants name =
      Linux.rules.participant participants name := by
  simp [Web.rules, Linux.rules, prototype.participant_absent name plain]

theorem revise_web {participants : Directory Participant} {name : String}
    (plain : name ∉ prototypeNames) (change : Participant → Option Participant) :
    revise (Web.rules prototype) participants name change =
      revise Linux.rules participants name change := by
  unfold revise
  rw [participant_web prototype plain]

theorem guarded_web {guard : Guard} {accepted : SessionView}
    (ascii : ∀ value ∈ guard.signature, Hub.isAscii value = true)
    (plain : guard.issuer ∉ prototypeNames) :
    guarded (Web.rules prototype) state nowMs guard accepted =
      guarded Linux.rules state nowMs guard accepted := by
  have authority : authorized (Web.rules prototype) state guard.issuer =
      authorized Linux.rules state guard.issuer := by
    unfold authorized
    rw [participant_web prototype plain]
  unfold guarded passes refuse
  rw [signed_web prototype ascii, authority]
  rfl

theorem receive_web {frame : ProtocolFrame} (plain : frame.Plain) :
    receive (Web.rules prototype) state frame nowMs = receive Linux.rules state frame nowMs := by
  obtain ⟨ascii, named⟩ := plain
  cases frame with
  | participantPresenceDelta frame =>
      have changed (participants : Directory Participant) :
          frame.roleChanges.foldl (changeRole (Web.rules prototype)) participants =
            frame.roleChanges.foldl (changeRole Linux.rules) participants :=
        List.foldl_ext _ _ _ fun participants change member =>
          revise_web prototype (named _ (List.mem_append_right _ (List.mem_map_of_mem member))) _
      simp only [receive, present, changed]
  | roleGrant frame =>
      simp only [receive]
      rw [guarded_web prototype ascii
        (named _ (by simp [ProtocolFrame.names, RoleGrantFrame.guard])),
        revise_web prototype (named _ List.mem_cons_self)]
  | roleRevoke frame =>
      have target := named frame.targetParticipantId List.mem_cons_self
      simp only [receive, revoked]
      rw [guarded_web prototype ascii
        (named _ (by simp [ProtocolFrame.names, RoleRevokeFrame.guard])),
        revise_web prototype target, participant_web prototype target]
  | permissionsSnapshot name effectivePermissions epoch =>
      have absent := prototype.snapshot_absent name (named name List.mem_cons_self)
      simp [receive, Web.rules, Linux.rules, absent]
  | moderationSigned frame =>
      simp only [receive]
      rw [guarded_web prototype ascii
          (named _ (by simp [ProtocolFrame.names, ModerationSignedFrame.guard])),
        revise_web prototype (named _ List.mem_cons_self)]
  | sessionPolicy frame =>
      simp only [receive]
      exact guarded_web prototype ascii (named _ List.mem_cons_self)
  | e2eeKeyEpoch frame =>
      have presence : signed (Web.rules prototype) state frame.signature =
          signed Linux.rules state frame.signature := signed_web prototype ascii
      simp only [receive]
      rw [presence]
      rfl
  | handshake _ | handshakeAck _ _ _ | deviceCapability _ | mediaProfileNegotiation _
  | recordingNotice _ _ | keyRotationAck _ _ _ | paymentPolicy _ _ | paymentSettlement _
  | error _ _ _ | ping _ | pong _ => rfl

/-- No reading of the clock of 0 is kept. -/
def Dated (state : SessionView) : Prop :=
  state.fallback.activatedAtMs ≠ some 0

theorem step_web {call : Call} (dated : Dated state) (admissible : call.Admissible) :
    step (Web.rules prototype) state call.event call.nowMs =
      step Linux.rules state call.event call.nowMs := by
  obtain ⟨event, nowMs⟩ := call
  cases event with
  | frameReceived frame => exact receive_web prototype (admissible.plain frame rfl)
  | fallbackRecovered =>
      have kept : state.fallback.activatedAtMs.filter (· ≠ 0) = state.fallback.activatedAtMs := by
        cases activated : state.fallback.activatedAtMs with
        | none => rfl
        | some reading =>
            have nonzero : reading ≠ 0 := fun zero => dated (activated.trans (congrArg some zero))
            simp [nonzero]
      simp only [step, Web.rules, Linux.rules, kept, Int.max_comm]
  | connectRequested | transportConnected | transportDisconnected _ | transportFailure _
  | frameSendFailed _ | manualDisconnected | fallbackActivated _ | configUpdated _ => rfl

theorem dated_of_fallsBack {before after : FallbackState} (clock : 1 ≤ nowMs)
    (dated : before.activatedAtMs ≠ some 0) (moved : FallsBack Linux.rules nowMs before after) :
    after.activatedAtMs ≠ some 0 := by
  obtain rfl | ⟨config, code, rfl⟩ := moved
  · exact dated
  · simp only [Linux.rules]
    split
    · cases activated : before.activatedAtMs with
      | none =>
          simp only [Option.getD_none, ne_eq, Option.some.injEq]
          omega
      | some reading => simpa [activated] using dated
    · exact dated

theorem step_dated {call : Call} (dated : Dated state) (clock : 1 ≤ call.nowMs) :
    Dated (step Linux.rules state call.event call.nowMs) := by
  obtain ⟨event, nowMs⟩ := call
  by_cases recovered : event = .fallbackRecovered
  · subst recovered
    exact dated
  by_cases activated : ∃ reason, event = .fallbackActivated reason
  · obtain ⟨reason, rfl⟩ := activated
    intro zero
    have reading : nowMs = 0 := Option.some.inj zero
    have positive : 1 ≤ nowMs := clock
    omega
  · exact dated_of_fallsBack clock dated
      (step_fallback (fun reason same => activated ⟨reason, same⟩) recovered)

theorem follow_web {calls : List Call} (dated : Dated state)
    (admissible : ∀ call ∈ calls, call.Admissible) :
    follow (Web.rules prototype) state calls = follow Linux.rules state calls := by
  induction calls generalizing state with
  | nil => rfl
  | cons call calls ih =>
      obtain ⟨first, rest⟩ := List.forall_mem_cons.mp admissible
      rw [follow_cons, follow_cons, step_web prototype dated first]
      exact ih (step_dated dated first.clock) rest

/-- The clients are in corresponding states after the same calls. -/
theorem reducers_agree (config : MeetingConfig) {calls : List Call}
    (admissible : ∀ call ∈ calls, call.Admissible) :
    (Windows.run config calls).view = (Linux.run config calls).view ∧
      (Web.run prototype config calls).view = (Linux.run config calls).view := by
  have initial : Dated (ProtocolSessionState.initial config).view := by
    intro zero
    cases zero
  rw [Windows.run_view, Web.run_view, Linux.run_view]
  exact ⟨rfl, follow_web prototype initial admissible⟩

/-- The host of a meeting makes another participant a co-host. -/
def exampleCalls : List Call :=
  [⟨.connectRequested, 1⟩,
    ⟨.frameReceived (.handshakeAck "session" "resume" 2), 2⟩,
    ⟨.frameReceived (.participantPresenceDelta
      { joined := [exampleParticipant "alice" .host, exampleParticipant "bob" .participant]
        left := [], roleChanges := [], sequence := 1 }), 3⟩,
    ⟨.frameReceived (.roleGrant
      { targetParticipantId := "bob", role := .coHost, grantedBy := "alice"
        signature := some "signed", issuedAtMs := 4 }), 4⟩]

/-- An object that inherits nothing. -/
def ownObject : ObjectPrototype where
  participant := fun _ => none
  snapshot := fun _ => none
  participant_absent := fun _ _ => rfl
  snapshot_absent := fun _ _ => rfl

theorem reducers_agree_example :
    (Windows.run exampleConfig exampleCalls).view = (Linux.run exampleConfig exampleCalls).view ∧
      (Web.run ownObject exampleConfig exampleCalls).view =
        (Linux.run exampleConfig exampleCalls).view :=
  reducers_agree ownObject exampleConfig (by decide)

end Kaigi.Session
