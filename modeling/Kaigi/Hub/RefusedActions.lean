import Kaigi.Hub.Ledger
import Kaigi.Hub.ModerationTargets

/-!
# Refused actions

What a room keeps of an action that the hub refuses. The clock of the signer is the last
check of a role change, a policy update, a key epoch and an acknowledgement; a moderation
looks for its target when the clock has already moved on.
-/

set_option autoImplicit false

namespace Kaigi.Hub

open Collections Wire Interleaving

/-- With no other task in between, the handler of `frame` comes to report `message` and
has left `after` of `room`. -/
def Reports (hub : HubState) (connId : ConnId) (room : RoomState) (frame : KaigiFrame)
    (message : String) (after : RoomState) : Prop :=
  ∀ channels, Process.Alone (Operation.apply hub connId) (handleFrame hub connId frame)
    ⟨some room, channels⟩ (sendError hub connId message) ⟨some after, channels⟩

/-- A refused action has left no trace: the room is the same, and if the action was new it
can be sent again with the same timestamp. -/
structure Unspent (room after : RoomState) (action : SignedAction) : Prop where
  same : after = room
  resend : (ledgerOf room).Fresh action → ∀ timestampLabel, ∃ accepted,
    enforceSignedActionClock after action.kind.tag action.signer timestampLabel
      action.timestampMs = .ok accepted

/-! ### The clock -/

theorem Unspent.of_same {room after : RoomState} (same : after = room) (action : SignedAction) :
    Unspent room after action := by
  refine ⟨same, ?_⟩
  intro fresh timestampLabel
  rw [same]
  exact enforceSignedActionClock_iff.mpr fresh

/-- An accepted clock is not the one it was. -/
theorem enforceSignedActionClock_changes (kind : ActionKind) {room accepted : RoomState}
    {signerId timestampLabel : String} {timestampMs : Nat}
    (enforced : enforceSignedActionClock room kind.tag signerId timestampLabel timestampMs =
      .ok accepted) : accepted ≠ room := by
  rintro rfl
  obtain ⟨fresh, stamped⟩ := enforceSignedActionClock_stamps kind enforced
  have seen : (ledgerOf accepted).clocks.get? (signedActionClockKey kind.tag signerId) =
      some timestampMs := by
    rw [stamped]
    simp [Ledger.stamp, SignedAction.key]
  exact Nat.lt_irrefl _ (fresh.2 timestampMs seen)

/-! ### Roles, policy and keys -/

/-- A result that is an error comes with the room as it was. -/
def KeptOnError {Value : Type} (room : RoomState) (result : RoomState × Except String Value) :
    Prop :=
  ∀ message, result.2 = .error message → result.1 = room

theorem KeptOnError.error {Value : Type} {room : RoomState} {message : String} :
    KeptOnError room (room, (.error message : Except String Value)) := fun _ _ => rfl

theorem KeptOnError.ok {Value : Type} {room after : RoomState} {value : Value} :
    KeptOnError room (after, (.ok value : Except String Value)) := by
  intro message impossible
  cases impossible

section Actions

variable {hub : HubState} {room : RoomState} {connId : ConnId}

theorem applyRoleGrant_kept (grant : RoleGrantFrame) :
    KeptOnError room (applyRoleGrant hub room connId grant) := by
  unfold applyRoleGrant
  split
  · exact .error
  · split
    · exact .error
    · split
      · exact .error
      · split
        · exact .error
        · split
          · exact .error
          · exact .ok

theorem applyRoleRevoke_kept (revoke : RoleRevokeFrame) :
    KeptOnError room (applyRoleRevoke hub room connId revoke) := by
  unfold applyRoleRevoke
  split
  · exact .error
  · split
    · exact .error
    · split
      · exact .error
      · split
        · exact .error
        · exact .ok

theorem applySessionPolicyUpdate_kept (update : SessionPolicyFrame) :
    KeptOnError room (applySessionPolicyUpdate hub room connId update) := by
  unfold applySessionPolicyUpdate
  split
  · exact .error
  · split
    · exact .error
    · split
      · exact .error
      · split
        · exact .error
        · exact .ok

theorem e2eeKeyEpochSection_kept {keyEpoch : E2EEKeyEpochFrame} {message : String}
    (refused : (e2eeKeyEpochSection hub room connId keyEpoch).2 = .refused message) :
    (e2eeKeyEpochSection hub room connId keyEpoch).1 = room := by
  unfold e2eeKeyEpochSection at refused ⊢
  dsimp only at refused ⊢
  split at refused
  · rfl
  · rfl
  · split at refused
    · rfl
    · cases refused

theorem keyRotationAckSection_kept {ack : KeyRotationAckFrame} {message : String}
    (refused : (keyRotationAckSection room connId ack).2 = .refused message) :
    (keyRotationAckSection room connId ack).1 = room := by
  unfold keyRotationAckSection at refused ⊢
  dsimp only at refused ⊢
  split at refused
  · rfl
  · rfl
  · split at refused
    · rfl
    · cases refused

/-! ### What the handlers report -/

/-- One critical section of a task that is alone with its room. -/
theorem alone_critical {Value : Type} {op : Operation} {view : Option RoomState → Value}
    {next : Value → Handler Unit} {rest : Handler Unit} {later : HubRoom}
    {channels : ConnId → Channel} (after : RoomState)
    (effect : op.apply hub connId ⟨some room, channels⟩ = ⟨some after, channels⟩)
    (continues : Process.Alone (Operation.apply hub connId) (next (view (some room)))
      ⟨some after, channels⟩ rest later) :
    Process.Alone (Operation.apply hub connId) ((critical op view).bind next)
      ⟨some room, channels⟩ rest later := by
  apply Process.Alone.atomic
  rw [effect]
  exact continues

theorem Reports.anonymous {frame : KaigiFrame} {refusal : String} {next : Handler Unit}
    (handled : handleFrame hub connId frame = unlessAnonymous hub connId refusal next)
    (anonymous : room.anonymousMode = true) :
    Reports hub connId room frame refusal room := by
  intro channels
  rw [handled]
  refine alone_critical room rfl ?_
  rw [show Option.any (·.anonymousMode) (some room) = true from anonymous, if_pos rfl]
  exact .here

/-- Behind the gate of the transparent handlers. -/
theorem Reports.transparent {frame : KaigiFrame} {refusal message : String} {next : Handler Unit}
    {after : RoomState}
    (handled : handleFrame hub connId frame = unlessAnonymous hub connId refusal next)
    (transparent : room.anonymousMode = false)
    (reports : ∀ channels, Process.Alone (Operation.apply hub connId) next ⟨some room, channels⟩
      (sendError hub connId message) ⟨some after, channels⟩) :
    Reports hub connId room frame message after := by
  intro channels
  rw [handled]
  refine alone_critical room rfl ?_
  rw [show Option.any (·.anonymousMode) (some room) = false from transparent,
    if_neg Bool.false_ne_true]
  exact reports channels

/-- A role change that the hub refuses does not draw a presence number either. -/
theorem roleChangeSection_refused {result : RoomState × Except String RoleMutationOutcome}
    {message : String} (kept : KeptOnError room result) (refused : result.2 = .error message)
    (deltaAtMs : Nat) : roleChangeSection result deltaAtMs = (room, .error message) := by
  rw [show result = (room, .error message) from Prod.ext (kept message refused) refused]
  rfl

theorem reports_roleGrant {grant : RoleGrantFrame} {message : String}
    (transparent : room.anonymousMode = false)
    (refused : (applyRoleGrant hub room connId grant).2 = .error message) :
    Reports hub connId room (.roleGrant grant) message room := by
  have refuses : roleGrantSection hub room connId grant 0 = (room, .error message) :=
    roleChangeSection_refused (applyRoleGrant_kept grant) refused 0
  refine .transparent rfl transparent fun channels => .ask 0 (alone_critical room ?_ ?_)
  · change HubRoom.mk (some (roleGrantSection hub room connId grant 0).1) channels = _
    rw [refuses]
  · rw [Option.map_some, refuses]
    exact .here

theorem reports_roleRevoke {revoke : RoleRevokeFrame} {message : String}
    (transparent : room.anonymousMode = false)
    (refused : (applyRoleRevoke hub room connId revoke).2 = .error message) :
    Reports hub connId room (.roleRevoke revoke) message room := by
  have refuses : roleRevokeSection hub room connId revoke 0 = (room, .error message) :=
    roleChangeSection_refused (applyRoleRevoke_kept revoke) refused 0
  refine .transparent rfl transparent fun channels => .ask 0 (alone_critical room ?_ ?_)
  · change HubRoom.mk (some (roleRevokeSection hub room connId revoke 0).1) channels = _
    rw [refuses]
  · rw [Option.map_some, refuses]
    exact .here

theorem reports_sessionPolicy {update : SessionPolicyFrame} {message : String}
    (transparent : room.anonymousMode = false)
    (refused : (applySessionPolicyUpdate hub room connId update).2 = .error message) :
    Reports hub connId room (.sessionPolicy update) message room := by
  refine .transparent rfl transparent fun channels => alone_critical room ?_ ?_
  · change HubRoom.mk (some (applySessionPolicyUpdate hub room connId update).1) channels = _
    rw [applySessionPolicyUpdate_kept update message refused]
  · rw [Option.map_some, refused]
    exact .here

theorem reports_e2eeKeyEpoch {keyEpoch : E2EEKeyEpochFrame} {message : String}
    (transparent : room.anonymousMode = false)
    (refused : (e2eeKeyEpochSection hub room connId keyEpoch).2 = .refused message) :
    Reports hub connId room (.e2eeKeyEpoch keyEpoch) message room := by
  refine .transparent rfl transparent fun channels => alone_critical room ?_ ?_
  · change HubRoom.mk (some (e2eeKeyEpochSection hub room connId keyEpoch).1) channels = _
    rw [e2eeKeyEpochSection_kept refused]
  · rw [Option.map_some, refused]
    exact .here

theorem reports_keyRotationAck {ack : KeyRotationAckFrame} {message : String}
    (transparent : room.anonymousMode = false)
    (refused : (keyRotationAckSection room connId ack).2 = .refused message) :
    Reports hub connId room (.keyRotationAck ack) message room := by
  refine .transparent rfl transparent fun channels => alone_critical room ?_ ?_
  · change HubRoom.mk (some (keyRotationAckSection room connId ack).1) channels = _
    rw [keyRotationAckSection_kept refused]
  · rw [Option.map_some, refused]
    exact .here

end Actions

/-- The action was refused without a trace, and this is what its handler reports. -/
structure RefusedAction (hub : HubState) (connId : ConnId) (room : RoomState) (frame : KaigiFrame)
    (message : String) (action : SignedAction) (after : RoomState) : Prop where
  unspent : Unspent room after action
  reported : room.anonymousMode = false → Reports hub connId room frame message after

/-- The action did not get past the gate of its handler, and this is what that reports. -/
structure RefusedAtGate (hub : HubState) (connId : ConnId) (room : RoomState) (frame : KaigiFrame)
    (message : String) (action : SignedAction) : Prop where
  unspent : Unspent room room action
  reported : Reports hub connId room frame message room

theorem RefusedAtGate.of_anonymous {hub : HubState} {connId : ConnId} {room : RoomState}
    {frame : KaigiFrame} {refusal : String} {next : Handler Unit}
    (anonymous : room.anonymousMode = true)
    (handled : handleFrame hub connId frame = unlessAnonymous hub connId refusal next)
    (action : SignedAction) : RefusedAtGate hub connId room frame refusal action where
  unspent := .of_same rfl action
  reported := .anonymous handled anonymous

/-- Whatever check a role change, a policy update, a key epoch or an acknowledgement fails,
the room is as before, and the timestamp of the action is not used up. An anonymous room
takes no key epoch and no acknowledgement, and they leave it alone as well. -/
theorem refusedAction_unspent (hub : HubState) (connId : ConnId) (room : RoomState) :
    (∀ grant message, (applyRoleGrant hub room connId grant).2 = .error message →
      RefusedAction hub connId room (.roleGrant grant) message
        ⟨.roleGrant, grant.grantedBy, grant.issuedAtMs⟩
        (applyRoleGrant hub room connId grant).1) ∧
    (∀ revoke message, (applyRoleRevoke hub room connId revoke).2 = .error message →
      RefusedAction hub connId room (.roleRevoke revoke) message
        ⟨.roleRevoke, revoke.revokedBy, revoke.issuedAtMs⟩
        (applyRoleRevoke hub room connId revoke).1) ∧
    (∀ update message, (applySessionPolicyUpdate hub room connId update).2 = .error message →
      RefusedAction hub connId room (.sessionPolicy update) message
        ⟨.sessionPolicy, update.updatedBy, update.updatedAtMs⟩
        (applySessionPolicyUpdate hub room connId update).1) ∧
    (∀ keyEpoch message, (e2eeKeyEpochSection hub room connId keyEpoch).2 = .refused message →
      RefusedAction hub connId room (.e2eeKeyEpoch keyEpoch) message
        ⟨.e2eeKeyEpoch, keyEpoch.participantId, keyEpoch.sentAtMs⟩
        (e2eeKeyEpochSection hub room connId keyEpoch).1) ∧
    (∀ ack message, (keyRotationAckSection room connId ack).2 = .refused message →
      RefusedAction hub connId room (.keyRotationAck ack) message
        ⟨.keyRotationAck, ack.participantId, ack.receivedAtMs⟩
        (keyRotationAckSection room connId ack).1) ∧
    (room.anonymousMode = true →
      (∀ keyEpoch, RefusedAtGate hub connId room (.e2eeKeyEpoch keyEpoch)
        "anonymous mode rejects plaintext e2ee key epochs"
        ⟨.e2eeKeyEpoch, keyEpoch.participantId, keyEpoch.sentAtMs⟩) ∧
      ∀ ack, RefusedAtGate hub connId room (.keyRotationAck ack)
        "anonymous mode rejects plaintext key rotation acks"
        ⟨.keyRotationAck, ack.participantId, ack.receivedAtMs⟩) := by
  refine ⟨?_, ?_, ?_, ?_, ?_, ?_⟩
  · intro grant message refused
    have kept := applyRoleGrant_kept grant message refused
    refine ⟨.of_same kept _, fun transparent => ?_⟩
    rw [kept]
    exact reports_roleGrant transparent refused
  · intro revoke message refused
    have kept := applyRoleRevoke_kept revoke message refused
    refine ⟨.of_same kept _, fun transparent => ?_⟩
    rw [kept]
    exact reports_roleRevoke transparent refused
  · intro update message refused
    have kept := applySessionPolicyUpdate_kept update message refused
    refine ⟨.of_same kept _, fun transparent => ?_⟩
    rw [kept]
    exact reports_sessionPolicy transparent refused
  · intro keyEpoch message refused
    have kept := e2eeKeyEpochSection_kept refused
    refine ⟨.of_same kept _, fun transparent => ?_⟩
    rw [kept]
    exact reports_e2eeKeyEpoch transparent refused
  · intro ack message refused
    have kept := keyRotationAckSection_kept refused
    refine ⟨.of_same kept _, fun transparent => ?_⟩
    rw [kept]
    exact reports_keyRotationAck transparent refused
  · intro anonymous
    constructor
    · intro keyEpoch
      exact .of_anonymous anonymous rfl _
    · intro ack
      exact .of_anonymous anonymous rfl _

/-! ### Moderation -/

/-- The error that a moderation is answered with. -/
def moderationReport : Option (Except String ModerationOutcome) → Option String
  | none => none
  | some (.error message) => some message
  | some (.ok outcome) => outcome.moderationError

/-- The two frames that moderate. -/
inductive ModerationRequest where
  | plain (frame : ModerationFrame)
  | signed (frame : ModerationSignedFrame)

namespace ModerationRequest

def frame : ModerationRequest → KaigiFrame
  | plain frame => .moderation frame
  | signed frame => .moderationSigned frame

/-- What `process_moderation_frame` gets of the request. -/
def moderation : ModerationRequest → ModerationFrame
  | plain frame => frame
  | signed frame => { sentAtMs := frame.sentAtMs, target := frame.target, action := frame.action }

/-- The checks before `process_moderation_frame`. -/
def check (hub : HubState) (room : RoomState) (connId : ConnId) : ModerationRequest → CheckOutcome
  | plain _ => .passed
  | signed frame => moderationSignedCheck hub room connId frame

/-- The room that the request leaves, and the error that it is answered with. -/
def answer (hub : HubState) (room : RoomState) (connId : ConnId) (request : ModerationRequest)
    (nowMs admitAtMs : Nat) : RoomState × Option String :=
  if room.anonymousMode then (room, some "anonymous mode requires encrypted moderation payloads")
  else
    match request.check hub room connId with
    | .ignored => (room, none)
    | .refused message => (room, some message)
    | .passed =>
      let (after, outcome) := moderationSection room connId request.moderation nowMs admitAtMs
      (after, moderationReport outcome)

/-- The request comes to the point where the clock of its sender moves on. -/
def permitted (hub : HubState) (room : RoomState) (connId : ConnId) (request : ModerationRequest) :
    Bool :=
  !room.anonymousMode &&
    (match request.check hub room connId with
      | .passed => moderationPermitted room connId request.moderation
      | _ => false)

end ModerationRequest

/-- The target cannot be moderated: waiting connections are let in or denied one by one,
the participant id has to be known, and whoever is let in or denied has to wait. -/
def moderationTargetRefused (room : RoomState) (moderation : ModerationFrame) : Bool :=
  let waitingRoom := moderation.action == .admitFromWaiting ||
    moderation.action == .denyFromWaiting
  match moderation.target with
  | .all => waitingRoom
  | .participant targetId =>
      match room.participants.iter.find? fun (_, participant) =>
          participant.participantId == targetId with
      | none => true
      | some (_, target) => waitingRoom && !target.waitingRoomPending

section Moderation

variable {hub : HubState} {room : RoomState} {connId : ConnId} {frame : ModerationFrame}
  {nowMs admitAtMs : Nat}

/-- A moderation that does not get past the clock leaves the room alone. -/
theorem moderationSection_barred (barred : moderationPermitted room connId frame = false) :
    (moderationSection room connId frame nowMs admitAtMs).1 = room := by
  unfold moderationSection
  split
  · rfl
  · next sender found =>
      split
      · rfl
      · next joined =>
          split
          · rfl
          · next moderates =>
              split
              · rfl
              · next accepted clocked =>
                  have joined : sender.helloSeen = true := by simpa using joined
                  have moderates : canModerateConn room connId = true := by simpa using moderates
                  simp [moderationPermitted, RoomState.helloSeen, found, joined, moderates,
                    clocked, Except.isOk, Except.toBool] at barred

/-- A moderation that gets past the clock goes on to its targets. -/
theorem moderationSection_clocked {accepted : RoomState}
    (permitted : moderationPermitted room connId frame = true)
    (clocked : validateModerationSenderClock room connId frame = .ok accepted) :
    moderationSection room connId frame nowMs admitAtMs =
      match moderationTargets room connId frame with
      | .error message => (accepted, some (.error message))
      | .ok targets =>
          let result := targets.foldl (moderateTarget frame.action nowMs admitAtMs)
            (accepted, .empty)
          (result.1, some (.ok result.2)) := by
  unfold moderationPermitted at permitted
  simp only [Bool.and_eq_true, RoomState.helloSeen, Option.any_eq_true] at permitted
  obtain ⟨⟨⟨sender, found, joined⟩, moderates⟩, _⟩ := permitted
  unfold moderationSection
  rw [found]
  simp only [joined, moderates, clocked, moderationTargets_clocked clocked]
  rfl

theorem validateModerationSenderClock_changes {accepted : RoomState}
    (clocked : validateModerationSenderClock room connId frame = .ok accepted) :
    accepted ≠ room := by
  unfold validateModerationSenderClock at clocked
  split at clocked
  · cases clocked
  · exact enforceSignedActionClock_changes .moderation clocked

/-- Whoever is to be let in or denied and does not wait leaves the room alone. -/
theorem moderateTarget_notWaiting {action : ModerationAction} {target : ConnId}
    {participant : ParticipantState} {outcome : ModerationOutcome}
    (waitingRoom : action = .admitFromWaiting ∨ action = .denyFromWaiting)
    (found : room.participants.get? target = some participant)
    (notWaiting : participant.waitingRoomPending = false) :
    moderateTarget action nowMs admitAtMs (room, outcome) target =
      (room, { outcome with
        moderationError := outcome.moderationError.or
          (some s!"participant_id is not waiting: {participant.participantId}") }) := by
  rcases waitingRoom with rfl | rfl
  · simp [moderateTarget, admitWaitingParticipant, found, notWaiting]
  · simp [moderateTarget, denyWaitingParticipant, found, notWaiting]

/-- No other moderation can fail at one of its targets. -/
theorem moderateTargets_error {action : ModerationAction} (targets : List ConnId)
    (state : RoomState × ModerationOutcome) (notAdmit : action ≠ .admitFromWaiting)
    (notDeny : action ≠ .denyFromWaiting) :
    (targets.foldl (moderateTarget action nowMs admitAtMs) state).2.moderationError =
      state.2.moderationError := by
  induction targets generalizing state with
  | nil => rfl
  | cons target rest ih =>
      rw [List.foldl_cons, ih]
      obtain ⟨room, outcome⟩ := state
      have medium : ∀ off : ParticipantState → ParticipantState,
          (disableMedium room target nowMs off outcome).2.moderationError =
            outcome.moderationError := by
        intro off
        unfold disableMedium
        split <;> rfl
      unfold moderateTarget
      cases action with
      | kick => rfl
      | disableMic | disableVideo | disableScreenShare => exact medium _
      | admitFromWaiting => exact absurd rfl notAdmit
      | denyFromWaiting => exact absurd rfl notDeny

/-- The room that a refused target leaves has the clock of the sender moved on. -/
theorem moderationSection_spent {accepted : RoomState}
    (permitted : moderationPermitted room connId frame = true)
    (clocked : validateModerationSenderClock room connId frame = .ok accepted)
    (refused : moderationTargetRefused room frame = true) :
    (moderationSection room connId frame nowMs admitAtMs).1 = accepted ∧
      ∃ message, moderationReport (moderationSection room connId frame nowMs admitAtMs).2 =
        some message := by
  rw [moderationSection_clocked permitted clocked]
  unfold moderationTargetRefused at refused
  unfold moderationTargets
  cases named : frame.target with
  | all =>
      rw [named] at refused
      have waitingRoom : frame.action = .admitFromWaiting ∨ frame.action = .denyFromWaiting := by
        simpa using refused
      dsimp only
      rw [if_pos waitingRoom]
      exact ⟨rfl, _, rfl⟩
  | participant targetId =>
      rw [named] at refused
      dsimp only at refused ⊢
      split at refused
      · next unknown =>
          rw [unknown]
          exact ⟨rfl, _, rfl⟩
      · next target participant found =>
          rw [found]
          obtain ⟨waitingRoom, notWaiting⟩ := Bool.and_eq_true_iff.mp refused
          have waitingRoom : frame.action = .admitFromWaiting ∨
              frame.action = .denyFromWaiting := by simpa using waitingRoom
          have present : accepted.participants.get? target = some participant := by
            rw [(validateModerationSenderClock_ok clocked).2]
            exact HashMap.mem_iter.mp (List.mem_of_find?_eq_some found)
          dsimp only
          rw [List.foldl_cons, List.foldl_nil,
            moderateTarget_notWaiting waitingRoom present (by simpa using notWaiting)]
          exact ⟨rfl, _, rfl⟩

/-- A moderation whose target is not refused succeeds once it got past the clock. -/
theorem moderationSection_succeeds
    (permitted : moderationPermitted room connId frame = true)
    (meant : moderationTargetRefused room frame = false) :
    moderationReport (moderationSection room connId frame nowMs admitAtMs).2 = none := by
  obtain ⟨accepted, clocked⟩ := clocked_of_permitted permitted
  rw [moderationSection_clocked permitted clocked]
  unfold moderationTargetRefused at meant
  unfold moderationTargets
  by_cases waitingRoom : frame.action = .admitFromWaiting ∨ frame.action = .denyFromWaiting
  · have isWaitingRoom : (frame.action == .admitFromWaiting ||
        frame.action == .denyFromWaiting) = true := by simpa using waitingRoom
    rw [isWaitingRoom] at meant
    cases named : frame.target with
    | all =>
        rw [named] at meant
        cases meant
    | participant targetId =>
        rw [named] at meant
        dsimp only at meant ⊢
        split at meant
        · cases meant
        · next target participant found =>
            have waits : participant.waitingRoomPending = true := by simpa using meant
            have present : accepted.participants.get? target = some participant := by
              rw [(validateModerationSenderClock_ok clocked).2]
              exact HashMap.mem_iter.mp (List.mem_of_find?_eq_some found)
            rw [found]
            rcases waitingRoom with admits | denies
            · simp [admits, moderateTarget, admitWaitingParticipant, present, waits,
                moderationReport, ModerationOutcome.empty]
            · simp [denies, moderateTarget, denyWaitingParticipant, present, waits,
                moderationReport, ModerationOutcome.empty]
  · obtain ⟨notAdmit, notDeny⟩ := not_or.mp waitingRoom
    have finished : ∀ targets : List ConnId, moderationReport (some (.ok (targets.foldl
        (moderateTarget frame.action nowMs admitAtMs) (accepted, .empty)).2)) = none :=
      fun targets => moderateTargets_error targets (accepted, .empty) notAdmit notDeny
    cases named : frame.target with
    | all =>
        dsimp only
        rw [if_neg waitingRoom]
        exact finished _
    | participant targetId =>
        rw [named] at meant
        dsimp only at meant ⊢
        split at meant
        · cases meant
        · next found =>
            rw [found]
            exact finished _

namespace ModerationRequest

variable {request : ModerationRequest}

theorem answer_anonymous (anonymous : room.anonymousMode = true) :
    request.answer hub room connId nowMs admitAtMs =
      (room, some "anonymous mode requires encrypted moderation payloads") := by
  unfold answer
  rw [if_pos anonymous]

theorem answer_refused {message : String} (transparent : room.anonymousMode = false)
    (refused : request.check hub room connId = .refused message) :
    request.answer hub room connId nowMs admitAtMs = (room, some message) := by
  unfold answer
  rw [if_neg (by simp [transparent]), refused]

theorem answer_ignored (transparent : room.anonymousMode = false)
    (ignored : request.check hub room connId = .ignored) :
    request.answer hub room connId nowMs admitAtMs = (room, none) := by
  unfold answer
  rw [if_neg (by simp [transparent]), ignored]

/-- A request that does not get past the clock leaves the room alone. -/
theorem answer_barred (barred : request.permitted hub room connId = false) :
    (request.answer hub room connId nowMs admitAtMs).1 = room := by
  unfold permitted at barred
  unfold answer
  split
  · rfl
  · next transparent =>
      split
      · rfl
      · rfl
      · next passed =>
          rw [passed] at barred
          exact moderationSection_barred (by simpa [transparent] using barred)

/-- A request that gets past the clock has the answer of its critical section. -/
theorem answer_permitted (allowed : request.permitted hub room connId = true) :
    moderationPermitted room connId request.moderation = true ∧
      request.answer hub room connId nowMs admitAtMs =
        ((moderationSection room connId request.moderation nowMs admitAtMs).1,
          moderationReport
            (moderationSection room connId request.moderation nowMs admitAtMs).2) := by
  unfold permitted at allowed
  obtain ⟨transparent, checked⟩ := Bool.and_eq_true_iff.mp allowed
  have transparent : room.anonymousMode = false := by simpa using transparent
  split at checked
  · next passed =>
      refine ⟨checked, ?_⟩
      unfold answer
      rw [if_neg (by simp [transparent]), passed]
  · cases checked

/-- A refused target is reported, and the room is not the one it was. -/
theorem answer_spent (allowed : request.permitted hub room connId = true)
    (refused : moderationTargetRefused room request.moderation = true) :
    ∃ message, (request.answer hub room connId nowMs admitAtMs).2 = some message ∧
      (request.answer hub room connId nowMs admitAtMs).1 ≠ room := by
  obtain ⟨permitted, answered⟩ := answer_permitted allowed
  obtain ⟨accepted, clocked⟩ := clocked_of_permitted permitted
  obtain ⟨left, message, reported⟩ := moderationSection_spent permitted clocked refused
  rw [answered]
  refine ⟨message, reported, ?_⟩
  rw [left]
  exact validateModerationSenderClock_changes clocked

/-- The handlers of the two frames report the error of the answer. -/
theorem answer_reports {message : String}
    (reported : (request.answer hub room connId nowMs admitAtMs).2 = some message) :
    Reports hub connId room request.frame message
      (request.answer hub room connId nowMs admitAtMs).1 := by
  have processed : ∀ auditFrame channels, room.anonymousMode = false →
      request.check hub room connId = .passed →
      Process.Alone (Operation.apply hub connId)
        (processModerationFrame hub connId request.moderation auditFrame) ⟨some room, channels⟩
        (sendError hub connId message)
        ⟨some (request.answer hub room connId nowMs admitAtMs).1, channels⟩ := by
    intro auditFrame channels transparent passed
    unfold answer at reported ⊢
    rw [if_neg (by simp [transparent]), passed] at reported ⊢
    dsimp only at reported ⊢
    refine alone_critical room rfl ?_
    rw [show Option.any (·.anonymousMode) (some room) = false from transparent,
      if_neg Bool.false_ne_true]
    refine .ask nowMs (.ask admitAtMs ?_)
    rw [Process.done_bind]
    refine alone_critical _ rfl ?_
    rw [Option.bind_some]
    cases outcome : (moderationSection room connId request.moderation nowMs admitAtMs).2 with
    | none =>
        rw [outcome] at reported
        cases reported
    | some result =>
        rw [outcome] at reported
        cases result with
        | error refusal =>
            cases reported
            exact .here
        | ok finished =>
            dsimp only
            rw [show finished.moderationError = some message from reported]
            exact .here
  cases request with
  | plain frame =>
      intro channels
      cases anonymous : room.anonymousMode with
      | true =>
          rw [answer_anonymous anonymous] at reported ⊢
          cases reported
          exact Reports.anonymous rfl anonymous channels
      | false => exact processed (.moderation frame) channels anonymous rfl
  | signed frame =>
      cases anonymous : room.anonymousMode with
      | true =>
          rw [answer_anonymous anonymous] at reported ⊢
          cases reported
          exact Reports.anonymous rfl anonymous
      | false =>
          refine Reports.transparent rfl anonymous fun channels => ?_
          unfold Hub.checked
          refine alone_critical room rfl ?_
          cases outcome : (signed frame).check hub room connId with
          | passed =>
              have passes : moderationSignedCheck hub room connId frame = .passed := outcome
              rw [Option.map_some, Option.getD_some, passes]
              exact processed (.moderationSigned frame) channels anonymous outcome
          | ignored =>
              rw [answer_ignored anonymous outcome] at reported
              cases reported
          | refused refusal =>
              have refuses : moderationSignedCheck hub room connId frame = .refused refusal :=
                outcome
              rw [answer_refused anonymous outcome] at reported ⊢
              cases reported
              rw [Option.map_some, Option.getD_some, refuses]
              exact .here

/-- An error answer leaves the room as it was, unless the clock of the sender has moved on
before the target was refused. -/
theorem answer_atomic_iff (hub : HubState) (room : RoomState) (connId : ConnId)
    (request : ModerationRequest) (nowMs admitAtMs : Nat) :
    (∀ message, (request.answer hub room connId nowMs admitAtMs).2 = some message →
      (request.answer hub room connId nowMs admitAtMs).1 = room) ↔
    ¬ (request.permitted hub room connId = true ∧
      moderationTargetRefused room request.moderation = true) := by
  constructor
  · rintro atomic ⟨allowed, refused⟩
    obtain ⟨message, reported, changed⟩ := answer_spent allowed refused
    exact changed (atomic message reported)
  · intro unspent message reported
    cases allowed : request.permitted hub room connId with
    | false => exact answer_barred allowed
    | true =>
        have meant : moderationTargetRefused room request.moderation = false := by
          simpa [allowed] using unspent
        obtain ⟨permitted, answered⟩ := answer_permitted allowed
        rw [answered, moderationSection_succeeds permitted meant] at reported
        cases reported

end ModerationRequest

end Moderation

/-- The host asks to kick somebody who is not there: the hub says so, and has moved the
clock of the host on. -/
theorem answer_spendsClock :
    ¬ ∀ (hub : HubState) (history : List Event) (system : System) (room : RoomState)
      (connId : ConnId) (request : ModerationRequest) (nowMs admitAtMs : Nat) (message : String),
      Run hub history system → system.shared.room = some room →
        (request.answer hub room connId nowMs admitAtMs).2 = some message →
          (request.answer hub room connId nowMs admitAtMs).1 = room := by
  intro claimed
  obtain ⟨history, system, room, run, found, checks⟩ := Run.of_played_room
    (kickHub "bob@sora") kickScript
    (fun _ room =>
      (ModerationRequest.plain (kickOf "carol@sora")).permitted (kickHub "bob@sora") room 1 &&
        moderationTargetRefused room (kickOf "carol@sora")) (by decide +kernel)
  obtain ⟨allowed, refused⟩ := Bool.and_eq_true_iff.mp checks
  obtain ⟨message, reported, changed⟩ :=
    @ModerationRequest.answer_spent (kickHub "bob@sora") room 1 0 0 _ allowed refused
  exact changed (claimed _ history system room 1 _ 0 0 message run found reported)

end Kaigi.Hub
