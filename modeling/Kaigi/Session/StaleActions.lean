import Kaigi.Session.Authorization
import Mathlib.Data.List.Induction

/-!
# Stale actions

Clients are to reject stale signed actions. The Linux client keeps no time of the
actions it has applied, so a repeated action is applied again. What it then does depends
on what was applied to its target since: it is without effect just where the last frame
that bears on what it asks for has left its target so, or absent.
-/

set_option autoImplicit false

namespace Kaigi.Session

/-! ## What an action asks for -/

inductive Demand where
  | grant (role : ParticipantRole)
  | revoke (role : ParticipantRole)
  | moderate (action : ModerationAction)

/-- A role or moderation frame. -/
structure Action where
  guard : Guard
  target : String
  demand : Demand

def ProtocolFrame.action? : ProtocolFrame → Option Action
  | .roleGrant frame => some ⟨frame.guard, frame.targetParticipantId, .grant frame.role⟩
  | .roleRevoke frame => some ⟨frame.guard, frame.targetParticipantId, .revoke frame.role⟩
  | .moderationSigned frame =>
      some ⟨frame.guard, frame.targetParticipantId, .moderate frame.action⟩
  | _ => none

/-- What an accepted action makes of its target. -/
def Demand.apply : Demand → Participant → Option Participant
  | .grant role, participant => some (withRole role participant)
  | .revoke role, participant =>
      if participant.role = role then some (withRole .participant participant)
      else some participant
  | .moderate action, participant => moderated action participant

/-- The moderation asks for what the participant already is. -/
def settled (action : ModerationAction) (participant : Participant) : Bool :=
  match action with
  | .mute => participant.muted
  | .videoOff => !participant.videoEnabled
  | .stopShare => !participant.shareEnabled
  | .admitFromWaiting => !participant.waitingRoom
  | .kick | .denyFromWaiting => false

/-- The participant is as the action makes it. -/
def Demand.met : Demand → Participant → Bool
  | .grant role, participant => participant.role = role
  | .revoke role, participant => participant.role ≠ role || participant.role = .participant
  | .moderate action, participant => settled action participant

/-- The target of the action is absent, or already as the action makes it. -/
def Action.idle (action : Action) (participants : Directory Participant) : Bool :=
  (participants action.target).all action.demand.met

variable {state : SessionView} {nowMs : Int}

theorem moderated_self_iff {action : ModerationAction} {participant : Participant} :
    moderated action participant = some participant ↔ settled action participant = true := by
  obtain ⟨id, displayName, role, muted, videoEnabled, shareEnabled, waitingRoom⟩ := participant
  cases action <;> cases muted <;> cases videoEnabled <;> cases shareEnabled <;>
    cases waitingRoom <;> simp [moderated, settled]

theorem withRole_self_iff {role : ParticipantRole} {participant : Participant} :
    withRole role participant = participant ↔ participant.role = role := by
  constructor
  · intro same
    exact (congrArg Participant.role same).symm
  · intro same
    subst same
    rfl

theorem Demand.apply_self_iff {demand : Demand} {participant : Participant} :
    demand.apply participant = some participant ↔ demand.met participant = true := by
  cases demand with
  | grant role => simp [Demand.apply, Demand.met, withRole_self_iff]
  | revoke role =>
      by_cases held : participant.role = role
      · simp [Demand.apply, Demand.met, held, withRole_self_iff]
      · simp [Demand.apply, Demand.met, held]
  | moderate action => exact moderated_self_iff

theorem assign_eq_self_iff {Value : Type} {directory : Directory Value} {name : String}
    {value : Option Value} : assign directory name value = directory ↔ value = directory name := by
  constructor
  · intro same
    rw [← congrFun same name, assign, Function.update_self]
  · intro same
    subst same
    exact assign_self directory name

theorem revise_eq_self_iff {participants : Directory Participant} {name : String}
    {change : Participant → Option Participant} :
    revise Linux.rules participants name change = participants ↔
      ∀ participant ∈ participants name, change participant = some participant := by
  unfold revise
  cases found : participants name with
  | none => simp [Linux.rules, found]
  | some participant => simp [Linux.rules, found, assign_eq_self_iff]

theorem revise_apply {participants : Directory Participant} {name other : String}
    {change : Participant → Option Participant} :
    revise Linux.rules participants name change other =
      if other = name then (participants name).bind change else participants other := by
  unfold revise
  cases found : participants name with
  | none =>
      by_cases same : other = name
      · subst same
        simp [Linux.rules, found]
      · simp [Linux.rules, found, same]
  | some participant => simp [Linux.rules, found, assign, Function.update_apply]

theorem revoked_eq_revise {participants : Directory Participant} {frame : RoleRevokeFrame} :
    revoked Linux.rules participants frame =
      revise Linux.rules participants frame.targetParticipantId
        (Demand.revoke frame.role).apply := by
  funext name
  unfold revoked
  have held : Linux.rules.participant participants frame.targetParticipantId =
      participants frame.targetParticipantId := rfl
  rw [held]
  cases found : participants frame.targetParticipantId with
  | none =>
      by_cases same : name = frame.targetParticipantId
      · subst same
        simp [revise_apply, found]
      · simp [revise_apply, same]
  | some participant =>
      by_cases role : participant.role = frame.role
      · simp [revise_apply, found, role, Demand.apply]
      · by_cases same : name = frame.targetParticipantId
        · subst same
          simp [revise_apply, found, role, Demand.apply]
        · simp [revise_apply, role, same]

theorem guarded_participants {guard : Guard} {participants : Directory Participant} :
    (guarded Linux.rules state nowMs guard { state with participants }).participants =
      if passes Linux.rules state guard then participants else state.participants := by
  obtain ⟨_, _, _, marked⟩ := refuse_marked Linux.rules state nowMs guard
  unfold guarded
  cases passes Linux.rules state guard with
  | true => rfl
  | false =>
      rw [marked]
      rfl

/-- An action that passes its checks is applied to its target, and to nobody else. -/
theorem receive_action {frame : ProtocolFrame} {action : Action}
    (asked : frame.action? = some action) :
    (receive Linux.rules state frame nowMs).participants =
      if passes Linux.rules state action.guard then
        revise Linux.rules state.participants action.target action.demand.apply
      else state.participants := by
  cases frame with
  | roleGrant frame =>
      cases asked
      exact guarded_participants
  | roleRevoke frame =>
      cases asked
      rw [← revoked_eq_revise]
      exact guarded_participants
  | moderationSigned frame =>
      cases asked
      exact guarded_participants
  | _ => cases asked

theorem receive_participants_iff {frame : ProtocolFrame} {action : Action}
    (asked : frame.action? = some action) :
    (receive Linux.rules state frame nowMs).participants = state.participants ↔
      (passes Linux.rules state action.guard = true → action.idle state.participants = true) := by
  rw [receive_action asked]
  cases passes Linux.rules state action.guard with
  | false => simp
  | true => simp [revise_eq_self_iff, Demand.apply_self_iff, Action.idle, Option.all_eq_true]

/-! ## What an event says on an action -/

/-- What a new role of a participant says on a demand, if anything. -/
def Demand.ofRole : Demand → ParticipantRole → Option Bool
  | .grant wanted, role => some (role = wanted)
  | .revoke unwanted, role => some (role ≠ unwanted || role = .participant)
  | .moderate _, _ => none

/-- What an applied action says on a demand on its target, if anything. -/
def Demand.ofApplied (demand : Demand) : Demand → Option Bool
  | .grant role => demand.ofRole role
  | .revoke _ => demand.ofRole .participant
  | .moderate .kick | .moderate .denyFromWaiting => some true
  | .moderate applied =>
      match demand with
      | .moderate asked => if applied = asked then some true else none
      | .grant _ | .revoke _ => none

/-- An action applies to the target it finds; a revocation, if it has that role. -/
def Demand.applies (demand : Demand) (participant : Participant) : Bool :=
  match demand with
  | .revoke role => participant.role = role
  | .grant _ | .moderate _ => true

def PresenceDeltaFrame.joined? (frame : PresenceDeltaFrame) (name : String) : Option Participant :=
  frame.joined.reverse.find? fun participant => participant.id = name

def PresenceDeltaFrame.role? (frame : PresenceDeltaFrame) (name : String) :
    Option ParticipantRole :=
  (frame.roleChanges.reverse.find? fun change => change.participantId = name).map RoleChange.role

/-- What a presence delta says on a demand on a participant, who is `here` before it. -/
def Demand.ofDelta (demand : Demand) (frame : PresenceDeltaFrame) (name : String) (here : Bool) :
    Option Bool :=
  if name ∈ frame.left then some true
  else
    match frame.joined? name, frame.role? name with
    | some participant, some role => some (demand.met (withRole role participant))
    | some participant, none => some (demand.met participant)
    | none, some role => if here then demand.ofRole role else none
    | none, none => none

/-- What an action that is received says on an action, if it passes its checks. -/
def Action.ofAction (action : Action) (state : SessionView) (received : Action) : Option Bool :=
  if passes Linux.rules state received.guard && received.target = action.target &&
      (state.participants action.target).any received.demand.applies then
    action.demand.ofApplied received.demand
  else none

/-- What an event says on an action: that the target is now gone or as the action makes it,
that it is not, or nothing. A delta speaks if it is newer than those before. -/
def verdict (state : SessionView) (event : ProtocolEvent) (action : Action) : Option Bool :=
  match event with
  | .frameReceived (.participantPresenceDelta frame) =>
      if frame.sequence ≤ state.presenceSequence then none
      else action.demand.ofDelta frame action.target (state.participants action.target).isSome
  | .frameReceived frame => frame.action?.bind (action.ofAction state)
  | _ => none

theorem Demand.met_withRole {demand : Demand} {role : ParticipantRole}
    {participant : Participant} :
    demand.met (withRole role participant) =
      (demand.ofRole role).getD (demand.met participant) := by
  cases demand with
  | grant _ | revoke _ => rfl
  | moderate action => cases action <;> rfl

theorem Demand.met_apply {demand applied : Demand} {participant : Participant} :
    (applied.apply participant).all demand.met =
      if applied.applies participant then
        (demand.ofApplied applied).getD (demand.met participant)
      else demand.met participant := by
  cases applied with
  | grant role => exact Demand.met_withRole
  | revoke role =>
      by_cases held : participant.role = role
      · simpa [Demand.apply, Demand.applies, Demand.ofApplied, held] using Demand.met_withRole
      · simp [Demand.apply, Demand.applies, held]
  | moderate action =>
      cases demand with
      | grant _ | revoke _ => cases action <;> rfl
      | moderate asked => cases action <;> cases asked <;> rfl

theorem foldl_enter (joined : List Participant) (participants : Directory Participant)
    (name : String) :
    joined.foldl enter participants name =
      (joined.reverse.find? fun participant => participant.id = name).or (participants name) := by
  induction joined generalizing participants with
  | nil => rfl
  | cons participant joined ih =>
      rw [List.foldl_cons, ih, List.reverse_cons, List.find?_append, Option.or_assoc]
      congr 1
      by_cases same : participant.id = name
      · subst same
        simp [enter, assign]
      · simp [enter, assign, same, Function.update_of_ne (Ne.symm same)]

theorem foldl_leave (left : List String) (participants : Directory Participant) (name : String) :
    left.foldl leave participants name = if name ∈ left then none else participants name := by
  induction left generalizing participants with
  | nil => rfl
  | cons gone left ih =>
      rw [List.foldl_cons, ih]
      by_cases same : name = gone
      · subst same
        simp [leave, assign]
      · simp [leave, assign, same]

theorem foldl_changeRole (changes : List RoleChange) (participants : Directory Participant)
    (name : String) :
    changes.foldl (changeRole Linux.rules) participants name =
      (participants name).map fun participant =>
        ((changes.reverse.find? fun change => change.participantId = name).map
          RoleChange.role).elim participant fun role => withRole role participant := by
  induction changes generalizing participants with
  | nil => simp
  | cons change changes ih =>
      rw [List.foldl_cons, ih, changeRole, revise_apply, List.reverse_cons, List.find?_append]
      by_cases same : name = change.participantId
      · subst same
        cases participants change.participantId with
        | none => simp
        | some participant =>
            cases changes.reverse.find? fun other =>
                other.participantId = change.participantId with
            | none => simp
            | some later => simp [withRole]
      · simp [same, Ne.symm same]

theorem present_apply (participants : Directory Participant) (frame : PresenceDeltaFrame)
    (name : String) :
    present Linux.rules participants frame name =
      if name ∈ frame.left then none
      else ((frame.joined? name).or (participants name)).map fun participant =>
        (frame.role? name).elim participant fun role => withRole role participant := by
  rw [present, foldl_changeRole, foldl_leave, foldl_enter]
  split <;> rfl

theorem idle_present {action : Action} (frame : PresenceDeltaFrame)
    (participants : Directory Participant) :
    action.idle (present Linux.rules participants frame) =
      (action.demand.ofDelta frame action.target (participants action.target).isSome).getD
        (action.idle participants) := by
  unfold Action.idle Demand.ofDelta
  rw [present_apply]
  split
  · rfl
  · cases frame.joined? action.target with
    | some joined => cases frame.role? action.target <;> rfl
    | none =>
        cases frame.role? action.target with
        | none => simp
        | some role =>
            cases participants action.target with
            | none => rfl
            | some participant => simp [Demand.met_withRole]

theorem idle_revise {action applied : Action} (participants : Directory Participant) :
    action.idle (revise Linux.rules participants applied.target applied.demand.apply) =
      if applied.target = action.target &&
          (participants action.target).any applied.demand.applies then
        (action.demand.ofApplied applied.demand).getD (action.idle participants)
      else action.idle participants := by
  unfold Action.idle
  rw [revise_apply]
  by_cases same : action.target = applied.target
  · rw [← same]
    cases participants action.target with
    | none => simp
    | some participant => simpa using Demand.met_apply
  · simp [same, Ne.symm same]

theorem verdict_action {frame : ProtocolFrame} {received : Action} (action : Action)
    (found : frame.action? = some received) :
    verdict state (.frameReceived frame) action = action.ofAction state received := by
  cases frame with
  | roleGrant _ | roleRevoke _ | moderationSigned _ =>
      cases found
      rfl
  | _ => cases found

theorem idle_action {frame : ProtocolFrame} {received : Action} (action : Action)
    (found : frame.action? = some received) :
    action.idle (receive Linux.rules state frame nowMs).participants =
      (verdict state (.frameReceived frame) action).getD (action.idle state.participants) := by
  rw [receive_action found, verdict_action action found, Action.ofAction]
  cases passes Linux.rules state received.guard with
  | false => rfl
  | true =>
      simp only [↓reduceIte, idle_revise, Bool.true_and]
      split <;> rfl

/-- The event is a delta or an action. -/
def ProtocolEvent.actsOnMembers : ProtocolEvent → Bool
  | .frameReceived (.participantPresenceDelta _) => true
  | .frameReceived frame => frame.action?.isSome
  | _ => false

theorem step_participants_eq (event : ProtocolEvent) (other : event.actsOnMembers = false) :
    (step Linux.rules state event nowMs).participants = state.participants := by
  by_contra changed
  obtain ⟨frame, received, _⟩ | ⟨frame, guard, received, guarded, _⟩ := step_participants changed
  · rw [received] at other
    cases other
  · rw [received] at other
    cases frame with
    | roleGrant _ | roleRevoke _ | moderationSigned _ => cases other
    | _ => cases guarded

/-- One step: the target is as the event says, or as it was. -/
theorem idle_step (action : Action) (state : SessionView) (event : ProtocolEvent) (nowMs : Int) :
    action.idle (step Linux.rules state event nowMs).participants =
      (verdict state event action).getD (action.idle state.participants) := by
  cases event with
  | frameReceived frame =>
      cases frame with
      | participantPresenceDelta frame =>
          simp only [step, receive, verdict]
          split
          · rfl
          · exact idle_present frame state.participants
      | roleGrant _ | roleRevoke _ | moderationSigned _ => exact idle_action action rfl
      | _ =>
          refine congrArg action.idle (step_participants_eq _ ?_)
          rfl
  | _ =>
      refine congrArg action.idle (step_participants_eq _ ?_)
      rfl

/-! ## Runs -/

/-- A call goes against the action, and none after it makes that good. -/
def Undone (state : SessionView) (calls : List Call) (action : Action) : Prop :=
  ∃ older call newer, calls = older ++ call :: newer ∧
    verdict (follow Linux.rules state older) call.event action = some false ∧
    ∀ between later rest, newer = between ++ later :: rest →
      verdict (follow Linux.rules state (older ++ call :: between)) later.event action ≠ some true

theorem undone_snoc_iff {calls : List Call} {call : Call} {action : Action} :
    Undone state (calls ++ [call]) action ↔
      verdict (follow Linux.rules state calls) call.event action = some false ∨
        Undone state calls action ∧
          verdict (follow Linux.rules state calls) call.event action ≠ some true := by
  constructor
  · intro undone
    obtain ⟨older, undoing, newer, split, against, unmade⟩ := undone
    obtain rfl | ⟨newer, last, rfl⟩ := List.eq_nil_or_concat newer
    · obtain ⟨same, last⟩ := List.append_inj' split rfl
      cases last
      subst same
      exact .inl against
    · rw [List.concat_eq_append, ← List.cons_append, ← List.append_assoc] at split
      obtain ⟨same, last⟩ := List.append_inj' split rfl
      cases last
      subst same
      refine .inr ⟨⟨older, undoing, newer, rfl, against, ?_⟩, unmade newer call [] (by simp)⟩
      intro between later rest same
      subst same
      exact unmade between later (rest ++ [call]) (by simp)
  · intro cases
    obtain against | ⟨⟨older, undoing, newer, split, against, unmade⟩, good⟩ := cases
    · refine ⟨calls, call, [], rfl, against, ?_⟩
      intro between later rest same
      simp at same
    · subst split
      refine ⟨older, undoing, newer ++ [call], by simp, against, ?_⟩
      intro between later rest same
      obtain rfl | ⟨rest, last, rfl⟩ := List.eq_nil_or_concat rest
      · obtain ⟨ended, last⟩ := List.append_inj' same rfl
        cases last
        subst ended
        exact good
      · rw [List.concat_eq_append, ← List.cons_append, ← List.append_assoc] at same
        exact unmade between later rest (List.append_inj' same rfl).1

/-- A run: the target is gone or as the action makes it, unless a call has undone that. -/
theorem idle_follow_iff {action : Action} (start : action.idle state.participants = true)
    (calls : List Call) :
    action.idle (follow Linux.rules state calls).participants = true ↔
      ¬Undone state calls action := by
  induction calls using List.reverseRecOn with
  | nil =>
      have kept : ¬Undone state [] action := by
        intro undone
        obtain ⟨older, call, newer, split, _⟩ := undone
        simp at split
      exact iff_of_true start kept
  | append_singleton calls call ih =>
      have stepped := idle_step action (follow Linux.rules state calls) call.event call.nowMs
      have followed : follow Linux.rules state (calls ++ [call]) =
          step Linux.rules (follow Linux.rules state calls) call.event call.nowMs :=
        follow_append ..
      rw [followed, stepped, undone_snoc_iff]
      cases verdict (follow Linux.rules state calls) call.event action with
      | none => simpa using ih
      | some good => cases good <;> simp

/-- The frame is a role or moderation action that passes its checks. -/
def accepts (state : SessionView) (frame : ProtocolFrame) : Bool :=
  frame.action?.any fun action => passes Linux.rules state action.guard

/-- An action of the same kind and issuer that is no newer than an applied one. -/
def repeats : ProtocolFrame → ProtocolFrame → Bool
  | .roleGrant applied, .roleGrant frame =>
      frame.grantedBy = applied.grantedBy && frame.issuedAtMs ≤ applied.issuedAtMs
  | .roleRevoke applied, .roleRevoke frame =>
      frame.revokedBy = applied.revokedBy && frame.issuedAtMs ≤ applied.issuedAtMs
  | .moderationSigned applied, .moderationSigned frame =>
      frame.issuedBy = applied.issuedBy && frame.sentAtMs ≤ applied.sentAtMs
  | _, _ => false

theorem repeats_action {applied frame : ProtocolFrame} (repeated : repeats applied frame = true) :
    ∃ action, frame.action? = some action := by
  unfold repeats at repeated
  split at repeated
  · exact ⟨_, rfl⟩
  · exact ⟨_, rfl⟩
  · exact ⟨_, rfl⟩
  · cases repeated

/-- The run has applied an action that makes this one stale. -/
def Outdated (config : MeetingConfig) (before : List Call) (frame : ProtocolFrame) : Prop :=
  ∃ first applied nowMs rest, before = first ++ ⟨.frameReceived applied, nowMs⟩ :: rest ∧
    accepts (Linux.run config first).view applied = true ∧ repeats applied frame = true

/-- The stale actions of the run leave the participants as they are. -/
def StaleIgnored (config : MeetingConfig) (calls : List Call) : Prop :=
  ∀ before frame nowMs after, calls = before ++ ⟨.frameReceived frame, nowMs⟩ :: after →
    Outdated config before frame →
    (Linux.run config (before ++ [⟨.frameReceived frame, nowMs⟩])).view.participants =
      (Linux.run config before).view.participants

/-- No stale action that passes its checks has been undone by the calls before it. -/
def StaleStands (config : MeetingConfig) (calls : List Call) : Prop :=
  ∀ before frame nowMs after, calls = before ++ ⟨.frameReceived frame, nowMs⟩ :: after →
    Outdated config before frame → ∀ action, frame.action? = some action →
    passes Linux.rules (Linux.run config before).view action.guard = true →
    ¬Undone (ProtocolSessionState.initial config).view before action

theorem received_ignored_iff {frame : ProtocolFrame} {action : Action}
    (asked : frame.action? = some action) (start : action.idle state.participants = true)
    (calls : List Call) (nowMs : Int) :
    (receive Linux.rules (follow Linux.rules state calls) frame nowMs).participants =
        (follow Linux.rules state calls).participants ↔
      (passes Linux.rules (follow Linux.rules state calls) action.guard = true →
        ¬Undone state calls action) := by
  rw [receive_participants_iff asked, idle_follow_iff start]

theorem run_received (config : MeetingConfig) (calls : List Call) (frame : ProtocolFrame) :
    (Linux.run config (calls ++ [⟨.frameReceived frame, nowMs⟩])).view =
      receive Linux.rules (Linux.run config calls).view frame nowMs := by
  rw [Linux.run_view, Linux.run_view, follow_append]
  rfl

theorem stale_ignored_iff (config : MeetingConfig) (calls : List Call) :
    StaleIgnored config calls ↔ StaleStands config calls := by
  refine forall₄_congr fun before frame nowMs after => forall₂_congr fun _ stale => ?_
  obtain ⟨first, applied, _, rest, _, _, repeated⟩ := stale
  obtain ⟨action, asked⟩ := repeats_action repeated
  have start : action.idle (ProtocolSessionState.initial config).view.participants = true := rfl
  have received := received_ignored_iff asked start before nowMs
  rw [← Linux.run_view] at received
  rw [run_received, asked]
  simpa using received

theorem Demand.met_apply_self (demand : Demand) (participant : Participant) :
    (demand.apply participant).all demand.met = true := by
  cases demand with
  | grant role => simp [Demand.apply, Demand.met, withRole]
  | revoke role =>
      by_cases held : participant.role = role
      · simp [Demand.apply, Demand.met, withRole, held]
      · simp [Demand.apply, Demand.met, held]
  | moderate action => cases action <;> rfl

theorem idle_applied {frame : ProtocolFrame} {action : Action}
    (asked : frame.action? = some action) (applied : passes Linux.rules state action.guard = true) :
    action.idle (receive Linux.rules state frame nowMs).participants = true := by
  rw [receive_action asked, if_pos applied, Action.idle, revise_apply]
  cases state.participants action.target with
  | none => simp
  | some participant => simpa using Demand.met_apply_self action.demand participant

/-- An action that was applied and is received again is without effect, unless it passes its
checks again and a call between the two has undone it. -/
theorem replay_ignored_iff (config : MeetingConfig) {frame : ProtocolFrame} {action : Action}
    (asked : frame.action? = some action) {first : List Call}
    (applied : passes Linux.rules (Linux.run config first).view action.guard = true)
    (firstMs : Int) (between : List Call) (nowMs : Int) :
    let delivered := first ++ [⟨.frameReceived frame, firstMs⟩]
    (Linux.run config (delivered ++ between ++ [⟨.frameReceived frame, nowMs⟩])).participants.get? =
        (Linux.run config (delivered ++ between)).participants.get? ↔
      (passes Linux.rules (Linux.run config (delivered ++ between)).view action.guard = true →
        ¬Undone (Linux.run config delivered).view between action) := by
  intro delivered
  have start : action.idle (Linux.run config delivered).view.participants = true := by
    rw [run_received]
    exact idle_applied asked applied
  have reached : (Linux.run config (delivered ++ between)).view =
      follow Linux.rules (Linux.run config delivered).view between := by
    rw [Linux.run_view, Linux.run_view, follow_append]
  have received := received_ignored_iff asked start between nowMs
  rw [← reached, ← run_received] at received
  exact received

def exampleGrant : RoleGrantFrame where
  targetParticipantId := "bob"
  role := .coHost
  grantedBy := "alice"
  signature := some "signed"
  issuedAtMs := 2

/-- A role is granted and revoked. -/
def exampleRevoked : List Call :=
  [⟨.frameReceived (.participantPresenceDelta
      { joined := [exampleParticipant "alice" .host, exampleParticipant "bob" .participant]
        left := [], roleChanges := [], sequence := 1 }), 1⟩,
    ⟨.frameReceived (.roleGrant exampleGrant), 2⟩,
    ⟨.frameReceived (.roleRevoke
      { targetParticipantId := "bob", role := .coHost, revokedBy := "alice"
        signature := some "signed", issuedAtMs := 3 }), 3⟩]

def exampleReplay : Call :=
  ⟨.frameReceived (.roleGrant exampleGrant), 4⟩

/-- The grant is repeated, and the role is back. -/
theorem stale_grant_restored :
    ¬StaleIgnored exampleConfig (exampleRevoked ++ [exampleReplay]) := by
  intro ignored
  have stale : Outdated exampleConfig exampleRevoked (.roleGrant exampleGrant) :=
    ⟨exampleRevoked.take 1, .roleGrant exampleGrant, 2, exampleRevoked.drop 2, rfl,
      by decide, by decide⟩
  have same := ignored exampleRevoked (.roleGrant exampleGrant) 4 [] rfl stale
  have role : ((Linux.run exampleConfig (exampleRevoked ++ [exampleReplay])).participants.get?
      "bob").map Participant.role =
      ((Linux.run exampleConfig exampleRevoked).participants.get? "bob").map Participant.role :=
    congrArg (fun participants => (participants "bob").map Participant.role) same
  exact absurd role (by decide)

end Kaigi.Session
