import Kaigi.Hub.ModerationTargets

/-!
# Joining

A connection joins a transparent room by its own hello or by an admission. The
hello looks for space in the room, and the admission does not.
-/

set_option autoImplicit false

namespace Kaigi.Hub

open Collections Wire Interleaving Authority

/-- An operation that joins a connection, which was there and had not joined. -/
inductive Joins (room : RoomState) (actor : ConnId) : Operation → ConnId → Prop where
  | hello {frame : HelloFrame} {snapshotAtMs deltaAtMs : Nat} :
      helloAdmits room actor frame.participantId = true →
      Joins room actor (.hello frame snapshotAtMs deltaAtMs) actor
  | admitted {frame : ModerationFrame} {nowMs admitAtMs : Nat} {target : ConnId}
      {participant : ParticipantState} :
      frame.action = .admitFromWaiting → room.helloSeen actor = true →
      canModerateConn room actor = true →
      (validateModerationSenderClock room actor frame).isOk = true →
      moderationTargets room actor frame = .ok [target] →
      room.participants.get? target = some participant →
      participant.waitingRoomPending = true →
      Joins room actor (.moderation frame nowMs admitAtMs) target

/-- Whoever has joined a transparent room after an event had joined before, or
joins by this event. -/
theorem Lawful.joined {hub : HubState} {earlier : List Event} {event : Event} {after : RoomState}
    (lawful : Lawful hub earlier event) (left : (event.after hub).room = some after)
    (transparent : after.anonymousMode = false) {connId : ConnId}
    (joined : after.helloSeen connId = true) :
    (event.before.opened hub).helloSeen connId = true ∨
      Joins (event.before.opened hub) event.connId event.op connId := by
  by_cases was : (event.before.opened hub).helloSeen connId = true
  · exact .inl was
  right
  have notYet : ¬ (groupOf (event.before.opened hub)).Joined connId := fun joined =>
    was (joined_groupOf.mp joined)
  obtain ⟨member, present, hello⟩ := joined_groupOf.mpr joined
  have became := (lawful.step left).became present
  obtain ⟨actor, task, op, state⟩ := event
  have requests := op.requests (state.opened hub) actor
  dsimp only at notYet became
  cases became with
  | kept same => exact absurd ⟨member, same, hello⟩ notYet
  | entered _ _ notJoined => rw [hello] at notJoined; cases notJoined
  | waits => cases hello
  | turnsAnonymous _ _ anonymous =>
      rw [show after.anonymousMode = true from anonymous] at transparent
      cases transparent
  | joins request =>
      rw [request] at requests
      cases requests with
      | hello =>
          obtain ⟨room, found, rfl⟩ := Option.map_eq_some_iff.mp left
          dsimp only at found
          rw [HubRoom.opened_of_some found] at *
          exact .hello (helloSection_joined notYet (joined_groupOf.mpr joined))
  | @admitted sender old request stored waiting senderJoined moderates =>
      rw [request] at requests
      cases requests with
      | @letIn frame nowMs admitAtMs _ participant admission known _ targets =>
          obtain ⟨room, found, rfl⟩ := Option.map_eq_some_iff.mp left
          dsimp only at found
          rw [HubRoom.opened_of_some found] at *
          rw [members_groupOf known] at stored
          cases stored
          refine .admitted admission (joined_groupOf.mp senderJoined)
            (canModerateConn_iff.mpr moderates) ?_ targets known waiting
          cases clock : validateModerationSenderClock room actor frame with
          | ok => rfl
          | error message =>
              refine absurd (joined_groupOf.mpr joined) ?_
              rw [Operation.updateRoom, moderationSection_refused clock]
              exact notYet

/-! ### Capacity -/

/-- Whoever joins a transparent room by the event finds space in it. -/
def JoinsWithinCapacity (hub : HubState) (event : Event) : Prop :=
  ∀ room after connId, event.before.room = some room → (event.after hub).room = some after →
    after.anonymousMode = false → room.helloSeen connId = false →
      after.helloSeen connId = true → activeJoined room < room.maxParticipants

/-- The operation admits somebody from the waiting room although the room is full. -/
def Operation.overfills (op : Operation) (connId : ConnId) (room : RoomState) : Bool :=
  match op with
  | .moderation frame _ _ =>
      frame.action == .admitFromWaiting && !room.anonymousMode &&
        moderationPermitted room connId frame &&
          decide (room.maxParticipants ≤ activeJoined room) &&
            match moderationTargets room connId frame with
            | .ok targets => targets.any fun target =>
                !room.helloSeen target && (room.participants.get? target).any (·.waitingRoomPending)
            | .error _ => false
  | _ => false

/-- A hello that lets its connection in has found space. -/
theorem validateJoinAllowed_space {room : RoomState} {connId : ConnId} {participantId : String}
    (allowed : validateJoinAllowed room connId participantId = none)
    (notYet : room.helloSeen connId = false) : activeJoined room < room.maxParticipants := by
  unfold validateJoinAllowed at allowed
  split at allowed
  · cases allowed
  · split at allowed
    · cases allowed
    · dsimp only at allowed
      split at allowed
      · cases allowed
      · split at allowed
        · cases allowed
        · split at allowed
          · cases allowed
          · next space => simpa [notYet] using space

theorem anonymousMode_completeJoin (room : RoomState) (connId : ConnId) (participantId : String) :
    (completeJoin room connId participantId).anonymousMode = room.anonymousMode := by
  unfold completeJoin restoreReservedRolesOnJoin
  dsimp only
  split <;> split <;> split <;> rfl

/-- An admission joins whoever waits. -/
theorem admitWaitingParticipant_joins {room : RoomState} {target : ConnId}
    {participant : ParticipantState} (found : room.participants.get? target = some participant)
    (waits : participant.waitingRoomPending = true) (atMs : Nat) :
    (admitWaitingParticipant room target atMs).1.helloSeen target = true ∧
      (admitWaitingParticipant room target atMs).1.anonymousMode = room.anonymousMode := by
  unfold admitWaitingParticipant
  rw [found]
  dsimp only
  rw [if_neg (by simp [waits]), anonymousMode_completeJoin]
  refine ⟨?_, rfl⟩
  simp [RoomState.helloSeen, participants_completeJoin, RoomState.updateParticipant, found,
    admitParticipant]

/-- An operation that overfills the room joins somebody in it. -/
theorem Operation.overfills_joins (hub : HubState) {op : Operation} {actor : ConnId}
    {room : RoomState} (overfills : op.overfills actor room = true) :
    ∃ frame nowMs admitAtMs target, op = .moderation frame nowMs admitAtMs ∧
      room.maxParticipants ≤ activeJoined room ∧ room.helloSeen target = false ∧
        (op.updateRoom hub actor room).helloSeen target = true ∧
          (op.updateRoom hub actor room).anonymousMode = false := by
  cases op with
  | moderation frame nowMs admitAtMs =>
      simp only [Operation.overfills, Bool.and_eq_true, beq_iff_eq, Bool.not_eq_true',
        decide_eq_true_eq] at overfills
      obtain ⟨⟨⟨⟨admission, transparent⟩, permitted⟩, full⟩, somebody⟩ := overfills
      cases chosen : moderationTargets room actor frame with
      | error => rw [chosen] at somebody; cases somebody
      | ok targets =>
          obtain ⟨target, participant, rfl, found, _⟩ :=
            moderationTargets_single (.inl admission) chosen
          rw [chosen] at somebody
          simp only [List.any_cons, List.any_nil, Bool.or_false, Bool.and_eq_true,
            Bool.not_eq_true', found, Option.any_some] at somebody
          obtain ⟨notYet, waits⟩ := somebody
          obtain ⟨accepted, clocked⟩ := clocked_of_permitted permitted
          obtain ⟨sameGroup, sameParticipants⟩ := validateModerationSenderClock_ok clocked
          have whole := moderationSection_permitted nowMs admitAtMs permitted clocked chosen
          obtain ⟨joined, mode⟩ :=
            admitWaitingParticipant_joins (sameParticipants ▸ found) waits admitAtMs
          have admitted :
              Operation.updateRoom hub actor (.moderation frame nowMs admitAtMs) room =
                (admitWaitingParticipant accepted target admitAtMs).1 := by
            change (moderationSection room actor frame nowMs admitAtMs).1 = _
            rw [whole]
            simp only [moderateTarget, admission]
            split <;> next same => rw [same]
          refine ⟨frame, nowMs, admitAtMs, target, rfl, full, notYet, ?_, ?_⟩
          · rw [admitted]
            exact joined
          · rw [admitted, mode, show accepted.anonymousMode = room.anonymousMode from
              congrArg Group.anonymous sameGroup]
            exact transparent
  | _ => cases overfills

/-- The steps of a run that join somebody find space in the room, except for
exactly the admissions that overfill it. -/
theorem joinsWithinCapacity_iff {hub : HubState} {history : List Event} {system : System}
    (run : Run hub history system) {event : Event} (happened : event ∈ history) :
    JoinsWithinCapacity hub event ↔ ∀ room, event.before.room = some room →
      event.op.overfills event.connId room = false := by
  obtain ⟨earlier, _, _, lawful⟩ := run.lawful happened
  constructor
  · intro capacity room found
    by_contra overfills
    obtain ⟨frame, nowMs, admitAtMs, target, request, full, notYet, joined, transparent⟩ :=
      Operation.overfills_joins hub (Bool.eq_true_of_not_eq_false overfills)
    have left : (event.after hub).room = some (event.op.updateRoom hub event.connId room) := by
      unfold Event.after
      rw [request]
      simp [Operation.apply, found]
    have space := capacity room _ target found left transparent notYet joined
    exact absurd full (Nat.not_le_of_lt space)
  · intro within room after connId found left transparent notYet joined
    have joins := lawful.joined left transparent joined
    rw [HubRoom.opened_of_some found] at joins
    rcases joins with was | joins
    · rw [notYet] at was
      cases was
    · have clear := within room found
      obtain ⟨actor, task, op, state⟩ := event
      dsimp only at joins clear
      cases joins with
      | @hello frame _ _ admits =>
          unfold helloAdmits at admits
          simp only [Bool.and_eq_true, Option.isNone_iff_eq_none] at admits
          exact validateJoinAllowed_space admits.1.1.2 notYet
      | @admitted frame nowMs admitAtMs _ participant admission senderJoined moderates clocked
          targets known waits =>
          refine Nat.lt_of_not_le fun full => Bool.eq_false_iff.mp clear ?_
          have mode : room.anonymousMode = false := by
            have step := lawful.step left
            rw [HubRoom.opened_of_some found] at step
            exact step.transparent transparent
          simp [Operation.overfills, admission, mode, moderationPermitted, senderJoined, moderates,
            clocked, full, targets, notYet, known, waits]

/-- The host alice lets in nobody besides herself. -/
def fullRoomPolicy : KaigiFrame :=
  .sessionPolicy {
    updatedAtMs := 2
    roomLock := false
    waitingRoomEnabled := true
    guestJoinAllowed := true
    localRecordingAllowed := true
    e2eeRequired := true
    maxParticipants := 1
    policyEpoch := 2
    updatedBy := "alice@sora"
    signatureHex := "9405debe2ae0f8c9765e76582c37bf17dc3f094d4a8a2442c10cd094370552ef" }

def fullRoomHub : HubState where
  __ := scriptedHub [helloAs "alice@sora", waitingRoomPolicy, helloAs "bob@sora",
    .moderation { sentAtMs := 1, target := .participant "bob@sora", action := .admitFromWaiting },
    fullRoomPolicy]
  blake3 := fun input =>
    if input = "session_policyalice@sora|false|true|true|true|true|1|2|2" then
      ⟨#[148, 5, 222, 190, 42, 224, 248, 201, 118, 94, 118, 88, 44, 55, 191, 23,
        220, 63, 9, 77, 74, 138, 36, 66, 193, 12, 208, 148, 55, 5, 82, 239], rfl⟩
    else scriptedDigest input

/-- Bob waits, perhaps the room is full by then, and alice admits him. -/
def fullRoomScript (full : Bool) : List Move :=
  [.connect 1 0, .connect 2 0] ++ sendsFrame 1 0 1 28 ++ sendsFrame 1 1 2 13 ++
    sendsFrame 2 2 3 11 ++ (if full then sendsFrame 1 4 4 13 else []) ++ sendsFrame 1 3 5 5

/-- The event lets bob in. -/
def letsBobIn (event : Event) : Bool :=
  event.before.room.any fun room => !room.helloSeen 2 &&
    (event.after fullRoomHub).room.any fun after => after.helloSeen 2 && !after.anonymousMode

theorem joinsWithinCapacity_script :
    ∃ history system event, Run fullRoomHub history system ∧ event ∈ history ∧
      letsBobIn event = true ∧ JoinsWithinCapacity fullRoomHub event := by
  obtain ⟨history, system, run, checks⟩ := Run.of_played fullRoomHub (fullRoomScript false)
    (fun history _ => history.any fun event => letsBobIn event &&
      event.before.room.all fun room => !event.op.overfills event.connId room) (by decide +kernel)
  simp only [List.any_eq_true, Bool.and_eq_true, Option.all_eq_true, Bool.not_eq_true'] at checks
  obtain ⟨event, happened, lets, within⟩ := checks
  exact ⟨history, system, event, run, happened, lets,
    (joinsWithinCapacity_iff run happened).mpr within⟩

theorem joinsWithinCapacity_fails :
    ¬ ∀ (hub : HubState) (history : List Event) (system : System), Run hub history system →
      ∀ event ∈ history, JoinsWithinCapacity hub event := by
  intro claimed
  obtain ⟨history, system, run, checks⟩ := Run.of_played fullRoomHub (fullRoomScript true)
    (fun history _ => history.any fun event => event.before.room.any fun room =>
      !room.helloSeen 2 && decide (room.maxParticipants ≤ activeJoined room) &&
        (event.after fullRoomHub).room.any fun after => after.helloSeen 2 && !after.anonymousMode)
    (by decide +kernel)
  simp only [List.any_eq_true, Option.any_eq_true, Bool.and_eq_true, Bool.not_eq_true',
    decide_eq_true_eq] at checks
  obtain ⟨event, happened, room, found, ⟨notYet, full⟩, after, left, joined, transparent⟩ := checks
  have space := claimed fullRoomHub history system run event happened room after 2 found left
    transparent notYet joined
  exact absurd full (Nat.not_le_of_lt space)

end Kaigi.Hub
