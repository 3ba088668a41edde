import Kaigi.Hub.Scripts

/-!
# The waiting room

Who waits is let in by a moderator, or lets itself in once the waiting room is
off or under a reserved name, unless it became the host while it waited or says
hello anonymously.
-/

set_option autoImplicit false

namespace Kaigi.Hub

open Collections Wire Interleaving Authority

def RoomState.waits (room : RoomState) (connId : ConnId) : Bool :=
  (room.participants.get? connId).any (·.waitingRoomPending)

theorem waits_iff {room : RoomState} {connId : ConnId} :
    room.waits connId = true ↔ (groupOf room).Waiting connId := by
  unfold RoomState.waits Group.Waiting
  simp only [Option.any_eq_true, members_groupOf_eq_some]
  constructor
  · rintro ⟨participant, found, waits⟩
    exact ⟨_, ⟨participant, found, rfl⟩, waits⟩
  · rintro ⟨_, ⟨participant, found, rfl⟩, waits⟩
    exact ⟨participant, found, waits⟩

/-- A waiting connection joins as the host that it has become, or anonymously. -/
def Operation.evadesWaitingRoom (hub : HubState) (op : Operation) (connId : ConnId)
    (room : RoomState) : Bool :=
  room.waits connId &&
    match op with
    | .hello frame _ _ =>
        room.waitingRoomEnabled && room.hostConnId == some connId &&
          !participantIdHasReservedModerationRole room frame.participantId &&
            helloAdmits room connId frame.participantId
    | .anonHello frame _ _ => anonHelloAdmits hub room connId frame
    | _ => false

/-- An accepted `SessionPolicy` turns the waiting room off while the connection
waits. -/
def Event.OpensWaitingRoom (hub : HubState) (event : Event) (connId : ConnId) : Prop :=
  (∃ update, event.op = .sessionPolicy update) ∧
    ∃ before after, event.before.room = some before ∧ (event.after hub).room = some after ∧
      before.waits connId = true ∧ before.waitingRoomEnabled = true ∧
        after.waitingRoomEnabled = false

/-- A moderator who has joined admits the waiting connection by its name, or the
connection says hello itself, once a policy has turned the waiting room off or
under a reserved name. -/
def Event.Admits (hub : HubState) (earlier : List Event) (event : Event) (before : RoomState)
    (connId : ConnId) (waiting : ParticipantState) : Prop :=
  (∃ frame nowMs admitAtMs, event.op = .moderation frame nowMs admitAtMs ∧
      frame.action = .admitFromWaiting ∧ frame.target = .participant waiting.participantId ∧
        before.helloSeen event.connId = true ∧ canModerateConn before event.connId = true) ∨
    (event.connId = connId ∧ ∃ frame snapshotAtMs deltaAtMs,
      event.op = .hello frame snapshotAtMs deltaAtMs ∧
        ((before.waitingRoomEnabled = false ∧
            ∃ past ∈ earlier, past.OpensWaitingRoom hub connId) ∨
          participantIdHasReservedModerationRole before frame.participantId = true))

/-- Where somebody waits the waiting room is on, or a policy has turned it off. -/
theorem Trace.waitingRoom {hub : HubState} {history : List Event} (trace : Trace hub history) :
    ∀ connId, (roomAfter hub history).waits connId = true →
      (roomAfter hub history).waitingRoomEnabled = true ∨
        ∃ event ∈ history, event.OpensWaitingRoom hub connId := by
  refine Trace.room (fun past room => ∀ connId, room.waits connId = true →
    room.waitingRoomEnabled = true ∨ ∃ event ∈ past, event.OpensWaitingRoom hub connId)
    ?_ ?_ trace
  · intro _ connId waits
    simp [RoomState.waits, emptyRoom] at waits
  · intro earlier event after _ lawful _ ih left connId waits
    have step := lawful.step left
    cases on : after.waitingRoomEnabled with
    | true => exact .inl rfl
    | false =>
        right
        obtain ⟨actor, task, op, state⟩ := event
        have turnedOff : (state.opened hub).waitingRoomEnabled = true →
            ∃ sender, op.action (state.opened hub) actor = .policy sender := by
          intro wasOn
          obtain ⟨sender, request, _⟩ := step.waitingRoom fun same => by
            rw [show after.waitingRoomEnabled = (state.opened hub).waitingRoomEnabled from same,
              wasOn] at on
            cases on
          exact ⟨sender, request⟩
        rcases step.waiting (waits_iff.mp waits) with waited | ⟨⟨_, request⟩, wasOn⟩
        · rcases ih connId (waits_iff.mpr waited) with wasOn | ⟨event, member, opens⟩
          · obtain ⟨sender, request⟩ := turnedOff wasOn
            have requests := op.requests (state.opened hub) actor
            rw [request] at requests
            cases requests with
            | @policy update =>
                obtain ⟨room, found, _⟩ := Option.map_eq_some_iff.mp left
                dsimp only at wasOn waited
                rw [HubRoom.opened_of_some found] at wasOn waited
                exact ⟨_, List.mem_cons_self, ⟨update, rfl⟩, room, after, found, left,
                  waits_iff.mpr waited, wasOn, on⟩
          · exact ⟨event, List.mem_cons_of_mem _ member, opens⟩
        · obtain ⟨sender, other⟩ := turnedOff wasOn
          rw [show op.action (state.opened hub) actor = _ from request] at other
          cases other

/-- One event lets a waiting connection in only by one of the two ways, unless it
evades the waiting room. -/
theorem Lawful.admission {hub : HubState} {earlier : List Event} {event : Event}
    {before after : RoomState} (trace : Trace hub earlier)
    (same : event.before = sharedAfter hub earlier) (lawful : Lawful hub earlier event)
    (found : event.before.room = some before) (left : (event.after hub).room = some after)
    (guarded : event.op.evadesWaitingRoom hub event.connId before = false)
    {connId : ConnId} {waiting joined : ParticipantState}
    (was : before.participants.get? connId = some waiting)
    (waits : waiting.waitingRoomPending = true) (notYet : waiting.helloSeen = false)
    (present : after.participants.get? connId = some joined) (hello : joined.helloSeen = true) :
    event.Admits hub earlier before connId waiting := by
  have step := lawful.step left
  obtain ⟨actor, task, op, state⟩ := event
  dsimp only at found same guarded
  rw [HubRoom.opened_of_some found] at step
  have requests := op.requests before actor
  have pending : before.waits connId = true := waits_iff.mpr ⟨_, members_groupOf was, waits⟩
  have notJoined : ¬ (groupOf before).Joined connId := by
    rw [joined_groupOf, RoomState.helloSeen, was]
    simp [notYet]
  have joins : (groupOf after).Joined connId := ⟨_, members_groupOf present, hello⟩
  rcases step.leavesWaiting (members_groupOf was) notYet (members_groupOf present) hello with
    ⟨sender, request, senderJoined, moderates⟩ | ⟨id, request, transparent, allowed⟩ | request <;>
    rw [request] at requests
  · cases requests with
    | @letIn frame nowMs admitAtMs _ participant admission stored named _ =>
        rw [was] at stored
        cases stored
        exact .inl ⟨frame, nowMs, admitAtMs, rfl, admission, named,
          joined_groupOf.mp senderJoined, canModerateConn_iff.mpr moderates⟩
  · cases requests with
    | @hello frame snapshotAtMs deltaAtMs =>
        refine .inr ⟨rfl, frame, snapshotAtMs, deltaAtMs, rfl, ?_⟩
        have orderly : Orderly (groupOf before) := trace.orderly (same ▸ found) transparent
        have waited := trace.waitingRoom connId
        rw [roomAfter_of_some (same ▸ found)] at waited
        rcases orderly.helloJoins (members_groupOf was) waits notYet allowed with
          off | reserved | hosts
        · rcases waited pending with on | opened
          · rw [show before.waitingRoomEnabled = false from off] at on
            cases on
          · exact .inl ⟨off, opened⟩
        · exact .inr (participantIdHasReservedModerationRole_iff.mpr reserved)
        · cases on : before.waitingRoomEnabled with
          | false => exact .inl ⟨rfl, (waited pending).resolve_left (by simp [on])⟩
          | true =>
              right
              by_contra reserved
              refine Bool.eq_false_iff.mp guarded ?_
              unfold Operation.evadesWaitingRoom
              rw [HubRoom.eq_of_map found left] at joins
              simp [pending, on, show before.hostConnId = some connId from hosts,
                Bool.eq_false_iff.mpr reserved, helloSection_joined notJoined joins]
  · cases requests with
    | @anonHello frame nowMs rosterAtMs =>
        refine absurd ?_ (Bool.eq_false_iff.mp guarded)
        rw [HubRoom.eq_of_map found left] at joins
        unfold Operation.evadesWaitingRoom
        simp [pending, anonHelloSection_joined notJoined joins]

/-- Where nobody evades the waiting room, whoever waits joins only by an
admission that names it, or by its own hello once a policy has turned the waiting
room off or under a reserved name. -/
theorem waitingRoom_sound {hub : HubState} {history : List Event} {system : System}
    (run : Run hub history system)
    (guarded : ∀ event ∈ history, ∀ before, event.before.room = some before →
      event.op.evadesWaitingRoom hub event.connId before = false) :
    ∀ later event earlier, history = later ++ event :: earlier →
      ∀ before after connId waiting joined, event.before.room = some before →
        (event.after hub).room = some after → before.participants.get? connId = some waiting →
          waiting.waitingRoomPending = true → waiting.helloSeen = false →
            after.participants.get? connId = some joined → joined.helloSeen = true →
              event.Admits hub earlier before connId waiting := by
  rintro later event earlier rfl before after connId waiting joined found left was waits notYet
    present hello
  obtain ⟨trace, same, lawful⟩ := run.trace.1.lawful
  exact lawful.admission trace same found left
    (guarded event (by simp) before found) was waits notYet present hello

def waitingHub : HubState :=
  scriptedHub [helloAs "alice@sora", helloAs "carol@sora", waitingRoomPolicy,
    .moderation { sentAtMs := 1, target := .participant "carol@sora", action := .admitFromWaiting }]

/-- Alice turns the waiting room on, and carol waits. -/
def waitsScript : List Move :=
  [.connect 1 0, .connect 2 0] ++ sendsFrame 1 0 1 28 ++ sendsFrame 1 2 2 13 ++ sendsFrame 2 1 3 11

/-- The event lets carol in, and `check` holds of the room it finds. -/
def letsCarolIn (check : Event → RoomState → Bool) (event : Event) : Bool :=
  event.before.room.any fun before => (event.after waitingHub).room.any fun after =>
    (before.participants.get? 2).any fun waiting =>
      waiting.waitingRoomPending && !waiting.helloSeen && check event before &&
        (after.participants.get? 2).any (·.helloSeen)

theorem letsCarolIn_iff {check : Event → RoomState → Bool} {event : Event} :
    letsCarolIn check event = true ↔
      ∃ before after waiting joined, event.before.room = some before ∧
        (event.after waitingHub).room = some after ∧
          before.participants.get? 2 = some waiting ∧ waiting.waitingRoomPending = true ∧
            waiting.helloSeen = false ∧ check event before = true ∧
              after.participants.get? 2 = some joined ∧ joined.helloSeen = true := by
  simp only [letsCarolIn, Option.any_eq_true, Bool.and_eq_true, Bool.not_eq_true']
  constructor
  · rintro ⟨before, found, after, left, waiting, was, ⟨⟨⟨waits, notYet⟩, checked⟩,
      joined, present, hello⟩⟩
    exact ⟨before, after, waiting, joined, found, left, was, waits, notYet, checked, present, hello⟩
  · rintro ⟨before, after, waiting, joined, found, left, was, waits, notYet, checked, present,
      hello⟩
    exact ⟨before, found, after, left, waiting, was, ⟨⟨⟨waits, notYet⟩, checked⟩,
      joined, present, hello⟩⟩

theorem waitingRoom_sound_script :
    ∃ history system event frame nowMs admitAtMs, Run waitingHub history system ∧
      event ∈ history ∧ event.op = .moderation frame nowMs admitAtMs ∧
        frame.action = .admitFromWaiting := by
  obtain ⟨history, system, run, checks⟩ := Run.of_played
    waitingHub (waitsScript ++ sendsFrame 1 3 4 33)
    (fun history _ =>
      (history.any <| letsCarolIn fun event _ => event.connId != 2) &&
        history.all fun event => event.before.room.all fun before =>
          !event.op.evadesWaitingRoom waitingHub event.connId before) (by decide +kernel)
  rw [Bool.and_eq_true] at checks
  obtain ⟨event, happened, lets⟩ := List.any_eq_true.mp checks.1
  obtain ⟨before, after, waiting, joined, found, left, was, waits, notYet, other, present, hello⟩ :=
    letsCarolIn_iff.mp lets
  have guarded : ∀ event ∈ history, ∀ before, event.before.room = some before →
      event.op.evadesWaitingRoom waitingHub event.connId before = false := by
    simpa only [List.all_eq_true, Option.all_eq_true, Bool.not_eq_true'] using checks.2
  obtain ⟨later, earlier, split⟩ := List.append_of_mem happened
  rcases waitingRoom_sound run guarded later event earlier split before after 2 waiting joined
    found left was waits notYet present hello with
      ⟨frame, nowMs, admitAtMs, op, admission, _⟩ | ⟨same, _⟩
  · exact ⟨history, system, event, frame, nowMs, admitAtMs, run, happened, op, admission⟩
  · rw [same] at other
    cases other

/-- The waiting room is on, and the event is a hello under a name that is not
reserved. -/
def plainHello (event : Event) (before : RoomState) : Bool :=
  before.waitingRoomEnabled &&
    match event.op with
    | .hello frame _ _ => !participantIdHasReservedModerationRole before frame.participantId
    | _ => false

/-- Alice leaves, carol becomes the host while she waits, and says hello again. -/
def evadesScript : List Move :=
  waitsScript ++ closes 1 6 15 ++ sendsFrame 2 1 7 25

theorem waitingRoom_fails :
    ¬ ∀ (hub : HubState) (history : List Event) (system : System), Run hub history system →
      ∀ later event earlier, history = later ++ event :: earlier →
        ∀ before after connId waiting joined, event.before.room = some before →
          (event.after hub).room = some after →
            before.participants.get? connId = some waiting →
              waiting.waitingRoomPending = true → waiting.helloSeen = false →
                after.participants.get? connId = some joined → joined.helloSeen = true →
                  event.Admits hub earlier before connId waiting := by
  intro claimed
  obtain ⟨history, system, run, checks⟩ := Run.of_played
    waitingHub evadesScript
    (fun history _ => history.any <| letsCarolIn plainHello) (by decide +kernel)
  obtain ⟨event, happened, lets⟩ := List.any_eq_true.mp checks
  obtain ⟨before, after, waiting, joined, found, left, was, waits, notYet, plain, present, hello⟩ :=
    letsCarolIn_iff.mp lets
  obtain ⟨later, earlier, split⟩ := List.append_of_mem happened
  unfold plainHello at plain
  rcases claimed waitingHub history system run later event earlier split before after 2 waiting
    joined found left was waits notYet present hello with
      ⟨frame, nowMs, admitAtMs, op, _⟩ | ⟨_, frame, snapshotAtMs, deltaAtMs, op, off | reserved⟩
  · simp [op] at plain
  · simp [op, off.1] at plain
  · simp [op, reserved] at plain

end Kaigi.Hub
