import Kaigi.Hub.Scripts

/-!
# Room isolation

Room content reaches a channel only by a fan-out, and a fan-out takes every
connection of the room. So it goes to joined participants only, as long as
everybody in the room has joined whenever content is fanned out.
-/

set_option autoImplicit false

namespace Kaigi.Hub

open Collections Wire Interleaving Authority

/-- The operation fans content out in a transparent room where somebody has not
joined. -/
def Operation.leaksContent (op : Operation) (room : RoomState) : Bool :=
  match op with
  | .fanout frame =>
      isRoomContent frame && !room.anonymousMode &&
        room.participants.keys.any fun connId => !room.helloSeen connId
  | _ => false

/-- The frame goes to somebody who had joined when its recipients were taken, if
that was in a transparent room. -/
def Event.DeliversToJoined (earlier : List Event) (event : Event) (target : ConnId)
    (frame : KaigiFrame) : Prop :=
  ∃ taken, lastFanout (own event.connId event.task earlier) = some (frame, taken) ∧
    target ∈ taken.connections ∧
      ∀ room, taken.room = some room → room.anonymousMode = false → room.helloSeen target = true

/-- Where no fan-out finds somebody who has not joined, room content is enqueued
for joined participants only. -/
theorem roomContent_isolated {hub : HubState} {history : List Event} {system : System}
    (run : Run hub history system)
    (isolates : ∀ event ∈ history, ∀ before, event.before.room = some before →
      event.op.leaksContent before = false) :
    ∀ later event earlier, history = later ++ event :: earlier →
      ∀ target frame, event.op = .trySend target (.binary frame) → isRoomContent frame = true →
        event.DeliversToJoined earlier target frame := by
  rintro later event earlier rfl target frame sends content
  obtain ⟨_, _, lawful⟩ := run.trace.1.lawful
  obtain ⟨taken, latest, among⟩ := lawful.delivered target frame <| by
    rw [sends]
    simp [Operation.delivers, content]
  refine ⟨taken, latest, among, fun room found transparent => ?_⟩
  obtain ⟨fan, member, fans, rfl⟩ := lastFanout_mem latest
  by_contra notJoined
  refine Bool.eq_false_iff.mp (isolates fan (by simp [(mem_own.mp member).1]) room found) ?_
  rw [HubRoom.connections_of_some found] at among
  simp only [fans, Operation.leaksContent, content, transparent, Bool.true_and, Bool.not_false,
    List.any_eq_true]
  exact ⟨target, among, by simpa using notJoined⟩

def isolationHub : HubState :=
  scriptedHub [helloAs "alice@sora", helloAs "bob@sora"]

/-- The latest event puts room content into a channel. -/
def deliversContent (check : List Event → Event → ConnId → KaigiFrame → Bool) :
    List Event → Bool
  | [] => false
  | event :: earlier =>
      match event.op with
      | .trySend target (.binary frame) => isRoomContent frame && check earlier event target frame
      | _ => false

theorem deliversContent_iff {check : List Event → Event → ConnId → KaigiFrame → Bool}
    {history : List Event} :
    deliversContent check history = true ↔
      ∃ event earlier target frame, history = event :: earlier ∧
        event.op = .trySend target (.binary frame) ∧ isRoomContent frame = true ∧
          check earlier event target frame = true := by
  unfold deliversContent
  constructor
  · intro delivers
    split at delivers
    · cases delivers
    · next event earlier =>
        split at delivers
        · next target frame op =>
            rw [Bool.and_eq_true] at delivers
            exact ⟨event, earlier, target, frame, rfl, op, delivers⟩
        · cases delivers
  · rintro ⟨event, earlier, target, frame, rfl, op, content, checked⟩
    simp [op, content, checked]

/-- Alice joins, bob connects and joins, and alice receives the presence delta of his join. -/
def twoJoinsScript : List Move :=
  .connect 1 0 :: sendsFrame 1 0 1 25 ++ .connect 2 0 :: sendsFrame 2 1 2 14

theorem roomContent_isolated_script :
    ∃ history system event earlier frame, Run isolationHub history system ∧
      history = event :: earlier ∧ event.connId = 2 ∧ event.op = .trySend 1 (.binary frame) ∧
        isRoomContent frame = true ∧ event.DeliversToJoined earlier 1 frame := by
  obtain ⟨history, system, run, checks⟩ := Run.of_played
    isolationHub twoJoinsScript
    (fun history _ => deliversContent (fun _ event target _ => event.connId == 2 && target == 1)
        history &&
      history.all fun event => event.before.room.all fun before =>
        !event.op.leaksContent before) (by decide +kernel)
  rw [Bool.and_eq_true] at checks
  obtain ⟨event, earlier, target, frame, split, op, content, ends⟩ :=
    deliversContent_iff.mp checks.1
  rw [Bool.and_eq_true, beq_iff_eq, beq_iff_eq] at ends
  obtain ⟨sender, rfl⟩ := ends
  have isolates : ∀ event ∈ history, ∀ before, event.before.room = some before →
      event.op.leaksContent before = false := by
    simpa only [List.all_eq_true, Option.all_eq_true, Bool.not_eq_true'] using checks.2
  exact ⟨history, system, event, earlier, frame, run, split, sender, op, content,
    roomContent_isolated run isolates [] event earlier split 1 frame op content⟩

/-- Bob has only connected when the presence delta of alice's join is sent. -/
def leakScript : List Move :=
  [.connect 1 0, .connect 2 0] ++ sendsFrame 1 0 1 13

/-- The recipient had not joined when the recipients were taken. -/
def leaks (earlier : List Event) (event : Event) (target : ConnId) (_ : KaigiFrame) : Bool :=
  (lastFanout (own event.connId event.task earlier)).any fun latest =>
    latest.2.room.any fun room => !room.anonymousMode && !room.helloSeen target

theorem roomContent_leaks :
    ¬ ∀ (hub : HubState) (history : List Event) (system : System), Run hub history system →
      ∀ later event earlier, history = later ++ event :: earlier →
        ∀ target frame, event.op = .trySend target (.binary frame) →
          isRoomContent frame = true → event.DeliversToJoined earlier target frame := by
  intro claimed
  obtain ⟨history, system, run, checks⟩ := Run.of_played
    isolationHub leakScript
    (fun history _ => deliversContent leaks history) (by decide +kernel)
  obtain ⟨event, earlier, target, frame, split, op, content, leaked⟩ :=
    deliversContent_iff.mp checks
  obtain ⟨taken, latest, _, joined⟩ :=
    claimed isolationHub history system run [] event earlier split target frame op content
  simp only [leaks, latest, Option.any_some, Option.any_eq_true, Bool.and_eq_true,
    Bool.not_eq_true'] at leaked
  obtain ⟨room, found, transparent, notJoined⟩ := leaked
  rw [joined room found transparent] at notJoined
  cases notJoined

end Kaigi.Hub
