import Kaigi.Hub.Scripts

/-!
# Host succession

The host of a transparent room with joined participants has joined, unless the
host role passed to the smallest connection id while that one had not joined, or
somebody joined under a host who never did.
-/

set_option autoImplicit false

namespace Kaigi.Hub

open Collections Wire Interleaving Authority

/-- The operation passes the host role of a transparent room to somebody who has
not joined although others have, or joins somebody under such a host. -/
def Operation.strandsHost (op : Operation) (connId : ConnId) (room : RoomState) : Bool :=
  match op with
  | .disconnect _ _ =>
      !room.anonymousMode && room.hostConnId == some connId &&
        room.participants.keys.any (fun other => other != connId && room.helloSeen other) &&
          (room.participants.remove connId).keys.min?.any fun next => !room.helloSeen next
  | .hello frame _ _ =>
      room.participants.keys.all (fun other => !room.helloSeen other) &&
        room.hostConnId.any (· != connId) && room.hostRoleOwner != some frame.participantId &&
          helloAdmits room connId frame.participantId
  | _ => false

theorem passesToJoined {hub : HubState} {connId : ConnId} {op : Operation} {state : HubRoom}
    {after : RoomState} (left : (op.apply hub connId state).room = some after)
    (keeps : ∀ room, state.room = some room → op.strandsHost connId room = false) :
    PassesToJoined (op.action (state.opened hub) connId) (groupOf (state.opened hub))
      (groupOf after) := by
  have requests := op.requests (state.opened hub) connId
  constructor
  · rintro conn request transparent hosts ⟨other, different, joined⟩ successor least
    rw [request] at requests
    cases requests with
    | leave =>
        obtain ⟨room, found, _⟩ := Option.bind_eq_some_iff.mp left
        rw [HubRoom.opened_of_some found] at *
        by_contra notJoined
        rw [joined_groupOf] at joined notJoined
        refine Bool.eq_false_iff.mp (keeps room found) ?_
        unfold Operation.strandsHost
        simp only [Bool.and_eq_true, Bool.not_eq_true', beq_iff_eq, List.any_eq_true, bne_iff_ne,
          isLeast_removed least, Option.any_some]
        exact ⟨⟨⟨transparent, hosts⟩, other, joined_mem_keys joined, different, joined⟩,
          Bool.eq_false_iff.mpr notJoined⟩
  · intro conn id request nobody joined
    rw [request] at requests
    cases requests with
    | @hello frame snapshotAtMs deltaAtMs =>
        obtain ⟨room, found, rfl⟩ := Option.map_eq_some_iff.mp left
        rw [HubRoom.opened_of_some found] at *
        by_contra stale
        rw [not_or, not_or] at stale
        obtain ⟨hosted, otherHost, notOwner⟩ := stale
        obtain ⟨host, hosts⟩ := Option.ne_none_iff_exists'.mp hosted
        refine Bool.eq_false_iff.mp (keeps room found) ?_
        unfold Operation.strandsHost
        simp only [Bool.and_eq_true, Bool.not_eq_true', List.all_eq_true, bne_iff_ne,
          show room.hostConnId = some host from hosts, Option.any_some]
        refine ⟨⟨⟨fun other _ => ?_, ?_⟩, notOwner⟩, helloSection_joined (nobody connId) joined⟩
        · rw [Bool.eq_false_iff]
          exact fun seen => nobody other (joined_groupOf.mpr seen)
        · rintro rfl
          exact otherHost hosts

theorem Run.hostJoined {hub : HubState} {history : List Event} {system : System}
    {room : RoomState} (run : Run hub history system)
    (keeps : ∀ event ∈ history, ∀ before, event.before.room = some before →
      event.op.strandsHost event.connId before = false)
    (found : system.shared.room = some room) (transparent : room.anonymousMode = false) :
    HostJoined (groupOf room) := by
  have reachable := run.trace.1.reachable PassesToJoined
    fun event happened after left => passesToJoined left (keeps event happened)
  rw [roomAfter_eq run found] at reachable
  refine reachable.hostJoined (orderly_emptyRoom hub) ?_ transparent
  rintro connId ⟨member, present, _⟩
  simp [groupOf, emptyRoom] at present

/-- Where no operation strands the host role, the host of a transparent room
with joined participants has joined. -/
theorem joinedHost_of_noneStranded {hub : HubState} {history : List Event} {system : System}
    (run : Run hub history system)
    (keeps : ∀ event ∈ history, ∀ before, event.before.room = some before →
      event.op.strandsHost event.connId before = false) :
    ∀ room, system.shared.room = some room → room.anonymousMode = false →
      ∀ connId, room.helloSeen connId = true →
        ∃ host, room.hostConnId = some host ∧ room.helloSeen host = true := by
  intro room found transparent connId joined
  obtain ⟨host, hosts, hostJoined⟩ :=
    run.hostJoined keeps found transparent connId (joined_groupOf.mpr joined)
  exact ⟨host, hosts, joined_groupOf.mp hostJoined⟩

def successionHub : HubState :=
  scriptedHub [helloAs "alice@sora", helloAs "bob@sora"]

/-- Alice hosts, bob joins, and alice leaves: bob succeeds her. -/
def successionScript : List Move :=
  [.connect 1 0, .connect 2 0] ++ sendsFrame 1 0 1 28 ++ sendsFrame 2 1 2 30 ++ closes 1 3 17

theorem joinedHost_of_noneStranded_script :
    ∃ history system room host, Run successionHub history system ∧
      system.shared.room = some room ∧ room.helloSeen 2 = true ∧
        room.hostConnId = some host ∧ room.helloSeen host = true := by
  obtain ⟨history, system, room, run, found, checks⟩ := Run.of_played_room
    successionHub successionScript
    (fun history room => !room.anonymousMode && room.helloSeen 2 &&
      history.all fun event => event.before.room.all fun before =>
        !event.op.strandsHost event.connId before) (by decide +kernel)
  simp only [Bool.and_eq_true, Bool.not_eq_true', List.all_eq_true, Option.all_eq_true] at checks
  obtain ⟨⟨transparent, joined⟩, keeps⟩ := checks
  obtain ⟨host, hosts, hostJoined⟩ :=
    joinedHost_of_noneStranded run keeps room found transparent 2 joined
  exact ⟨history, system, room, host, run, found, joined, hosts, hostJoined⟩

/-- Alice hosts, bob joins on the third connection, the second has only connected, and alice
leaves. -/
def strandedScript : List Move :=
  [.connect 1 0, .connect 2 0, .connect 3 0] ++ sendsFrame 1 0 1 31 ++ sendsFrame 3 1 2 33 ++
    closes 1 3 20

theorem joinedHost_fails :
    ¬ ∀ (hub : HubState) (history : List Event) (system : System) (room : RoomState),
      Run hub history system → system.shared.room = some room → room.anonymousMode = false →
        ∀ connId, room.helloSeen connId = true →
          ∃ host, room.hostConnId = some host ∧ room.helloSeen host = true := by
  intro claimed
  obtain ⟨history, system, room, run, found, checks⟩ := Run.of_played_room
    successionHub strandedScript
    (fun _ room => !room.anonymousMode && room.helloSeen 3 &&
      room.hostConnId == some 2 && !room.helloSeen 2) (by decide +kernel)
  simp only [Bool.and_eq_true, Bool.not_eq_true', beq_iff_eq] at checks
  obtain ⟨⟨⟨transparent, joined⟩, hosts⟩, notJoined⟩ := checks
  obtain ⟨host, same, hostJoined⟩ :=
    claimed successionHub history system room run found transparent 3 joined
  rw [hosts] at same
  cases same
  rw [notJoined] at hostJoined
  cases hostJoined

end Kaigi.Hub
