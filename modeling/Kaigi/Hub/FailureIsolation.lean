import Kaigi.Hub.Scripts

/-!
# Failure isolation

A handler fails, apart from frames that cannot be encoded, only right after it
did not find the connection it looked for. So nobody else's departure ends a
session in which every recipient is still there when its turn comes.
-/

set_option autoImplicit false

namespace Kaigi.Hub

open Collections Wire Interleaving Authority

/-- The handler of a frame has failed because somebody was not there. -/
def Phase.FailedMissing (phase : Phase) : Prop :=
  ∃ decoder, phase = .handling decoder (.fail .roomMissing) ∨
    phase = .handling decoder (.fail .participantMissing)

def Operation.isConnect : Operation → Bool
  | .connect _ => true
  | _ => false

/-- From its connecting on, the connection is in the room whenever its handlers
take the lock. -/
def Event.stays (connId : ConnId) (event : Event) : Bool :=
  event.connId != connId || event.op.isConnect || event.before.connections.contains connId

/-- If the event looks a recipient of the connection up, the recipient is there. -/
def Event.findsRecipient (connId : ConnId) (event : Event) : Bool :=
  event.connId != connId ||
    match event.op with
    | .lookup target => event.before.connections.contains target
    | _ => true

theorem HubRoom.not_lacks {state : HubRoom} {connId : ConnId}
    (present : connId ∈ state.connections) : ¬ state.Lacks connId := by
  obtain ⟨room, found, member⟩ := HubRoom.exists_of_mem_connections present
  intro lacks
  have missing := lacks room found
  rw [HashMap.mem_keys, missing] at member
  cases member

/-- A connection that stays in the room, and whose recipients are there when it
sends to them, never fails because somebody is missing. -/
theorem failures_isolated {hub : HubState} {history : List Event} {system : System}
    (run : Run hub history system) {connId : ConnId}
    (stays : ∀ event ∈ history, event.stays connId = true)
    (finds : ∀ event ∈ history, event.findsRecipient connId = true) :
    ∀ connection, system.connections connId = some connection →
      ¬ connection.phase.FailedMissing := by
  rintro connection found ⟨decoder, failed⟩
  have safe := run.safe.phase connId connection found
  have nobody : ∃ event ∈ own connId .connection history, event.FoundNobody := by
    rcases failed with failed | failed
    all_goals
      rw [failed] at safe
      obtain ⟨event, earlier, latest, nobody⟩ := safe
      refine ⟨event, ?_, nobody⟩
      rw [show own connId .connection history = event :: earlier from latest]
      exact List.mem_cons_self
  obtain ⟨event, member, nobody⟩ := nobody
  obtain ⟨happened, same, _⟩ := mem_own.mp member
  have stayed := stays event happened
  have found := finds event happened
  simp only [Event.stays, Event.findsRecipient, same, bne_self_eq_false,
    Bool.false_or] at stayed found
  unfold Event.FoundNobody at nobody
  split at nobody
  · next target op =>
      rw [op] at found
      exact HubRoom.not_lacks (List.contains_iff_mem.mp found) nobody
  · next op =>
      rw [op] at stayed
      exact HubRoom.not_lacks (List.contains_iff_mem.mp stayed) (same ▸ nobody)
  · exact nobody

def failureHub : HubState :=
  scriptedHub [helloAs "alice@sora", helloAs "bob@sora"]

/-- Alice and bob join. -/
def bothJoinScript : List Move :=
  [.connect 1 0, .connect 2 0] ++ sendsFrame 1 0 1 28 ++ sendsFrame 2 1 2 30

theorem failures_isolated_script :
    ∃ history system connection, Run failureHub history system ∧
      system.connections 2 = some connection ∧ ¬ connection.phase.FailedMissing := by
  obtain ⟨history, system, run, checks⟩ := Run.of_played
    failureHub bothJoinScript
    (fun history system => (system.connections 2).isSome &&
      history.all fun event => event.stays 2 && event.findsRecipient 2) (by decide +kernel)
  simp only [Bool.and_eq_true, List.all_eq_true] at checks
  obtain ⟨connection, found⟩ := Option.isSome_iff_exists.mp checks.1
  exact ⟨history, system, connection, run, found,
    failures_isolated run (fun event happened => (checks.2 event happened).1)
      (fun event happened => (checks.2 event happened).2) connection found⟩

/-- Alice leaves after bob's handler took the permissions snapshots, and before
it sends her hers. -/
def leavesBetweenScript : List Move :=
  [.connect 1 0, .connect 2 0] ++ sendsFrame 1 0 1 28 ++ sendsFrame 2 1 2 26 ++ closes 1 3 4 ++
    [.advance 2 4]

def failedMissing (connection : Connection) : Bool :=
  match connection.phase with
  | .handling _ (.fail .participantMissing) => true
  | _ => false

theorem failures_spread :
    ¬ ∀ (hub : HubState) (history : List Event) (system : System) (connId : ConnId),
      Run hub history system → (∀ event ∈ history, event.stays connId = true) →
        ∀ connection, system.connections connId = some connection →
          ¬ connection.phase.FailedMissing := by
  intro claimed
  obtain ⟨history, system, run, checks⟩ := Run.of_played
    failureHub leavesBetweenScript
    (fun history system => (system.connections 2).any failedMissing &&
      history.all fun event => event.stays 2) (by decide +kernel)
  simp only [Bool.and_eq_true, Option.any_eq_true, List.all_eq_true] at checks
  obtain ⟨⟨connection, found, failed⟩, stays⟩ := checks
  refine claimed failureHub history system 2 run stays connection found ?_
  unfold failedMissing at failed
  split at failed
  · next decoder phase => exact ⟨decoder, .inr phase⟩
  · cases failed

end Kaigi.Hub
