import Kaigi.Hub.Scripts

/-!
# Mode separation

A room is transparent or anonymous as a whole, whatever the order in which the
handlers take the lock, and it never turns back from anonymous mode.
-/

set_option autoImplicit false

namespace Kaigi.Hub

open Collections Wire Interleaving Authority

/-- The event leaves an anonymous room anonymous, if it leaves one behind. -/
theorem Lawful.staysAnonymous {hub : HubState} {earlier : List Event} {event : Event}
    {before after : RoomState} (lawful : Lawful hub earlier event)
    (found : event.before.room = some before) (left : (event.after hub).room = some after)
    (anonymous : before.anonymousMode = true) : after.anonymousMode = true := by
  have step := lawful.step left
  rw [HubRoom.opened_of_some found] at step
  exact step.anonymous anonymous

/-- As long as no event removes the room, it stays anonymous. -/
theorem Trace.staysAnonymous {hub : HubState} {later earlier : List Event} {event : Event}
    {before : RoomState} (trace : Trace hub (later ++ event :: earlier))
    (found : event.before.room = some before) (anonymous : before.anonymousMode = true)
    (remains : ∀ current ∈ later ++ [event], (current.after hub).room ≠ none) :
    ∃ room, (sharedAfter hub (later ++ event :: earlier)).room = some room ∧
      room.anonymousMode = true := by
  induction later with
  | nil =>
      obtain ⟨_, _, lawful⟩ := Trace.lawful [] trace
      obtain ⟨after, left⟩ := Option.ne_none_iff_exists'.mp (remains event (by simp))
      exact ⟨after, left, lawful.staysAnonymous found left anonymous⟩
  | cons current rest ih =>
      cases trace with
      | step earlierTrace before lawful =>
          obtain ⟨room, was, anonymousThere⟩ := ih earlierTrace fun other member =>
            remains other (List.mem_cons_of_mem _ member)
          obtain ⟨after, left⟩ := Option.ne_none_iff_exists'.mp (remains current (by simp))
          exact ⟨after, left,
            lawful.staysAnonymous ((congrArg HubRoom.room before).trans was) left anonymousThere⟩

/-- In an anonymous room everybody who has joined is anonymous and has a handle,
in a transparent room nobody who has joined is anonymous, and an anonymous room
stays one until it is removed. -/
theorem modes_separate {hub : HubState} {history : List Event} {system : System}
    (run : Run hub history system) :
    (∀ room, system.shared.room = some room →
      ∀ connId participant, room.participants.get? connId = some participant →
        participant.helloSeen = true →
          (room.anonymousMode = true → participant.anonymousMode = true ∧
            participant.participantHandle.isSome = true) ∧
          (room.anonymousMode = false → participant.anonymousMode = false)) ∧
    ∀ later earlier event before, history = later ++ event :: earlier →
      event.before.room = some before → before.anonymousMode = true →
        (∀ current ∈ later ++ [event], (current.after hub).room ≠ none) →
          ∃ room, system.shared.room = some room ∧ room.anonymousMode = true := by
  constructor
  · intro room found connId participant present joined
    have separated := run.safe.separated room found
    exact ⟨fun mode => separated.anonymous mode connId _ (members_groupOf present) joined,
      fun mode => separated.transparent mode connId _ (members_groupOf present)⟩
  · rintro later earlier event before rfl found anonymous remains
    obtain ⟨trace, shared⟩ := run.trace
    rw [shared]
    exact trace.staysAnonymous found anonymous remains

def anonymousHub : HubState :=
  scriptedHub [
    .anonHello {
      protocolVersion := protocolVersion
      participantHandle := "fox"
      x25519PubkeyHex := "2ab2dd3252b63515919e5a0db9207b1c7395922325c36bb2ef7bc74e4b708119" },
    helloAs "bob@sora"]

/-- A room turns anonymous, and a transparent hello comes too late. -/
def anonymousScript : List Move :=
  [.connect 1 0, .connect 2 0] ++ sendsFrame 1 0 1 14 ++ sendsFrame 2 1 2 8

/-- The last two events found an anonymous room and left one behind. -/
def anonymousCheck (history : List Event) (room : RoomState) : Bool :=
  room.helloSeen 1 && room.anonymousMode &&
    match history with
    | last :: event :: _ => event.before.room.any (·.anonymousMode) &&
        (last.after anonymousHub).room.isSome && (event.after anonymousHub).room.isSome
    | _ => false

theorem modes_separate_script :
    ∃ history system room participant, Run anonymousHub history system ∧
      system.shared.room = some room ∧ room.anonymousMode = true ∧
        room.participants.get? 1 = some participant ∧ participant.helloSeen = true ∧
          participant.anonymousMode = true ∧ participant.participantHandle.isSome = true := by
  obtain ⟨history, system, room, run, found, checks⟩ := Run.of_played_room
    anonymousHub anonymousScript anonymousCheck (by decide +kernel)
  unfold anonymousCheck at checks
  split at checks
  · next last event earlier =>
      simp only [Bool.and_eq_true, Option.any_eq_true, RoomState.helloSeen] at checks
      obtain ⟨⟨⟨participant, present, joined⟩, _⟩, ⟨⟨before, was, anonymous⟩, lastLeft⟩, left⟩ :=
        checks
      obtain ⟨separate, stays⟩ := modes_separate run
      obtain ⟨current, same, mode⟩ := stays [last] earlier event before rfl was anonymous <| by
        simp [← Option.isSome_iff_ne_none, lastLeft, left]
      rw [found] at same
      cases same
      exact ⟨_, system, room, participant, run, found, mode, present, joined,
        (separate room found 1 participant present joined).1 mode⟩
  · simp at checks

end Kaigi.Hub
