import Kaigi.Hub.Ledger
import Kaigi.Hub.Scripts

/-!
# The clocks of the signers

Every kind of signed action has a clock for each signer, which moves on with every
accepted action. The clocks belong to the room: they outlive the connections of the
signer, so that nothing can be accepted twice.
-/

set_option autoImplicit false

namespace Kaigi.Hub

open Collections Wire Interleaving

/-- The room that the earlier events left has not been closed since. -/
def Persists (hub : HubState) (later earlier : List Event) : Prop :=
  ∀ rest, rest <:+ later → (sharedAfter hub (rest ++ earlier)).room ≠ none

theorem Persists.of_cons {hub : HubState} {event : Event} {later earlier : List Event}
    (persists : Persists hub (event :: later) earlier) : Persists hub later earlier :=
  fun rest front => persists rest (front.trans (List.suffix_cons event later))

/-- What holds of a room at one moment and survives every event that leaves a room
behind holds of it as long as it persists. -/
theorem Trace.persisting {hub : HubState} {later earlier : List Event}
    (inv : List Event → RoomState → Prop)
    (start : ∀ room, (sharedAfter hub earlier).room = some room → inv [] room)
    (step : ∀ rest event room after, Lawful hub (rest ++ earlier) event →
      event.before = sharedAfter hub (rest ++ earlier) → event.before.room = some room →
      (event.after hub).room = some after → inv rest room → inv (event :: rest) after)
    (trace : Trace hub (later ++ earlier)) (persists : Persists hub later earlier)
    {room : RoomState} (found : (sharedAfter hub (later ++ earlier)).room = some room) :
    inv later room := by
  induction later generalizing room with
  | nil => exact start room found
  | cons event rest ih =>
      rw [List.cons_append] at trace found
      cases trace with
      | step past same lawful =>
          obtain ⟨before, was⟩ :=
            Option.ne_none_iff_exists'.mp (persists.of_cons rest (List.suffix_refl rest))
          exact step rest event before room lawful same (same ▸ was) found
            (ih past persists.of_cons was)

/-- The clock of a signer for one kind of action. -/
def RoomState.clock (room : RoomState) (kind : ActionKind) (signer : String) : Option Nat :=
  room.signedActionClockBySigner.get? (signedActionClockKey kind.tag signer)

/-- An accepted action is newer than its clock, and the clock moves on to it. -/
theorem Event.accepted_clock {hub : HubState} {event : Event} {action : SignedAction}
    {room after : RoomState} (accepted : event.accepted hub = some action)
    (found : event.before.room = some room) (left : (event.after hub).room = some after) :
    1 ≤ action.timestampMs ∧
      (∀ last, room.clock action.kind action.signer = some last → last < action.timestampMs) ∧
        after.clock action.kind action.signer = some action.timestampMs := by
  have step := Event.ledgerStep left
  rw [accepted, HubRoom.opened_of_some found] at step
  obtain ⟨refused, _⟩ | ⟨other, same, _, fresh, clocks⟩ := step.clocks
  · cases refused
  · cases same.resolve_left nofun
    refine ⟨fresh.1, fresh.2, ?_⟩
    rw [RoomState.clock, clocks]
    simp [SignedAction.key]

/-- An event leaves every clock alone but the one it may move. -/
theorem Event.other_clock {hub : HubState} {event : Event} {room after : RoomState}
    (found : event.before.room = some room) (left : (event.after hub).room = some after)
    {kind : ActionKind} {signer : String}
    (other : event.op.clock event.connId room ≠ some (kind, signer)) :
    after.clock kind signer = room.clock kind signer := by
  have step := Event.ledgerStep left
  rw [HubRoom.opened_of_some found] at step
  obtain ⟨_, clocks⟩ | ⟨action, _, moves, _, clocks⟩ := step.clocks
  · exact congrArg (HashMap.get? · _) clocks
  · rw [RoomState.clock, clocks, HashMap.get?_put, if_neg]
    · rfl
    · intro same
      obtain ⟨rfl, rfl⟩ := signedActionClockKey_inj same
      exact other moves

/-- No clock goes back while the room persists. -/
theorem Trace.clock_grows {hub : HubState} {later earlier : List Event}
    (trace : Trace hub (later ++ earlier)) (persists : Persists hub later earlier)
    {kind : ActionKind} {signer : String} {told : Nat} {first second : RoomState}
    (was : (sharedAfter hub earlier).room = some first)
    (found : (sharedAfter hub (later ++ earlier)).room = some second)
    (seen : first.clock kind signer = some told) :
    ∃ last, second.clock kind signer = some last ∧ told ≤ last := by
  refine Trace.persisting (fun _ room => ∃ last, room.clock kind signer = some last ∧ told ≤ last)
    ?_ ?_ trace persists found
  · intro room same
    rw [was] at same
    cases same
    exact ⟨told, seen, Nat.le_refl told⟩
  · rintro rest event room after _ _ before left ⟨last, current, grown⟩
    by_cases other : event.op.clock event.connId room = some (kind, signer)
    · have step := Event.ledgerStep left
      rw [HubRoom.opened_of_some before] at step
      obtain ⟨_, clocks⟩ | ⟨action, _, moves, fresh, clocks⟩ := step.clocks
      · exact ⟨last, (congrArg (HashMap.get? · _) clocks).trans current, grown⟩
      · rw [other] at moves
        cases moves
        refine ⟨action.timestampMs, ?_, grown.trans (fresh.2 last current).le⟩
        rw [RoomState.clock, clocks]
        simp [SignedAction.key]
    · exact ⟨last, (Event.other_clock before left other).trans current, grown⟩

/-- Whoever gets an action accepted finds a room and leaves it behind. -/
theorem Event.accepted_room {hub : HubState} {event : Event} {action : SignedAction}
    (accepted : event.accepted hub = some action) :
    ∃ room after, event.before.room = some room ∧ (event.after hub).room = some after := by
  obtain ⟨room, found, accepts⟩ := Option.bind_eq_some_iff.mp accepted
  obtain ⟨actor, task, op, state⟩ := event
  have kept : state.room.map (op.updateRoom hub actor) = some (op.updateRoom hub actor room) :=
    Option.map_eq_some_iff.mpr ⟨room, found, rfl⟩
  refine ⟨room, op.updateRoom hub actor room, found, ?_⟩
  cases op with
  | roleGrant | roleRevoke | sessionPolicy | moderation | e2eeKeyEpoch | keyRotationAck =>
      exact kept
  | _ => cases accepts

/-- The accepted actions of one kind and signer grow older than none of their
predecessors, in every room for as long as it persists. -/
theorem Trace.actions_increase {hub : HubState} {middle older : List Event}
    {first second : Event} {action later : SignedAction}
    (trace : Trace hub (second :: (middle ++ first :: older)))
    (persists : Persists hub middle (first :: older))
    (accepted : first.accepted hub = some action) (acceptedLater : second.accepted hub = some later)
    (kinds : action.kind = later.kind) (signers : action.signer = later.signer) :
    action.timestampMs < later.timestampMs := by
  obtain ⟨room, told, found, left⟩ := Event.accepted_room accepted
  obtain ⟨tells, after, foundLater, leftLater⟩ := Event.accepted_room acceptedLater
  cases trace with
  | step past same _ =>
      obtain ⟨_, _, seen⟩ := Event.accepted_clock accepted found left
      obtain ⟨last, current, grown⟩ :=
        past.clock_grows persists left (same ▸ foundLater) seen
      rw [kinds, signers] at current
      obtain ⟨_, newer, _⟩ := Event.accepted_clock acceptedLater foundLater leftLater
      exact Nat.lt_of_le_of_lt grown (newer last current)

/-- The accepted actions of one kind and signer have positive timestamps that strictly
increase while the room persists, so no action is accepted twice; and an event moves
no clock but that of its own kind and signer. -/
theorem signedActions_increase {hub : HubState} {history : List Event} {system : System}
    (run : Run hub history system) :
    (∀ event ∈ history, ∀ action, event.accepted hub = some action → 1 ≤ action.timestampMs) ∧
    (∀ newer middle older first second action later,
      history = newer ++ second :: (middle ++ first :: older) →
      Persists hub middle (first :: older) →
      first.accepted hub = some action → second.accepted hub = some later →
        action ≠ later ∧ (action.kind = later.kind → action.signer = later.signer →
          action.timestampMs < later.timestampMs)) ∧
    ∀ event ∈ history, ∀ room after kind signer, event.before.room = some room →
      (event.after hub).room = some after →
      event.op.clock event.connId room ≠ some (kind, signer) →
        after.clock kind signer = room.clock kind signer := by
  refine ⟨fun event _ action accepted => ?_, ?_, fun event _ room after kind signer found left
    other => Event.other_clock found left other⟩
  · obtain ⟨room, after, found, left⟩ := Event.accepted_room accepted
    exact (Event.accepted_clock accepted found left).1
  · rintro newer middle older first second action later rfl persists accepted acceptedLater
    have increase := (run.trace.1.suffix newer).actions_increase persists accepted acceptedLater
    refine ⟨?_, increase⟩
    rintro rfl
    exact absurd (increase rfl rfl) (Nat.lt_irrefl _)

/-- The host alice mutes everybody. -/
def muteAll (sentAtMs : Nat) : KaigiFrame :=
  .moderation { sentAtMs := sentAtMs, target := .all, action := .disableMic }

def clocksHub : HubState :=
  scriptedHub [helloAs "alice@sora", helloAs "bob@sora", muteAll 1, muteAll 2]

/-- Alice mutes everybody, leaves, comes back on connection 3 and does it again. -/
def clocksScript : List Move :=
  [.connect 1 0, .connect 2 0] ++ sendsFrame 1 0 1 28 ++ sendsFrame 2 1 2 30 ++
    sendsFrame 1 2 3 13 ++ closes 1 4 17 ++ [.connect 3 5] ++ sendsFrame 3 0 5 30 ++
    sendsFrame 3 3 6 13

theorem Persists.of_after {hub : HubState} {later older : List Event} {first : Event}
    (start : (first.after hub).room.isSome = true)
    (stays : ∀ event ∈ later, (event.after hub).room.isSome = true) :
    Persists hub later (first :: older) := by
  intro rest front
  cases rest with
  | nil => exact Option.isSome_iff_ne_none.mp start
  | cons event rest =>
      exact Option.isSome_iff_ne_none.mp (stays event (front.subset List.mem_cons_self))

/-- Both actions of alice are accepted, and the room persists in between. -/
def clocksCheck (history : List Event) : Bool :=
  match history.drop 6 with
  | [] => false
  | second :: rest =>
      match rest.drop 42 with
      | [] => false
      | first :: _ =>
          first.connId == 1 && second.connId == 3 &&
            first.accepted clocksHub == some ⟨.moderation, "alice@sora", 1⟩ &&
            second.accepted clocksHub == some ⟨.moderation, "alice@sora", 2⟩ &&
            (first.after clocksHub).room.isSome &&
            (rest.take 42).all fun event => (event.after clocksHub).room.isSome

theorem signedActions_increase_script :
    ∃ (history : List Event) (system : System) (first second : Event)
      (action later : SignedAction), Run clocksHub history system ∧ first ∈ history ∧
        second ∈ history ∧ first.connId = 1 ∧ second.connId = 3 ∧
        first.accepted clocksHub = some action ∧ second.accepted clocksHub = some later ∧
        action.signer = later.signer ∧ 1 ≤ action.timestampMs ∧
        action.timestampMs < later.timestampMs := by
  obtain ⟨history, system, run, checks⟩ := Run.of_played clocksHub clocksScript
    (fun history _ => clocksCheck history) (by decide +kernel)
  unfold clocksCheck at checks
  split at checks
  · cases checks
  · next second rest afterSecond =>
      split at checks
      · cases checks
      · next first older afterFirst =>
          simp only [Bool.and_eq_true, beq_iff_eq, List.all_eq_true] at checks
          obtain ⟨⟨⟨⟨⟨alice, again⟩, accepted⟩, acceptedLater⟩, start⟩, stays⟩ := checks
          have split : history =
              history.take 6 ++ second :: (rest.take 42 ++ first :: older) := by
            rw [← afterFirst, List.take_append_drop, ← afterSecond, List.take_append_drop]
          have among : first ∈ history ∧ second ∈ history := by
            rw [split]
            simp
          obtain ⟨positive, increase, _⟩ := signedActions_increase run
          obtain ⟨_, newer⟩ := increase _ _ _ _ _ _ _ split (.of_after start stays) accepted
            acceptedLater
          exact ⟨history, system, first, second, _, _, run, among.1, among.2, alice, again,
            accepted, acceptedLater, rfl, positive first among.1 _ accepted, newer rfl rfl⟩

end Kaigi.Hub
