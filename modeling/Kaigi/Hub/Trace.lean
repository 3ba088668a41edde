import Kaigi.Hub.Runs

/-!
# Traces

The history of a run determines the shared state: every event found what the
event before it left. So what holds of the rooms of a run is proved by induction
on its history.
-/

set_option autoImplicit false

namespace Kaigi.Hub

open Collections Wire Interleaving Authority

/-- The shared state that a history leaves. -/
def sharedAfter (hub : HubState) : List Event → HubRoom
  | [] => System.initial.shared
  | event :: _ => event.after hub

inductive Trace (hub : HubState) : List Event → Prop where
  | start : Trace hub []
  | step {earlier : List Event} {event : Event} :
      Trace hub earlier → event.before = sharedAfter hub earlier → Lawful hub earlier event →
      Trace hub (event :: earlier)

/-- Apart from its operation a move leaves the shared state alone. -/
theorem System.moved_shared {hub : HubState} {system moved : System} {move : Move}
    (possible : system.moved hub move = some moved) : moved.shared = system.shared := by
  cases System.moved_cases possible <;> rfl

/-- Every run is a trace that leaves its shared state. -/
theorem Run.trace {hub : HubState} {history : List Event} {system : System}
    (run : Run hub history system) :
    Trace hub history ∧ system.shared = sharedAfter hub history := by
  refine Machine.Run.invariant (fun history system =>
    Trace hub history ∧ system.shared = sharedAfter hub history) ⟨.start, rfl⟩ ?_ run
  intro history system move next earlier ⟨trace, shared⟩ stepped
  have safeStep := (Run.safe earlier).step stepped
  obtain ⟨moved, possible, rfl⟩ := Option.map_eq_some_iff.mp stepped
  change Trace hub ((system.event move).toList ++ history) ∧
    (moved.perform hub (system.event move)).shared =
      sharedAfter hub ((system.event move).toList ++ history)
  cases made : system.event move with
  | none => exact ⟨trace, (System.moved_shared possible).trans shared⟩
  | some event =>
      have before := safeStep.before event made
      refine ⟨.step trace (before.trans shared) (safeStep.lawful event made), ?_⟩
      change event.op.apply hub event.connId moved.shared = event.after hub
      rw [System.moved_shared possible, ← before]
      rfl

theorem System.moved_connections {hub : HubState} {system moved : System} {move : Move}
    {connId : ConnId} (possible : system.moved hub move = some moved)
    (known : moved.connections connId ≠ none) : system.connections connId ≠ none ∨
      ∃ connectedAtMs, move = .connect connId connectedAtMs := by
  have set : ∀ {other : ConnId} {connection current : Connection},
      system.connections other = some connection →
      (system.setConnection other current).connections connId ≠ none →
        system.connections connId ≠ none := by
    intro other connection current found known
    by_cases same : connId = other
    · subst same
      simp [found]
    · simpa [System.setConnection, same] using known
  cases System.moved_cases possible with
  | @connected other connectedAtMs =>
      by_cases same : connId = other
      · exact .inr ⟨connectedAtMs, by rw [same]⟩
      · exact .inl (by simpa [System.setConnection, same] using known)
  | received found | advanced found | writerEnded found | ticked found | billed found =>
      exact .inl (set found known)
  | delivered | writerStopped | reordered => exact .inl known

/-- Every known connection has connected. -/
theorem Run.connected {hub : HubState} {history : List Event} {system : System}
    (run : Run hub history system) {connId : ConnId} (known : system.connections connId ≠ none) :
    Connected history connId := by
  refine Machine.Run.invariant (fun history system =>
    ∀ connId, system.connections connId ≠ none → Connected history connId)
      (fun _ known => absurd rfl known) ?_ run connId known
  intro history system move next _ ih stepped connId known
  obtain ⟨moved, possible, rfl⟩ := Option.map_eq_some_iff.mp stepped
  have before : moved.connections connId ≠ none := by
    cases made : system.event move <;> simpa [made, System.perform] using known
  rcases System.moved_connections possible before with was | ⟨connectedAtMs, rfl⟩
  · obtain ⟨event, member, connects⟩ := ih connId was
    exact ⟨event, List.mem_append_right _ member, connects⟩
  · exact ⟨⟨connId, .connection, .connect connectedAtMs, system.shared⟩, List.mem_cons_self, rfl,
      connectedAtMs, rfl⟩

theorem Trace.suffix {hub : HubState} (later : List Event) {earlier : List Event}
    (trace : Trace hub (later ++ earlier)) : Trace hub earlier := by
  induction later with
  | nil => exact trace
  | cons event rest ih =>
      cases trace with
      | step before _ _ => exact ih before

theorem Trace.lawful {hub : HubState} (later : List Event) {earlier : List Event} {event : Event}
    (trace : Trace hub (later ++ event :: earlier)) :
    Trace hub earlier ∧ event.before = sharedAfter hub earlier ∧ Lawful hub earlier event := by
  cases trace.suffix later with
  | step earlier before lawful => exact ⟨earlier, before, lawful⟩

/-- An event of a run, with what was lawful about it when it happened. -/
theorem Run.lawful {hub : HubState} {history : List Event} {system : System} {event : Event}
    (run : Run hub history system) (happened : event ∈ history) :
    ∃ earlier, Trace hub earlier ∧ event.before = sharedAfter hub earlier ∧
      Lawful hub earlier event := by
  obtain ⟨later, earlier, rfl⟩ := List.append_of_mem happened
  exact ⟨earlier, run.trace.1.lawful⟩

/-- The latest fan-out of a history is one of its events. -/
theorem lastFanout_mem {events : List Event} {frame : KaigiFrame} {taken : HubRoom}
    (latest : lastFanout events = some (frame, taken)) :
    ∃ event ∈ events, event.op = .fanout frame ∧ event.before = taken := by
  induction events with
  | nil => cases latest
  | cons event earlier ih =>
      unfold lastFanout at latest
      split at latest
      · next fanned fans =>
          cases latest
          refine ⟨event, List.mem_cons_self, ?_, rfl⟩
          unfold Operation.fansOut at fans
          split at fans
          · next op =>
              cases fans
              exact op
          · cases fans
      · obtain ⟨past, member, fans⟩ := ih latest
        exact ⟨past, List.mem_cons_of_mem _ member, fans⟩

/-- Only connection tasks fan out. -/
theorem Lawful.fanout {hub : HubState} {earlier : List Event} {event : Event} {frame : KaigiFrame}
    (lawful : Lawful hub earlier event) (fans : event.op = .fanout frame) :
    event.task = .connection :=
  lawful.ownTask (by rw [fans]; rfl)

/-- Room content is sent by connection tasks. -/
theorem Trace.delivers {hub : HubState} {earlier : List Event} {event : Event} {target : ConnId}
    {frame : KaigiFrame} (trace : Trace hub (event :: earlier))
    (delivers : event.op.delivers = some (target, frame)) : event.task = .connection := by
  cases trace with
  | step past _ lawful =>
      obtain ⟨taken, latest, _⟩ := lawful.delivered target frame delivers
      obtain ⟨fan, member, fans, _⟩ := lastFanout_mem latest
      obtain ⟨happened, _, task⟩ := mem_own.mp member
      obtain ⟨newer, older, rfl⟩ := List.append_of_mem happened
      rw [← task]
      exact past.lawful.2.2.fanout fans

/-- Whoever is in the room has connected. -/
theorem Trace.connected {hub : HubState} {history : List Event} (trace : Trace hub history)
    {connId : ConnId} (present : connId ∈ (sharedAfter hub history).connections) :
    Connected history connId := by
  induction trace with
  | start => cases present
  | @step earlier event _ before lawful ih =>
      obtain ⟨room, left, member⟩ := HubRoom.exists_of_mem_connections present
      rcases lawful.keys left member with stays | ⟨same, connects⟩
      · obtain ⟨past, member, known⟩ := ih (before ▸ stays)
        exact ⟨past, List.mem_cons_of_mem _ member, known⟩
      · exact ⟨event, List.mem_cons_self, same, connects⟩

/-- A history tells nothing about a connection before the connection is there, if events that do
not find it in the room tell nothing about it. -/
theorem Trace.untold {hub : HubState} {history : List Event} (trace : Trace hub history)
    {connId : ConnId} (nothing : List Event → Prop) (start : nothing [])
    (absent : ∀ event earlier, connId ∉ event.before.connections → nothing earlier →
      nothing (event :: earlier))
    (unknown : ¬ Connected history connId) : nothing history := by
  induction trace with
  | start => exact start
  | @step earlier event past before lawful ih =>
      have earlierUnknown : ¬ Connected earlier connId := fun ⟨other, member, connects⟩ =>
        unknown ⟨other, List.mem_cons_of_mem _ member, connects⟩
      refine absent event earlier (fun present => ?_) (ih earlierUnknown)
      exact earlierUnknown (past.connected (before ▸ present))

/-- A connection that was in the room before and is there after an event did not
leave and come back: it was in the room all the time. -/
theorem Trace.stayed {hub : HubState} {rest earlier : List Event} {event : Event}
    (trace : Trace hub (event :: (rest ++ earlier))) {connId : ConnId}
    (was : connId ∈ (sharedAfter hub earlier).connections)
    (present : connId ∈ (sharedAfter hub (event :: (rest ++ earlier))).connections) :
    connId ∈ event.before.connections := by
  cases trace with
  | step known before lawful =>
      obtain ⟨room, left, member⟩ := HubRoom.exists_of_mem_connections present
      rcases lawful.keys left member with stays | ⟨rfl, connectedAtMs, connects⟩
      · exact stays
      · obtain ⟨past, member, same⟩ := (known.suffix rest).connected was
        exact absurd ⟨past, List.mem_append_right _ member, same⟩
          (lawful.once connectedAtMs connects).1

/-- It was in the room at every moment in between. -/
theorem Trace.stayed_throughout {hub : HubState} {newer middle earlier : List Event}
    (trace : Trace hub (newer ++ (middle ++ earlier))) {connId : ConnId}
    (was : connId ∈ (sharedAfter hub earlier).connections)
    (present : connId ∈ (sharedAfter hub (newer ++ (middle ++ earlier))).connections) :
    connId ∈ (sharedAfter hub (middle ++ earlier)).connections := by
  induction newer with
  | nil => exact present
  | cons event rest ih =>
      rw [List.cons_append, ← List.append_assoc] at trace present
      have before := trace.stayed was present
      cases trace with
      | step past same _ =>
          rw [List.append_assoc] at past same
          rw [same] at before
          exact ih past before

/-- What holds of a participant at one moment of a trace and survives every event
holds of it as long as it stays. -/
theorem Trace.staying {hub : HubState} {later earlier : List Event}
    (inv : List Event → RoomState → ParticipantState → Prop) {connId : ConnId}
    (start : ∀ room participant, (sharedAfter hub earlier).room = some room →
      room.participants.get? connId = some participant → inv [] room participant)
    (step : ∀ rest event room after old new, Trace hub (rest ++ earlier) →
      Lawful hub (rest ++ earlier) event → event.before = sharedAfter hub (rest ++ earlier) →
      event.before.room = some room → room.participants.get? connId = some old →
      (event.after hub).room = some after → after.participants.get? connId = some new →
      inv rest room old → inv (event :: rest) after new)
    (trace : Trace hub (later ++ earlier)) {first second : RoomState} {new : ParticipantState}
    (was : (sharedAfter hub earlier).room = some first)
    (present : first.participants.get? connId ≠ none)
    (found : (sharedAfter hub (later ++ earlier)).room = some second)
    (stays : second.participants.get? connId = some new) : inv later second new := by
  induction later generalizing second new with
  | nil => exact start second new found stays
  | cons event rest ih =>
      rw [List.cons_append] at trace found
      have stayed : connId ∈ event.before.connections := by
        refine trace.stayed ?_ ?_
        · rw [HubRoom.connections_of_some was, HashMap.mem_keys]
          exact Option.isSome_iff_ne_none.mpr present
        · rw [HubRoom.connections_of_some found, HashMap.mem_keys, stays]
          rfl
      obtain ⟨room, before, member⟩ := HubRoom.exists_of_mem_connections stayed
      obtain ⟨old, known⟩ := Option.isSome_iff_exists.mp (HashMap.mem_keys.mp member)
      cases trace with
      | step past same lawful =>
          exact step rest event room second old new past lawful same before known found stays
            (ih past (same ▸ before) known)

/-- The room of a history; before a connection opens one it is the empty room. -/
def roomAfter (hub : HubState) (history : List Event) : RoomState :=
  (sharedAfter hub history).opened hub

theorem roomAfter_of_some {hub : HubState} {history : List Event} {room : RoomState}
    (found : (sharedAfter hub history).room = some room) : roomAfter hub history = room :=
  HubRoom.opened_of_some found

theorem roomAfter_eq {hub : HubState} {history : List Event} {system : System} {room : RoomState}
    (run : Run hub history system) (found : system.shared.room = some room) :
    roomAfter hub history = room := by
  rw [run.trace.2] at found
  exact roomAfter_of_some found

/-- The modes are apart in every room of a trace. -/
theorem Trace.separated {hub : HubState} {history : List Event} (trace : Trace hub history) :
    (sharedAfter hub history).Separated := by
  induction trace with
  | start =>
      intro room found
      cases found
  | step _ before lawful ih => exact lawful.separated (before ▸ ih)

/-- What holds of an empty room and survives every event that leaves a room
behind holds of the room of every trace. -/
theorem Trace.room {hub : HubState} (inv : List Event → RoomState → Prop)
    (opened : ∀ history, inv history (emptyRoom hub))
    (step : ∀ earlier event after, Trace hub earlier → Lawful hub earlier event →
      event.before = sharedAfter hub earlier → inv earlier (event.before.opened hub) →
      (event.after hub).room = some after → inv (event :: earlier) after)
    {history : List Event} (trace : Trace hub history) : inv history (roomAfter hub history) := by
  induction trace with
  | start => exact opened []
  | @step earlier event before same lawful ih =>
      unfold roomAfter HubRoom.opened
      cases left : (sharedAfter hub (event :: earlier)).room with
      | none => exact opened _
      | some after =>
          refine step earlier event after before lawful same ?_ left
          rw [same]
          exact ih

/-- The step that an event is for the group of its room. -/
theorem Lawful.step {hub : HubState} {earlier : List Event} {event : Event} {after : RoomState}
    (lawful : Lawful hub earlier event) (left : (event.after hub).room = some after) :
    Step u64Max (event.op.action (event.before.opened hub) event.connId)
      (groupOf (event.before.opened hub)) (groupOf after) :=
  apply_step lawful.fresh left

theorem Operation.leaves {op : Operation} {room : RoomState} {actor connId : ConnId}
    (leaves : op.action room actor = .leave connId) : op.isDisconnect = true ∧ actor = connId := by
  have requests := op.requests room actor
  rw [leaves] at requests
  cases requests
  exact ⟨rfl, rfl⟩

theorem orderly_emptyRoom (hub : HubState) : Orderly (groupOf (emptyRoom hub)) := by
  have nobody : ∀ connId, (groupOf (emptyRoom hub)).members connId = none := fun _ => by
    simp [groupOf, emptyRoom]
  refine ⟨?_, ?_, ?_, ?_, ?_⟩
  · intro connId member found
    rw [nobody] at found
    cases found
  · rintro connId other id ⟨member, found, _⟩
    rw [nobody] at found
    cases found
  · ext connId
    constructor
    · intro bound
      simp [groupOf, emptyRoom] at bound
    · rintro ⟨_, member, found, _⟩
      rw [nobody] at found
      cases found
  · intro connId member found
    rw [nobody] at found
    cases found
  · rintro connId ⟨member, found, _⟩
    rw [nobody] at found
    cases found

/-- Every room of a trace is a group that can be reached by allowed steps, if
its events are allowed. -/
theorem Trace.reachable {hub : HubState} {history : List Event} (trace : Trace hub history)
    (allowed : Action ConnId String → Group ConnId String → Group ConnId String → Prop)
    (every : ∀ event ∈ history, ∀ after, (event.after hub).room = some after →
      allowed (event.op.action (event.before.opened hub) event.connId)
        (groupOf (event.before.opened hub)) (groupOf after)) :
    Reachable u64Max (groupOf (emptyRoom hub)) allowed (groupOf (roomAfter hub history)) := by
  refine Trace.room (fun past room => (∀ event ∈ past, event ∈ history) →
    Reachable u64Max (groupOf (emptyRoom hub)) allowed (groupOf room)) (fun _ _ => .start) ?_ trace
    (fun _ member => member)
  intro earlier event after _ lawful _ ih left among
  refine .step (ih fun current member => among current (List.mem_cons_of_mem _ member)) ?_
    (lawful.step left)
  exact every event (among event List.mem_cons_self) after left

/-- The room of a transparent trace is orderly. -/
theorem Trace.orderly_roomAfter {hub : HubState} {history : List Event}
    (trace : Trace hub history) (transparent : (roomAfter hub history).anonymousMode = false) :
    Orderly (groupOf (roomAfter hub history)) := by
  have reachable := trace.reachable (fun _ _ _ => True) fun _ _ _ _ => trivial
  exact reachable.orderly (orderly_emptyRoom hub) transparent

theorem Trace.orderly {hub : HubState} {history : List Event} (trace : Trace hub history)
    {room : RoomState} (found : (sharedAfter hub history).room = some room)
    (transparent : room.anonymousMode = false) : Orderly (groupOf room) := by
  have orderly := trace.orderly_roomAfter
  rw [roomAfter_of_some found] at orderly
  exact orderly transparent

end Kaigi.Hub
