import Kaigi.Hub.Edits
import Kaigi.Hub.Scripts
import Kaigi.Hub.TaskProtocol

/-!
# Cleanup

`handle_disconnect` takes a connection out of everything the room keeps, and
nothing brings it back. So a connection that reaches it leaves nothing behind,
except that an anonymous room keeps its host.
-/

set_option autoImplicit false

namespace Kaigi.Hub

open Collections Wire Interleaving Authority

/-- What a connection can still do while it leaves, and what is done for it. -/
def Operation.isBackground : Operation → Bool
  | .disconnect _ _ | .billing _ | .read | .lookup _ | .fanout _ | .backpressure _ _
  | .trySend _ _ | .groupKeyRotate _ | .reorder _ _ | .takeMessage | .closeChannel => true
  | _ => false

/-- No map of the room has an entry for the connection. -/
def Erased (room : RoomState) (connId : ConnId) : Prop :=
  room.participants.get? connId = none ∧ room.e2eeEpochs.get? connId = none ∧
    room.keyRotationAckEpochs.get? connId = none ∧ room.deviceCapsByConn.get? connId = none

section Erased

variable {hub : HubState} {room : RoomState} {connId actor : ConnId}

theorem Erased.updateParticipant (erased : Erased room connId) (other : ConnId)
    (update : ParticipantState → ParticipantState) :
    Erased (room.updateParticipant other update) connId := by
  refine ⟨?_, erased.2⟩
  simp only [RoomState.updateParticipant, HashMap.get?_modify]
  split
  · rw [Option.map_eq_none_iff]
    exact erased.1
  · exact erased.1

theorem Erased.fields {after : RoomState} (erased : Erased room connId)
    (participants : ∀ other, after.participants.get? other = room.participants.get? other)
    (epochs : after.e2eeEpochs = room.e2eeEpochs)
    (acks : after.keyRotationAckEpochs = room.keyRotationAckEpochs)
    (caps : after.deviceCapsByConn = room.deviceCapsByConn) : Erased after connId := by
  unfold Erased
  rw [participants, epochs, acks, caps]
  exact erased

theorem Erased.removeConnection (erased : Erased room connId) (other : ConnId) :
    Erased (removeConnection room other) connId := by
  obtain ⟨absent, epoch, ack, caps⟩ := erased
  refine ⟨?_, ?_, ?_, caps⟩
  all_goals
    simp only [Hub.removeConnection, HashMap.get?_remove]
    split
    · rfl
    · assumption

/-- Nobody else brings the connection back. -/
theorem erased_survives {start : RoomState} {op : Operation} (other : actor ≠ connId) :
    SurvivesEdits start actor op fun room => Erased room connId where
  fields erased participants epochs acks caps _ := erased.fields participants epochs acks caps
  rewritten erased _ := erased.updateParticipant _ _
  removed target erased := erased.removeConnection target
  keyed {room entered epochs} erased present same := by
    have different : connId ≠ entered := by
      rintro rfl
      exact present.elim (fun same => other same.symm) fun present => present erased.1
    refine ⟨erased.1, ?_, erased.2.2⟩
    rw [same connId different]
    exact erased.2.1
  acknowledged epoch erased := by
    refine ⟨erased.1, erased.2.1, ?_, erased.2.2.2⟩
    simp [Ne.symm other, erased.2.2.1]
  capable cap erased := by
    refine ⟨erased.1, erased.2.1, erased.2.2.1, ?_⟩
    simp [Ne.symm other, erased.2.2.2]

theorem Erased.billingSection (erased : Erased room connId) (nowMs : Nat) :
    Erased (billingSection hub room actor nowMs).1 connId := by
  unfold Hub.billingSection
  split
  · exact erased
  · next participant found =>
      dsimp only
      by_cases skipped : ((room.anonymousMode || participant.anonymousMode) &&
          (if room.anonymousMode || participant.anonymousMode then
            escrowDisconnectMessage hub.billing participant nowMs else none).isNone) = true
      · rw [if_pos skipped]
        exact erased
      · rw [if_neg skipped]
        exact erased.updateParticipant actor _

theorem Erased.paymentSection (erased : Erased room connId) (payment : PaymentFrame)
    (nowMs : Nat) : Erased (paymentSection hub room actor payment nowMs).1 connId := by
  unfold Hub.paymentSection
  split
  · exact erased
  · split
    · exact erased.updateParticipant actor _
    · dsimp only
      split <;> exact erased.updateParticipant actor _

theorem Erased.roomConfigUpdateSection (erased : Erased room connId)
    (update : RoomConfigUpdateFrame) (nowMs : Nat) :
    Erased (roomConfigUpdateSection hub room actor update nowMs).1 connId := by
  unfold Hub.roomConfigUpdateSection
  split
  · exact erased
  · split
    · exact erased
    · split
      · exact erased
      · refine ⟨?_, erased.2⟩
        simp [erased.1]

theorem Erased.announceAnonHello (erased : Erased room connId) {hello : AnonHelloFrame}
    {nowMs rosterAtMs : Nat} {enter : RoomState → RoomState}
    (enters : ∀ room', Erased room' connId → Erased (enter room') connId) :
    Erased (announceAnonHello hub room actor hello nowMs rosterAtMs enter).1 connId := by
  unfold Hub.announceAnonHello
  split
  · exact erased
  · split
    · exact erased
    · exact enters _ (erased.updateParticipant actor _)

theorem Erased.anonHelloSection (erased : Erased room connId) (hello : AnonHelloFrame)
    (nowMs rosterAtMs : Nat) :
    Erased (anonHelloSection hub room actor hello nowMs rosterAtMs).1 connId := by
  unfold Hub.anonHelloSection
  split
  · exact erased
  · split
    · exact erased
    · split
      · split
        · exact erased
        · split
          · exact erased
          · exact erased.announceAnonHello fun _ same => same
      · exact erased.announceAnonHello fun _ same => same

theorem Erased.updateRoom {op : Operation} (erased : Erased room connId)
    (other : actor ≠ connId ∨ op.isBackground = true) :
    Erased (op.updateRoom hub actor room) connId := by
  rcases other with other | background
  · cases op with
    | billing nowMs => exact erased.billingSection nowMs
    | payment frame nowMs => exact erased.paymentSection frame nowMs
    | roomConfigUpdate update nowMs => exact erased.roomConfigUpdateSection update nowMs
    | anonHello frame nowMs rosterAtMs => exact erased.anonHelloSection frame nowMs rosterAtMs
    | _ => exact (erased_survives other).updateRoom rfl erased
  · cases op with
    | billing nowMs => exact erased.billingSection nowMs
    | disconnect | read | lookup | fanout | trySend | takeMessage | closeChannel => exact erased
    | backpressure dropped nowMs =>
        unfold Operation.updateRoom backpressureSection
        dsimp only
        split <;> exact erased.fields (fun _ => rfl) rfl rfl rfl
    | groupKeyRotate => exact erased.fields (fun _ => rfl) rfl rfl rfl
    | reorder participants coHosts =>
        refine erased.fields (fun other => ?_) rfl rfl rfl
        simp [Operation.updateRoom]
    | _ => cases background

/-- Somebody else's leaving does not bring the connection back, and its own takes
it out. -/
theorem Erased.disconnectSection {deltaAtMs leftAtMs : Nat} {after : RoomState}
    (erased : actor = connId ∨ Erased room connId)
    (left : (disconnectSection room actor deltaAtMs leftAtMs).1 = some after) :
    Erased after connId := by
  have removed : Erased (Hub.removeConnection
      { room with deviceCapsByConn := room.deviceCapsByConn.remove actor } actor) connId := by
    rcases erased with rfl | erased
    · refine ⟨?_, ?_, ?_, ?_⟩ <;> simp [Hub.removeConnection]
    · have uncapped : Erased
          { room with deviceCapsByConn := room.deviceCapsByConn.remove actor } connId := by
        refine ⟨erased.1, erased.2.1, erased.2.2.1, ?_⟩
        simp only [HashMap.get?_remove]
        split
        · rfl
        · exact erased.2.2.2
      exact uncapped.removeConnection actor
  have survives : SurvivesEdits room (connId + 1) (.disconnect deltaAtMs leftAtMs)
      fun room => Erased room connId := erased_survives (Nat.succ_ne_self connId)
  exact survives.disconnectSection removed left

end Erased

/-- Whoever leaves is unknown afterwards, except as the host of an anonymous room. -/
theorem disconnectSection_unknown {room after : RoomState} {connId : ConnId}
    {deltaAtMs leftAtMs : Nat}
    (left : (disconnectSection room connId deltaAtMs leftAtMs).1 = some after)
    (current : room.anonymousMode = true → room.hostConnId ≠ some connId) :
    (groupOf after).Unknown connId := by
  rcases groupOf_disconnectSection left with
    ⟨notHost, view⟩ | ⟨_, _, successor, epoch, succession, view, _⟩
  · rw [view]
    refine ⟨by simp, fun hosts => ?_, by simp⟩
    cases mode : room.anonymousMode with
    | true => exact current mode hosts
    | false => exact notHost ⟨mode, hosts⟩
  · rw [view]
    refine ⟨by simp, ?_, Group.not_mem_activeCoHosts (by simp)⟩
    rintro rfl
    obtain ⟨member, remains⟩ := succession.1
    simp at remains

theorem Erased.apply {hub : HubState} {actor connId : ConnId} {op : Operation} {state : HubRoom}
    {after : RoomState} (erased : Erased (state.opened hub) connId)
    (other : actor ≠ connId ∨ op.isBackground = true)
    (left : (op.apply hub actor state).room = some after) : Erased after connId := by
  have updated : ∀ {op : Operation}, (actor ≠ connId ∨ op.isBackground = true) →
      state.room.map (op.updateRoom hub actor) = some after → Erased after connId := by
    intro op other same
    obtain ⟨room, found, rfl⟩ := Option.map_eq_some_iff.mp same
    rw [HubRoom.opened_of_some found] at erased
    exact erased.updateRoom other
  have untouched : state.room = some after → Erased after connId := by
    intro found
    rw [HubRoom.opened_of_some found] at erased
    exact erased
  cases op with
  | connect connectedAtMs =>
      cases left
      refine ⟨?_, erased.2⟩
      rw [HashMap.get?_put, if_neg (Ne.symm (other.resolve_right nofun))]
      exact erased.1
  | disconnect deltaAtMs leftAtMs =>
      obtain ⟨room, found, remains⟩ := Option.bind_eq_some_iff.mp left
      rw [HubRoom.opened_of_some found] at erased
      exact Erased.disconnectSection (.inr erased) remains
  | trySend | takeMessage | closeChannel => exact untouched left
  | _ => exact updated other left

/-- After `handle_disconnect` a connection does nothing that could bring it back. -/
theorem Lawful.background {hub : HubState} {earlier : List Event} {event : Event}
    (lawful : Lawful hub earlier event) (departed : Departed earlier event.connId) :
    event.op.isBackground = true := by
  rcases lawful.permitted with ⟨connectedAtMs, op⟩ | ⟨role, _, permitted, notServing⟩ | op | op |
      ⟨_, _, op⟩
  · exact absurd departed (lawful.once connectedAtMs op).2
  · cases role with
    | serving => exact absurd rfl (notServing departed)
    | leaving | charging =>
        cases op : event.op <;> rw [op] at permitted <;> first | rfl | cases permitted
  all_goals
    rw [op]
    rfl

/-- The room keeps nothing about the connection. -/
structure Forgotten (room : RoomState) (connId : ConnId) : Prop where
  erased : Erased room connId
  unknown : (groupOf room).Unknown connId

theorem forgotten_emptyRoom (hub : HubState) (connId : ConnId) :
    Forgotten (emptyRoom hub) connId where
  erased := ⟨rfl, rfl, rfl, rfl⟩
  unknown := ⟨by simp [groupOf, emptyRoom], by simp [groupOf, emptyRoom],
    by simp [groupOf, emptyRoom]⟩

theorem Lawful.forgotten {hub : HubState} {earlier : List Event} {event : Event}
    {after : RoomState} (lawful : Lawful hub earlier event)
    (left : (event.after hub).room = some after) {connId : ConnId}
    (departed : Departed earlier connId)
    (forgotten : Forgotten (event.before.opened hub) connId) : Forgotten after connId := by
  have other : event.connId ≠ connId ∨ event.op.isBackground = true := by
    by_cases same : event.connId = connId
    · subst same
      exact .inr (lawful.background departed)
    · exact .inl same
  have step := lawful.step left
  obtain ⟨actor, task, op, state⟩ := event
  have requests := op.requests (state.opened hub) actor
  refine ⟨forgotten.erased.apply other left, step.unknown forgotten.unknown ?_ ?_⟩
  · intro request
    dsimp only at request
    rw [request] at requests
    cases requests with
    | enter => exact absurd rfl (other.resolve_right nofun)
  · intro id request
    dsimp only at request
    rw [request] at requests
    cases requests with
    | hello => exact absurd rfl (other.resolve_right nofun)

/-- The connection leaves an anonymous room with others in it that goes on naming
the connection as its host. -/
def Operation.leavesStaleHost (op : Operation) (connId : ConnId) (room : RoomState) : Bool :=
  match op with
  | .disconnect _ _ =>
      room.anonymousMode && room.hostConnId == some connId &&
        room.participants.keys.any (· != connId)
  | _ => false

theorem disconnectSection_remains {room after : RoomState} {connId : ConnId}
    {deltaAtMs leftAtMs : Nat}
    (left : (disconnectSection room connId deltaAtMs leftAtMs).1 = some after) :
    ∃ other ∈ room.participants.keys, other ≠ connId := by
  by_contra alone
  have empty : (room.participants.remove connId).isEmpty = true := by
    refine HashMap.isEmpty_iff.mpr fun other => ?_
    rw [HashMap.get?_remove]
    split
    · rfl
    · next different =>
        by_contra present
        exact alone ⟨other, HashMap.mem_keys.mpr (Option.isSome_iff_ne_none.mpr present), different⟩
  have gone : (disconnectSection room connId deltaAtMs leftAtMs).1 = none := by
    unfold disconnectSection
    exact congrArg Prod.fst (if_pos empty)
  rw [gone] at left
  cases left

/-- What has left is forgotten, unless it left a stale host behind. -/
theorem Trace.forgotten {hub : HubState} {history : List Event} (trace : Trace hub history)
    {connId : ConnId} (departed : Departed history connId)
    (current : ∀ event ∈ history, ∀ before, event.before.room = some before →
      event.op.leavesStaleHost event.connId before = false) :
    Forgotten (roomAfter hub history) connId := by
  refine Trace.room (fun past room => (∀ event ∈ past, event ∈ history) →
    Departed past connId → Forgotten room connId) ?_ ?_ trace (fun _ member => member) departed
  · exact fun _ _ _ => forgotten_emptyRoom hub connId
  · rintro earlier event after _ lawful _ ih left among ⟨past, member, same, disconnects⟩
    rcases List.mem_cons.mp member with rfl | member
    · obtain ⟨actor, task, op, state⟩ := past
      cases op with
      | disconnect deltaAtMs leftAtMs =>
          cases same
          obtain ⟨room, found, remains⟩ := Option.bind_eq_some_iff.mp left
          refine ⟨Erased.disconnectSection (.inl rfl) remains,
            disconnectSection_unknown remains fun anonymous hosts => ?_⟩
          obtain ⟨other, stays, different⟩ := disconnectSection_remains remains
          refine Bool.eq_false_iff.mp (current _ (among _ List.mem_cons_self) room found) ?_
          simp only [Operation.leavesStaleHost, Bool.and_eq_true, beq_iff_eq, List.any_eq_true,
            bne_iff_ne]
          exact ⟨⟨anonymous, hosts⟩, other, stays, different⟩
      | _ => cases disconnects
    · have departed : Departed earlier connId := ⟨past, member, same, disconnects⟩
      exact lawful.forgotten left departed
        (ih (fun other known => among other (List.mem_cons_of_mem _ known)) departed)

/-- The room has no entry for the connection, and the connection is not the host
of others. -/
structure CleanedUp (room : RoomState) (connId : ConnId) : Prop where
  erased : Erased room connId
  notCoHost : room.coHostConnIds.contains connId = false
  notHost : room.hostConnId = some connId → ∀ other ∈ room.participants.keys, other = connId

/-! ### From the end of the receive loop to the disconnect section -/

/-- The messages on which the receive loop breaks or runs out. -/
def WsEvent.endsLoop : WsEvent → Bool
  | .close | .endOfStream => true
  | .binary _ | .ping _ | .ignored | .error => false

/-- The run has come through a moment at which the receive loop of the connection ended by a
`Close` frame or at the end of the stream. -/
inductive LoopEnded (hub : HubState) (connId : ConnId) (history : List Event) (system : System) :
    Prop where
  | intro {first : List Event} {before stopped : System} {message : WsEvent} :
      Run hub first before → message.endsLoop = true →
      before.step hub (.receive connId message) = some stopped →
      (hubMachine hub).Leads first stopped history system →
      LoopEnded hub connId history system

/-- The task has performed the disconnect section. -/
def HasLeft (past : List Event) : Prop :=
  ∃ event ∈ past, event.op.isDisconnect = true

theorem HasLeft.departed {history : List Event} {connId : ConnId}
    (left : HasLeft (own connId .connection history)) : Departed history connId := by
  obtain ⟨event, member, disconnects⟩ := left
  obtain ⟨happened, same, _⟩ := mem_own.mp member
  exact ⟨event, happened, same, disconnects⟩

/-- The contract of a task that neither returns nor fails before it has left. -/
abbrev leavingContract (hub : HubState) (connId : ConnId) :
    Contract HubRoom World Operation HubError :=
  taskContract hub connId .connection HasLeft

/-- `handle_disconnect` performs its section first, whatever becomes of the rest. -/
theorem leaves_handleDisconnect (hub : HubState) (connId : ConnId) (world : World) :
    (handleDisconnect hub connId).Meets (leavingContract hub connId)
      (fun _ later => HasLeft later.own) world := by
  intro deltaAtMs leftAtMs later _
  refine ⟨trivial, ?_⟩
  have stable : Process.Stable (leavingContract hub connId) fun world => HasLeft world.own := by
    intro before after same left
    rw [show after.own = before.own from same]
    exact left
  have keeps : ∀ {Value : Type} (program : Handler Value),
      program.Keeps (leavingContract hub connId) fun world => HasLeft world.own := by
    intro Value program
    refine (Process.performs_any program).keeps stable (fun op world _ left => ⟨trivial, ?_⟩)
      fun _ _ left => left
    obtain ⟨event, member, disconnects⟩ := left
    exact ⟨event, List.mem_cons_of_mem _ member, disconnects⟩
  exact keeps _ _ ⟨_, List.mem_cons_self, rfl⟩

/-- Where a connection task stands after its receive loop. -/
def Phase.Leaves (hub : HubState) (connId : ConnId) (world : World) : Phase → Prop
  | .ended => True
  | .disconnecting handler =>
      handler.Meets (leavingContract hub connId) (fun _ later => HasLeft later.own) world
  | .returned _ => HasLeft world.own
  | .receiving _ | .draining _ | .handling _ _ => False

theorem Phase.Leaves.stable {hub : HubState} {connId : ConnId} {before after : World}
    {phase : Phase} (leaves : phase.Leaves hub connId before) (own : after.own = before.own) :
    phase.Leaves hub connId after := by
  cases phase with
  | ended => trivial
  | disconnecting => exact Process.Meets.stable leaves own
  | returned =>
      unfold Phase.Leaves
      rw [own]
      exact leaves
  | receiving | draining | handling => exact leaves.elim

theorem Phase.Leaves.advanced {hub : HubState} {connId : ConnId} {world later : World}
    {phase next : Phase} {clock : Nat} (leaves : phase.Leaves hub connId world)
    (advanced : System.advanced hub connId clock world.shared phase = some next)
    (own : later.own = ((System.phaseOperation? phase).map fun op =>
      (⟨connId, .connection, op, world.shared⟩ : Event)).toList ++ world.own) :
    next.Leaves hub connId later := by
  cases phase with
  | ended | returned => cases advanced
  | receiving | draining | handling => exact leaves.elim
  | disconnecting handler =>
      have same : System.phaseOperation? (.disconnecting handler) = none →
          later.own = world.own := by
        intro quiet
        rw [own, quiet]
        rfl
      cases handler with
      | done value =>
          cases advanced
          exact leaves later (same rfl)
      | fail error =>
          cases advanced
          have left : HasLeft world.own := leaves
          rw [← same rfl] at left
          exact left
      | ask rest =>
          cases advanced
          exact Process.Meets.stable (leaves clock) (same rfl)
      | atomic op rest =>
          cases advanced
          exact Process.Meets.stable (leaves world rfl).2 own

/-- The end of the receive loop is no event. -/
theorem Run.stopped {hub : HubState} {first : List Event} {before stopped : System}
    {connId : ConnId} {message : WsEvent} (run : Run hub first before)
    (ends : message.endsLoop = true)
    (stops : before.step hub (.receive connId message) = some stopped) :
    Run hub first stopped := by
  have silent : before.event (.receive connId message) = none := by
    cases message <;> first | rfl | cases ends
  have moves : (hubMachine hub).step before (.receive connId message) = some stopped := stops
  have later : Run hub ((before.event (.receive connId message)).toList ++ first) stopped :=
    Machine.Run.step _ run moves
  rw [silent] at later
  exact later

/-- Once the receive loop has ended so, the task leaves before it returns. -/
theorem LoopEnded.leaves {hub : HubState} {history : List Event} {system : System}
    {connId : ConnId} (ended : LoopEnded hub connId history system) :
    ∃ connection, system.connections connId = some connection ∧
      connection.phase.Leaves hub connId (worldOf connId .connection history system.shared) := by
  obtain ⟨run, ends, stops, leads⟩ := ended
  next first before stopped message =>
    refine Machine.Run.leads_invariant (fun history system => ∃ connection,
      system.connections connId = some connection ∧ connection.phase.Leaves hub connId
        (worldOf connId .connection history system.shared)) (run.stopped ends stops) ?_ ?_ leads
    · obtain ⟨moved, possible, rfl⟩ := Option.map_eq_some_iff.mp stops
      cases System.moved_cases possible with
      | @received _ _ connection decoder found receiving =>
          refine ⟨{ connection with phase := System.received decoder message }, ?_, ?_⟩
          · cases before.event (.receive connId message) <;>
              simp [System.perform, System.setPhase, System.setConnection]
          · cases message with
            | close | endOfStream => trivial
            | binary | ping | ignored | error => cases ends
    · rintro history system move next _ ⟨connection, found, leaves⟩ stepped
      obtain ⟨after, known, step⟩ := System.connectionStep stepped found
      refine ⟨after, known, ?_⟩
      cases step with
      | elsewhere foreign =>
          exact leaves.stable (own_elsewhere fun event made =>
            (foreign event made).imp_right And.left)
      | received receiving =>
          rw [receiving] at leaves
          exact leaves.elim
      | @advanced clock _ advanced => exact leaves.advanced advanced (own_advance clock found)
      | writerEnded => exact leaves_handleDisconnect hub connId _
      | ticked => exact leaves.stable rfl
      | @billed clock => exact leaves.stable (own_billed clock)

/-- `handle_conn` does not return after such an end before its `handle_disconnect` section ran. -/
theorem LoopEnded.departed {hub : HubState} {history : List Event} {system : System}
    {connId : ConnId} (ended : LoopEnded hub connId history system) {connection : Connection}
    {result : Except HubError Unit} (found : system.connections connId = some connection)
    (returned : connection.phase = .returned result) : Departed history connId := by
  obtain ⟨current, known, leaves⟩ := ended.leaves
  rw [found] at known
  cases known
  rw [returned] at leaves
  exact HasLeft.departed leaves

theorem LoopEnded.run {hub : HubState} {history : List Event} {system : System} {connId : ConnId}
    (ended : LoopEnded hub connId history system) : Run hub history system := by
  obtain ⟨run, ends, stops, leads⟩ := ended
  exact Machine.Run.leads (run.stopped ends stops) leads

/-- When `handle_conn` returns after a receive loop that ended by a `Close` frame or at the end
of the stream, and no anonymous room was left with the connection as its host, the connection is
cleaned up. -/
theorem connection_cleanedUp {hub : HubState} {history : List Event} {system : System}
    (run : Run hub history system)
    (current : ∀ event ∈ history, ∀ before, event.before.room = some before →
      event.op.leavesStaleHost event.connId before = false) :
    ∀ connId connection result, system.connections connId = some connection →
      connection.phase = .returned result → LoopEnded hub connId history system →
        ∀ room, system.shared.room = some room → CleanedUp room connId := by
  intro connId connection result known returned ended room found
  have departed := ended.departed known returned
  have forgotten := run.trace.1.forgotten departed current
  rw [roomAfter_eq run found] at forgotten
  exact ⟨forgotten.erased, Bool.eq_false_iff.mpr forgotten.unknown.notCoHost,
    fun hosts => absurd hosts forgotten.unknown.notHost⟩

def cleanupHub : HubState :=
  scriptedHub [helloAs "alice@sora", helloAs "bob@sora"]

/-- The connection has returned and the room is still there. -/
def returnedCheck (system : System) (check : RoomState → Bool) : Bool :=
  (system.connections 1).any (fun connection => match connection.phase with
    | .returned _ => true
    | _ => false) && system.shared.room.any check

theorem returnedCheck_iff {system : System} {check : RoomState → Bool} :
    returnedCheck system check = true ↔ ∃ connection result room,
      system.connections 1 = some connection ∧ connection.phase = .returned result ∧
        system.shared.room = some room ∧ check room = true := by
  unfold returnedCheck
  simp only [Bool.and_eq_true, Option.any_eq_true]
  constructor
  · rintro ⟨⟨connection, known, returned⟩, room, found, checked⟩
    split at returned
    · next result phase => exact ⟨connection, result, room, known, phase, found, checked⟩
    · cases returned
  · rintro ⟨connection, result, room, known, phase, found, checked⟩
    exact ⟨⟨connection, known, by simp [phase]⟩, room, found, checked⟩

/-- A script that plays on after the message that ended the receive loop. -/
theorem LoopEnded.of_played (hub : HubState) (connId : ConnId) (message : WsEvent)
    (ends : message.endsLoop = true) (moves after : List Move)
    (check : List Event → System → Bool)
    (plays : ((played hub moves).bind fun opened =>
      (opened.2.step hub (.receive connId message)).bind fun stopped =>
        (hubMachine hub).execute after opened.1 stopped).any
          (fun result => check result.1 result.2) = true) :
    ∃ history system, LoopEnded hub connId history system ∧ check history system = true := by
  obtain ⟨⟨history, system⟩, executed, checks⟩ := (Option.any_eq_true _ _).mp plays
  obtain ⟨⟨first, before⟩, opened, rest⟩ := Option.bind_eq_some_iff.mp executed
  obtain ⟨stopped, stops, rest⟩ := Option.bind_eq_some_iff.mp rest
  have run : Run hub first before := Machine.Run.execute .initial opened
  exact ⟨history, system, ⟨run, ends, stops, Machine.Leads.execute .here rest⟩, checks⟩

/-- Alice hosts and bob joins. -/
def joinsScript : List Move :=
  [.connect 1 0, .connect 2 0] ++ sendsFrame 1 0 1 28 ++ sendsFrame 2 1 2 30

/-- After the `Close` of alice's connection its writer fails and `handle_disconnect` runs. -/
def leavesScript : List Move :=
  [.writerStopped 1, .writerEnded 1] ++ List.replicate 17 (.advance 1 3)

theorem connection_cleanedUp_script :
    ∃ history system room connection result, Run cleanupHub history system ∧
      system.connections 1 = some connection ∧ connection.phase = .returned result ∧
        system.shared.room = some room ∧ CleanedUp room 1 := by
  obtain ⟨history, system, ended, checks⟩ := LoopEnded.of_played cleanupHub 1 .close rfl
    joinsScript leavesScript
    (fun history system => returnedCheck system (fun _ => true) &&
      history.all fun event => event.before.room.all fun before =>
        !event.op.leavesStaleHost event.connId before) (by decide +kernel)
  simp only [Bool.and_eq_true, List.all_eq_true, Option.all_eq_true, Bool.not_eq_true'] at checks
  obtain ⟨returned, current⟩ := checks
  obtain ⟨connection, result, room, known, phase, found, _⟩ := returnedCheck_iff.mp returned
  exact ⟨history, system, room, connection, result, ended.run, known, phase, found,
    connection_cleanedUp ended.run current 1 connection result known phase ended room found⟩

/-- The first bytes that the connection sends announce a frame that is too long. -/
def oversizedScript : List Move :=
  [.connect 1 0, .receive 1 (.binary [255, 255, 255, 255]), .advance 1 1]

theorem connection_notCleanedUp :
    ¬ ∀ (hub : HubState) (history : List Event) (system : System), Run hub history system →
      ∀ connId connection result, system.connections connId = some connection →
        connection.phase = .returned result →
          ∀ room, system.shared.room = some room → CleanedUp room connId := by
  intro claimed
  obtain ⟨history, system, run, checks⟩ := Run.of_played
    cleanupHub oversizedScript
    (fun _ system => returnedCheck system fun room => room.participants.containsKey 1)
    (by decide +kernel)
  obtain ⟨connection, result, room, known, phase, found, remains⟩ := returnedCheck_iff.mp checks
  have cleaned := claimed cleanupHub history system run 1 connection result known phase room found
  rw [HashMap.containsKey, cleaned.erased.1] at remains
  cases remains

end Kaigi.Hub
