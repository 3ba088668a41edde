import Kaigi.Hub.HandlerDiscipline

/-!
# Runs of the hub

Every task of every connection keeps to its contract in every run. So each
event of a run is lawful, and every room of a run is a reachable group.
-/

set_option autoImplicit false

namespace Kaigi.Hub

open Collections Wire Interleaving Authority

/-- What a task has done so far. -/
def own (connId : ConnId) (task : Task) (history : List Event) : List Event :=
  history.filter fun event => event.connId == connId && event.task == task

theorem own_cons_self (connId : ConnId) (task : Task) (op : Operation) (before : HubRoom)
    (history : List Event) :
    own connId task (⟨connId, task, op, before⟩ :: history) =
      ⟨connId, task, op, before⟩ :: own connId task history := by
  simp [own]

theorem own_cons_other {connId : ConnId} {task : Task} {event : Event} (history : List Event)
    (other : event.connId ≠ connId ∨ event.task ≠ task) :
    own connId task (event :: history) = own connId task history := by
  unfold own
  rw [List.filter_cons_of_neg]
  rcases other with different | different <;> simp [different]

theorem mem_own {connId : ConnId} {task : Task} {history : List Event} {event : Event} :
    event ∈ own connId task history ↔
      event ∈ history ∧ event.connId = connId ∧ event.task = task := by
  simp [own]

def worldOf (connId : ConnId) (task : Task) (history : List Event) (shared : HubRoom) : World :=
  ⟨shared, own connId task history⟩

def Operation.isDisconnect : Operation → Bool
  | .disconnect _ _ => true
  | _ => false

/-- `handle_disconnect` has taken the connection out of the room. -/
def Departed (history : List Event) (connId : ConnId) : Prop :=
  ∃ event ∈ history, event.connId = connId ∧ event.op.isDisconnect = true

/-- `handle_conn` has put the connection into the room. -/
def Connected (history : List Event) (connId : ConnId) : Prop :=
  ∃ event ∈ history, event.connId = connId ∧ ∃ connectedAtMs, event.op = .connect connectedAtMs

/-- What holds of every event of a run, given the events before it. -/
structure Lawful (hub : HubState) (earlier : List Event) (event : Event) : Prop where
  fresh : ∀ connectedAtMs, event.op = .connect connectedAtMs →
    (event.before.opened hub).participants.get? event.connId = none
  once : ∀ connectedAtMs, event.op = .connect connectedAtMs →
    ¬ Connected earlier event.connId ∧ ¬ Departed earlier event.connId
  permitted : (∃ connectedAtMs, event.op = .connect connectedAtMs) ∨
    (∃ role : Role, role.task = event.task ∧ role.permits event.op = true ∧
      (Departed earlier event.connId → role ≠ .serving)) ∨
    event.op = .takeMessage ∨ event.op = .closeChannel ∨
    ∃ participants coHosts, event.op = .reorder participants coHosts
  transparent : event.op.needsTransparent = true → event.before.TransparentAt event.connId
  delivered : ∀ target frame, event.op.delivers = some (target, frame) →
    ∃ taken, lastFanout (own event.connId event.task earlier) = some (frame, taken) ∧
      target ∈ taken.connections

/-- Operations that only the task of a connection performs. -/
def Operation.isTasks : Operation → Bool
  | .connect _ | .billing _ | .trySend _ _ | .takeMessage | .closeChannel | .reorder _ _ => false
  | _ => true

theorem Lawful.ownTask {hub : HubState} {earlier : List Event} {event : Event}
    (lawful : Lawful hub earlier event) (tasks : event.op.isTasks = true) :
    event.task = .connection := by
  rcases lawful.permitted with ⟨_, op⟩ | ⟨role, task, permitted, _⟩ | op | op | ⟨_, _, op⟩
  · rw [op] at tasks
    cases tasks
  · rw [← task]
    cases role with
    | serving | leaving => rfl
    | charging =>
        cases op : event.op with
        | connect | billing | trySend | takeMessage | closeChannel | reorder =>
            rw [op] at tasks
            cases tasks
        | _ =>
            rw [op] at permitted
            cases permitted
  all_goals
    rw [op] at tasks
    cases tasks

theorem Lawful.anonHello {hub : HubState} {earlier : List Event} {event : Event}
    (lawful : Lawful hub earlier event) (hello : event.op.isAnonHello = true) :
    event.task = .connection := by
  refine lawful.ownTask ?_
  cases op : event.op with
  | anonHello => rfl
  | _ => rw [op] at hello; cases hello

theorem Lawful.separated {hub : HubState} {earlier : List Event} {event : Event}
    (lawful : Lawful hub earlier event) (separated : event.before.Separated) :
    (event.after hub).Separated :=
  separated.apply lawful.fresh lawful.transparent

/-- An event does not disturb the other tasks. -/
theorem Lawful.undisturbed {hub : HubState} {earlier : List Event} {event : Event}
    (lawful : Lawful hub earlier event) (role : Role) {connId : ConnId}
    (other : event.connId ≠ connId ∨ event.task ≠ role.task) :
    Undisturbed role connId (worldOf connId role.task earlier event.before)
      (worldOf connId role.task (event :: earlier) (event.after hub)) where
  own := own_cons_other earlier other
  separated := lawful.separated
  transparent task before := before.apply lawful.fresh fun hello same => by
    rcases other with different | different
    · exact different same
    · exact different (task ▸ lawful.anonHello hello)

/-- The handler that a phase runs meets the contract of its role. -/
def PhaseSafe (hub : HubState) (connId : ConnId) (world : World) : Phase → Prop
  | .handling _ handler =>
      handler.Meets (hubContract hub .serving connId) (fun _ => Assured .serving false connId)
        world
  | .disconnecting handler =>
      handler.Meets (hubContract hub .leaving connId) (fun _ => Assured .leaving false connId)
        world
  | _ => True

def BillingSafe (hub : HubState) (connId : ConnId) (world : World) : BillingPhase → Prop
  | .checking handler =>
      handler.Meets (hubContract hub .charging connId) (fun _ => Assured .charging false connId)
        world
  | _ => True

theorem PhaseSafe.stable {hub : HubState} {connId : ConnId} {before after : World} {phase : Phase}
    (safe : PhaseSafe hub connId before phase)
    (undisturbed : Undisturbed .serving connId before after) :
    PhaseSafe hub connId after phase := by
  cases phase with
  | handling decoder handler => exact Process.Meets.stable safe undisturbed
  | disconnecting handler =>
      exact Process.Meets.stable safe
        ⟨undisturbed.own, undisturbed.separated, fun _ => undisturbed.transparent rfl⟩
  | _ => trivial

theorem BillingSafe.stable {hub : HubState} {connId : ConnId} {before after : World}
    {billing : BillingPhase} (safe : BillingSafe hub connId before billing)
    (undisturbed : Undisturbed .charging connId before after) :
    BillingSafe hub connId after billing := by
  cases billing with
  | checking handler => exact Process.Meets.stable safe undisturbed
  | _ => trivial

/-- `handle_disconnect` is under way or over. -/
def Phase.isLeaving : Phase → Bool
  | .disconnecting _ | .returned _ => true
  | _ => false

/-- The invariant of the system. -/
structure SystemSafe (hub : HubState) (history : List Event) (system : System) : Prop where
  separated : system.shared.Separated
  known : ∀ room connId, system.shared.room = some room →
    connId ∈ room.participants.keys → system.connections connId ≠ none
  connected : ∀ connId, Connected history connId → system.connections connId ≠ none
  phase : ∀ connId connection, system.connections connId = some connection →
    PhaseSafe hub connId (worldOf connId .connection history system.shared) connection.phase
  billing : ∀ connId connection, system.connections connId = some connection →
    BillingSafe hub connId (worldOf connId .billing history system.shared) connection.billing
  departed : ∀ connId, Departed history connId → ∃ connection,
    system.connections connId = some connection ∧ connection.phase.isLeaving = true

/-- A task that performs an operation of its handler makes a lawful event. -/
theorem Guarded.lawful {hub : HubState} (role : Role) {connId : ConnId} {op : Operation}
    {history : List Event} {shared : HubRoom}
    (guarded : Guarded role connId op (worldOf connId role.task history shared))
    (departed : Departed history connId → role ≠ .serving) :
    Lawful hub history ⟨connId, role.task, op, shared⟩ where
  fresh _ connects := absurd connects (Role.permits_connect guarded.permitted)
  once _ connects := absurd connects (Role.permits_connect guarded.permitted)
  permitted := .inr (.inl ⟨role, rfl, guarded.permitted, departed⟩)
  transparent := guarded.transparent
  delivered := guarded.delivered

/-- The events of operations that concern no task's handler. -/
theorem lawful_of_quiet {hub : HubState} {history : List Event} {event : Event}
    (op : event.op = .takeMessage ∨ event.op = .closeChannel ∨
      ∃ participants coHosts, event.op = .reorder participants coHosts) :
    Lawful hub history event := by
  refine ⟨?_, ?_, .inr (.inr op), ?_, ?_⟩
  · rintro connectedAtMs connects
    rcases op with op | op | ⟨_, _, op⟩ <;> rw [op] at connects <;> cases connects
  · rintro connectedAtMs connects
    rcases op with op | op | ⟨_, _, op⟩ <;> rw [op] at connects <;> cases connects
  · intro needs
    rcases op with op | op | ⟨_, _, op⟩ <;> rw [op] at needs <;> cases needs
  · intro target frame delivers
    rcases op with op | op | ⟨_, _, op⟩ <;> rw [op] at delivers <;> cases delivers

/-- Whoever is in the room after an event was there before or has just connected. -/
theorem Lawful.keys {hub : HubState} {earlier : List Event} {event : Event} {room : RoomState}
    (lawful : Lawful hub earlier event) (left : (event.after hub).room = some room)
    {connId : ConnId} (member : connId ∈ room.participants.keys) :
    connId ∈ event.before.connections ∨
      event.connId = connId ∧ ∃ connectedAtMs, event.op = .connect connectedAtMs := by
  have present : ∀ current, (groupOf (event.before.opened hub)).members connId = some current →
      connId ∈ event.before.connections := by
    intro current found
    have key := present_groupOf.mp ⟨current, found⟩
    unfold HubRoom.connections
    cases before : event.before.room with
    | none => simp [HubRoom.opened, before, emptyRoom] at key
    | some room => simpa [HubRoom.opened, before] using key
  obtain ⟨current, found⟩ := present_groupOf.mpr member
  cases (apply_step lawful.fresh left).became found with
  | kept same => exact .inl (present _ same)
  | entered request =>
      refine .inr ?_
      cases op : event.op with
      | connect connectedAtMs =>
          rw [op] at request
          cases request
          exact ⟨rfl, connectedAtMs, rfl⟩
      | moderation =>
          rw [op] at request
          simp only [Operation.action, moderationAction] at request
          split at request <;> cases request
      | _ => rw [op] at request; cases request
  | waits _ _ same => exact .inl (present _ same)
  | joins _ _ same => exact .inl (present _ same)
  | turnsAnonymous _ same => exact .inl (present _ same)
  | admitted _ same => exact .inl (present _ same)

/-- A move of one connection keeps the invariant when its event is lawful and
its own tasks are safe afterwards. -/
theorem SystemSafe.advance {hub : HubState} {history : List Event} {system next : System}
    (safe : SystemSafe hub history system) (event? : Option Event) (connId : ConnId)
    (shared : next.shared = (event?.map (Event.after hub)).getD system.shared)
    (lawful : ∀ event, event? = some event → event.before = system.shared ∧
      Lawful hub history event ∧ (event.connId = connId ∨
        event.task ≠ .connection ∧ event.task ≠ .billing))
    (others : ∀ other, other ≠ connId → next.connections other = system.connections other)
    (stays : system.connections connId ≠ none → next.connections connId ≠ none)
    (opens : ∀ event connectedAtMs, event? = some event → event.op = .connect connectedAtMs →
      next.connections event.connId ≠ none)
    (leaves : Departed (event?.toList ++ history) connId → ∃ connection,
      next.connections connId = some connection ∧ connection.phase.isLeaving = true)
    (disconnects : ∀ event, event? = some event → event.op.isDisconnect = true →
      event.connId = connId)
    (phase : ∀ connection, next.connections connId = some connection →
      PhaseSafe hub connId (worldOf connId .connection (event?.toList ++ history) next.shared)
        connection.phase)
    (billing : ∀ connection, next.connections connId = some connection →
      BillingSafe hub connId (worldOf connId .billing (event?.toList ++ history) next.shared)
        connection.billing) :
    SystemSafe hub (event?.toList ++ history) next := by
  have elsewhere : ∀ {other : ConnId} (role : Role), other ≠ connId →
      Undisturbed role other (worldOf other role.task history system.shared)
        (worldOf other role.task (event?.toList ++ history) next.shared) := by
    intro other role different
    cases event? with
    | none =>
        rw [shared]
        exact ⟨rfl, id, fun _ => id⟩
    | some event =>
        obtain ⟨before, isLawful, actor⟩ := lawful event rfl
        rw [shared, ← before]
        refine isLawful.undisturbed _ ?_
        rcases actor with same | ⟨notConnection, notBilling⟩
        · exact .inl (same ▸ different.symm)
        · cases role with
          | serving | leaving => exact .inr notConnection
          | charging => exact .inr notBilling
  have kept : ∀ other, system.connections other ≠ none → next.connections other ≠ none := by
    intro other known
    by_cases same : other = connId
    · subst same
      exact stays known
    · rw [others other same]
      exact known
  refine ⟨?_, ?_, ?_, ?_, ?_, ?_⟩
  · rw [shared]
    cases event? with
    | none => exact safe.separated
    | some event =>
        obtain ⟨before, isLawful, _⟩ := lawful event rfl
        exact isLawful.separated (before ▸ safe.separated)
  · intro room other found member
    cases event? with
    | none =>
        rw [shared] at found
        exact kept other (safe.known room other found member)
    | some event =>
        obtain ⟨before, isLawful, _⟩ := lawful event rfl
        rw [shared] at found
        rcases isLawful.keys found member with present | ⟨rfl, connectedAtMs, connects⟩
        · rw [before] at present
          unfold HubRoom.connections at present
          cases current : system.shared.room with
          | none => simp [current] at present
          | some earlier =>
              exact kept other (safe.known earlier other current (by simpa [current] using present))
        · exact opens event connectedAtMs rfl connects
  · rintro other ⟨event, member, rfl, connectedAtMs, connects⟩
    rcases List.mem_append.mp member with now | past
    · exact opens event connectedAtMs (by simpa using now) connects
    · exact kept event.connId (safe.connected event.connId ⟨event, past, rfl, _, connects⟩)
  · intro other connection found
    by_cases same : other = connId
    · subst same
      exact phase connection found
    · rw [others other same] at found
      exact (safe.phase other connection found).stable (elsewhere .serving same)
  · intro other connection found
    by_cases same : other = connId
    · subst same
      exact billing connection found
    · rw [others other same] at found
      exact (safe.billing other connection found).stable (elsewhere .charging same)
  · intro other departed
    by_cases same : other = connId
    · subst same
      exact leaves departed
    · rw [others other same]
      refine safe.departed other ?_
      obtain ⟨event, member, rfl, left⟩ := departed
      rcases List.mem_append.mp member with now | past
      · exact absurd (disconnects event (by simpa using now) left) same
      · exact ⟨event, past, rfl, left⟩

theorem SystemSafe.initial (hub : HubState) : SystemSafe hub [] System.initial where
  separated := fun _ found => by cases found
  known := fun _ _ found => by cases found
  connected := fun _ connected => by obtain ⟨_, member, _⟩ := connected; cases member
  phase := fun _ _ found => by cases found
  billing := fun _ _ found => by cases found
  departed := fun _ departed => by obtain ⟨_, member, _⟩ := departed; cases member

/-- One step of the handler that a connection runs: its event, if it makes one,
is lawful, and the rest of the handler meets the contract. -/
theorem meets_advance {hub : HubState} (role : Role) {connId : ConnId}
    {history : List Event} {shared : HubRoom} {Value : Type} {post : Value → World → Prop}
    {handler : Handler Value}
    (meets : handler.Meets (hubContract hub role connId) post
      (worldOf connId role.task history shared))
    (departed : Departed history connId → role ≠ .serving) (clock : Nat) :
    (∀ op, handler.operation? = some op → Lawful hub history ⟨connId, role.task, op, shared⟩ ∧
      (handler.resume clock shared).Meets (hubContract hub role connId) post
        (worldOf connId role.task (⟨connId, role.task, op, shared⟩ :: history)
          (op.apply hub connId shared))) ∧
    (handler.operation? = none →
      (handler.resume clock shared).Meets (hubContract hub role connId) post
        (worldOf connId role.task history shared)) := by
  constructor
  · intro op performs
    obtain ⟨guarded, rest⟩ := meets.resume_atomic performs clock
    refine ⟨Guarded.lawful role guarded departed, ?_⟩
    unfold worldOf
    rw [own_cons_self]
    exact rest
  · exact fun quiet => meets.resume_quiet quiet clock shared

/-- The event is made by the task `task` of `connId`, lawfully, in the present state. -/
structure Made (hub : HubState) (history : List Event) (shared : HubRoom) (connId : ConnId)
    (task : Task) (event : Event) : Prop where
  connId : event.connId = connId
  task : event.task = task
  before : event.before = shared
  lawful : Lawful hub history event

/-- A move of the receive loop of a connection. -/
theorem SystemSafe.setPhase {hub : HubState} {history : List Event} {system : System}
    (safe : SystemSafe hub history system) {connId : ConnId} {connection : Connection}
    (found : system.connections connId = some connection) (phase : Phase)
    (event? : Option Event)
    (made : ∀ event, event? = some event →
      Made hub history system.shared connId .connection event)
    (leaves : connection.phase.isLeaving = true → phase.isLeaving = true)
    (disconnects : ∀ event, event? = some event → event.op.isDisconnect = true →
      phase.isLeaving = true)
    (phaseSafe : PhaseSafe hub connId (worldOf connId .connection (event?.toList ++ history)
      ((system.setPhase connId connection phase).perform hub event?).shared) phase) :
    SystemSafe hub (event?.toList ++ history)
      ((system.setPhase connId connection phase).perform hub event?) := by
  have connections : ((system.setPhase connId connection phase).perform hub event?).connections =
      fun id => if id = connId then some { connection with phase := phase }
        else system.connections id := by
    cases event? <;> rfl
  have shared : ((system.setPhase connId connection phase).perform hub event?).shared =
      (event?.map (Event.after hub)).getD system.shared := by
    cases event? with
    | none => rfl
    | some event =>
        change event.op.apply hub event.connId system.shared = event.after hub
        rw [← (made event rfl).before]
        rfl
  refine safe.advance event? connId shared
    (fun event same => ⟨(made event same).before, (made event same).lawful,
      .inl (made event same).connId⟩) ?_ ?_ ?_ ?_ ?_ ?_ ?_
  · intro other different
    rw [connections]
    exact if_neg different
  · intro _
    simp [connections]
  · intro event _ same _
    simp [connections, (made event same).connId]
  · rintro ⟨event, member, _, left⟩
    refine ⟨{ connection with phase := phase }, by simp [connections], ?_⟩
    rcases List.mem_append.mp member with now | past
    · exact disconnects event (by simpa using now) left
    · obtain ⟨current, present, leaving⟩ := safe.departed connId ⟨event, past, ‹_›, left⟩
      rw [found] at present
      cases present
      exact leaves leaving
  · exact fun event same _ => (made event same).connId
  · intro current present
    simp only [connections, if_pos, Option.some.injEq] at present
    rw [← present]
    exact phaseSafe
  · intro current present
    simp only [connections, if_pos, Option.some.injEq] at present
    rw [← present]
    refine (safe.billing connId connection found).stable ?_
    rw [shared]
    cases event? with
    | none => exact ⟨rfl, id, fun _ => id⟩
    | some event =>
        obtain ⟨_, task, before, lawful⟩ := made event rfl
        rw [← before]
        exact lawful.undisturbed .charging (.inr (by rw [task]; nofun))

/-- A move of the billing task of a connection. -/
theorem SystemSafe.setBilling {hub : HubState} {history : List Event} {system : System}
    (safe : SystemSafe hub history system) {connId : ConnId} {connection : Connection}
    (found : system.connections connId = some connection) (billing : BillingPhase)
    (event? : Option Event)
    (made : ∀ event, event? = some event → Made hub history system.shared connId .billing event)
    (stays : ∀ event, event? = some event → event.op.isDisconnect = false)
    (billingSafe : BillingSafe hub connId (worldOf connId .billing (event?.toList ++ history)
      ((system.setConnection connId { connection with billing := billing }).perform hub
        event?).shared) billing) :
    SystemSafe hub (event?.toList ++ history)
      ((system.setConnection connId { connection with billing := billing }).perform hub
        event?) := by
  have connections : ((system.setConnection connId { connection with billing := billing }).perform
      hub event?).connections = fun id =>
        if id = connId then some { connection with billing := billing }
        else system.connections id := by
    cases event? <;> rfl
  have shared : ((system.setConnection connId { connection with billing := billing }).perform hub
      event?).shared = (event?.map (Event.after hub)).getD system.shared := by
    cases event? with
    | none => rfl
    | some event =>
        change event.op.apply hub event.connId system.shared = event.after hub
        rw [← (made event rfl).before]
        rfl
  refine safe.advance event? connId shared
    (fun event same => ⟨(made event same).before, (made event same).lawful,
      .inl (made event same).connId⟩) ?_ ?_ ?_ ?_ ?_ ?_ ?_
  · intro other different
    rw [connections]
    exact if_neg different
  · intro _
    simp [connections]
  · intro event _ same _
    simp [connections, (made event same).connId]
  · rintro ⟨event, member, actor, left⟩
    refine ⟨{ connection with billing := billing }, by simp [connections], ?_⟩
    rcases List.mem_append.mp member with now | past
    · rw [stays event (by simpa using now)] at left
      cases left
    · obtain ⟨current, present, leaving⟩ := safe.departed connId ⟨event, past, actor, left⟩
      rw [found] at present
      cases present
      exact leaving
  · exact fun event same _ => (made event same).connId
  · intro current present
    simp only [connections, if_pos, Option.some.injEq] at present
    rw [← present]
    refine (safe.phase connId connection found).stable ?_
    rw [shared]
    cases event? with
    | none => exact ⟨rfl, id, fun _ => id⟩
    | some event =>
        obtain ⟨_, task, before, lawful⟩ := made event rfl
        rw [← before]
        exact lawful.undisturbed .serving (.inr (by rw [task]; nofun))
  · intro current present
    simp only [connections, if_pos, Option.some.injEq] at present
    rw [← present]
    exact billingSafe

/-- The step of a system and the event it makes, both as they should be. -/
structure SafeStep (hub : HubState) (history : List Event) (system : System) (move : Move)
    (next : System) : Prop where
  safe : SystemSafe hub ((system.event move).toList ++ history) next
  before : ∀ event, system.event move = some event → event.before = system.shared
  lawful : ∀ event, system.event move = some event → Lawful hub history event

theorem safeStep_connect {hub : HubState} {history : List Event} {system : System}
    (safe : SystemSafe hub history system) {connId : ConnId} (connectedAtMs : Nat)
    (unused : system.connections connId = none) :
    SafeStep hub history system (.connect connId connectedAtMs)
      ((system.setConnection connId ⟨.receiving .new, .sleeping⟩).perform hub
        (system.event (.connect connId connectedAtMs))) := by
  have lawful : Lawful hub history
      ⟨connId, .connection, .connect connectedAtMs, system.shared⟩ := by
    have notDeparted : ¬ Departed history connId := by
      intro departed
      obtain ⟨connection, known, _⟩ := safe.departed connId departed
      rw [unused] at known
      cases known
    refine ⟨fun _ _ => ?_,
      fun _ _ => ⟨fun connected => safe.connected connId connected unused, notDeparted⟩,
      .inl ⟨connectedAtMs, rfl⟩, nofun, nofun⟩
    cases room : system.shared.room with
    | none => simp [HubRoom.opened, room, emptyRoom]
    | some current =>
        rw [HubRoom.opened_of_some room]
        by_contra present
        exact safe.known current connId room
          (HashMap.mem_keys.mpr (Option.isSome_iff_ne_none.mpr present)) unused
  refine ⟨?_, fun event same => by cases same; rfl, fun event same => by cases same; exact lawful⟩
  refine safe.advance (some ⟨connId, .connection, .connect connectedAtMs, system.shared⟩) connId
    rfl (fun event same => by cases same; exact ⟨rfl, lawful, .inl rfl⟩) ?_ ?_ ?_ ?_ ?_ ?_ ?_
  · exact fun other different => if_neg different
  · exact fun known => absurd unused known
  · intro event _ same _
    cases same
    simp [System.perform, System.setConnection, System.event]
  · rintro ⟨event, member, actor, left⟩
    rcases List.mem_append.mp member with now | past
    · simp only [Option.toList, List.mem_singleton] at now
      subst now
      cases left
    · obtain ⟨current, present, _⟩ := safe.departed connId ⟨event, past, actor, left⟩
      rw [unused] at present
      cases present
  · intro event same left
    cases same
    cases left
  · intro connection present
    simp only [System.perform, System.setConnection, System.event, if_pos,
      Option.some.injEq] at present
    rw [← present]
    trivial
  · intro connection present
    simp only [System.perform, System.setConnection, System.event, if_pos,
      Option.some.injEq] at present
    rw [← present]
    trivial

theorem safeStep_receive {hub : HubState} {history : List Event} {system : System}
    (safe : SystemSafe hub history system) {connId : ConnId} {connection : Connection}
    {decoder : FrameDecoder} (found : system.connections connId = some connection)
    (receiving : connection.phase = .receiving decoder) (message : WsEvent) :
    SafeStep hub history system (.receive connId message)
      ((system.setPhase connId connection (System.received decoder message)).perform hub
        (system.event (.receive connId message))) := by
  have made : ∀ event, system.event (.receive connId message) = some event →
      Made hub history system.shared connId .connection event ∧ event.op.isDisconnect = false := by
    intro event same
    cases message with
    | ping payload =>
        cases same
        refine ⟨⟨rfl, rfl, rfl, Guarded.lawful .serving ⟨rfl, nofun, nofun⟩ ?_⟩, rfl⟩
        intro departed
        obtain ⟨current, present, leaving⟩ := safe.departed connId departed
        rw [found] at present
        cases present
        rw [receiving] at leaving
        cases leaving
    | _ => cases same
  refine ⟨safe.setPhase found _ _ (fun event same => (made event same).1) ?_ ?_ ?_,
    fun event same => (made event same).1.before, fun event same => (made event same).1.lawful⟩
  · intro leaving
    rw [receiving] at leaving
    cases leaving
  · intro event same left
    rw [(made event same).2] at left
    cases left
  · cases message <;> trivial

theorem safeStep_of {hub : HubState} {history : List Event} {system moved : System} {move : Move}
    (event? : Option Event) (same : system.event move = event?)
    (made : ∀ event, event? = some event →
      event.before = system.shared ∧ Lawful hub history event)
    (safe : SystemSafe hub (event?.toList ++ history) (moved.perform hub event?)) :
    SafeStep hub history system move (moved.perform hub (system.event move)) := by
  subst same
  exact ⟨safe, fun event same => (made event same).1, fun event same => (made event same).2⟩

section Advance

variable {hub : HubState} {history : List Event} {system : System} {connId : ConnId}
  {connection : Connection} {phase : Phase} {clock : Nat}

theorem event_advance (found : system.connections connId = some connection) :
    system.event (.advance connId clock) = (System.phaseOperation? connection.phase).map fun op =>
      ⟨connId, .connection, op, system.shared⟩ := by
  simp [System.event, found]

/-- A move of the receive loop without an event. -/
theorem safeStep_silent (safe : SystemSafe hub history system)
    (found : system.connections connId = some connection)
    (quiet : System.phaseOperation? connection.phase = none)
    (leaves : connection.phase.isLeaving = true → phase.isLeaving = true)
    (phaseSafe : PhaseSafe hub connId (worldOf connId .connection history system.shared) phase) :
    SafeStep hub history system (.advance connId clock)
      ((system.setPhase connId connection phase).perform hub
        (system.event (.advance connId clock))) := by
  refine safeStep_of none (by rw [event_advance found, quiet]; rfl)
    (fun _ same => by cases same) ?_
  exact safe.setPhase found phase none (fun _ same => by cases same) leaves
    (fun _ same => by cases same) phaseSafe

/-- A move of the receive loop with an event. -/
theorem safeStep_loud (safe : SystemSafe hub history system)
    (found : system.connections connId = some connection) {op : Operation}
    (performs : System.phaseOperation? connection.phase = some op)
    (lawful : Lawful hub history ⟨connId, .connection, op, system.shared⟩)
    (leaves : connection.phase.isLeaving = true → phase.isLeaving = true)
    (disconnects : op.isDisconnect = true → phase.isLeaving = true)
    (phaseSafe : PhaseSafe hub connId (worldOf connId .connection
      (⟨connId, .connection, op, system.shared⟩ :: history)
        (op.apply hub connId system.shared)) phase) :
    SafeStep hub history system (.advance connId clock)
      ((system.setPhase connId connection phase).perform hub
        (system.event (.advance connId clock))) := by
  refine safeStep_of (some ⟨connId, .connection, op, system.shared⟩)
    (by rw [event_advance found, performs]; rfl) ?_ ?_
  · intro event same
    rw [← Option.some.inj same]
    exact ⟨rfl, lawful⟩
  · refine safe.setPhase found phase _ ?_ leaves ?_ phaseSafe
    · intro event same
      rw [← Option.some.inj same]
      exact ⟨rfl, rfl, rfl, lawful⟩
    · intro event same
      rw [← Option.some.inj same]
      exact disconnects

/-- A serving handler does not take its connection out of the room. -/
theorem serving_disconnect {op : Operation} (permitted : Role.serving.permits op = true) :
    op.isDisconnect = false := by
  cases op <;> first | rfl | cases permitted

theorem safeStep_handling (safe : SystemSafe hub history system)
    (found : system.connections connId = some connection) {decoder : FrameDecoder}
    {handler : Handler Unit} (handling : connection.phase = .handling decoder handler)
    (advanced : System.advanced hub connId clock system.shared (.handling decoder handler) =
      some phase) :
    SafeStep hub history system (.advance connId clock)
      ((system.setPhase connId connection phase).perform hub
        (system.event (.advance connId clock))) := by
  have here := safe.phase connId connection found
  have notLeaving : connection.phase.isLeaving = true → phase.isLeaving = true := by
    intro leaving
    rw [handling] at leaving
    cases leaving
  have serving : Departed history connId → Role.serving ≠ .serving := by
    intro departed
    obtain ⟨current, present, leaving⟩ := safe.departed connId departed
    rw [found] at present
    cases present
    rw [handling] at leaving
    cases leaving
  rw [handling] at here
  cases handler with
  | done | fail =>
      cases advanced
      exact safeStep_silent safe found (by rw [handling]; rfl) notLeaving trivial
  | ask next =>
      cases advanced
      refine safeStep_silent safe found (by rw [handling]; rfl) notLeaving ?_
      exact (meets_advance .serving here serving clock).2 rfl
  | atomic op next =>
      cases advanced
      obtain ⟨lawful, rest⟩ := (meets_advance .serving here serving clock).1 op rfl
      obtain ⟨guarded, _⟩ := Process.Meets.resume_atomic here rfl clock
      refine safeStep_loud safe found (by rw [handling]; rfl) lawful notLeaving ?_ rest
      intro disconnects
      rw [serving_disconnect guarded.permitted] at disconnects
      cases disconnects

theorem safeStep_disconnecting (safe : SystemSafe hub history system)
    (found : system.connections connId = some connection) {handler : Handler Unit}
    (disconnecting : connection.phase = .disconnecting handler)
    (advanced : System.advanced hub connId clock system.shared (.disconnecting handler) =
      some phase) :
    SafeStep hub history system (.advance connId clock)
      ((system.setPhase connId connection phase).perform hub
        (system.event (.advance connId clock))) := by
  have here := safe.phase connId connection found
  rw [disconnecting] at here
  cases handler with
  | done | fail =>
      cases advanced
      exact safeStep_silent safe found (by rw [disconnecting]; rfl) (fun _ => rfl) trivial
  | ask next =>
      cases advanced
      refine safeStep_silent safe found (by rw [disconnecting]; rfl) (fun _ => rfl) ?_
      exact (meets_advance .leaving here (fun _ => nofun) clock).2 rfl
  | atomic op next =>
      cases advanced
      obtain ⟨lawful, rest⟩ :=
        (meets_advance .leaving here (fun _ => nofun) clock).1 op rfl
      exact safeStep_loud safe found (by rw [disconnecting]; rfl) lawful (fun _ => rfl)
        (fun _ => rfl) rest

theorem safeStep_advance (safe : SystemSafe hub history system)
    (found : system.connections connId = some connection)
    (advanced : System.advanced hub connId clock system.shared connection.phase = some phase) :
    SafeStep hub history system (.advance connId clock)
      ((system.setPhase connId connection phase).perform hub
        (system.event (.advance connId clock))) := by
  cases before : connection.phase with
  | receiving | ended | returned => rw [before] at advanced; cases advanced
  | draining decoder =>
      rw [before] at advanced
      have notLeaving : connection.phase.isLeaving = true → phase.isLeaving = true := by
        intro leaving
        rw [before] at leaving
        cases leaving
      refine safeStep_silent safe found (by rw [before]; rfl) notLeaving ?_
      simp only [System.advanced] at advanced
      split at advanced
      · cases advanced
        trivial
      · cases advanced
        trivial
      · cases advanced
        exact disciplined_handleFrame _ _ ⟨safe.separated, nofun⟩
  | handling decoder handler =>
      rw [before] at advanced
      exact safeStep_handling safe found before advanced
  | disconnecting handler =>
      rw [before] at advanced
      exact safeStep_disconnecting safe found before advanced

theorem safeStep_writerEnded (safe : SystemSafe hub history system)
    (found : system.connections connId = some connection) :
    SafeStep hub history system (.writerEnded connId)
      ((system.setPhase connId connection (.disconnecting (handleDisconnect hub connId))).perform
        hub (system.event (.writerEnded connId))) := by
  refine safeStep_of none rfl (fun _ same => by cases same) ?_
  refine safe.setPhase found _ none (fun _ same => by cases same) (fun _ => rfl)
    (fun _ same => by cases same) ?_
  exact disciplined_handleDisconnect _ ⟨safe.separated, fun certain => by cases certain⟩

theorem safeStep_billingTick (safe : SystemSafe hub history system)
    (found : system.connections connId = some connection) :
    SafeStep hub history system (.billingTick connId)
      ((system.setConnection connId
        { connection with billing := .checking (enforceBilling hub connId) }).perform hub
          (system.event (.billingTick connId))) := by
  refine safeStep_of none rfl (fun _ same => by cases same) ?_
  refine safe.setBilling found _ none (fun _ same => by cases same)
    (fun _ same => by cases same) ?_
  exact disciplined_enforceBilling _ ⟨safe.separated, fun certain => by cases certain⟩

theorem charging_disconnect {op : Operation} (permitted : Role.charging.permits op = true) :
    op.isDisconnect = false := by
  cases op <;> first | rfl | cases permitted

theorem event_advanceBilling (clock : Nat) (found : system.connections connId = some connection) :
    system.event (.advanceBilling connId clock) =
      (System.billingOperation? connection.billing).map fun op =>
        ⟨connId, .billing, op, system.shared⟩ := by
  simp [System.event, found]

theorem safeStep_advanceBilling (safe : SystemSafe hub history system)
    (found : system.connections connId = some connection) {billing : BillingPhase}
    (advanced : System.billingAdvanced clock system.shared connection.billing = some billing) :
    SafeStep hub history system (.advanceBilling connId clock)
      ((system.setConnection connId { connection with billing := billing }).perform hub
        (system.event (.advanceBilling connId clock))) := by
  have event := event_advanceBilling clock found
  have here := safe.billing connId connection found
  have silent : System.billingOperation? connection.billing = none →
      BillingSafe hub connId (worldOf connId .billing history system.shared) billing →
      SafeStep hub history system (.advanceBilling connId clock)
        ((system.setConnection connId { connection with billing := billing }).perform hub
          (system.event (.advanceBilling connId clock))) := by
    intro quiet billingSafe
    refine safeStep_of none (by rw [event, quiet]; rfl)
      (fun _ same => by cases same) ?_
    exact safe.setBilling found billing none (fun _ same => by cases same)
      (fun _ same => by cases same) billingSafe
  cases before : connection.billing with
  | sleeping | returned => rw [before] at advanced; cases advanced
  | checking handler =>
      rw [before] at advanced here
      cases handler with
      | done goesOn =>
          cases goesOn with
          | false => cases advanced; exact silent (by rw [before]; rfl) trivial
          | true => cases advanced; exact silent (by rw [before]; rfl) trivial
      | fail error =>
          cases advanced
          exact silent (by rw [before]; rfl) trivial
      | ask next =>
          cases advanced
          refine silent (by rw [before]; rfl) ?_
          exact (meets_advance .charging here (fun _ same => by cases same) clock).2 rfl
      | atomic op next =>
          cases advanced
          obtain ⟨lawful, rest⟩ := (meets_advance .charging here
            (fun _ same => by cases same) clock).1 op rfl
          obtain ⟨guarded, _⟩ := Process.Meets.resume_atomic here rfl clock
          refine safeStep_of (some ⟨connId, .billing, op, system.shared⟩)
            (by rw [event, before]; rfl) ?_ ?_
          · intro current same
            rw [← Option.some.inj same]
            exact ⟨rfl, lawful⟩
          · refine safe.setBilling found _ _ ?_ ?_ rest
            · intro current same
              rw [← Option.some.inj same]
              exact ⟨rfl, rfl, rfl, lawful⟩
            · intro current same
              rw [← Option.some.inj same]
              exact charging_disconnect guarded.permitted

/-- A move that runs no handler: it only touches a channel or an iteration order. -/
theorem safeStep_quiet (safe : SystemSafe hub history system) {move : Move} {event : Event}
    (same : system.event move = some event) (before : event.before = system.shared)
    (op : event.op = .takeMessage ∨ event.op = .closeChannel ∨
      ∃ participants coHosts, event.op = .reorder participants coHosts)
    (task : event.task ≠ .connection ∧ event.task ≠ .billing) :
    SafeStep hub history system move (system.perform hub (system.event move)) := by
  have lawful : Lawful hub history event := lawful_of_quiet op
  have notDisconnect : event.op.isDisconnect = false := by
    rcases op with op | op | ⟨_, _, op⟩ <;> rw [op] <;> rfl
  refine safeStep_of _ same (fun _ present => ?_) ?_
  · rw [← Option.some.inj present]
    exact ⟨before, lawful⟩
  · have undisturbed : ∀ (role : Role) (other : ConnId),
        Undisturbed role other (worldOf other role.task history system.shared)
          (worldOf other role.task (event :: history) (event.after hub)) := by
      intro role other
      rw [← before]
      refine lawful.undisturbed _ (.inr ?_)
      cases role with
      | serving | leaving => exact task.1
      | charging => exact task.2
    have shared : (system.perform hub (some event)).shared = event.after hub := by
      change event.op.apply hub event.connId system.shared = event.after hub
      rw [← before]
      rfl
    refine safe.advance (some event) event.connId shared ?_ (fun _ _ => rfl) id ?_ ?_ ?_ ?_ ?_
    · intro current present
      rw [← Option.some.inj present]
      exact ⟨before, lawful, .inr task⟩
    · intro current connectedAtMs present connects
      rw [← Option.some.inj present] at connects
      rcases op with op | op | ⟨_, _, op⟩ <;> rw [op] at connects <;> cases connects
    · rintro ⟨current, member, actor, left⟩
      rcases List.mem_append.mp member with now | past
      · rw [List.mem_singleton.mp now, notDisconnect] at left
        cases left
      · exact safe.departed event.connId ⟨current, past, actor, left⟩
    · intro current present left
      rw [← Option.some.inj present, notDisconnect] at left
      cases left
    · intro current found
      rw [shared]
      exact (safe.phase event.connId current found).stable (undisturbed .serving event.connId)
    · intro current found
      rw [shared]
      exact (safe.billing event.connId current found).stable (undisturbed .charging event.connId)

end Advance

/-- Every possible move of a safe system is a safe step. -/
theorem SystemSafe.step {hub : HubState} {history : List Event} {system next : System}
    {move : Move} (safe : SystemSafe hub history system)
    (stepped : system.step hub move = some next) : SafeStep hub history system move next := by
  obtain ⟨moved, possible, rfl⟩ := Option.map_eq_some_iff.mp stepped
  cases System.moved_cases possible with
  | connected unused => exact safeStep_connect safe _ unused
  | received found receiving => exact safeStep_receive safe found receiving _
  | advanced found advanced => exact safeStep_advance safe found advanced
  | writerEnded found => exact safeStep_writerEnded safe found
  | ticked found => exact safeStep_billingTick safe found
  | billed found advanced => exact safeStep_advanceBilling safe found advanced
  | delivered => exact safeStep_quiet safe rfl rfl (.inl rfl) ⟨by simp, by simp⟩
  | writerStopped => exact safeStep_quiet safe rfl rfl (.inr (.inl rfl)) ⟨by simp, by simp⟩
  | reordered => exact safeStep_quiet safe rfl rfl (.inr (.inr ⟨_, _, rfl⟩)) ⟨by simp, by simp⟩

theorem Run.safe {hub : HubState} {history : List Event} {system : System}
    (run : Run hub history system) : SystemSafe hub history system := by
  refine Machine.Run.invariant _ (SystemSafe.initial hub) ?_ run
  intro history state move next _ safe stepped
  exact (safe.step stepped).safe

end Kaigi.Hub
