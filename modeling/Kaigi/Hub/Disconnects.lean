import Kaigi.Hub.Deliveries
import Kaigi.Hub.Dismissals
import Kaigi.Hub.Duties
import Kaigi.Hub.Scripts

/-!
# What becomes of the decisions to disconnect

Between two handlers a task owes no close message. So a decision is lost only where the
channel of the target is full, or where the deciding handler stops before it has sent the
close message. And a close message reaches only who reads: whoever does not stays in the
room, so it has to be billed there.
-/

set_option autoImplicit false

namespace Kaigi.Hub

open Collections Wire Interleaving

/-! ## The tasks -/

section Tasks

variable {hub : HubState} {connId : ConnId} {before after world : World}

/-- A frame that asks for somebody to be disconnected can be encoded again for the audit. -/
def Auditable (hub : HubState) (frame : KaigiFrame) : Prop :=
  asksToDismiss frame = true → (encodable hub frame).isSome = true

/-- Between two handlers a connection task owes no close message. -/
theorem settling_close (hub : HubState) (connId : ConnId) :
    Settling hub connId (Dismissed hub) (CloseExcused hub) (Auditable hub) where
  start := dismissed_nil hub
  connects _ _ _ dismissed := dismissed.quiet rfl
  pongs _ _ _ dismissed := dismissed.quiet rfl
  stops _ dismissed := fun _ => dismissed
  handles _ world encodes dismissed := settlesClose_handleFrame encodes world dismissed
  leaves world dismissed := settlesClose_of_performs performs_leave_mayDismiss world dismissed

/-- Where a billing task stands that sends the close message it owes. -/
def BillingPhase.SendsClose (hub : HubState) (connId : ConnId) (world : World) :
    BillingPhase → Prop
  | .checking handler =>
      handler.Meets (taskContract hub connId .billing fun _ => False)
        (fun goesOn later => Dismissed hub later.own ∧
          (goesOn = false → BillingEnded hub connId later.own)) world
  | .sleeping => Dismissed hub world.own
  | .returned => Dismissed hub world.own ∧ BillingEnded hub connId world.own

theorem BillingPhase.SendsClose.stable {billing : BillingPhase}
    (sends : billing.SendsClose hub connId before) (own : after.own = before.own) :
    billing.SendsClose hub connId after := by
  cases billing with
  | checking => exact Process.Meets.stable sends own
  | sleeping | returned =>
      unfold BillingPhase.SendsClose
      rw [own]
      exact sends

theorem BillingPhase.SendsClose.advanced {billing next : BillingPhase} {clock : Nat}
    (sends : billing.SendsClose hub connId world)
    (advanced : System.billingAdvanced clock world.shared billing = some next) {later : World}
    (own : later.own = ((System.billingOperation? billing).map fun op =>
      (⟨connId, .billing, op, world.shared⟩ : Event)).toList ++ world.own) :
    next.SendsClose hub connId later := by
  cases billing with
  | sleeping | returned => cases advanced
  | checking handler =>
      cases handler with
      | done goesOn =>
          obtain ⟨dismissed, ended⟩ := sends later own
          cases goesOn with
          | true =>
              cases advanced
              exact dismissed
          | false =>
              cases advanced
              exact ⟨dismissed, ended rfl⟩
      | fail error => exact sends.elim
      | ask next =>
          cases advanced
          exact Process.Meets.stable (sends clock) own
      | atomic op next =>
          cases advanced
          exact Process.Meets.stable (sends world rfl).2 own

end Tasks

section Billing

variable {hub : HubState} {history : List Event} {system next : System} {connId : ConnId}

/-- Where the billing task of a connection stands that may not be there yet. -/
def Billed (hub : HubState) (connId : ConnId) (history : List Event) (system : System) : Prop :=
  (system.connections connId = none → own connId .billing history = []) ∧
    ∀ connection, system.connections connId = some connection →
      connection.billing.SendsClose hub connId (worldOf connId .billing history system.shared)

theorem Billed.step {move : Move} (here : Billed hub connId history system)
    (stepped : system.step hub move = some next) :
    Billed hub connId ((system.event move).toList ++ history) next := by
  obtain ⟨unborn, stands⟩ := here
  have elsewhere : (∀ event, system.event move = some event → event.Foreign connId) →
      own connId .billing ((system.event move).toList ++ history) = own connId .billing history :=
    fun foreign => own_elsewhere fun event made => (foreign event made).imp_right And.right
  cases known : system.connections connId with
  | none =>
      have nothing := unborn known
      rcases System.birthStep stepped known with ⟨unused, foreign⟩ | ⟨connectedAtMs, rfl, born⟩
      · refine ⟨fun _ => (elsewhere foreign).trans nothing, fun connection found => ?_⟩
        rw [unused] at found
        cases found
      · refine ⟨fun unused => ?_, fun connection found => ?_⟩
        · rw [born] at unused
          cases unused
        · rw [born] at found
          cases found
          change Dismissed hub (own connId .billing _)
          rw [own_served (by rintro _ ⟨⟩; rfl), nothing]
          exact dismissed_nil hub
  | some connection =>
      obtain ⟨after, present, step⟩ := System.connectionStep stepped known
      have before := stands connection known
      refine ⟨fun unused => ?_, fun current found => ?_⟩
      · rw [present] at unused
        cases unused
      · rw [present] at found
        cases found
        cases step with
        | elsewhere foreign => exact before.stable (elsewhere foreign)
        | @received decoder message =>
            refine before.stable (own_served fun event made => ?_)
            cases message with
            | ping => cases made; rfl
            | _ => cases made
        | advanced =>
            refine before.stable (own_served fun event made => ?_)
            obtain ⟨_, _, rfl⟩ := Option.map_eq_some_iff.mp made
            rfl
        | writerEnded => exact before.stable rfl
        | ticked sleeping =>
            rw [sleeping] at before
            exact meets_enforceBilling _ before
        | @billed clock _ advanced =>
            exact before.advanced advanced (own_advanceBilling clock known)

/-- In every run the billing tasks send the close messages that they owe. -/
theorem Run.billed (run : Run hub history system) (connId : ConnId) :
    Billed hub connId history system := by
  refine Machine.Run.invariant (Billed hub connId)
    ⟨fun _ => rfl, fun _ found => by cases found⟩ ?_ run
  intro history system move next _ here stepped
  exact here.step stepped

end Billing

/-! ## Undropped runs -/

/-- A kick of a joined participant: its billing task goes on. -/
def Event.LeavesBilled (event : Event) (target : ConnId) : Prop :=
  (∃ moderation nowMs admitAtMs, event.op = .moderation moderation nowMs admitAtMs) ∧
    event.before.hasJoined target = true

/-- The step is not one in which a decision to disconnect is lost. `reads` are the participants
that read their sockets. -/
structure Undropped (hub : HubState) (reads : ConnId → Prop) (history : List Event)
    (system : System) (move : Move) : Prop where
  accepted : ∀ event target, system.event move = some event →
    event.op = .trySend target .close → (system.shared.channels target).accepts = true
  explained : ∀ event, system.event move = some event → event.dismisses hub ≠ [] →
    event.Explained hub
  auditable : ∀ connId clock connection, move = .advance connId clock →
    system.connections connId = some connection → connection.phase.Decodes hub (Auditable hub)
  spares : ∀ event, system.event move = some event → event.task = .connection →
    ¬ Dismissed hub (event :: own event.connId .connection history) → event.Spares hub
  heard : ∀ event target, system.event move = some event → target ∈ event.dismisses hub →
    ¬ reads target → event.LeavesBilled target

/-- The runs in which no decision to disconnect is dropped. -/
abbrev UndroppedRun (hub : HubState) (reads : ConnId → Prop) : List Event → System → Prop :=
  (hubMachine hub).RunWhere (Undropped hub reads)

section Undropped

variable {hub : HubState} {reads : ConnId → Prop} {history : List Event} {system : System}

theorem UndroppedRun.unstopped (run : UndroppedRun hub reads history system) (connId : ConnId) :
    Unstopped (Dismissed hub) (Event.Spares hub) (own connId .connection history) := by
  refine Machine.RunWhere.invariant (fun history _ =>
    Unstopped (Dismissed hub) (Event.Spares hub) (own connId .connection history)) ?_ ?_ run
  · intro newer event older split
    cases newer <;> cases split
  · intro history system move next _ before undropped _
    change Unstopped (Dismissed hub) (Event.Spares hub)
      (own connId .connection ((system.event move).toList ++ history))
    cases made : system.event move with
    | none => exact before
    | some event =>
        change Unstopped (Dismissed hub) (Event.Spares hub)
          (own connId .connection (event :: history))
        by_cases mine : event.connId = connId ∧ event.task = .connection
        · obtain ⟨rfl, serves⟩ := mine
          have grown : own event.connId .connection (event :: history) =
              event :: own event.connId .connection history := by
            simp [own, serves]
          rw [grown]
          exact before.cons (undropped.spares event made serves)
        · rw [own_cons_other history (not_and_or.mp mine)]
          exact before

/-- A task that is not handling a frame owes no close message. -/
theorem UndroppedRun.settles (run : UndroppedRun hub reads history system) (connId : ConnId) :
    TaskSettles hub connId (Dismissed hub) (CloseExcused hub) history system :=
  (settling_close hub connId).run (fun _ _ clock connection undropped known =>
    undropped.auditable connId clock connection rfl known) run

/-- What is known of an event from the move that made it. -/
theorem System.event_made {move : Move} {event : Event} (made : system.event move = some event) :
    event.before = system.shared ∧
      (event.op.mayDismiss = true → event.task = .connection ∨ event.task = .billing) ∧
      (event.task = .billing → system.connections event.connId ≠ none) := by
  cases move with
  | connect | deliver | writerStopped | reorder =>
      cases made
      exact ⟨rfl, nofun, nofun⟩
  | receive connId message =>
      cases message with
      | ping =>
          cases made
          exact ⟨rfl, nofun, nofun⟩
      | _ => cases made
  | writerEnded | billingTick => cases made
  | advance connId clock =>
      obtain ⟨_, _, rfl⟩ := Option.map_eq_some_iff.mp made
      exact ⟨rfl, fun _ => .inl rfl, nofun⟩
  | advanceBilling connId clock =>
      obtain ⟨op, performed, rfl⟩ := Option.map_eq_some_iff.mp made
      refine ⟨rfl, fun _ => .inr rfl, fun _ unknown => ?_⟩
      rw [unknown] at performed
      cases performed

/-- The events of an undropped run. -/
theorem UndroppedRun.events (run : UndroppedRun hub reads history system) :
    ∀ event ∈ history, (event.dismisses hub ≠ [] → event.Explained hub) ∧
      (∀ target, event.op = .trySend target .close → event.Closes target) ∧
        ∀ target ∈ event.dismisses hub, ¬ reads target → event.LeavesBilled target := by
  refine Machine.RunWhere.invariant (fun history _ =>
    ∀ event ∈ history, (event.dismisses hub ≠ [] → event.Explained hub) ∧
      (∀ target, event.op = .trySend target .close → event.Closes target) ∧
        ∀ target ∈ event.dismisses hub, ¬ reads target → event.LeavesBilled target)
    (fun _ none => nomatch none) ?_ run
  intro history system move next _ before undropped _ event happened
  rcases List.mem_append.mp happened with now | past
  · have made := Option.mem_toList.mp now
    refine ⟨undropped.explained event made, fun target sends => ⟨sends, ?_⟩,
      fun target => undropped.heard event target made⟩
    rw [(System.event_made made).1]
    exact undropped.accepted event target made sends
  · exact before event past

end Undropped

/-! ## Whoever has left stays out -/

theorem Lawful.stays_out {hub : HubState} {earlier : List Event} {event : Event} {connId : ConnId}
    (lawful : Lawful hub earlier event) (connected : Connected earlier connId)
    (absent : connId ∉ event.before.connections) : connId ∉ (event.after hub).connections := by
  cases left : (event.after hub).room with
  | none => simp [HubRoom.connections, left]
  | some room =>
      intro member
      rw [HubRoom.connections_of_some left] at member
      rcases lawful.keys left member with before | ⟨rfl, connectedAtMs, connects⟩
      · exact absent before
      · exact (lawful.once connectedAtMs connects).1 connected

theorem Trace.stays_out {hub : HubState} {later earlier : List Event} {event : Event}
    {connId : ConnId} (trace : Trace hub (later ++ event :: earlier))
    (connected : Connected earlier connId) (absent : connId ∉ event.before.connections) :
    connId ∉ (sharedAfter hub (later ++ event :: earlier)).connections := by
  induction later with
  | nil =>
      cases trace with
      | step _ _ lawful => exact lawful.stays_out connected absent
  | cons latest later ih =>
      cases trace with
      | step past before lawful =>
          obtain ⟨connect, member, opens⟩ := connected
          have earlier : Connected (later ++ event :: earlier) connId :=
            ⟨connect, List.mem_append_right _ (List.mem_cons_of_mem _ member), opens⟩
          refine lawful.stays_out earlier ?_
          rw [before]
          exact ih past

/-! ## Every undropped run -/

/-- The task has no handler under way. -/
def Connection.isIdle (connection : Connection) : Task → Bool
  | .billing =>
      match connection.billing with
      | .checking _ => false
      | .sleeping | .returned => true
  | .connection | .writer | .environment => connection.phase.isIdle

/-- The billing task has ended, and nobody charges the connection any more. -/
def Connection.isUnbilled (connection : Connection) : Bool :=
  match connection.billing with
  | .returned => true
  | .sleeping | .checking _ => false

/-- The decisions to disconnect have been put into effect. -/
structure DisconnectsKept (hub : HubState) (reads : ConnId → Prop) (history : List Event)
    (system : System) : Prop where
  /-- A task that has decided closes the connection before it is idle again. -/
  closed : ∀ later event earlier, history = later ++ event :: earlier →
    ∀ target ∈ event.dismisses hub, ∀ connection,
      system.connections event.connId = some connection → connection.isIdle event.task = true →
        ∃ close ∈ later, close.Closes target
  /-- A close message that was enqueued waits for the writer or was taken by it. -/
  underWay : ∀ event ∈ history, ∀ target, event.Closes target →
    CloseUnderWay history system.shared target
  /-- Whoever stays in the room without being billed reads, and is being closed. -/
  unbilled : ∀ connId connection, system.connections connId = some connection →
    connection.isUnbilled = true → connId ∈ system.shared.connections →
      reads connId ∧ CloseUnderWay history system.shared connId
  /-- Whoever does not read and stays in the room after a decision has joined and is billed. -/
  billed : ∀ event ∈ history, ∀ target ∈ event.dismisses hub, ¬ reads target →
    target ∈ system.shared.connections → system.shared.hasJoined target = true ∧
      ∃ connection, system.connections target = some connection ∧ connection.isUnbilled = false

section Runs

variable {hub : HubState} {reads : ConnId → Prop} {history : List Event} {system : System}

theorem UndroppedRun.dismissed (run : UndroppedRun hub reads history system) {connId : ConnId}
    {connection : Connection} (found : system.connections connId = some connection) {task : Task}
    (serves : task = .connection ∨ task = .billing) (idle : connection.isIdle task = true) :
    Dismissed hub (own connId task history) := by
  rcases serves with rfl | rfl
  · exact ((run.settles connId).2 connection found).settled_of_idle idle (run.unstopped connId)
  · have settles := ((Run.billed run.run) connId).2 connection found
    unfold Connection.isIdle at idle
    cases billing : connection.billing with
    | checking =>
        rw [billing] at idle
        cases idle
    | sleeping =>
        rw [billing] at settles
        exact settles
    | returned =>
        rw [billing] at settles
        exact settles.1

/-- What a task owes nothing of, the history shows. -/
theorem UndroppedRun.closed (run : UndroppedRun hub reads history system)
    {later earlier : List Event}
    {event : Event} (split : history = later ++ event :: earlier) {target : ConnId}
    (member : target ∈ event.dismisses hub)
    (dismissed : Dismissed hub (own event.connId event.task history)) :
    ∃ close ∈ later, close.Closes target := by
  have happened : event ∈ history := by
    rw [split]
    exact List.mem_append_right _ List.mem_cons_self
  have explained := (run.events event happened).1 (List.ne_nil_of_mem member)
  have parts : own event.connId event.task history =
      own event.connId event.task later ++ event :: own event.connId event.task earlier := by
    rw [split]
    simp [own]
  obtain ⟨close, among, sends⟩ | impossible := dismissed _ event _ parts explained target member
  · have before := (mem_own.mp among).1
    have occurred : close ∈ history := by
      rw [split]
      exact List.mem_append_left _ before
    exact ⟨close, before, (run.events close occurred).2.1 target sends⟩
  · exact impossible.elim

theorem UndroppedRun.underWay (run : UndroppedRun hub reads history system) {close : Event}
    {target : ConnId} (happened : close ∈ history) (closes : close.Closes target) :
    CloseUnderWay history system.shared target := by
  obtain ⟨trace, shared⟩ := Run.trace run.run
  rw [shared]
  exact (trace.close_underWay happened closes).1

/-- Whoever is in the room has been billed until its billing task decided to disconnect it. -/
theorem UndroppedRun.decided (run : UndroppedRun hub reads history system) {connId : ConnId}
    {connection : Connection} (found : system.connections connId = some connection)
    (unbilled : connection.isUnbilled = true) (member : connId ∈ system.shared.connections) :
    ∃ event ∈ own connId .billing history, (∃ nowMs, event.op = .billing nowMs) ∧
      connId ∈ event.dismisses hub := by
  have charging := ((Run.billed run.run) connId).2 connection found
  have ended : BillingEnded hub connId (own connId .billing history) := by
    unfold Connection.isUnbilled at unbilled
    cases billing : connection.billing with
    | sleeping | checking =>
        rw [billing] at unbilled
        cases unbilled
    | returned =>
        rw [billing] at charging
        exact charging.2
  obtain ⟨event, among, charges, decided | absent⟩ := ended
  · exact ⟨event, among, charges, decided⟩
  · obtain ⟨happened, rfl, task⟩ := mem_own.mp among
    obtain ⟨later, earlier, split⟩ := List.append_of_mem happened
    obtain ⟨moved, move, _, past, _, made⟩ := run.run.earlier later split
    have connected : Connected earlier event.connId :=
      Run.connected past ((System.event_made made).2.2 task)
    obtain ⟨trace, shared⟩ := Run.trace run.run
    rw [shared, split] at member
    rw [split] at trace
    exact absurd member (trace.stays_out connected absent)

/-- The billing task of whoever is in the room has ended with a close message only, and only
for who reads. -/
theorem UndroppedRun.unbilled (run : UndroppedRun hub reads history system) {connId : ConnId}
    {connection : Connection} (found : system.connections connId = some connection)
    (unbilled : connection.isUnbilled = true) (member : connId ∈ system.shared.connections) :
    reads connId ∧ CloseUnderWay history system.shared connId := by
  obtain ⟨event, among, ⟨nowMs, charges⟩, decided⟩ := run.decided found unbilled member
  obtain ⟨happened, rfl, task⟩ := mem_own.mp among
  constructor
  · by_contra silent
    obtain ⟨⟨_, _, _, moderates⟩, _⟩ := (run.events event happened).2.2 _ decided silent
    rw [charges] at moderates
    cases moderates
  · have idle : connection.isIdle .billing = true := by
      unfold Connection.isUnbilled at unbilled
      unfold Connection.isIdle
      cases billing : connection.billing with
      | sleeping | returned => rfl
      | checking =>
          rw [billing] at unbilled
          cases unbilled
    have dismissed := run.dismissed found (.inr rfl) idle
    rw [← task] at dismissed
    obtain ⟨later, earlier, split⟩ := List.append_of_mem happened
    obtain ⟨close, before, closes⟩ := run.closed split decided dismissed
    refine run.underWay ?_ closes
    rw [split]
    exact List.mem_append_left _ before

/-- Whoever was kicked, does not read and is still in the room pays for it. -/
theorem UndroppedRun.billed (run : UndroppedRun hub reads history system) {event : Event}
    (happened : event ∈ history) {target : ConnId} (decided : target ∈ event.dismisses hub)
    (silent : ¬ reads target) (member : target ∈ system.shared.connections) :
    system.shared.hasJoined target = true ∧
      ∃ connection, system.connections target = some connection ∧
        connection.isUnbilled = false := by
  obtain ⟨_, joined⟩ := (run.events event happened).2.2 target decided silent
  obtain ⟨trace, shared⟩ := Run.trace run.run
  constructor
  · obtain ⟨later, earlier, split⟩ := List.append_of_mem happened
    rw [shared, split] at member ⊢
    rw [split] at trace
    obtain ⟨_, before, _⟩ := trace.lawful later
    rw [before] at joined
    have regrouped : later ++ event :: earlier = [] ++ ((later ++ [event]) ++ earlier) := by simp
    rw [regrouped] at trace member ⊢
    exact trace.joined_throughout joined member
  · obtain ⟨room, current, key⟩ := HubRoom.exists_of_mem_connections member
    obtain ⟨connection, found⟩ :=
      Option.ne_none_iff_exists'.mp ((Run.safe run.run).known room target current key)
    refine ⟨connection, found, ?_⟩
    by_contra unbilled
    exact silent (run.unbilled found (Bool.eq_true_of_not_eq_false unbilled) member).1

end Runs

/-- In a run in which no step drops a decision, every decision to disconnect is put into
effect. -/
theorem disconnects_kept (hub : HubState) (reads : ConnId → Prop) {history : List Event}
    {system : System} (run : UndroppedRun hub reads history system) :
    DisconnectsKept hub reads history system where
  closed := by
    intro later event earlier split target member connection found idle
    have serves : event.task = .connection ∨ event.task = .billing := by
      obtain ⟨_, _, _, _, _, made⟩ := run.run.earlier later split
      refine (System.event_made made).2.1 ?_
      by_contra cannot
      rw [event.dismisses_of_not (Bool.eq_false_iff.mpr cannot)] at member
      cases member
    exact run.closed split member (run.dismissed found serves idle)
  underWay := fun _ happened _ closes => run.underWay happened closes
  unbilled := fun _ _ found unbilled member => run.unbilled found unbilled member
  billed := fun _ happened _ decided silent member => run.billed happened decided silent member

/-! ### Scripts -/

/-- The frame that the phase is about to decode can be encoded again. -/
def Phase.audits (hub : HubState) : Phase → Bool
  | .draining decoder =>
      match decoder.tryNext hub.norito with
      | (.ok (some frame), _) => !asksToDismiss frame || (encodable hub frame).isSome
      | _ => true
  | _ => true

theorem Phase.decodes_of_audits {hub : HubState} {phase : Phase}
    (audits : phase.audits hub = true) :
    phase.Decodes hub (Auditable hub) := by
  rintro decoder frame rest rfl decoded asks
  simp only [Phase.audits, decoded, asks] at audits
  simpa using audits

/-- The operation is the critical section of a moderation. -/
def Operation.moderates : Operation → Bool
  | .moderation _ _ _ => true
  | _ => false

/-- The event does not drop a decision, as far as a script has to tell. -/
def Event.forwards (hub : HubState) (reads : ConnId → Bool) (event : Event) : Bool :=
  ((event.dismisses hub).all fun target =>
    reads target || (event.op.moderates && event.before.hasJoined target)) &&
  match event.op with
  | .trySend target .close => (event.before.channels target).accepts
  | .moderation moderation _ _ =>
      moderation.action != .kick || (encodable hub (.error ⟨kickReason moderation⟩)).isSome
  | .lookup target => decide (target ∈ event.before.connections)
  | .backpressure _ _ => false
  | _ => true

/-- The step does not drop a decision, as far as a script has to tell. -/
def System.forwards (hub : HubState) (reads : ConnId → Bool) (system : System) (move : Move) :
    Bool :=
  (system.event move).all (·.forwards hub reads) &&
  match move with
  | .advance connId _ => (system.connections connId).all (·.phase.audits hub)
  | _ => true

theorem System.forwards_undropped {hub : HubState} {reads : ConnId → Bool} (history : List Event)
    (system : System) (move : Move) (forwards : system.forwards hub reads move = true) :
    Undropped hub (fun connId => reads connId = true) history system move := by
  obtain ⟨events, phases⟩ := Bool.and_eq_true_iff.mp forwards
  have passes : ∀ event, system.event move = some event → event.forwards hub reads = true := by
    intro event made
    rw [made, Option.all_some] at events
    exact events
  constructor
  · intro event target made sends
    have passed := (Bool.and_eq_true_iff.mp (passes event made)).2
    rw [sends] at passed
    rw [← (System.event_made made).1]
    exact passed
  · intro event made _ moderation nowMs admitAtMs op kicks
    have passed := (Bool.and_eq_true_iff.mp (passes event made)).2
    rw [op] at passed
    simpa [kicks] using passed
  · rintro connId clock connection rfl found
    simp only [found, Option.all_some] at phases
    exact Phase.decodes_of_audits phases
  · intro event made _ _
    have passed := (Bool.and_eq_true_iff.mp (passes event made)).2
    unfold Event.Spares
    split
    · next op =>
        rw [op] at passed
        exact of_decide_eq_true passed
    · next op =>
        rw [op] at passed
        cases passed
    · trivial
  · intro event target made decided silent
    have heard := (Bool.and_eq_true_iff.mp (passes event made)).1
    have aimed := (Bool.or_eq_true_iff.mp (List.all_eq_true.mp heard target decided)).resolve_left
      silent
    obtain ⟨moderates, joined⟩ := Bool.and_eq_true_iff.mp aimed
    refine ⟨?_, joined⟩
    cases op : event.op with
    | moderation moderation nowMs admitAtMs => exact ⟨moderation, nowMs, admitAtMs, rfl⟩
    | _ =>
        rw [op] at moderates
        cases moderates

def closingHub : HubState :=
  scriptedHub [helloAs "alice@sora", helloAs "bob@sora",
    .moderation { sentAtMs := 1, target := .participant "bob@sora", action := .kick }]

/-- Alice and bob join, and alice kicks bob. When she is disconnected for what she has not paid,
she reads the `Close` and leaves. -/
def keptScript : List Move :=
  [.connect 1 0, .connect 2 0] ++ sendsFrame 1 0 1 28 ++ sendsFrame 2 1 2 30 ++
    sendsFrame 1 2 3 12 ++ .billingTick 1 :: List.replicate 5 (.advanceBilling 1 10) ++
      List.replicate 13 (.deliver 1) ++ closes 1 11 17

/-- Somebody has decided to disconnect the connection. -/
def isDismissed (hub : HubState) (history : List Event) (connId : ConnId) : Bool :=
  history.any fun event => (event.dismisses hub).contains connId

/-- Alice reads what she is sent, bob does not. Alice is out, and bob goes on paying. -/
theorem disconnects_kept_script : ∃ history system, Run closingHub history system ∧
    (isDismissed closingHub history 1 = true ∧ 1 ∉ system.shared.connections) ∧
      (isDismissed closingHub history 2 = true ∧ 2 ∈ system.shared.connections) ∧
        DisconnectsKept closingHub (fun connId => (connId == 1) = true) history system := by
  have plays : ((hubMachine closingHub).executeWhere (System.forwards closingHub (· == 1))
      keptScript [] System.initial).any (fun result =>
        (isDismissed closingHub result.1 1 && !decide (1 ∈ result.2.shared.connections)) &&
          (isDismissed closingHub result.1 2 && decide (2 ∈ result.2.shared.connections))) =
        true := by
    decide +kernel
  obtain ⟨⟨history, system⟩, executed, checks⟩ := (Option.any_eq_true _ _).mp plays
  simp only [Bool.and_eq_true, Bool.not_eq_true', decide_eq_true_eq, decide_eq_false_iff_not]
    at checks
  have run : UndroppedRun closingHub (fun connId => (connId == 1) = true) history system :=
    Machine.RunWhere.execute System.forwards_undropped .initial executed
  exact ⟨history, system, run.run, checks.1, checks.2, disconnects_kept closingHub _ run⟩

/-- Alice joins, pings so often, and is charged for what she has not paid. -/
def closingScript (pings : Nat) : List Move :=
  .connect 1 0 :: sendsFrame 1 0 0 25 ++ List.replicate pings (.receive 1 (.ping [])) ++
    .billingTick 1 :: List.replicate 5 (.advanceBilling 1 10)

/-- Alice is in the room, and nobody charges her any more. -/
def staysUnbilled (system : System) : Bool :=
  (system.connections 1).any (·.isUnbilled) && decide (1 ∈ system.shared.connections)

def Operation.isTake : Operation → Bool
  | .takeMessage => true
  | _ => false

/-- No close message waits for Alice, and her writer has taken nothing. -/
def unclosed (history : List Event) (system : System) : Bool :=
  (system.shared.channels 1).queue.all (fun message => !message.isClose) &&
    history.all fun event => !event.op.isTake

theorem not_underWay_of_unclosed {history : List Event} {system : System}
    (unclosed : unclosed history system = true) :
    ¬ CloseUnderWay history system.shared 1 := by
  obtain ⟨queue, events⟩ := Bool.and_eq_true_iff.mp unclosed
  rintro (waiting | ⟨event, happened, _, op, _⟩)
  · have other := List.all_eq_true.mp queue .close waiting
    cases other
  · have other := List.all_eq_true.mp events event happened
    rw [op] at other
    cases other

/-- Alice's channel is full when she is to be disconnected: the close message is dropped, and
she stays in the room without being billed, whether she reads or not. -/
theorem disconnects_dropped :
    ¬ ∃ reads : ConnId → Prop, ∀ history system, Run closingHub history system →
      DisconnectsKept closingHub reads history system := by
  rintro ⟨reads, claim⟩
  obtain ⟨history, system, run, checks⟩ := Run.of_played closingHub (closingScript 250)
    (fun history system => staysUnbilled system && unclosed history system) (by decide +kernel)
  obtain ⟨stays, unclosed⟩ := Bool.and_eq_true_iff.mp checks
  obtain ⟨known, member⟩ := Bool.and_eq_true_iff.mp stays
  obtain ⟨connection, found, unbilled⟩ := (Option.any_eq_true _ _).mp known
  have kept := (claim history system run).unbilled 1 connection found unbilled
    (of_decide_eq_true member)
  exact not_underWay_of_unclosed unclosed kept.2

/-- A close message finds room in the channel of its target. -/
def Event.closeFits (event : Event) : Bool :=
  match event.op with
  | .trySend target .close => (event.before.channels target).accepts
  | _ => true

/-- Alice's channel has room for the close message, but she does not read it: she stays in the
room without being billed all the same. -/
theorem disconnects_unheard :
    ¬ ∀ history system, Run closingHub history system →
      (∀ event ∈ history, ∀ target, event.op = .trySend target .close → event.Closes target) →
        DisconnectsKept closingHub (fun _ => False) history system := by
  intro claim
  obtain ⟨history, system, run, checks⟩ := Run.of_played closingHub (closingScript 0)
    (fun history system => staysUnbilled system && history.all (·.closeFits)) (by decide +kernel)
  obtain ⟨stays, sent⟩ := Bool.and_eq_true_iff.mp checks
  obtain ⟨known, member⟩ := Bool.and_eq_true_iff.mp stays
  obtain ⟨connection, found, unbilled⟩ := (Option.any_eq_true _ _).mp known
  have accepted : ∀ event ∈ history, ∀ target, event.op = .trySend target .close →
      event.Closes target := by
    intro event happened target sends
    have passed := List.all_eq_true.mp sent event happened
    unfold Event.closeFits at passed
    rw [sends] at passed
    exact ⟨sends, passed⟩
  exact ((claim history system run accepted).unbilled 1 connection found unbilled
    (of_decide_eq_true member)).1

end Kaigi.Hub
