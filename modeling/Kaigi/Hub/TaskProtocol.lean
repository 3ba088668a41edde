import Kaigi.Hub.Runs

/-!
# Protocols of a connection task

What a handler may do next often depends on what its task has done before. A
protocol says which operations the own history of a connection task admits. If
every handler keeps to it, so does the task in every run.
-/

set_option autoImplicit false

namespace Kaigi.Hub

open Collections Wire Interleaving

/-- The contract of a connection task that relies on nothing but that nobody else
writes its own history. -/
def ownContract (hub : HubState) (connId : ConnId)
    (admits : List Event → Operation → HubRoom → Prop) :
    Contract HubRoom World Operation HubError where
  view := World.shared
  act := fun op world => {
    shared := op.apply hub connId world.shared
    own := ⟨connId, .connection, op, world.shared⟩ :: world.own }
  rely := fun before after => after.own = before.own
  rely_refl := fun _ => rfl
  rely_trans := fun first second => second.trans first
  guard := fun op world => admits world.own op world.shared
  abort := fun _ _ => True
  abort_stable := fun _ _ => trivial

/-- The contract of a task that relies on the same, and fails only where its own past says that
it may. -/
def taskContract (hub : HubState) (connId : ConnId) (task : Task) (mayFail : List Event → Prop) :
    Contract HubRoom World Operation HubError :=
  { ownContract hub connId (fun _ _ _ => True) with
    act := fun op world => {
      shared := op.apply hub connId world.shared
      own := ⟨connId, task, op, world.shared⟩ :: world.own }
    abort := fun _ world => mayFail world.own
    abort_stable := by
      intro _ before after same holds
      rw [show after.own = before.own from same]
      exact holds }

/-! ### Tasks that owe something -/

section Owing

variable {settled : List Event → Prop} {spares : Event → Prop} {past : List Event} {event : Event}

/-- Every step that left something owed has let the handler go on. -/
def Unstopped (settled : List Event → Prop) (spares : Event → Prop) (past : List Event) : Prop :=
  ∀ newer event older, past = newer ++ event :: older → ¬ settled (event :: older) → spares event

/-- The handler may fail: nothing is owed, or a step has stopped it. -/
def Excused (settled : List Event → Prop) (spares : Event → Prop) (past : List Event) : Prop :=
  Unstopped settled spares past → settled past

theorem Unstopped.tail (unstopped : Unstopped settled spares (event :: past)) :
    Unstopped settled spares past :=
  fun newer current older split => unstopped (event :: newer) current older (by rw [split]; rfl)

theorem Unstopped.cons (unstopped : Unstopped settled spares past)
    (spared : ¬ settled (event :: past) → spares event) :
    Unstopped settled spares (event :: past) := by
  intro newer current older split owes
  cases newer with
  | nil =>
      obtain ⟨rfl, rfl⟩ := List.cons.inj split
      exact spared owes
  | cons latest rest => exact unstopped rest current older (List.cons.inj split).2 owes

theorem Excused.cons (excused : Excused settled spares past)
    (kept : settled past → settled (event :: past)) : Excused settled spares (event :: past) :=
  fun unstopped => kept (excused unstopped.tail)

theorem Excused.of_stopped (stops : ¬ spares event) : Excused settled spares (event :: past) := by
  intro unstopped
  by_contra owes
  exact stops (unstopped [] event past rfl owes)

end Owing

/-- The step of a handler after which it goes on: it looks up a connection that the room has, and
a notice to the moderators can be encoded. -/
def Event.Spares (hub : HubState) (event : Event) : Prop :=
  match event.op with
  | .lookup target => target ∈ event.before.connections
  | .backpressure dropped nowMs => ∀ room notice, event.before.room = some room →
      (backpressureSection room dropped nowMs).2 = some notice →
        (encodable hub (.error ⟨notice⟩)).isSome = true
  | _ => True

/-! ### What a program keeps -/

section Keeps

variable {hub : HubState} {connId : ConnId} {task : Task} {mayFail : List Event → Prop}
  {Value : Type} {holds : List Event → Prop}

theorem stable_past (holds : List Event → Prop) :
    Process.Stable (taskContract hub connId task mayFail) fun world => holds world.own := by
  intro before after same here
  rw [show after.own = before.own from same]
  exact here

/-- One operation that does not break the assertion. -/
theorem keeps_perform (holds : List Event → Prop) {op : Operation} {view : HubRoom → Value}
    (kept : ∀ state past, holds past → holds (⟨connId, task, op, state⟩ :: past)) :
    (Process.perform op view : Handler Value).Keeps (taskContract hub connId task mayFail)
      fun world => holds world.own :=
  .atomic (stable_past holds) (fun _ _ => trivial)
    (fun world here => kept world.shared world.own here) fun _ => .done (stable_past holds) _

theorem keeps_encodeOrFail {frame : KaigiFrame}
    (fails : encodable hub frame = none → ∀ past, holds past → mayFail past) :
    (encodeOrFail hub frame).Keeps (taskContract hub connId task mayFail)
      fun world => holds world.own := by
  unfold encodeOrFail
  cases encoded : encodeFramed hub.norito frame with
  | error => exact fun world here => fails (by simp [encodable, encoded]) world.own here
  | ok => exact .done (stable_past holds) ()

/-- A lookup fails where it finds nobody. -/
theorem keeps_lookupSender (holds : List Event → Prop) {target : ConnId}
    (kept : ∀ state past, holds past → holds (⟨connId, task, .lookup target, state⟩ :: past))
    (fails : ∀ state past, target ∉ state.connections → holds past →
      mayFail (⟨connId, task, .lookup target, state⟩ :: past)) :
    (lookupSender target).Keeps (taskContract hub connId task mayFail)
      fun world => holds world.own := by
  intro world here later same
  have was : holds later.own := stable_past holds same here
  refine ⟨trivial, ?_⟩
  change Process.Meets _ _ (lookedUp target later.shared.room) _
  cases found : later.shared.room with
  | none =>
      refine fails later.shared later.own ?_ was
      simp [HubRoom.connections, found]
  | some room =>
      simp only [lookedUp]
      split
      · exact Process.Keeps.done (stable_past holds) () _ (kept later.shared later.own was)
      · next missing =>
          refine fails later.shared later.own ?_ was
          rw [HubRoom.connections_of_some found, HashMap.mem_keys]
          exact missing

/-- The end of a fan-out. A notice that cannot be encoded has stopped the handler already. -/
theorem keeps_afterFanout (holds : List Event → Prop) {settled : List Event → Prop} (dropped : Nat)
    (silent : ∀ nowMs state past, holds past →
      (state.room.bind fun room => (backpressureSection room dropped nowMs).2) = none →
        holds (⟨connId, task, .backpressure dropped nowMs, state⟩ :: past))
    (tells : ∀ nowMs state past notice world, holds past →
      (state.room.bind fun room => (backpressureSection room dropped nowMs).2) = some notice →
      world.own = ⟨connId, task, .backpressure dropped nowMs, state⟩ :: past →
      (encodable hub (.error ⟨notice⟩) = none → Excused settled (Event.Spares hub) world.own) →
        (notifyModerators hub notice).Meets
          (taskContract hub connId task (Excused settled (Event.Spares hub)))
          (fun _ later => holds later.own) world) :
    (afterFanout hub dropped).Keeps
      (taskContract hub connId task (Excused settled (Event.Spares hub)))
      fun world => holds world.own := by
  unfold afterFanout
  split
  · intro world here now later same
    have was : holds later.own := stable_past holds same here
    refine ⟨trivial, ?_⟩
    change Process.Meets (taskContract hub connId task (Excused settled (Event.Spares hub))) _ _
      (⟨(Operation.backpressure dropped now).apply hub connId later.shared,
        ⟨connId, task, .backpressure dropped now, later.shared⟩ :: later.own⟩ : World)
    dsimp only
    rw [Process.done_bind]
    split
    · next quiet =>
        exact Process.Keeps.done (stable_past holds) () _ (silent now later.shared _ was quiet)
    · next notice shows =>
        refine tells now later.shared later.own notice _ was shows rfl fun unsent => ?_
        obtain ⟨room, found, noticed⟩ := Option.bind_eq_some_iff.mp shows
        refine .of_stopped fun spares => ?_
        have sent := spares room notice found noticed
        rw [unsent] at sent
        cases sent
  · exact .done (stable_past holds) ()

/-- A program that might fail anywhere may fail where the assertion that it keeps allows it. -/
theorem performs_restricted {allowed : Operation → Prop} {program : Handler Value}
    {post : Value → World → Prop} {world : World} (performs : program.Performs allowed)
    (kept : ∀ op state past, allowed op → holds past →
      holds (⟨connId, task, op, state⟩ :: past))
    (fails : ∀ past, holds past → mayFail past)
    (meets : program.Meets (taskContract hub connId task fun _ => True) post world)
    (start : holds world.own) :
    program.Meets (taskContract hub connId task mayFail) post world := by
  induction program generalizing world with
  | done value => exact meets
  | fail error => exact fails world.own start
  | ask next ih => exact fun answer => ih answer (performs answer) (meets answer) start
  | atomic op next ih =>
      intro later same
      obtain ⟨_, rest⟩ := meets later same
      have was : holds later.own := stable_past holds same start
      exact ⟨trivial, ih _ (performs.2 _) rest (kept op later.shared later.own performs.1 was)⟩

end Keeps

/-! ### What a step does to one connection -/

/-- The event is none of the tasks of the connection. -/
def Event.Foreign (connId : ConnId) (event : Event) : Prop :=
  event.connId ≠ connId ∨ event.task ≠ .connection ∧ event.task ≠ .billing

/-- What a step makes of a connection. -/
inductive ConnectionStep (hub : HubState) (system : System) (connId : ConnId)
    (connection : Connection) : Move → Connection → Prop where
  | elsewhere {move : Move} : (∀ event, system.event move = some event → event.Foreign connId) →
      ConnectionStep hub system connId connection move connection
  | received {decoder : FrameDecoder} {message : WsEvent} :
      connection.phase = .receiving decoder →
      ConnectionStep hub system connId connection (.receive connId message)
        { connection with phase := System.received decoder message }
  | advanced {clock : Nat} {phase : Phase} :
      System.advanced hub connId clock system.shared connection.phase = some phase →
      ConnectionStep hub system connId connection (.advance connId clock)
        { connection with phase := phase }
  | writerEnded : connection.phase = .ended → (system.shared.channels connId).closed = true →
      ConnectionStep hub system connId connection (.writerEnded connId)
        { connection with phase := .disconnecting (handleDisconnect hub connId) }
  | ticked : connection.billing = .sleeping →
      ConnectionStep hub system connId connection (.billingTick connId)
        { connection with billing := .checking (enforceBilling hub connId) }
  | billed {clock : Nat} {billing : BillingPhase} :
      System.billingAdvanced clock system.shared connection.billing = some billing →
      ConnectionStep hub system connId connection (.advanceBilling connId clock)
        { connection with billing := billing }

section Steps

variable {hub : HubState} {system next : System} {move : Move} {connId : ConnId}
  {history : List Event} {connection : Connection}

theorem System.step_connections (stepped : system.step hub move = some next) :
    ∃ moved, system.moved hub move = some moved ∧ next.connections = moved.connections := by
  obtain ⟨moved, possible, rfl⟩ := Option.map_eq_some_iff.mp stepped
  refine ⟨moved, possible, ?_⟩
  cases system.event move <;> rfl

/-- Every step is one of these for every connection. -/
theorem System.connectionStep (stepped : system.step hub move = some next)
    (found : system.connections connId = some connection) :
    ∃ after, next.connections connId = some after ∧
      ConnectionStep hub system connId connection move after := by
  obtain ⟨moved, possible, connections⟩ := System.step_connections stepped
  rw [connections]
  have aside : ∀ {target : ConnId} {current : Connection}, target ≠ connId →
      (system.setConnection target current).connections connId = some connection := by
    intro target current other
    rw [← found]
    simp [System.setConnection, Ne.symm other]
  have here : ∀ {current : Connection},
      (system.setConnection connId current).connections connId = some current := by
    simp [System.setConnection]
  cases System.moved_cases possible with
  | @connected target connectedAtMs unused =>
      have other : target ≠ connId := by
        rintro rfl
        rw [found] at unused
        cases unused
      refine ⟨connection, aside other, .elsewhere fun event made => .inl ?_⟩
      cases made
      exact other
  | @received target message current decoder known receiving =>
      by_cases same : target = connId
      · subst same
        rw [found] at known
        cases known
        exact ⟨_, here, .received receiving⟩
      · refine ⟨connection, aside same, .elsewhere fun event made => .inl ?_⟩
        cases message with
        | ping => cases made; exact same
        | _ => cases made
  | @advanced target clock current phase known advanced =>
      by_cases same : target = connId
      · subst same
        rw [found] at known
        cases known
        exact ⟨_, here, .advanced advanced⟩
      · refine ⟨connection, aside same, .elsewhere fun event made => .inl ?_⟩
        obtain ⟨_, _, rfl⟩ := Option.map_eq_some_iff.mp made
        exact same
  | @writerEnded target current known ended closed =>
      by_cases same : target = connId
      · subst same
        rw [found] at known
        cases known
        exact ⟨_, here, .writerEnded ended closed⟩
      · exact ⟨connection, aside same, .elsewhere fun _ made => by cases made⟩
  | @ticked target current known sleeping =>
      by_cases same : target = connId
      · subst same
        rw [found] at known
        cases known
        exact ⟨_, here, .ticked sleeping⟩
      · exact ⟨connection, aside same, .elsewhere fun _ made => by cases made⟩
  | @billed target clock current billing known advanced =>
      by_cases same : target = connId
      · subst same
        rw [found] at known
        cases known
        exact ⟨_, here, .billed advanced⟩
      · refine ⟨connection, aside same, .elsewhere fun event made => .inl ?_⟩
        obtain ⟨_, _, rfl⟩ := Option.map_eq_some_iff.mp made
        exact same
  | delivered | writerStopped | reordered =>
      refine ⟨connection, found, .elsewhere fun event made => .inr ?_⟩
      cases made
      simp

/-- A connection that is not there comes into being by its connect only. -/
theorem System.birthStep (stepped : system.step hub move = some next)
    (unused : system.connections connId = none) :
    (next.connections connId = none ∧
      ∀ event, system.event move = some event → event.Foreign connId) ∨
    ∃ connectedAtMs, move = .connect connId connectedAtMs ∧
      next.connections connId = some ⟨.receiving .new, .sleeping⟩ := by
  obtain ⟨moved, possible, connections⟩ := System.step_connections stepped
  rw [connections]
  have aside : ∀ {target : ConnId} {current : Connection}, target ≠ connId →
      (system.setConnection target current).connections connId = none := by
    intro target current other
    rw [← unused]
    simp [System.setConnection, Ne.symm other]
  have other : ∀ {target : ConnId} {current : Connection},
      system.connections target = some current → target ≠ connId := by
    rintro target current known rfl
    rw [unused] at known
    cases known
  cases System.moved_cases possible with
  | @connected target connectedAtMs =>
      by_cases same : target = connId
      · subst same
        exact .inr ⟨connectedAtMs, rfl, by simp [System.setConnection]⟩
      · refine .inl ⟨aside same, fun event made => .inl ?_⟩
        cases made
        exact same
  | @received target message current decoder known =>
      refine .inl ⟨aside (other known), fun event made => .inl ?_⟩
      cases message with
      | ping => cases made; exact other known
      | _ => cases made
  | advanced known | billed known =>
      refine .inl ⟨aside (other known), fun event made => .inl ?_⟩
      obtain ⟨_, _, rfl⟩ := Option.map_eq_some_iff.mp made
      exact other known
  | writerEnded known | ticked known =>
      exact .inl ⟨aside (other known), fun _ made => by cases made⟩
  | delivered | writerStopped | reordered =>
      refine .inl ⟨unused, fun event made => .inr ?_⟩
      cases made
      simp

/-- What the task has done after a step. -/
theorem own_elsewhere {task : Task} (foreign : ∀ event, system.event move = some event →
      event.connId ≠ connId ∨ event.task ≠ task) :
    own connId task ((system.event move).toList ++ history) = own connId task history := by
  cases made : system.event move with
  | none => rfl
  | some event => exact own_cons_other history (foreign event made)

theorem own_advance (clock : Nat) (found : system.connections connId = some connection) :
    own connId .connection ((system.event (.advance connId clock)).toList ++ history) =
      ((System.phaseOperation? connection.phase).map fun op =>
        (⟨connId, .connection, op, system.shared⟩ : Event)).toList ++
          own connId .connection history := by
  rw [event_advance found]
  cases System.phaseOperation? connection.phase with
  | none => rfl
  | some op => exact own_cons_self connId .connection op system.shared history

theorem own_advanceBilling (clock : Nat) (found : system.connections connId = some connection) :
    own connId .billing ((system.event (.advanceBilling connId clock)).toList ++ history) =
      ((System.billingOperation? connection.billing).map fun op =>
        (⟨connId, .billing, op, system.shared⟩ : Event)).toList ++ own connId .billing history := by
  rw [event_advanceBilling clock found]
  cases System.billingOperation? connection.billing with
  | none => rfl
  | some op => exact own_cons_self connId .billing op system.shared history

/-- A step of the billing task is none of the connection task. -/
theorem own_billed (clock : Nat) :
    own connId .connection ((system.event (.advanceBilling connId clock)).toList ++ history) =
      own connId .connection history := by
  refine own_elsewhere fun event made => .inr ?_
  obtain ⟨_, _, rfl⟩ := Option.map_eq_some_iff.mp made
  exact nofun

/-- The steps of a connection task are none of its billing task. -/
theorem own_served (connects : ∀ event, system.event move = some event → event.task = .connection) :
    own connId .billing ((system.event move).toList ++ history) = own connId .billing history := by
  refine own_elsewhere fun event made => .inr ?_
  rw [connects event made]
  exact nofun

end Steps

/-! ### Tasks that settle what they owe -/

/-- The frames that the phase is about to decode satisfy a condition. -/
def Phase.Decodes (hub : HubState) (serves : KaigiFrame → Prop) (phase : Phase) : Prop :=
  ∀ decoder frame rest, phase = .draining decoder →
    decoder.tryNext hub.norito = (.ok (some frame), rest) → serves frame

/-- Between two handlers the task of the connection has settled what it owes. The handlers of the
frames that it `serves` settle it again, or fail where they may. -/
structure Settling (hub : HubState) (connId : ConnId) (settled mayFail : List Event → Prop)
    (serves : KaigiFrame → Prop) : Prop where
  start : settled []
  connects : ∀ connectedAtMs state past, settled past →
    settled (⟨connId, .connection, .connect connectedAtMs, state⟩ :: past)
  pongs : ∀ payload state past, settled past →
    settled (⟨connId, .connection, .trySend connId (.pong payload), state⟩ :: past)
  stops : ∀ past, settled past → mayFail past
  handles : ∀ frame world, serves frame → settled world.own →
    (handleFrame hub connId frame).Meets (taskContract hub connId .connection mayFail)
      (fun _ later => settled later.own) world
  leaves : ∀ world, settled world.own →
    (handleDisconnect hub connId).Meets (taskContract hub connId .connection mayFail)
      (fun _ later => settled later.own) world

/-- Where a task stands that settles what it owes. -/
def Phase.Settles (hub : HubState) (connId : ConnId) (settled mayFail : List Event → Prop)
    (world : World) : Phase → Prop
  | .receiving _ | .draining _ | .ended | .returned (.ok _) => settled world.own
  | .handling _ handler | .disconnecting handler =>
      handler.Meets (taskContract hub connId .connection mayFail)
        (fun _ later => settled later.own) world
  | .returned (.error _) => mayFail world.own

section Settling

variable {hub : HubState} {connId : ConnId} {settled mayFail : List Event → Prop}
  {serves : KaigiFrame → Prop} {before later world : World} {phase next : Phase}

theorem Phase.Settles.stable (settles : phase.Settles hub connId settled mayFail before)
    (own : later.own = before.own) : phase.Settles hub connId settled mayFail later := by
  unfold Phase.Settles at settles ⊢
  split at settles
  · rw [own]
    exact settles
  · rw [own]
    exact settles
  · rw [own]
    exact settles
  · rw [own]
    exact settles
  · exact Process.Meets.stable settles own
  · exact Process.Meets.stable settles own
  · rw [own]
    exact settles

theorem Settling.advanced (settling : Settling hub connId settled mayFail serves)
    (settles : phase.Settles hub connId settled mayFail world) (decodes : phase.Decodes hub serves)
    {clock : Nat} (advanced : System.advanced hub connId clock world.shared phase = some next)
    (own : later.own = ((System.phaseOperation? phase).map fun op =>
      (⟨connId, .connection, op, world.shared⟩ : Event)).toList ++ world.own) :
    next.Settles hub connId settled mayFail later := by
  cases phase with
  | receiving | ended | returned => cases advanced
  | draining decoder =>
      have same : later.own = world.own := own
      have rests : settled later.own := by
        rw [same]
        exact settles
      simp only [System.advanced] at advanced
      split at advanced
      · cases advanced
        exact settling.stops later.own rests
      · cases advanced
        exact rests
      · next decoded =>
          cases advanced
          exact settling.handles _ later (decodes decoder _ _ rfl decoded) rests
  | handling _ handler | disconnecting handler =>
      cases handler with
      | done value =>
          cases advanced
          exact settles later own
      | fail error =>
          cases advanced
          have may : mayFail world.own := settles
          rw [← show later.own = world.own from own] at may
          exact may
      | ask rest =>
          cases advanced
          exact Process.Meets.stable (settles clock) own
      | atomic op rest =>
          cases advanced
          exact Process.Meets.stable (settles world rfl).2 own

variable {history : List Event} {system : System}

/-- Where the task of a connection stands that may not be there yet. -/
def TaskSettles (hub : HubState) (connId : ConnId) (settled mayFail : List Event → Prop)
    (history : List Event) (system : System) : Prop :=
  (system.connections connId = none → own connId .connection history = []) ∧
    ∀ connection, system.connections connId = some connection →
      connection.phase.Settles hub connId settled mayFail
        (worldOf connId .connection history system.shared)

theorem Settling.step (settling : Settling hub connId settled mayFail serves) {next : System}
    {move : Move} (here : TaskSettles hub connId settled mayFail history system)
    (decodes : ∀ clock connection, move = .advance connId clock →
      system.connections connId = some connection → connection.phase.Decodes hub serves)
    (stepped : system.step hub move = some next) :
    TaskSettles hub connId settled mayFail ((system.event move).toList ++ history) next := by
  obtain ⟨unborn, stands⟩ := here
  cases known : system.connections connId with
  | none =>
      have nothing := unborn known
      rcases System.birthStep stepped known with ⟨unused, foreign⟩ | ⟨connectedAtMs, rfl, born⟩
      · have same : own connId .connection ((system.event move).toList ++ history) =
            own connId .connection history :=
          own_elsewhere fun event made => (foreign event made).imp_right And.left
        refine ⟨fun _ => same.trans nothing, fun connection found => ?_⟩
        rw [unused] at found
        cases found
      · refine ⟨fun unused => ?_, fun connection found => ?_⟩
        · rw [born] at unused
          cases unused
        · rw [born] at found
          cases found
          change settled (own connId .connection (_ :: history))
          rw [own_cons_self, nothing]
          exact settling.connects connectedAtMs system.shared [] settling.start
  | some connection =>
      obtain ⟨after, present, step⟩ := System.connectionStep stepped known
      have before := stands connection known
      refine ⟨fun unused => ?_, fun current found => ?_⟩
      · rw [present] at unused
        cases unused
      · rw [present] at found
        cases found
        cases step with
        | elsewhere foreign =>
            exact before.stable (own_elsewhere fun event made =>
              (foreign event made).imp_right And.left)
        | @received decoder message receiving =>
            rw [receiving] at before
            have rests : settled (own connId .connection history) := before
            cases message with
            | ping payload =>
                change settled (own connId .connection (_ :: history))
                rw [own_cons_self]
                exact settling.pongs payload system.shared _ rests
            | binary | ignored | close | endOfStream => exact rests
            | error => exact settling.stops _ rests
        | @advanced clock _ advanced =>
            exact settling.advanced before (decodes clock connection rfl known) advanced
              (own_advance clock known)
        | writerEnded ended =>
            rw [ended] at before
            exact settling.leaves _ before
        | ticked => exact before.stable rfl
        | @billed clock => exact before.stable (own_billed clock)

/-- In every run whose steps decode only frames that are served, the task settles what it owes. -/
theorem Settling.run {allows : List Event → System → Move → Prop}
    (settling : Settling hub connId settled mayFail serves)
    (decodes : ∀ history system clock connection, allows history system (.advance connId clock) →
      system.connections connId = some connection → connection.phase.Decodes hub serves)
    (run : (hubMachine hub).RunWhere allows history system) :
    TaskSettles hub connId settled mayFail history system := by
  refine Machine.RunWhere.invariant (TaskSettles hub connId settled mayFail)
    ⟨fun _ => rfl, fun _ found => by cases found⟩ ?_ run
  intro history system move next _ here allowed stepped
  refine settling.step here (fun clock connection moves known => ?_) stepped
  subst moves
  exact decodes history system clock connection allowed known

end Settling

/-! ### Protocols -/

/-- Which operations the own history of a connection task admits, and what holds of
it between two handlers. -/
structure Protocol (hub : HubState) (connId : ConnId) where
  admits : List Event → Operation → HubRoom → Prop
  resting : List Event → Prop
  connects : ∀ connectedAtMs state,
    resting [⟨connId, .connection, .connect connectedAtMs, state⟩]
  pongs : ∀ past payload state, resting past →
    admits past (.trySend connId (.pong payload)) state ∧
      resting (⟨connId, .connection, .trySend connId (.pong payload), state⟩ :: past)
  serves : ∀ frame world, resting world.own →
    (handleFrame hub connId frame).Meets (ownContract hub connId admits)
      (fun _ later => resting later.own) world
  leaves : ∀ world, resting world.own →
    (handleDisconnect hub connId).Meets (ownContract hub connId admits)
      (fun _ later => resting later.own) world

section Protocol

variable {hub : HubState} {connId : ConnId}

/-- Where a connection task stands that keeps to the protocol. -/
def Protocol.At (protocol : Protocol hub connId) (world : World) : Phase → Prop
  | .receiving _ | .draining _ | .ended | .returned (.ok _) => protocol.resting world.own
  | .handling _ handler | .disconnecting handler =>
      handler.Meets (ownContract hub connId protocol.admits)
        (fun _ later => protocol.resting later.own) world
  | .returned (.error _) => True

theorem Protocol.At.stable {protocol : Protocol hub connId} {before after : World} {phase : Phase}
    (here : protocol.At before phase) (own : after.own = before.own) :
    protocol.At after phase := by
  unfold Protocol.At at here ⊢
  split at here
  · rw [own]
    exact here
  · rw [own]
    exact here
  · rw [own]
    exact here
  · rw [own]
    exact here
  · exact Process.Meets.stable here own
  · exact Process.Meets.stable here own
  · trivial

/-- The task of the connection has kept to the protocol so far. -/
structure Protocol.Kept (protocol : Protocol hub connId) (history : List Event)
    (system : System) : Prop where
  unborn : system.connections connId = none → own connId .connection history = []
  phase : ∀ connection, system.connections connId = some connection →
    protocol.At (worldOf connId .connection history system.shared) connection.phase
  admitted : ∀ later event earlier, history = later ++ event :: earlier →
    event.connId = connId → event.task = .connection →
      (∃ connectedAtMs, event.op = .connect connectedAtMs) ∨
        protocol.admits (own connId .connection earlier) event.op event.before

variable {protocol : Protocol hub connId} {history : List Event} {system : System}

theorem Protocol.Kept.admitted_cons (kept : protocol.Kept history system) {latest : Event}
    (allowed : latest.connId = connId → latest.task = .connection →
      (∃ connectedAtMs, latest.op = .connect connectedAtMs) ∨
        protocol.admits (own connId .connection history) latest.op latest.before)
    (later : List Event) (event : Event) (earlier : List Event)
    (split : latest :: history = later ++ event :: earlier) (same : event.connId = connId)
    (task : event.task = .connection) :
    (∃ connectedAtMs, event.op = .connect connectedAtMs) ∨
      protocol.admits (own connId .connection earlier) event.op event.before := by
  cases later with
  | nil =>
      obtain ⟨rfl, rfl⟩ := List.cons.inj split
      exact allowed same task
  | cons head rest => exact kept.admitted rest event earlier (List.cons.inj split).2 same task

/-- What a step adds to the history of the task. -/
theorem Protocol.Kept.admitted_step (kept : protocol.Kept history system) (event? : Option Event)
    (allowed : ∀ latest, event? = some latest → latest.connId = connId →
      latest.task = .connection → (∃ connectedAtMs, latest.op = .connect connectedAtMs) ∨
        protocol.admits (own connId .connection history) latest.op latest.before) :
    ∀ later event earlier, event?.toList ++ history = later ++ event :: earlier →
      event.connId = connId → event.task = .connection →
        (∃ connectedAtMs, event.op = .connect connectedAtMs) ∨
          protocol.admits (own connId .connection earlier) event.op event.before := by
  cases event? with
  | none => exact kept.admitted
  | some latest => exact kept.admitted_cons (allowed latest rfl)

/-- What the task is about to perform is admitted. -/
theorem Protocol.At.admits {world : World} {phase : Phase} (here : protocol.At world phase)
    {op : Operation} (performs : System.phaseOperation? phase = some op) :
    protocol.admits world.own op world.shared := by
  cases phase with
  | receiving | draining | ended | returned => cases performs
  | handling _ handler | disconnecting handler =>
      cases handler with
      | done | fail | ask => cases performs
      | atomic =>
          cases performs
          exact (here world rfl).1

theorem Protocol.At.advanced {world later : World} {phase next : Phase}
    (here : protocol.At world phase) {clock : Nat}
    (advanced : System.advanced hub connId clock world.shared phase = some next)
    (own : later.own = ((System.phaseOperation? phase).map fun op =>
      (⟨connId, .connection, op, world.shared⟩ : Event)).toList ++ world.own) :
    protocol.At later next := by
  cases phase with
  | receiving | ended | returned => cases advanced
  | draining decoder =>
      have same : later.own = world.own := own
      have rests : protocol.resting later.own := by
        rw [same]
        exact here
      simp only [System.advanced] at advanced
      split at advanced
      · cases advanced
        trivial
      · cases advanced
        exact rests
      · cases advanced
        exact protocol.serves _ later rests
  | handling _ handler | disconnecting handler =>
      cases handler with
      | done value =>
          cases advanced
          exact here later own
      | fail error =>
          cases advanced
          trivial
      | ask rest =>
          cases advanced
          exact Process.Meets.stable (here clock) own
      | atomic op rest =>
          cases advanced
          exact Process.Meets.stable (here world rfl).2 own

/-- Where the task of a connection stands after a step. -/
theorem Protocol.Kept.stands (kept : protocol.Kept history system) {move : Move} {next : System}
    {connection after : Connection} (known : system.connections connId = some connection)
    (step : ConnectionStep hub system connId connection move after) :
    protocol.At (worldOf connId .connection ((system.event move).toList ++ history) next.shared)
      after.phase := by
  have here := kept.phase connection known
  cases step with
  | elsewhere foreign =>
      exact here.stable (own_elsewhere fun event made => (foreign event made).imp_right And.left)
  | @received decoder message receiving =>
      rw [receiving] at here
      have rests : protocol.resting (own connId .connection history) := here
      cases message with
      | ping payload =>
          change protocol.resting (own connId .connection (_ :: history))
          rw [own_cons_self]
          exact (protocol.pongs _ payload system.shared rests).2
      | binary | ignored | close | endOfStream => exact rests
      | error => trivial
  | @advanced clock _ advanced => exact here.advanced advanced (own_advance clock known)
  | writerEnded ended =>
      rw [ended] at here
      exact protocol.leaves _ here
  | ticked => exact here.stable rfl
  | @billed clock => exact here.stable (own_billed clock)

/-- What the task of a connection performs in a step is admitted. -/
theorem Protocol.Kept.admits (kept : protocol.Kept history system) {move : Move}
    {connection after : Connection} (known : system.connections connId = some connection)
    (step : ConnectionStep hub system connId connection move after) {event : Event}
    (made : system.event move = some event) (same : event.connId = connId)
    (task : event.task = .connection) :
    protocol.admits (own connId .connection history) event.op event.before := by
  have here := kept.phase connection known
  cases step with
  | elsewhere foreign =>
      rcases foreign event made with other | other
      · exact absurd same other
      · exact absurd task other.1
  | @received decoder message receiving =>
      rw [receiving] at here
      cases message with
      | ping payload =>
          cases made
          exact (protocol.pongs _ payload system.shared here).1
      | binary | ignored | close | endOfStream | error => cases made
  | advanced =>
      rw [event_advance known] at made
      obtain ⟨op, performs, rfl⟩ := Option.map_eq_some_iff.mp made
      exact here.admits performs
  | writerEnded | ticked => cases made
  | billed =>
      obtain ⟨_, _, rfl⟩ := Option.map_eq_some_iff.mp made
      cases task

theorem Protocol.Kept.step (kept : protocol.Kept history system) {next : System} {move : Move}
    (stepped : system.step hub move = some next) :
    protocol.Kept ((system.event move).toList ++ history) next := by
  cases known : system.connections connId with
  | none =>
      rcases System.birthStep stepped known with ⟨unused, foreign⟩ | ⟨connectedAtMs, rfl, born⟩
      · constructor
        · intro _
          rw [own_elsewhere fun event made => (foreign event made).imp_right And.left]
          exact kept.unborn known
        · intro connection found
          rw [unused] at found
          cases found
        · refine kept.admitted_step _ fun event made same task => ?_
          rcases foreign event made with other | other
          · exact absurd same other
          · exact absurd task other.1
      · constructor
        · intro unused
          rw [born] at unused
          cases unused
        · intro connection found
          rw [born] at found
          cases found
          change protocol.resting (own connId .connection (_ :: history))
          rw [own_cons_self, kept.unborn known]
          exact protocol.connects connectedAtMs system.shared
        · refine kept.admitted_step _ fun event made _ _ => ?_
          cases made
          exact .inl ⟨connectedAtMs, rfl⟩
  | some connection =>
      obtain ⟨after, present, step⟩ := System.connectionStep stepped known
      constructor
      · intro unused
        rw [present] at unused
        cases unused
      · intro current found
        rw [present] at found
        cases found
        exact kept.stands known step
      · exact kept.admitted_step _ fun event made same task =>
          .inr (kept.admits known step made same task)

/-- In every run the task of the connection keeps to the protocol. -/
theorem Protocol.kept (protocol : Protocol hub connId) (run : Run hub history system) :
    protocol.Kept history system := by
  refine Machine.Run.invariant protocol.Kept
    ⟨fun _ => rfl, (fun _ found => by cases found), ?_⟩ ?_ run
  · intro later event earlier split
    cases later <;> cases split
  · exact fun _ _ _ _ _ kept stepped => kept.step stepped

end Protocol

end Kaigi.Hub
