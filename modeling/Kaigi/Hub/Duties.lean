import Kaigi.Hub.HandlerOperations
import Kaigi.Hub.TaskProtocol
import Kaigi.Hub.Trace

/-!
# Duties of the tasks

Some events oblige their task to tell the joined participants about a topic. A
handler has settled its duties when it has sent a frame on the topic to each of
them, or has seen that they are gone. Then nobody is left uninformed once no
handler is under way.
-/

set_option autoImplicit false

namespace Kaigi.Hub

open Collections Wire Interleaving Authority

def HubRoom.hasJoined (state : HubRoom) (connId : ConnId) : Bool :=
  state.room.any (·.helloSeen connId)

/-- Which events call for telling a connection about a topic, and which frames do so. -/
structure Duty (Topic : Type) where
  /-- The operations that may call for it. -/
  asks : Operation → Bool
  plumbing : Plumbing fun op => asks op = false
  relays : ∀ frame, Relays (fun op => asks op = false) frame
  connect : ∀ connectedAtMs, asks (.connect connectedAtMs) = false
  pong : ∀ target payload, asks (.trySend target (.pong payload)) = false
  calls : Event → ConnId → Topic → Prop
  calls_asks : ∀ event target topic, calls event target topic → asks event.op = true
  speaks : KaigiFrame → Topic → Prop

namespace Duty

variable {Topic : Type}

/-- The event sends the target a frame on the topic. -/
def Tells (duty : Duty Topic) (event : Event) (target : ConnId) (topic : Topic) : Prop :=
  ∃ frame, event.op = .trySend target (.binary frame) ∧ duty.speaks frame topic

/-- What the past of a task owes to whom, apart from what is `pending`. -/
def Owes (duty : Duty Topic) (past : List Event) (pending : ConnId → Topic → Prop) : Prop :=
  ∀ later event earlier, past = later ++ event :: earlier →
    ∀ target topic, duty.calls event target topic →
      (∃ answer ∈ later, duty.Tells answer target topic ∨
        answer.before.hasJoined target = false) ∨ pending target topic

/-- Nothing is owed. -/
def Settled (duty : Duty Topic) (past : List Event) : Prop :=
  duty.Owes past fun _ _ => False

section Owes

variable {duty : Duty Topic} {past : List Event} {pending weaker : ConnId → Topic → Prop}

theorem Owes.mono (owes : duty.Owes past pending)
    (imp : ∀ target topic, pending target topic → weaker target topic) :
    duty.Owes past weaker := by
  intro later event earlier split target topic called
  rcases owes later event earlier split target topic called with answered | left
  · exact .inl answered
  · exact .inr (imp target topic left)

/-- An event adds what it calls for and takes away what it answers. -/
theorem Owes.cons (owes : duty.Owes past pending) (event : Event)
    (imp : ∀ target topic, duty.calls event target topic ∨ pending target topic ∧
      ¬ duty.Tells event target topic ∧ event.before.hasJoined target = true →
        weaker target topic) :
    duty.Owes (event :: past) weaker := by
  intro later current earlier split target topic called
  cases later with
  | nil =>
      obtain ⟨rfl, rfl⟩ := List.cons.inj split
      exact .inr (imp target topic (.inl called))
  | cons latest rest =>
      obtain ⟨rfl, rfl⟩ := List.cons.inj split
      rcases owes rest current earlier rfl target topic called with ⟨answer, member, told⟩ | left
      · exact .inl ⟨answer, List.mem_cons_of_mem _ member, told⟩
      · by_cases tells : duty.Tells event target topic
        · exact .inl ⟨event, List.mem_cons_self, .inl tells⟩
        · cases joined : event.before.hasJoined target with
          | false => exact .inl ⟨event, List.mem_cons_self, .inr joined⟩
          | true => exact .inr (imp target topic (.inr ⟨left, tells, joined⟩))

/-- An event that calls for nothing leaves no more pending than before. -/
theorem Owes.quiet (owes : duty.Owes past pending) {event : Event}
    (silent : duty.asks event.op = false) : duty.Owes (event :: past) pending := by
  refine owes.cons event fun target topic left => ?_
  rcases left with called | ⟨still, _⟩
  · have asks := duty.calls_asks event target topic called
    rw [silent] at asks
    cases asks
  · exact still

theorem settled_nil : duty.Settled [] :=
  fun later _ _ split => by cases later <;> cases split

end Owes

/-- Started when `before` is pending, the program ends when `after` is. It fails only where it
`mayFail`. -/
def Settles (duty : Duty Topic) (hub : HubState) (connId : ConnId) (mayFail : List Event → Prop)
    (before after : ConnId → Topic → Prop) {Value : Type} (program : Handler Value) : Prop :=
  ∀ world, duty.Owes world.own before →
    program.Meets (taskContract hub connId .connection mayFail)
      (fun _ later => duty.Owes later.own after) world

/-- A task may fail where it owes nothing, and once a step has stopped its handler. -/
structure MayStop (duty : Duty Topic) (spares : Event → Prop) (mayFail : List Event → Prop) :
    Prop where
  settled : ∀ past, duty.Settled past → mayFail past
  stopped : ∀ event past, ¬ spares event → mayFail (event :: past)

section Rules

variable {duty : Duty Topic} {hub : HubState} {connId : ConnId} {Value Result : Type}
  {mayFail : List Event → Prop} {before middle after : ConnId → Topic → Prop}
  {spares : Event → Prop}

theorem mayStop_excused : duty.MayStop spares (Excused duty.Settled spares) where
  settled _ settled := fun _ => settled
  stopped _ _ stops := .of_stopped stops

theorem mayStop_anywhere : duty.MayStop spares fun _ => True where
  settled _ _ := trivial
  stopped _ _ _ := trivial

theorem Settles.bind {program : Handler Value} {next : Value → Handler Result}
    (first : duty.Settles hub connId mayFail before middle program)
    (second : ∀ value, duty.Settles hub connId mayFail middle after (next value)) :
    duty.Settles hub connId mayFail before after (program >>= next) :=
  fun world start => (first world start).bind fun value later reached => second value later reached

/-- Less may be pending at the start, and more at the end. -/
theorem Settles.mono {program : Handler Value} {stronger weaker : ConnId → Topic → Prop}
    (settles : duty.Settles hub connId mayFail before after program)
    (start : ∀ target topic, stronger target topic → before target topic)
    (ended : ∀ target topic, after target topic → weaker target topic) :
    duty.Settles hub connId mayFail stronger weaker program :=
  fun world owes => (settles world (owes.mono start)).mono fun _ _ left => left.mono ended

theorem settles_done (value : Value) :
    duty.Settles hub connId mayFail before before (.done value : Handler Value) :=
  Process.Keeps.done (stable_past fun past => duty.Owes past before) value

theorem settles_nowMs : duty.Settles hub connId mayFail before before nowMs :=
  Process.Keeps.ask fun answer => settles_done answer

/-- A program that calls for nothing leaves no more pending than before. -/
theorem settles_of_performs {program : Handler Value}
    (performs : program.Performs fun op => duty.asks op = false)
    (fails : ∀ past, duty.Owes past before → mayFail past) :
    duty.Settles hub connId mayFail before before program :=
  performs.keeps (stable_past fun past => duty.Owes past before)
    (fun _ _ silent owes => ⟨trivial, owes.quiet silent⟩) fun _ world owes => fails world.own owes

/-- A critical section adds what its event calls for. -/
theorem settles_section {op : Operation} {view : Option RoomState → Value}
    {next : Value → Handler Result}
    (rest : ∀ (state : HubRoom) (world : World),
      duty.Owes (⟨connId, .connection, op, state⟩ :: world.own)
        (fun target topic => before target topic ∨
          duty.calls ⟨connId, .connection, op, state⟩ target topic) →
      (next (view state.room)).Meets (taskContract hub connId .connection mayFail)
        (fun _ later => duty.Owes later.own after)
        ⟨op.apply hub connId state, ⟨connId, .connection, op, state⟩ :: world.own⟩) :
    duty.Settles hub connId mayFail before after (critical op view >>= next) := by
  intro world start world' own
  rw [← own] at start
  refine ⟨trivial, rest world'.shared world' (start.cons _ fun target topic left => ?_)⟩
  rcases left with called | ⟨pending, _⟩
  · exact .inr called
  · exact .inl pending

theorem settles_critical {op : Operation} {view : Option RoomState → Value}
    {next : Value → Handler Result}
    (rest : ∀ state : HubRoom, duty.Settles hub connId mayFail
      (fun target topic => before target topic ∨
        duty.calls ⟨connId, .connection, op, state⟩ target topic) after (next (view state.room))) :
    duty.Settles hub connId mayFail before after (critical op view >>= next) :=
  settles_section fun state _ owes => rest state _ owes

/-- A critical section that shows what is to be sent. If it can be sent, the rest of the program
stops only where it may; if not, it may stop anywhere. -/
theorem settles_showing {op : Operation} {view : Option RoomState → Value}
    {next : Value → Handler Result}
    (quiet : ∀ state : HubRoom, (next (view state.room)).Performs fun op => duty.asks op = false)
    (rest : ∀ (state : HubRoom) (mayFail : List Event → Prop), duty.MayStop spares mayFail →
      (spares ⟨connId, .connection, op, state⟩ ∨ ∀ past, mayFail past) →
        duty.Settles hub connId mayFail (fun target topic => before target topic ∨
          duty.calls ⟨connId, .connection, op, state⟩ target topic) after
            (next (view state.room))) :
    duty.Settles hub connId (Excused duty.Settled spares) before after
      (critical op view >>= next) := by
  refine settles_section fun state world owes => ?_
  by_cases spared : spares ⟨connId, .connection, op, state⟩
  · exact rest state _ mayStop_excused (.inl spared) _ owes
  · refine performs_restricted (quiet state) (fun other current past silent excused => ?_)
      (fun _ excused => excused) (rest state _ mayStop_anywhere (.inr fun _ => trivial) _ owes)
        (Excused.of_stopped spared)
    exact excused.cons fun settled => Owes.quiet settled silent

/-- Whoever is sent the frame has been told what it speaks of. -/
theorem settles_trySend (target : ConnId) (frame : KaigiFrame) :
    duty.Settles hub connId mayFail before
      (fun other topic => before other topic ∧ ¬ (other = target ∧ duty.speaks frame topic))
      (trySend target (.binary frame)) := by
  intro world start world' own
  rw [← own] at start
  refine ⟨trivial, fun later same => ?_⟩
  dsimp only
  rw [same]
  refine start.cons _ fun other topic left => ?_
  rcases left with called | ⟨pending, untold, _⟩
  · exact absurd (duty.calls_asks _ other topic called) (by simp [(duty.relays frame).send target])
  · refine ⟨pending, ?_⟩
    rintro ⟨rfl, speaks⟩
    exact untold ⟨frame, rfl, speaks⟩

theorem settles_sendFrameTo (target : ConnId) (frame : KaigiFrame)
    (unsent : encodable hub frame = none → ∀ past, duty.Owes past before → mayFail past)
    (unfound : ∀ state past, target ∉ state.connections → duty.Owes past before →
      mayFail (⟨connId, .connection, .lookup target, state⟩ :: past)) :
    duty.Settles hub connId mayFail before
      (fun other topic => before other topic ∧ ¬ (other = target ∧ duty.speaks frame topic))
      (sendFrameTo hub target frame) := by
  have encodes : duty.Settles hub connId mayFail before before (encodeOrFail hub frame) :=
    keeps_encodeOrFail unsent
  have looks : duty.Settles hub connId mayFail before before (lookupSender target) :=
    keeps_lookupSender (fun past => duty.Owes past before)
      (fun _ _ owes => owes.quiet (duty.plumbing.lookup target)) unfound
  exact encodes.bind fun _ => looks.bind fun _ =>
    (settles_trySend target frame).bind fun _ => settles_done ()

theorem settles_fanoutTo (frame : KaigiFrame) (targets : List ConnId) (dropped : Nat) :
    duty.Settles hub connId mayFail
      (fun target topic => before target topic ∧ (duty.speaks frame topic → target ∈ targets))
      (fun target topic => before target topic ∧ ¬ duty.speaks frame topic)
      (fanoutTo (.binary frame) targets dropped) := by
  induction targets generalizing dropped with
  | nil =>
      refine (settles_done dropped).mono (fun _ _ pending => ?_) fun _ _ left => left
      exact ⟨pending.1, fun speaks => absurd (pending.2 speaks) List.not_mem_nil⟩
  | cons target rest ih =>
      refine (settles_trySend target frame).bind fun _ => (ih _).mono ?_ fun _ _ left => left
      rintro other topic ⟨⟨pending, among⟩, untold⟩
      refine ⟨pending, fun speaks => ?_⟩
      rcases List.mem_cons.mp (among speaks) with rfl | member
      · exact absurd ⟨rfl, speaks⟩ untold
      · exact member

/-- A broadcast tells everybody in the room what the frame speaks of. -/
theorem settles_broadcastFrame (frame : KaigiFrame)
    (unsent : encodable hub frame = none → ∀ past, duty.Owes past before → mayFail past)
    (told : ∀ past, duty.Owes past
      (fun target topic => before target topic ∧ ¬ duty.speaks frame topic) → mayFail past) :
    duty.Settles hub connId mayFail before
      (fun target topic => before target topic ∧ ¬ duty.speaks frame topic)
      (broadcastFrame hub frame) := by
  have encodes : duty.Settles hub connId mayFail before before (encodeOrFail hub frame) :=
    keeps_encodeOrFail unsent
  refine encodes.bind fun _ => ?_
  intro world start world' own
  rw [← own] at start
  have present : duty.Owes (⟨connId, .connection, .fanout frame, world'.shared⟩ :: world'.own)
      fun target topic => before target topic ∧ world'.shared.hasJoined target = true := by
    refine start.cons _ fun target topic left => ?_
    rcases left with called | ⟨pending, _, joined⟩
    · exact absurd (duty.calls_asks _ target topic called) (by simp [(duty.relays frame).fanout])
    · exact ⟨pending, joined⟩
  refine ⟨trivial, ?_⟩
  change Process.Meets _ _ (fanoutFound hub frame (world'.shared.room.map (·.participants.keys))) _
  cases found : world'.shared.room with
  | none =>
      refine settles_done () _ (present.mono fun target topic left => ?_)
      simp [HubRoom.hasJoined, found] at left
  | some room =>
      refine (settles_fanoutTo frame room.participants.keys 0).bind (fun dropped =>
        settles_of_performs (performs_afterFanout duty.plumbing dropped) told) _
          (present.mono fun target topic left => ⟨left.1, fun _ => ?_⟩)
      simp only [HubRoom.hasJoined, found, Option.any_some, RoomState.helloSeen,
        Option.any_eq_true] at left
      obtain ⟨_, participant, known, _⟩ := left
      rw [HashMap.mem_keys, known]
      rfl

end Rules

/-! ### Every run -/

/-- The handlers of a connection settle what they call for, or fail where they may. -/
structure Kept (duty : Duty Topic) (hub : HubState) (connId : ConnId)
    (mayFail : List Event → Prop) : Prop where
  serves : ∀ frame, duty.Settles hub connId mayFail (fun _ _ => False) (fun _ _ => False)
    (handleFrame hub connId frame)
  leaves : duty.Settles hub connId mayFail (fun _ _ => False) (fun _ _ => False)
    (handleDisconnect hub connId)
  stops : ∀ past, duty.Settled past → mayFail past

variable {duty : Duty Topic} {hub : HubState}

theorem Kept.settling {connId : ConnId} {mayFail : List Event → Prop}
    (kept : duty.Kept hub connId mayFail) :
    Settling hub connId duty.Settled mayFail fun _ => True where
  start := settled_nil
  connects connectedAtMs _ _ settled := Owes.quiet settled (duty.connect connectedAtMs)
  pongs payload _ _ settled := Owes.quiet settled (duty.pong connId payload)
  stops := kept.stops
  handles frame world _ settled := kept.serves frame world settled
  leaves world settled := kept.leaves world settled

end Duty

/-- No handler of the connection is under way. -/
def Phase.isIdle : Phase → Bool
  | .receiving _ | .draining _ | .ended | .returned _ => true
  | .handling _ _ | .disconnecting _ => false

/-- No handler of the connection is under way, and none was given up. -/
def Phase.isSettled : Phase → Bool
  | .receiving _ | .draining _ | .ended | .returned (.ok _) => true
  | .handling _ _ | .disconnecting _ | .returned (.error _) => false

/-- No handler is under way. -/
def System.Idle (system : System) : Prop :=
  ∀ connId connection, system.connections connId = some connection →
    connection.phase.isIdle = true

/-- Whether no connection of a history has a handler under way. -/
def System.idles (history : List Event) (system : System) : Bool :=
  history.all fun event =>
    (system.connections event.connId).all fun connection => connection.phase.isIdle

theorem Run.idle {hub : HubState} {history : List Event} {system : System}
    (run : Run hub history system) (idles : system.idles history = true) : system.Idle := by
  intro connId connection found
  have connected : Connected history connId := run.connected (by simp [found])
  obtain ⟨event, member, rfl, _⟩ := connected
  simpa [found] using List.all_eq_true.mp idles event member

section Runs

variable {Topic : Type} {duty : Duty Topic} {hub : HubState} {history newer older : List Event}
  {system : System} {target : ConnId} {topic : Topic}

/-- Between two handlers a task rests. -/
theorem Protocol.Kept.rests {connId : ConnId} {protocol : Protocol hub connId}
    (kept : protocol.Kept history system) {connection : Connection}
    (known : system.connections connId = some connection)
    (settled : connection.phase.isSettled = true) :
    protocol.resting (own connId .connection history) := by
  have rests := kept.phase connection known
  cases phase : connection.phase with
  | receiving | draining | ended =>
      rw [phase] at rests
      exact rests
  | returned result =>
      rw [phase] at rests settled
      cases result with
      | ok => exact rests
      | error => cases settled
  | handling | disconnecting =>
      rw [phase] at settled
      cases settled

theorem Duty.Kept.run {connId : ConnId} {mayFail : List Event → Prop}
    (kept : duty.Kept hub connId mayFail) (run : Run hub history system) :
    TaskSettles hub connId duty.Settled mayFail history system :=
  kept.settling.run (fun _ _ _ _ _ _ _ _ _ _ _ => trivial) run.unrestricted

/-- Where the task stands between two handlers it has settled what it owes. -/
theorem Phase.Settles.settled {connId : ConnId} {settled mayFail : List Event → Prop}
    {world : World} {phase : Phase} (stands : phase.Settles hub connId settled mayFail world)
    (rests : phase.isSettled = true) : settled world.own := by
  cases phase with
  | receiving | draining | ended => exact stands
  | returned result =>
      cases result with
      | ok => exact stands
      | error => cases rests
  | handling | disconnecting => cases rests

/-- So it has when it was ended by an error, if nothing has stopped it while it owed
something. -/
theorem Phase.Settles.settled_of_idle {connId : ConnId} {settled : List Event → Prop}
    {spares : Event → Prop} {world : World} {phase : Phase}
    (stands : phase.Settles hub connId settled (Excused settled spares) world)
    (idle : phase.isIdle = true) (unstopped : Unstopped settled spares world.own) :
    settled world.own := by
  cases phase with
  | receiving | draining | ended => exact stands
  | returned result =>
      cases result with
      | ok => exact stands
      | error => exact stands unstopped
  | handling | disconnecting => cases idle

/-- A task that rests owes nothing. -/
theorem Duty.Kept.settled {connId : ConnId} {mayFail : List Event → Prop}
    (kept : duty.Kept hub connId mayFail) (run : Run hub history system)
    (settles : ∀ connection, system.connections connId = some connection →
      connection.phase.isSettled = true) :
    duty.Settled (own connId .connection history) := by
  obtain ⟨unborn, stands⟩ := kept.run run
  cases known : system.connections connId with
  | none =>
      rw [unborn known]
      exact Duty.settled_nil
  | some connection => exact (stands connection known).settled (settles connection known)

/-- Neither does a task that was ended by an error, if nothing has stopped it while it did. -/
theorem Duty.Kept.settled_of_idle {connId : ConnId} {spares : Event → Prop}
    (kept : duty.Kept hub connId (Excused duty.Settled spares)) (run : Run hub history system)
    (idle : system.Idle)
    (unstopped : Unstopped duty.Settled spares (own connId .connection history)) :
    duty.Settled (own connId .connection history) := by
  obtain ⟨unborn, stands⟩ := kept.run run
  cases known : system.connections connId with
  | none =>
      rw [unborn known]
      exact Duty.settled_nil
  | some connection =>
      exact (stands connection known).settled_of_idle (idle connId connection known) unstopped

theorem HubRoom.hasJoined_iff {state : HubRoom} {connId : ConnId} :
    state.hasJoined connId = true ↔
      ∃ room, state.room = some room ∧ room.helloSeen connId = true := by
  simp [HubRoom.hasJoined, Option.any_eq_true]

/-- Whoever has joined once has joined at every moment until it leaves. -/
theorem Trace.joined_throughout {middle earlier : List Event}
    (trace : Trace hub (newer ++ (middle ++ earlier)))
    (was : (sharedAfter hub earlier).hasJoined target = true)
    (present : target ∈ (sharedAfter hub (newer ++ (middle ++ earlier))).connections) :
    (sharedAfter hub (middle ++ earlier)).hasJoined target = true := by
  have known : target ∈ (sharedAfter hub earlier).connections := by
    obtain ⟨room, found, joined⟩ := HubRoom.hasJoined_iff.mp was
    rw [HubRoom.connections_of_some found]
    exact joined_mem_keys joined
  have stayed := trace.stayed_throughout known present
  clear present
  replace trace := trace.suffix newer
  induction middle with
  | nil => exact was
  | cons event rest ih =>
      rw [List.cons_append] at trace stayed
      have before := trace.stayed known stayed
      cases trace with
      | step past same lawful =>
          rw [same] at before
          obtain ⟨room, found, joined⟩ := HubRoom.hasJoined_iff.mp (ih before past)
          obtain ⟨after, left, member⟩ := HubRoom.exists_of_mem_connections stayed
          obtain ⟨participant, here⟩ := Option.isSome_iff_exists.mp (HashMap.mem_keys.mp member)
          have step := lawful.step left
          rw [same, HubRoom.opened_of_some found] at step
          have stays : (memberOf participant).joined = true :=
            step.joined (joined_groupOf.mpr joined) (members_groupOf here)
          exact HubRoom.hasJoined_iff.mpr ⟨after, left, joined_groupOf.mp
            ⟨memberOf participant, members_groupOf here, stays⟩⟩

theorem own_append (connId : ConnId) (task : Task) (newer older : List Event) :
    own connId task (newer ++ older) = own connId task newer ++ own connId task older :=
  List.filter_append ..

/-- Once its task owes nothing, every joined participant that is still there has been told
what an event called for. -/
theorem Duty.answered (run : Run hub history system) {call : Event}
    (settled : duty.Settled (own call.connId .connection history))
    (split : history = newer ++ call :: older) (task : call.task = .connection)
    (called : duty.calls call target topic)
    (joined : (call.after hub).hasJoined target = true)
    (present : target ∈ system.shared.connections) :
    ∃ answer ∈ newer, duty.Tells answer target topic := by
  obtain ⟨trace, shared⟩ := run.trace
  have regrouped : own call.connId .connection history =
      own call.connId .connection newer ++ call :: own call.connId .connection older := by
    obtain ⟨actor, _, op, before⟩ := call
    cases task
    rw [split, own_append, own_cons_self]
  rcases settled _ call _ regrouped target topic called with ⟨answer, member, told⟩ | impossible
  · obtain ⟨happened, _, _⟩ := mem_own.mp member
    refine ⟨answer, happened, told.resolve_right fun absent => ?_⟩
    obtain ⟨left, right, rfl⟩ := List.append_of_mem happened
    have regrouped : history = (left ++ [answer]) ++ (right ++ call :: older) := by simp [split]
    rw [regrouped] at trace shared
    have stays : (sharedAfter hub (right ++ call :: older)).hasJoined target = true :=
      trace.joined_throughout joined (shared ▸ present)
    have here : answer.before = sharedAfter hub (right ++ call :: older) := by
      rw [List.append_assoc] at trace
      exact trace.lawful.2.1
    rw [here, stays] at absent
    cases absent
  · exact impossible.elim

end Runs

end Kaigi.Hub
