import Kaigi.Client.AnonymousChat
import Kaigi.Hub.OutgoingOrder
import Kaigi.Hub.SealedRelays

/-!
# The hub with its anonymous clients

The tasks of the hub and the clients of one anonymous room as one machine. What a client
writes is decoded by the hub in order, and what the writer of the hub takes out of a channel
arrives at the client of that channel.
-/

set_option autoImplicit false

namespace Kaigi.Hub

open Collections Wire Interleaving Client

structure Assembly (Secret : Type) where
  system : System
  members : ConnId → AnonMember Secret

inductive AssemblyMove (Secret : Type) where
  | hub (move : Move)
  | member (connId : ConnId) (move : MemberMove Secret)

inductive AssemblyEvent (Secret : Type) where
  | hub (event : Event)
  | member (connId : ConnId) (event : MemberEvent Secret)

/-- The frame that the connection decodes in this move. -/
def System.decodes (hub : HubState) (system : System) : Move → Option (ConnId × KaigiFrame)
  | .advance connId _ =>
      (system.connections connId).bind fun connection =>
        match connection.phase with
        | .draining decoder =>
            match decoder.tryNext hub.norito with
            | (.ok (some frame), _) => some (connId, frame)
            | _ => none
        | _ => none
  | _ => none

/-- The frame that the writer hands to the client. -/
def Event.hands (event : Event) : Option (ConnId × KaigiFrame) :=
  match event.op, (event.before.channels event.connId).queue.head? with
  | .takeMessage, some (.binary frame) => some (event.connId, frame)
  | _, _ => none

namespace Assembly

variable {Secret : Type}

def updateMember (members : ConnId → AnonMember Secret) (connId : ConnId)
    (update : AnonMember Secret → AnonMember Secret) : ConnId → AnonMember Secret :=
  fun id => if id = connId then update (members id) else members id

/-- The clients after the hub has decoded the next frame of one of them. -/
def taken (hub : HubState) (assembly : Assembly Secret) (move : Move) :
    ConnId → AnonMember Secret :=
  match assembly.system.decodes hub move with
  | some (connId, _) => updateMember assembly.members connId fun member =>
      { member with outbox := member.outbox.tail }
  | none => assembly.members

/-- The clients after a move of the hub. -/
def exchanged (hub : HubState) (assembly : Assembly Secret) (move : Move) :
    ConnId → AnonMember Secret :=
  match (assembly.system.event move).bind Event.hands with
  | some (connId, frame) => updateMember (assembly.taken hub move) connId fun member =>
      { member with inbox := member.inbox ++ [frame] }
  | none => assembly.taken hub move

def step (libraries : ControlLibraries Secret) (hub : HubState) (assembly : Assembly Secret) :
    AssemblyMove Secret → Option (Assembly Secret)
  | .hub move => (assembly.system.step hub move).map fun system =>
      ⟨system, assembly.exchanged hub move⟩
  | .member connId move => ((assembly.members connId).step libraries move).map fun result =>
      { assembly with members := updateMember assembly.members connId fun _ => result.1 }

def event (libraries : ControlLibraries Secret) (assembly : Assembly Secret) :
    AssemblyMove Secret → Option (AssemblyEvent Secret)
  | .hub move => (assembly.system.event move).map .hub
  | .member connId move =>
      ((assembly.members connId).step libraries move).bind fun result =>
        result.2.map (.member connId)

/-- The connections are reliable: the hub decodes what the client has written next. -/
def Reliable (hub : HubState) (assembly : Assembly Secret) (move : Move) : Prop :=
  ∀ connId frame, assembly.system.decodes hub move = some (connId, frame) →
    (assembly.members connId).outbox.head? = some frame

/-- No client replaces its key so often that the numbers of its keys run out. -/
def Numbered (assembly : Assembly Secret) (connId : ConnId) : MemberMove Secret → Prop
  | .rekey _ => (assembly.members connId).epoch.toNat < u64Max
  | _ => True

def Allowed (hub : HubState) (assembly : Assembly Secret) : AssemblyMove Secret → Prop
  | .hub move => assembly.Reliable hub move
  | .member connId move => assembly.Numbered connId move

end Assembly

/-- Who the clients are, and the key pair that each starts with. -/
structure Cast (Secret : Type) where
  handle : ConnId → String
  secret : ConnId → Secret

def assemblyMachine {Secret : Type} (libraries : ControlLibraries Secret) (hub : HubState)
    (cast : Cast Secret) :
    Machine (Assembly Secret) (AssemblyMove Secret) (AssemblyEvent Secret) where
  initial := {
    system := System.initial
    members := fun connId => AnonMember.start libraries (cast.handle connId) (cast.secret connId) }
  step := Assembly.step libraries hub
  event := Assembly.event libraries

/-- Runs of the hub with reliable connections and numbered keys. -/
abbrev AssemblyRun {Secret : Type} (libraries : ControlLibraries Secret) (hub : HubState)
    (cast : Cast Secret) : List (AssemblyEvent Secret) → Assembly Secret → Prop :=
  Machine.RunWhere (assemblyMachine libraries hub cast) fun _ assembly move =>
    assembly.Allowed hub move

/-! ### What a history says -/

section Histories

variable {Secret : Type}

def AssemblyEvent.ofHub? : AssemblyEvent Secret → Option Event
  | .hub event => some event
  | .member _ _ => none

/-- The events of the hub. -/
def hubEvents (history : List (AssemblyEvent Secret)) : List Event :=
  history.filterMap AssemblyEvent.ofHub?

/-- What the client with this connection has done. -/
def AssemblyEvent.of? (connId : ConnId) : AssemblyEvent Secret → Option (MemberEvent Secret)
  | .member other event => if other = connId then some event else none
  | .hub _ => none

variable (libraries : ControlLibraries Secret) (cast : Cast Secret) (connId : ConnId)

/-- The key pair of the client. -/
def secretOf : List (AssemblyEvent Secret) → Secret
  | [] => cast.secret connId
  | event :: earlier =>
      match event.of? connId with
      | some (.rekeyed secret) => secret
      | _ => secretOf earlier

/-- The number of that key pair. -/
def epochOf : List (AssemblyEvent Secret) → Nat
  | [] => 1
  | event :: earlier =>
      match event.of? connId with
      | some (.rekeyed _) => epochOf earlier + 1
      | _ => epochOf earlier

/-- The frames that the reader of the client has read, the first one first. -/
def framesRead : List (AssemblyEvent Secret) → List KaigiFrame
  | [] => []
  | event :: earlier =>
      match event.of? connId with
      | some (.read frame _) => framesRead earlier ++ [frame]
      | _ => framesRead earlier

def Message.frame? : Message → Option KaigiFrame
  | .binary frame => some frame
  | _ => none

/-- The frames that the writer of the hub has handed to the client, the first one first. -/
def handed (connId : ConnId) (history : List Event) : List KaigiFrame :=
  (writtenTo connId history).filterMap Message.frame?

/-- A frame that the client writes, as far as its events tell. -/
inductive Wrote (history : List (AssemblyEvent Secret)) : KaigiFrame → Prop where
  | hello : Wrote history (.anonHello {
      protocolVersion := protocolVersion
      participantHandle := cast.handle connId
      x25519PubkeyHex := hexEncode (libraries.publicKey (cast.secret connId)) })
  | update {update : GroupKeyUpdateFrame} {newer older : List (AssemblyEvent Secret)} :
      history = newer ++ older → update.epoch = epochOf connId older →
      update.x25519PubkeyHex = hexEncode (libraries.publicKey (secretOf cast connId older)) →
      Wrote history (.groupKeyUpdate update)
  | sealed {enc : EncryptedControlFrame} {secret : Secret} {peers : Peers} {body : String} :
      .member connId (.sealed enc secret peers body) ∈ history →
      Wrote history (.encryptedControl enc)
  | paid {proof : EscrowProofFrame} : Wrote history (.escrowProof proof)

theorem Wrote.append {libraries : ControlLibraries Secret} {cast : Cast Secret} {connId : ConnId}
    {older : List (AssemblyEvent Secret)} {frame : KaigiFrame}
    (wrote : Wrote libraries cast connId older frame) (newer : List (AssemblyEvent Secret)) :
    Wrote libraries cast connId (newer ++ older) frame := by
  cases wrote with
  | hello => exact .hello
  | @update update later earlier split epoch key =>
      subst split
      have split : newer ++ (later ++ earlier) = (newer ++ later) ++ earlier := by simp
      exact .update split epoch key
  | sealed happened => exact .sealed (List.mem_append_right _ happened)
  | paid => exact .paid

end Histories

/-! ### The frames that a task works for -/

/-- The frame of a client that the operation is about. -/
def Operation.handles : Operation → Option KaigiFrame
  | .anonHello frame _ _ => some (.anonHello frame)
  | .groupKeyUpdate update => some (.groupKeyUpdate update)
  | .fanout (.encryptedControl enc) | .trySend _ (.binary (.encryptedControl enc)) =>
      some (.encryptedControl enc)
  | _ => none

section Handlers

variable {hub : HubState} {connId : ConnId}

theorem Operation.handles_plumbing {op : Operation} {written : KaigiFrame}
    (handles : op.handles = some written) (plumbing : op.isPlumbing = true) :
    ∃ enc, written = .encryptedControl enc ∧ op.frame? = some (.encryptedControl enc) := by
  unfold Operation.handles at handles
  split at handles
  · cases plumbing
  · cases plumbing
  · next enc =>
      cases handles
      exact ⟨enc, rfl, rfl⟩
  · next enc =>
      cases handles
      exact ⟨enc, rfl, rfl⟩
  · cases handles

/-- The rules for programs that send no sealed frame but those that they `may`. -/
theorem handlerRules_sealed (hub : HubState) (may : EncryptedControlFrame → Prop) :
    HandlerRules hub (fun frame => ∀ enc, frame = .encryptedControl enc → may enc) fun program =>
      program.Performs fun op => ∀ enc, op.frame? = some (.encryptedControl enc) → may enc := by
  refine handlerRules_of_performs hub ?_ ?_ ?_ ?_ ?_
  · rintro _ managed enc rfl
    cases managed
  · intro op part enc carried
    cases op with
    | trySend target message =>
        cases message with
        | binary frame =>
            cases carried
            cases part
        | _ => cases carried
    | fanout => cases part
    | _ => cases carried
  · exact fun _ _ _ carried => by cases carried
  · exact fun _ allowed enc carried => allowed enc (Option.some.inj carried)
  · exact fun _ _ allowed enc carried => allowed enc (Option.some.inj carried)

/-- The handler of a frame is about that frame. -/
theorem performs_handles (frame : KaigiFrame) : (handleFrame hub connId frame).Performs
    fun op => ∀ written, op.handles = some written → written = frame := by
  have sends : (handleFrame hub connId frame).Performs fun op => ∀ enc,
      op.frame? = some (.encryptedControl enc) → frame = .encryptedControl enc := by
    by_cases sealing : ∃ enc, frame = .encryptedControl enc
    · obtain ⟨enc, rfl⟩ := sealing
      have rules := handlerRules_sealed hub fun other =>
        KaigiFrame.encryptedControl enc = .encryptedControl other
      exact rules.bind (rules.critical rfl) fun outcome =>
        rules.afterRelay outcome fun _ same => same
    · have unsealed : ∀ enc, frame ≠ .encryptedControl enc := fun enc same => sealing ⟨enc, same⟩
      refine (handlerRules_sealed hub fun enc => frame = .encryptedControl enc).handleFrame frame ?_
      exact fun sent relayed enc same => absurd same (relays_unsealed relayed unsealed enc)
  refine ((performs_handleFrame frame).and sends).mono ?_
  rintro op ⟨plumbing | performs, only⟩ written handles
  · obtain ⟨enc, rfl, carried⟩ := Operation.handles_plumbing handles plumbing
    exact (only enc carried).symm
  · cases performs <;> cases handles
    all_goals rfl

theorem performs_handles_leave : (handleDisconnect hub connId).Performs
    fun op => op.handles = none := by
  have sends : (handleDisconnect hub connId).Performs fun op => ∀ enc,
      op.frame? = some (.encryptedControl enc) → False := by
    refine (handlerRules_sealed hub fun _ => False).handleDisconnect ?_ ?_
    · exact fun _ _ same => by cases same
    · exact fun _ _ _ rest => ⟨fun _ carried => (by cases carried), rest⟩
  refine (performs_leave.and sends).mono ?_
  intro op ⟨leaves, unsealed⟩
  rcases leaves with plumbing | ⟨_, _, rfl⟩ | ⟨_, rfl⟩
  · cases handles : op.handles with
    | none => rfl
    | some written =>
        obtain ⟨enc, _, carried⟩ := Operation.handles_plumbing handles plumbing
        exact (unsealed enc carried).elim
  · rfl
  · rfl

end Handlers

/-! ### What holds in a run -/

section Runs

variable {Secret : Type} {libraries : ControlLibraries Secret} {hub : HubState} {cast : Cast Secret}
  {history : List (AssemblyEvent Secret)} {assembly : Assembly Secret} {connId : ConnId}

/-- The hub runs as it does with any clients. -/
theorem AssemblyRun.hubRun (run : AssemblyRun libraries hub cast history assembly) :
    Run hub (hubEvents history) assembly.system := by
  refine Machine.RunWhere.invariant (fun past assembly => Run hub (hubEvents past) assembly.system)
    .initial ?_ run
  intro past before move next _ ih _ stepped
  cases move with
  | hub move =>
      obtain ⟨system, moved, rfl⟩ := Option.map_eq_some_iff.mp stepped
      have extends' := Machine.Run.step move ih moved
      change Run hub (hubEvents (((before.system.event move).map AssemblyEvent.hub).toList ++ past))
        system
      cases left : before.system.event move with
      | none =>
          rw [show (hubMachine hub).event before.system move = none from left] at extends'
          exact extends'
      | some event =>
          rw [show (hubMachine hub).event before.system move = some event from left] at extends'
          exact extends'
  | member connId move =>
      obtain ⟨⟨member, event⟩, moved, rfl⟩ := Option.map_eq_some_iff.mp stepped
      have silent : (assemblyMachine libraries hub cast).event before (.member connId move) =
          event.map (.member connId) := by
        change (Option.bind _ _) = _
        rw [moved]
        rfl
      rw [silent]
      cases event with
      | none => exact ih
      | some event => exact ih

/-- What the task works for was written by its client. -/
def Traced (libraries : ControlLibraries Secret) (cast : Cast Secret)
    (history : List (AssemblyEvent Secret)) (connId : ConnId) (op : Operation) : Prop :=
  ∀ frame, op.handles = some frame → Wrote libraries cast connId history frame

theorem traced_of_none {op : Operation} (nothing : op.handles = none) :
    Traced libraries cast history connId op := by
  intro frame handles
  rw [nothing] at handles
  cases handles

theorem Traced.append {older : List (AssemblyEvent Secret)} {op : Operation}
    (traced : Traced libraries cast older connId op) (newer : List (AssemblyEvent Secret)) :
    Traced libraries cast (newer ++ older) connId op :=
  fun frame handles => (traced frame handles).append newer

def PhaseTraced (libraries : ControlLibraries Secret) (cast : Cast Secret)
    (history : List (AssemblyEvent Secret)) (connId : ConnId) : Phase → Prop
  | .handling _ handler | .disconnecting handler =>
      handler.Performs (Traced libraries cast history connId)
  | _ => True

theorem PhaseTraced.append {older : List (AssemblyEvent Secret)} {phase : Phase}
    (traced : PhaseTraced libraries cast older connId phase)
    (newer : List (AssemblyEvent Secret)) :
    PhaseTraced libraries cast (newer ++ older) connId phase := by
  cases phase with
  | handling decoder handler => exact Process.Performs.mono traced fun op here => here.append newer
  | disconnecting handler => exact Process.Performs.mono traced fun op here => here.append newer
  | _ => trivial

theorem PhaseTraced.operation {phase : Phase} {op : Operation}
    (traced : PhaseTraced libraries cast history connId phase)
    (performs : System.phaseOperation? phase = some op) :
    Traced libraries cast history connId op := by
  cases phase with
  | handling decoder handler => exact Process.Performs.operation traced performs
  | disconnecting handler => exact Process.Performs.operation traced performs
  | _ => cases performs

/-- The task of a connection goes on working for what it has decoded. -/
theorem PhaseTraced.advanced {clock : Nat} {shared : HubRoom} {phase next : Phase}
    (traced : PhaseTraced libraries cast history connId phase)
    (advanced : System.advanced hub connId clock shared phase = some next)
    (decodes : ∀ decoder frame later, phase = .draining decoder →
      decoder.tryNext hub.norito = (.ok (some frame), later) →
        Wrote libraries cast connId history frame) :
    PhaseTraced libraries cast history connId next := by
  cases phase with
  | receiving | ended | returned => cases advanced
  | draining decoder =>
      simp only [System.advanced] at advanced
      split at advanced
      · cases advanced
        trivial
      · cases advanced
        trivial
      · next frame later decoded =>
          cases advanced
          refine (performs_handles frame).mono fun op only written handles => ?_
          rw [only written handles]
          exact decodes decoder frame later rfl decoded
  | handling decoder handler =>
      cases handler with
      | done | fail =>
          cases advanced
          trivial
      | ask | atomic =>
          cases advanced
          exact Process.Performs.resume traced clock shared
  | disconnecting handler =>
      cases handler with
      | done | fail =>
          cases advanced
          trivial
      | ask | atomic =>
          cases advanced
          exact Process.Performs.resume traced clock shared

/-! ### What a move does -/

/-- The hub moves, and the clients exchange frames with it, or one client moves. -/
inductive AssemblyStep (libraries : ControlLibraries Secret) (hub : HubState)
    (assembly : Assembly Secret) :
    AssemblyMove Secret → Assembly Secret → List (AssemblyEvent Secret) → Prop where
  | hub {move : Move} {moved : System} : assembly.system.moved hub move = some moved →
      AssemblyStep libraries hub assembly (.hub move)
        ⟨moved.perform hub (assembly.system.event move), assembly.exchanged hub move⟩
        ((assembly.system.event move).toList.map .hub)
  | member {connId : ConnId} {move : MemberMove Secret} {next : AnonMember Secret}
      {event : Option (MemberEvent Secret)} :
      MemberStep libraries (assembly.members connId) move next event →
      AssemblyStep libraries hub assembly (.member connId move)
        { assembly with members := Assembly.updateMember assembly.members connId fun _ => next }
        (event.toList.map (.member connId))

theorem Assembly.step_cases {move : AssemblyMove Secret} {next : Assembly Secret}
    (stepped : assembly.step libraries hub move = some next) :
    AssemblyStep libraries hub assembly move next (assembly.event libraries move).toList := by
  cases move with
  | hub move =>
      obtain ⟨system, performed, rfl⟩ := Option.map_eq_some_iff.mp stepped
      obtain ⟨moved, possible, rfl⟩ := Option.map_eq_some_iff.mp performed
      have events : (assembly.event libraries (.hub move)).toList =
          (assembly.system.event move).toList.map .hub := by
        rw [Assembly.event]
        cases assembly.system.event move <;> rfl
      rw [events]
      exact .hub possible
  | member connId move =>
      obtain ⟨⟨member, event⟩, moved, rfl⟩ := Option.map_eq_some_iff.mp stepped
      have events : (assembly.event libraries (.member connId move)).toList =
          event.toList.map (.member connId) := by
        rw [Assembly.event, moved]
        cases event <;> rfl
      rw [events]
      exact .member (AnonMember.step_cases moved)

theorem hubEvents_append (newer older : List (AssemblyEvent Secret)) :
    hubEvents (newer ++ older) = hubEvents newer ++ hubEvents older :=
  List.filterMap_append

theorem hubEvents_hub (events : List Event) :
    hubEvents (events.map .hub : List (AssemblyEvent Secret)) = events := by
  induction events with
  | nil => rfl
  | cons event rest ih => exact congrArg (event :: ·) ih

theorem hubEvents_member (connId : ConnId) (events : List (MemberEvent Secret)) :
    hubEvents (events.map (.member connId)) = [] := by
  induction events with
  | nil => rfl
  | cons event rest ih => exact ih

/-- What the hub hands to the client in this event. -/
theorem Event.takes_frames (event : Event) (connId : ConnId) :
    (event.takes connId).filterMap Message.frame? =
      event.hands.toList.filterMap fun entry =>
        if entry.1 = connId then some entry.2 else none := by
  obtain ⟨actor, task, op, before⟩ := event
  cases op with
  | takeMessage =>
      simp only [Event.takes, Event.hands]
      by_cases own : actor = connId
      · subst own
        cases (before.channels actor).queue.head? with
        | none => simp
        | some message => cases message <;> simp [Message.frame?]
      · cases (before.channels actor).queue.head? with
        | none => simp [own]
        | some message => cases message <;> simp [own]
  | _ => rfl

/-- What a move of the hub hands to the client. -/
def receivedIn (connId : ConnId) (event : Option Event) : List KaigiFrame :=
  event.toList.flatMap fun event => (event.takes connId).filterMap Message.frame?

theorem Assembly.taken_eq (assembly : Assembly Secret) (hub : HubState) (move : Move)
    (connId : ConnId) :
    ∃ outbox, (∀ frame ∈ outbox, frame ∈ (assembly.members connId).outbox) ∧
      assembly.taken hub move connId = { assembly.members connId with outbox := outbox } := by
  unfold Assembly.taken
  cases assembly.system.decodes hub move with
  | none => exact ⟨_, fun frame among => among, rfl⟩
  | some entry =>
      by_cases own : connId = entry.1
      · exact ⟨_, fun frame among => List.mem_of_mem_tail among, if_pos own⟩
      · exact ⟨_, fun frame among => among, if_neg own⟩

/-- A move of the hub takes frames from a client and hands frames to it. -/
theorem Assembly.exchanged_eq (assembly : Assembly Secret) (hub : HubState) (move : Move)
    (connId : ConnId) :
    ∃ outbox, (∀ frame ∈ outbox, frame ∈ (assembly.members connId).outbox) ∧
      assembly.exchanged hub move connId = { assembly.members connId with
        outbox := outbox
        inbox := (assembly.members connId).inbox ++
          receivedIn connId (assembly.system.event move) } := by
  obtain ⟨outbox, within, taken⟩ := assembly.taken_eq hub move connId
  refine ⟨outbox, within, ?_⟩
  unfold Assembly.exchanged receivedIn
  cases assembly.system.event move with
  | none => simp [taken]
  | some event =>
      simp only [Option.bind_some, Option.toList_some, List.flatMap_cons, List.flatMap_nil,
        List.append_nil, Event.takes_frames]
      cases event.hands with
      | none => simp [taken]
      | some entry =>
          obtain ⟨target, frame⟩ := entry
          by_cases own : connId = target
          · subst own
            simp [Assembly.updateMember, taken]
          · simp [Assembly.updateMember, own, Ne.symm own, taken]

/-! ### Whom the hub works for -/

/-- Everything that the tasks of the hub work for was written by their clients. -/
structure HubTraced (libraries : ControlLibraries Secret) (cast : Cast Secret)
    (history : List (AssemblyEvent Secret)) (system : System) : Prop where
  phase : ∀ connId connection, system.connections connId = some connection →
    PhaseTraced libraries cast history connId connection.phase
  events : ∀ event ∈ hubEvents history, event.task = .connection →
    Traced libraries cast history event.connId event.op

theorem HubTraced.event {system : System} (traced : HubTraced libraries cast history system)
    {move : Move} {event : Event} (left : system.event move = some event)
    (task : event.task = .connection) : Traced libraries cast history event.connId event.op := by
  cases move with
  | connect =>
      cases left
      exact traced_of_none rfl
  | receive target message =>
      cases message with
      | ping =>
          cases left
          exact traced_of_none rfl
      | _ => cases left
  | writerEnded | billingTick => cases left
  | advance target clock =>
      obtain ⟨op, performs, rfl⟩ := Option.map_eq_some_iff.mp left
      obtain ⟨connection, found, performs⟩ := Option.bind_eq_some_iff.mp performs
      exact (traced.phase target connection found).operation performs
  | advanceBilling =>
      obtain ⟨op, _, rfl⟩ := Option.map_eq_some_iff.mp left
      cases task
  | deliver | writerStopped | reorder =>
      cases left
      cases task

theorem HubTraced.moved {system moved : System} (traced : HubTraced libraries cast history system)
    {move : Move} (possible : system.moved hub move = some moved)
    (decoded : ∀ connId frame, system.decodes hub move = some (connId, frame) →
      Wrote libraries cast connId history frame) :
    ∀ connId connection, moved.connections connId = some connection →
      PhaseTraced libraries cast history connId connection.phase := by
  intro id connection found
  have replaced : ∀ (target : ConnId) (latest : Connection),
      PhaseTraced libraries cast history target latest.phase →
      (system.setConnection target latest).connections id = some connection →
        PhaseTraced libraries cast history id connection.phase := by
    intro target latest here found
    rw [System.connections_setConnection] at found
    split at found
    · next own =>
        cases found
        rw [own]
        exact here
    · exact traced.phase id connection found
  cases System.moved_cases possible with
  | @connected target => exact replaced target ⟨.receiving .new, .sleeping⟩ trivial found
  | @received target message current decoder known receiving =>
      refine replaced target { current with phase := System.received decoder message } ?_ found
      cases message <;> trivial
  | @advanced target clock current phase known advanced =>
      refine replaced target { current with phase := phase } ?_ found
      refine (traced.phase target current known).advanced advanced ?_
      intro decoder frame later draining next
      apply decoded
      simp [System.decodes, known, draining, next]
  | @writerEnded target current known ended =>
      refine replaced target { current with phase := .disconnecting (handleDisconnect hub target) }
        ?_ found
      exact performs_handles_leave.mono fun op nothing => traced_of_none nothing
  | @ticked target current known sleeping =>
      exact replaced target { current with billing := .checking (enforceBilling hub target) }
        (traced.phase target current known) found
  | @billed target clock current billing known advanced =>
      exact replaced target { current with billing := billing }
        (traced.phase target current known) found
  | delivered | writerStopped | reordered => exact traced.phase id connection found

theorem HubTraced.step {next : Assembly Secret} {move : AssemblyMove Secret}
    {events : List (AssemblyEvent Secret)}
    (traced : HubTraced libraries cast history assembly.system)
    (step : AssemblyStep libraries hub assembly move next events)
    (written : ∀ connId, ∀ frame ∈ (assembly.members connId).outbox,
      Wrote libraries cast connId history frame)
    (allowed : assembly.Allowed hub move) :
    HubTraced libraries cast (events ++ history) next.system := by
  cases step with
  | @member connId move next event member =>
      constructor
      · intro id connection found
        exact (traced.phase id connection found).append _
      · intro event happened task
        rw [hubEvents_append, hubEvents_member, List.nil_append] at happened
        exact (traced.events event happened task).append _
  | @hub move moved possible =>
      have phases := traced.moved possible fun connId frame decodes =>
        written connId frame (List.mem_of_head? (allowed connId frame decodes))
      constructor
      · intro id connection found
        have same : (moved.perform hub (assembly.system.event move)).connections =
            moved.connections := by
          cases assembly.system.event move <;> rfl
        exact (phases id connection (same ▸ found)).append _
      · intro event happened task
        rw [hubEvents_append, hubEvents_hub] at happened
        rcases List.mem_append.mp happened with latest | earlier
        · exact (traced.event (Option.mem_toList.mp latest) task).append _
        · exact (traced.events event earlier task).append _

end Runs

end Kaigi.Hub
